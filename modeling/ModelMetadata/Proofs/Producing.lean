import ModelMetadata.Proofs.Copying

/-!
What the entries of a descriptor are made of. An entry is copied or written, refers to a type or to an
enumerable domain, or holds the descriptors of the members of an inline shape. What holds of entries made
in each of these ways holds of the whole map of a class; of the annotations that lead to references it
may presume what is handed on from an annotation to those in it.
-/
set_option autoImplicit false
namespace ModelMetadata

open Source

/-! ## Declared properties -/

inductive Source.SmallLine.Declares (line : SmallLine) : Expr → Option Expr → Prop where
  | entry {entry : SmallEntry} {target typeHint : Expr} {beforeColon afterColon : Gap}
    {assigned : Option Assigned} (hentry : entry ∈ line.entries)
    (hstatement : entry.statement = .annotated target beforeColon afterColon typeHint assigned) :
    Declares line typeHint (assigned.map Assigned.value)

/-- A line that stands directly in the body declares a property. -/
def Source.Suite.Declares (body : Suite) (typeHint : Expr) (value : Option Expr) : Prop :=
  ∃ above line, .line above line ∈ body.statements ∧ line.Declares typeHint value

theorem declares_of_lineProperties {above : List EmptyLine} {line : SmallLine}
    {following : Option Statement} {declarations : List Declaration}
    (h : lineProperties above line following = .ok declarations) :
    ∀ declaration ∈ declarations, line.Declares declaration.typeHint declaration.value := by
  refine foldlM_ok
    (P := fun found => ∀ declaration ∈ found, line.Declares declaration.typeHint declaration.value)
    (fun found hfound entry hentry found' hstep => ?_) (by simp) h
  split at hstep
  · rename_i hstatement
    obtain ⟨docstring, -, hstep⟩ := bind_eq_ok.1 hstep
    cases hstep
    exact List.forall_mem_append.2 ⟨hfound, List.forall_mem_singleton.2 (.entry hentry hstatement)⟩
  · cases hstep
    exact hfound

theorem Source.Suite.declares_of_properties {body : Suite} {declarations : List Declaration}
    (h : body.properties = .ok declarations) :
    ∀ declaration ∈ declarations, body.Declares declaration.typeHint declaration.value := by
  have hall (statements : List Statement) (hmem : ∀ statement ∈ statements, statement ∈ body.statements)
      {declarations : List Declaration} (h : propertiesOf statements = .ok declarations) :
      ∀ declaration ∈ declarations, body.Declares declaration.typeHint declaration.value := by
    fun_induction propertiesOf statements generalizing declarations with
    | case1 =>
      cases h
      simp
    | case2 above line rest ih =>
      obtain ⟨hline, hrest⟩ := List.forall_mem_cons.1 hmem
      obtain ⟨found, hfound, h⟩ := bind_eq_ok.1 h
      obtain ⟨others, hothers, h⟩ := bind_eq_ok.1 h
      cases h
      have hdeclares := declares_of_lineProperties hfound
      exact List.forall_mem_append.2
        ⟨fun declaration hmem => ⟨above, line, hline, hdeclares declaration hmem⟩, ih hrest hothers⟩
    | case3 statement rest _ ih => exact ih (List.forall_mem_cons.1 hmem).2 h
  exact hall body.statements (fun _ => id) h

/-! ## Ways to make an entry -/

/-- The annotations in a shape are as `P` says. -/
def AnnotationShape.All (P : Expr → Prop) : AnnotationShape → Prop
  | .inline members => ∀ member ∈ members, P member.typeHint
  | .union branches => ∀ branch ∈ branches, P branch
  | .named e => P e

/-- The descriptors of named properties, each with the annotation it belongs to: entries are as `Q` says
of that annotation. -/
def MadeOf (Q : Expr → String × Expr → Prop) (members : List (String × Expr × Descriptor)) : Prop :=
  ∀ member ∈ members, ∀ entry ∈ member.2.2, Q member.2.1 entry

/-- All ways to make an entry for an annotation that is `Good` give one as `Q` says, and the annotations
that are found in a good one are good. -/
structure Makes (site : Site) (Good : Expr → Prop) (Q : Expr → String × Expr → Prop) : Prop where
  unwrap {e : Expr} {found : Unwrapped} (he : Good e) (h : site.oracle.unwrap e = .ok found) :
    Good found.type
  shape {e : Expr} {shape : AnnotationShape} (he : Good e) (h : site.oracle.shape e = .ok shape) :
    shape.All Good
  admits : Admits site fun e => ∀ hint key, Q hint (key, e)
  type {hint core e : Expr} {t : ResolvedType} {journal : Journal} (hcore : Good core)
    (htype : site.oracle.typeOf core = .ok (some t))
    (he : (t.reference.refer site.options.readonly site.host journal).1 = .ok e) :
    Q hint (typeKey, Expr.thunk e)
  domain {hint e : Expr} {t domain : ResolvedType} {isArray : Bool} {journal : Journal}
    (hhint : Good hint) (htype : site.oracle.typeOf hint = .ok (some t))
    (hdomain : t.propertyDomain? = some (domain, isArray))
    (he : (domainExpr site domain journal).1 = .ok (some e)) : Q hint (enumKey, e)
  members {hint : Expr} {members : List (String × Expr × Descriptor)} (h : MadeOf Q members) :
    Q hint (typeKey, Expr.thunk
      (Descriptor.display (members.map fun member => (member.1, member.2.2.display))))

def IsMember (Q : Expr → String × Expr → Prop) (entry : String × Expr) : Prop :=
  ∃ member : String × Expr × Descriptor,
    (∀ entry ∈ member.2.2, Q member.2.1 entry) ∧ entry = (member.1, member.2.2.display)

theorem exists_madeOf {Q : Expr → String × Expr → Prop} {entries : List (String × Expr)}
    (h : ∀ entry ∈ entries, IsMember Q entry) :
    ∃ members, MadeOf Q members
      ∧ entries = members.map fun member => (member.1, member.2.2.display) := by
  induction entries with
  | nil => exact ⟨[], by simp [MadeOf], rfl⟩
  | cons entry rest ih =>
    obtain ⟨member, hmember, rfl⟩ := h entry List.mem_cons_self
    obtain ⟨members, hmembers, rfl⟩ := ih fun other hother => h other (List.mem_cons_of_mem _ hother)
    exact ⟨member :: members, List.forall_mem_cons.2 ⟨hmember, hmembers⟩, rfl⟩

theorem keepFirst_subset {α : Type} (key : α → Option String) (elements : List α) :
    keepFirst key elements ⊆ elements := by
  have hgo (seen : List String) : keepFirst.go key seen elements ⊆ elements := by
    induction elements generalizing seen with
    | nil => exact List.Subset.refl []
    | cons element rest ih =>
      unfold keepFirst.go
      split
      · exact List.cons_subset_cons element (ih seen)
      · split
        · exact List.subset_cons_of_subset element (ih seen)
        · exact List.cons_subset_cons element (ih _)
  exact hgo []

theorem Table.mem_entries_insert {α : Type} {table : Table α} {name : String} {value : α}
    {entry : String × α} (h : entry ∈ (table.insert name value).entries) :
    entry = (name, value) ∨ entry ∈ table.entries := by
  obtain ⟨entries⟩ := table
  simp only [insert] at h
  induction entries with
  | nil => exact .inl (List.mem_singleton.1 h)
  | cons first rest ih =>
    simp only [insertInto] at h
    split at h
    · exact (List.mem_cons.1 h).imp_right (List.mem_cons_of_mem _)
    · obtain rfl | h := List.mem_cons.1 h
      · exact .inr List.mem_cons_self
      · exact (ih h).imp_right (List.mem_cons_of_mem _)

theorem Descriptor.All.made {Q : Expr → String × Expr → Prop} {d : Descriptor}
    (h : d.All fun e => ∀ hint key, Q hint (key, e)) (hint : Expr) : ∀ entry ∈ d, Q hint entry :=
  fun entry hentry => h entry hentry hint entry.1

namespace Makes

variable {site : Site} {Good : Expr → Prop} {Q : Expr → String × Expr → Prop}
  (h : Makes site Good Q)
include h

/-! ## Descriptors -/

theorem memberEntry {member : Declaration} (hmember : Good member.typeHint)
    (hassemble : ∀ found, site.oracle.unwrap member.typeHint = .ok found → Good found.type →
      Ensures (assembleUnwrapped site member found) fun d => ∀ entry ∈ d, Q found.type entry) :
    Ensures (memberEntry site member) fun item? => ∀ entry, item? = some entry → IsMember Q entry := by
  unfold ModelMetadata.memberEntry
  split
  · exact .pure (by simp)
  · rename_i name hname
    refine .bind (.ofExcept _) fun found hfound => .ite (fun _ => .pure (by simp)) fun _ => ?_
    refine (hassemble found hfound (h.unwrap hmember hfound)).bind fun d hd => .pure fun entry hentry => ?_
    exact ⟨(name, found.type, d), hd, (Option.some.inj hentry).symm⟩

theorem namedEntries {core : Expr} (hcore : Good core) (hint : Expr) :
    Ensures (namedEntries site core) fun d => ∀ entry ∈ d, Q hint entry := by
  refine .bind (.ofExcept _) fun t? htype => ?_
  dsimp only
  split
  · exact .pure (by simp)
  · rename_i name hname
    cases t? with
    | none => cases hname
    | some t =>
      refine .bind (P := fun e => Q hint (typeKey, Expr.thunk e)) (Ensures.of fun _ e he => ?_)
        fun e he => .pure (by simpa using he)
      exact h.type hcore htype he

theorem domainEntries (existing : List String) {hint : Expr} (hhint : Good hint) :
    Ensures (domainEntries site existing hint) fun d => ∀ entry ∈ d, Q hint entry := by
  unfold ModelMetadata.domainEntries
  refine .ite (fun _ => .pure (by simp)) fun _ => .bind (.ofExcept _) fun t? htype => ?_
  split
  · exact .pure (by simp)
  · rename_i domain isArray hdomain
    obtain ⟨t, rfl, hdomain⟩ := Option.bind_eq_some_iff.1 hdomain
    refine .bind (P := fun e? => ∀ e, e? = some e → Q hint (enumKey, e))
      (Ensures.of fun _ e? he e hsome => ?_) fun e? he => ?_
    · subst hsome
      exact h.domain hhint htype hdomain he
    · split
      · exact .pure (by simp)
      · rename_i e
        refine .pure (List.forall_mem_cons.2 ⟨he e rfl, ?_⟩)
        split
        · exact (Descriptor.All.single (h.admits.bool true)).made hint
        · simp

/-- The entries of inline shapes, of unions and of all of a property, by the recursion through members
and branches. -/
theorem describing :
    (∀ existing e, Good e → Ensures (typeEntries site existing e) fun d =>
        ∀ hint, ∀ entry ∈ d, Q hint entry)
      ∧ ∀ declaration found, Good found.type → Ensures (assembleUnwrapped site declaration found) fun d =>
        ∀ entry ∈ d, Q found.type entry := by
  refine describing_induction site (fun existing e hmembers hbranch he => ?_)
    fun declaration found htype hfound => ?_
  · rw [typeEntries_eq]
    refine .ite (fun _ => .pure (by simp)) fun _ => .bind (.ofExcept _) fun shape hshape => ?_
    have hgood := h.shape he hshape
    cases shape with
    | inline members =>
      refine .bind (.mapM fun member hmember => h.memberEntry (hgood member hmember)
        (hmembers members hshape member hmember)) fun entries hentries => .pure fun hint => ?_
      have hnamed : ∀ entry ∈ entries.filterMap id, IsMember Q entry := by
        intro entry hentry
        obtain ⟨item?, hmem, hsome⟩ := List.mem_filterMap.1 hentry
        exact hentries item? hmem entry hsome
      obtain ⟨named, hnamed, heq⟩ := exists_madeOf hnamed
      rw [heq]
      exact List.forall_mem_singleton.2 (h.members hnamed)
    | union branches =>
      refine .bind (.ofExcept _) fun kept hkept => ?_
      split
      · have hmem := Oracle.mem_of_mem_nonNull hkept List.mem_cons_self
        refine (hbranch branches _ hshape hkept (hgood _ hmem.1)).bind fun d hd =>
          .ite (fun _ => .pure hd) fun _ =>
          .pure fun hint => List.forall_mem_append.2 ⟨hd hint, ?_⟩
        exact (Descriptor.All.single (h.admits.bool true)).made hint
      · exact .pure (by simp)
    | named core =>
      exact Ensures.of fun _ d hok hint => (h.namedEntries hgood hint).ensures hok
  · rw [assembleUnwrapped]
    refine .bind (h.admits.seedEntries ..) fun seeded hseeded =>
      .bind (htype _ hfound) fun types htypes => .bind (.ofExcept _) fun docs hdocs =>
      .bind (h.admits.defaultEntries ..) fun default hdefault =>
      .bind (h.domainEntries _ hfound) fun domain hdomain => ?_
    have hall (validation : Descriptor)
        (hvalidation : validation.All fun e => ∀ hint key, Q hint (key, e)) :
        ∀ entry ∈ Descriptor.distinct (seeded
          ++ (if (found.seed.map Prod.fst).contains requiredKey then []
              else [(requiredKey, boolLiteral (found.isRequired declaration.optionalByDefault))])
          ++ types ++ docs ++ default ++ domain ++ validation), Q found.type entry := by
      intro entry hentry
      have hmem := keepFirst_subset _ _ hentry
      simp only [List.mem_append] at hmem
      obtain (((((hmem | hmem) | hmem) | hmem) | hmem) | hmem) | hmem := hmem
      · exact hseeded.made _ entry hmem
      · split at hmem
        · cases hmem
        · exact (Descriptor.All.single (h.admits.bool _)).made _ entry hmem
      · exact htypes _ entry hmem
      · exact (h.admits.documentationEntries hdocs).made _ entry hmem
      · exact hdefault.made _ entry hmem
      · exact hdomain entry hmem
      · exact hvalidation.made _ entry hmem
    refine .ite (fun _ => .bind (h.admits.validationEntries ..) fun validation hvalidation =>
      .pure (hall validation hvalidation)) fun _ => .bind (.pure rfl) fun validation hvalidation => ?_
    exact .pure (hall validation (hvalidation ▸ .nil))

/-! ## Classes -/

/-- The descriptor of a property, and of every other one that is in a table. -/
theorem addProperty (className : String) {declaration : Declaration}
    (hdeclaration : Good declaration.typeHint) {table : Table Descriptor}
    (htable : ∀ property ∈ table.entries, ∃ hint, ∀ entry ∈ property.2, Q hint entry) :
    Ensures (addProperty site className table declaration) fun table =>
      ∀ property ∈ table.entries, ∃ hint, ∀ entry ∈ property.2, Q hint entry := by
  have hdescribe : Ensures (describeProperty site className declaration) fun d? =>
      ∀ d, d? = some d → ∃ hint, ∀ entry ∈ d, Q hint entry := by
    refine .bind (.ofExcept _) fun found hfound => ?_
    split
    · exact .bind (.trivially _) fun _ _ => .pure (by simp)
    · refine .map (h.describing.2 declaration found (h.unwrap hdeclaration hfound)) fun d hd d' hd' => ?_
      exact ⟨found.type, Option.some.inj hd' ▸ hd⟩
  refine .bind hdescribe.caught fun result hresult => ?_
  split
  · rename_i d
    refine .pure fun property hproperty => ?_
    obtain rfl | hproperty := Table.mem_entries_insert hproperty
    · exact hresult _ rfl d rfl
    · exact htable property hproperty
  · exact .pure htable
  · exact .bind (.trivially _) fun _ _ => .pure htable

end Makes

/-- The map of a class whose properties have good annotations. -/
theorem Makes.classMetadata {site : Site} {body : Suite} {Good : Expr → Prop}
    {Q : Expr → String × Expr → Prop} (h : Makes { site with scope := body.scopeNames } Good Q)
    (hgood : ∀ declarations, body.properties = .ok declarations →
      ∀ declaration ∈ declarations, Good declaration.typeHint) (head : ClassHead) :
    Ensures (classMetadata site head body) fun metadata => ∃ members, MadeOf Q members
      ∧ metadata = Descriptor.display (members.map fun member => (member.1, member.2.2.display)) := by
  refine .bind (.ofExcept _) fun declarations hproperties => .bind
    (.foldlM (fun table htable declaration hdeclaration => h.addProperty _
      (hgood declarations hproperties declaration hdeclaration) htable)
      (by simp)) fun table htable => .pure ?_
  have hnamed : ∀ entry ∈ table.entries.map fun property => (property.1, property.2.display),
      IsMember Q entry := by
    intro entry hentry
    obtain ⟨⟨name, d⟩, hproperty, rfl⟩ := List.mem_map.1 hentry
    obtain ⟨hint, hd⟩ := htable _ hproperty
    exact ⟨(name, hint, d), hd, rfl⟩
  obtain ⟨members, hmembers, heq⟩ := exists_madeOf hnamed
  exact ⟨members, hmembers, congrArg Descriptor.display heq⟩

end ModelMetadata
