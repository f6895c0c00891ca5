import ModelMetadata.Proofs.Describing

/-!
The journal is written and never read: every step of describing has the same result, and records and
logs the same things, whatever was recorded and logged before it. The map of a class can therefore be
spoken of without the classes that were described earlier.
-/
set_option autoImplicit false
namespace ModelMetadata

open Source

/-- A step whose result does not depend on the state it begins in. -/
structure Steady {σ α : Type} (step : ExceptT Fault (StateM σ) α) : Prop where
  same (state state') : (step state).1 = (step state').1

/-- A step that always has one result and always adds the same things to its state. -/
structure Additive {σ ε α : Type} (add : σ → ε → σ) (step : ExceptT Fault (StateM σ) α) : Prop where
  adds : ∃ result added, ∀ state, step state = (result, List.foldl add state added)

inductive Journal.Entry where
  | typeImport (canonicalName moduleName : String)
  | log (record : LogRecord)

def Journal.add (journal : Journal) : Journal.Entry → Journal
  | .typeImport canonicalName moduleName =>
    { journal with typeImports := journal.typeImports.record canonicalName moduleName }
  | .log record => { journal with log := journal.log ++ [record] }

namespace Additive

section

variable {σ ε α β : Type} {add : σ → ε → σ} {step : ExceptT Fault (StateM σ) α}

theorem steady (h : Additive add step) : Steady step := by
  obtain ⟨result, added, hadds⟩ := h.adds
  exact ⟨fun state state' => by rw [hadds, hadds]⟩

theorem pure (a : α) : Additive add (Pure.pure a : ExceptT Fault (StateM σ) α) :=
  ⟨.ok a, [], fun _ => rfl⟩

theorem single {a : α} (item : ε) (h : ∀ state, step state = (.ok a, add state item)) :
    Additive add step := ⟨.ok a, [item], h⟩

theorem bind {f : α → ExceptT Fault (StateM σ) β} (hstep : Additive add step)
    (hf : ∀ a, Additive add (f a)) : Additive add (step >>= f) := by
  obtain ⟨result, added, hfirst⟩ := hstep.adds
  cases result with
  | error fault => exact ⟨.error fault, added, fun state => step_stop (hfirst state)⟩
  | ok a =>
    obtain ⟨result, more, hsecond⟩ := (hf a).adds
    refine ⟨result, added ++ more, fun state => ?_⟩
    rw [step_bind (hfirst state), hsecond, List.foldl_append]

theorem map (f : α → β) (hstep : Additive add step) : Additive add (f <$> step) := by
  rw [map_eq_pure_bind]
  exact hstep.bind fun a => .pure (f a)

theorem ite {condition : Prop} [Decidable condition] {other : ExceptT Fault (StateM σ) α}
    (hstep : Additive add step) (hother : Additive add other) :
    Additive add (if condition then step else other) := by
  split
  · exact hstep
  · exact hother

theorem mapM {f : α → ExceptT Fault (StateM σ) β} {xs : List α} (h : ∀ x ∈ xs, Additive add (f x)) :
    Additive add (xs.mapM f) := by
  induction xs with
  | nil => exact .pure []
  | cons x rest ih =>
    rw [List.mapM_cons]
    exact (h x List.mem_cons_self).bind fun y =>
      (ih fun z hz => h z (List.mem_cons_of_mem x hz)).bind fun ys => .pure (y :: ys)

theorem foldlM {f : β → α → ExceptT Fault (StateM σ) β} (h : ∀ b a, Additive add (f b a))
    (xs : List α) (start : β) : Additive add (xs.foldlM f start) := by
  induction xs generalizing start with
  | nil => exact .pure start
  | cons x rest ih =>
    rw [List.foldlM_cons]
    exact (h start x).bind ih

end

variable {α β : Type}

theorem ofExcept (result : Except Fault α) : Additive Journal.add (Describe.ofExcept result) :=
  ⟨result, [], fun _ => rfl⟩

theorem ofExcept_bind {result : Except Fault α} {f : α → Describe β}
    (h : ∀ a, result = .ok a → Additive Journal.add (f a)) :
    Additive Journal.add (Describe.ofExcept result >>= f) := by
  cases result with
  | error fault => exact ⟨.error fault, [], fun _ => rfl⟩
  | ok a => exact h a rfl

theorem recordImport (canonicalName moduleName : String) :
    Additive Journal.add (Describe.recordImport canonicalName moduleName) :=
  .single (.typeImport canonicalName moduleName) fun _ => rfl

theorem note (site : Site) (text : String) : Additive Journal.add (site.note text) := by
  unfold Site.note Describe.note
  split
  · exact .single (.log (.debug text)) fun _ => rfl
  · exact .pure ()

theorem caught {step : Describe α} (hstep : Additive Journal.add step) :
    Additive Journal.add step.caught := by
  obtain ⟨result, added, hadds⟩ := hstep.adds
  refine ⟨.ok result, added, fun journal => ?_⟩
  unfold Describe.caught
  rw [hadds]

/-! ## References -/

theorem refer (readonly : Bool) (host : String) (t : NamedType) :
    Additive Journal.add (t.refer readonly host) := by
  unfold NamedType.refer
  split
  · exact ofExcept _
  · exact .ite (.bind (recordImport ..) fun _ => ofExcept _) (.bind (.pure _) fun _ => ofExcept _)

theorem typeReference (readonly : Bool) (host : String) (reference : TypeReference) :
    Additive Journal.add (reference.refer readonly host) := by
  unfold TypeReference.refer
  split
  · exact .map _ (refer ..)
  · exact ofExcept _

theorem referMember (readonly : Bool) (host : String) (owner : NamedType) (member : String) :
    Additive Journal.add (referMember readonly host owner member) :=
  .bind (refer ..) fun _ => ofExcept _

/-! ## Descriptors -/

variable (site : Site)

theorem isCopyable (e : Expr) : Additive Journal.add (site.isCopyable e) := ofExcept _

theorem seedEntries (subject : String) (seed : List (String × Expr)) :
    Additive Journal.add (seedEntries site subject seed) := by
  induction seed with
  | nil => exact .pure []
  | cons entry rest ih =>
    unfold ModelMetadata.seedEntries
    refine .bind (isCopyable ..) fun copyable => .ite (.bind ih fun _ => .pure _) ?_
    exact .bind (note ..) fun _ => ih

theorem defaultEntries (subject : String) (existing : List String) (value : Option Expr) :
    Additive Journal.add (defaultEntries site subject existing value) := by
  unfold ModelMetadata.defaultEntries
  refine .ite (.pure []) ?_
  split
  · exact .pure []
  · refine .bind (ofExcept _) fun copied => .bind (isCopyable ..) fun copyable => ?_
    exact .ite (.pure _) (.bind (note ..) fun _ => .pure [])

theorem domainExpr (domain : ResolvedType) : Additive Journal.add (domainExpr site domain) := by
  unfold ModelMetadata.domainExpr
  split
  · exact .ite (.bind (refer ..) fun _ => .pure _) (.pure none)
  · exact .bind (referMember ..) fun _ => .pure _
  · split
    · exact .bind (ofExcept _) fun _ => .pure _
    · exact .pure none

theorem domainEntries (existing : List String) (e : Expr) :
    Additive Journal.add (domainEntries site existing e) := by
  unfold ModelMetadata.domainEntries
  refine .ite (.pure []) (.bind (ofExcept _) fun t => ?_)
  split
  · exact .pure []
  · refine .bind (domainExpr ..) fun value? => ?_
    split
    · exact .pure []
    · exact .pure _

theorem argumentEntry (subject key : String) (argument : Option Expr) :
    Additive Journal.add (argumentEntry site subject key argument) := by
  unfold ModelMetadata.argumentEntry copyArgument
  split
  · exact .pure []
  · refine .bind (.bind (ofExcept _) fun copied => .bind (isCopyable ..) fun copyable => ?_)
      fun _ => .pure _
    exact .ite (.pure _) (.bind (note ..) fun _ => .pure none)

theorem ruleEntries (subject : String) (marker : Expr) (rule : MarkerRule) :
    Additive Journal.add (rule.entries site subject marker) := by
  cases rule with
  | argument key => exact argumentEntry ..
  | bound key value => exact .bind (ofExcept _) fun _ => .pure _
  | range lower upper =>
    refine .bind (argumentEntry ..) fun first => ?_
    split
    · exact .pure []
    · exact .bind (argumentEntry ..) fun _ => .pure _
  | pattern key =>
    dsimp only [MarkerRule.entries]
    split
    · exact .pure []
    · exact .bind (ofExcept _) fun _ => .pure _

theorem validationEntries (subject : String) (markers : List Expr) :
    Additive Journal.add (validationEntries site subject markers) := by
  refine .bind (.mapM fun row _ => ?_) fun _ => .pure _
  unfold MarkerRow.entries
  split
  · exact .pure []
  · exact ruleEntries ..

theorem namedEntries (core : Expr) : Additive Journal.add (namedEntries site core) := by
  refine .bind (ofExcept _) fun t => ?_
  dsimp only
  split
  · exact .pure []
  · exact .bind (typeReference ..) fun _ => .pure _

theorem memberEntry {site : Site} {member : Declaration}
    (h : ∀ found, site.oracle.unwrap member.typeHint = .ok found →
      Additive Journal.add (assembleUnwrapped site member found)) : Additive Journal.add (memberEntry site member) := by
  unfold ModelMetadata.memberEntry
  split
  · exact .pure none
  · refine ofExcept_bind fun found hfound => ?_
    exact .ite (.pure none) (.bind (h found hfound) fun _ => .pure _)

theorem describing :
    (∀ existing e, Additive Journal.add (typeEntries site existing e))
      ∧ ∀ declaration found, Additive Journal.add (assembleUnwrapped site declaration found) := by
  refine describing_induction site (fun existing e hmembers hbranch => ?_)
    fun declaration found htype => ?_
  · rw [typeEntries_eq]
    refine .ite (.pure []) (ofExcept_bind fun shape hshape => ?_)
    cases shape with
    | inline members =>
      refine .bind (.mapM fun member hmember => memberEntry ?_) fun _ => .pure _
      exact hmembers members hshape member hmember
    | union branches =>
      refine ofExcept_bind fun kept hkept => ?_
      split
      · exact .bind (hbranch branches _ hshape hkept) fun _ => .ite (.pure _) (.pure _)
      · exact .pure []
    | named core => exact namedEntries ..
  · rw [assembleUnwrapped]
    refine .bind (seedEntries ..) fun _ => .bind (htype _) fun _ => .bind (ofExcept _) fun _ =>
      .bind (defaultEntries ..) fun _ => .bind (domainEntries ..) fun _ => ?_
    exact .ite (.bind (validationEntries ..) fun _ => .pure _) (.bind (.pure []) fun _ => .pure _)

/-! ## Classes -/

theorem describeProperty (className : String) (declaration : Declaration) :
    Additive Journal.add (describeProperty site className declaration) := by
  refine .bind (ofExcept _) fun found => ?_
  split
  · exact .bind (note ..) fun _ => .pure none
  · exact .map _ ((describing site).2 ..)

theorem addProperty (className : String) (table : Table Descriptor) (declaration : Declaration) :
    Additive Journal.add (addProperty site className table declaration) := by
  refine .bind (caught (describeProperty ..)) fun result => ?_
  split
  · exact .pure _
  · exact .pure _
  · exact .bind (note ..) fun _ => .pure _

theorem classMetadata (head : ClassHead) (body : Suite) : Additive Journal.add (classMetadata site head body) :=
  .bind (ofExcept _) fun _ => .bind (.foldlM (addProperty _ _) ..) fun _ => .pure _

theorem emissionOf (head : ClassHead) (isModuleLevel : Bool) :
    Additive Journal.add (emissionOf site head isModuleLevel) := by
  refine .bind (ofExcept _) fun model => .ite (.bind (note ..) fun _ => .pure _) ?_
  refine .ite (.pure _) (.ite (.pure _) ?_)
  exact .bind (note ..) fun _ => .pure _

end Additive

/-! ## Added imports -/

theorem Table.mem_names_iff {α : Type} {table : Table α} {name : String} :
    name ∈ table.names ↔ table.contains name = true := by
  obtain ⟨entries⟩ := table
  unfold names contains get?
  induction entries with
  | nil => simp [lookup]
  | cons entry rest ih =>
    obtain ⟨found, value⟩ := entry
    by_cases hsame : found = name
    · simp [lookup, hsame]
    · simpa [lookup, hsame, Ne.symm hsame] using ih

theorem TypeImports.mem_names_record {imports : TypeImports} {canonicalName moduleName name : String} :
    name ∈ (imports.record canonicalName moduleName).names
      ↔ name ∈ imports.names ∨ name = canonicalName := by
  unfold record Table.insertNew
  by_cases hknown : Table.contains imports canonicalName = true
  · rw [if_pos hknown]
    refine ⟨.inl, fun h => h.elim id fun hsame => ?_⟩
    exact Table.mem_names_iff.2 (hsame ▸ hknown)
  · rw [if_neg hknown, Table.mem_names_iff, Table.mem_names_iff]
    unfold Table.contains
    rw [Table.get?_insert]
    by_cases hsame : canonicalName = name
    · simp [hsame]
    · simp [hsame, Ne.symm hsame]

theorem Table.entries_insert_of_new {α : Type} {table : Table α} {name : String}
    (h : table.contains name = false) (value : α) :
    (table.insert name value).entries = table.entries ++ [(name, value)] := by
  obtain ⟨entries⟩ := table
  unfold contains get? at h
  unfold insert
  induction entries with
  | nil => rfl
  | cons entry rest ih =>
    obtain ⟨found, old⟩ := entry
    by_cases hsame : found = name
    · simp [lookup, hsame] at h
    · simp only [lookup, if_neg hsame] at h
      simp only [insertInto, if_neg hsame, List.cons_append]
      exact congrArg _ (ih h)

theorem TypeImports.mem_record {imports : TypeImports} {name moduleName : String}
    {entry : String × String} :
    entry ∈ (imports.record name moduleName).entries
      ↔ entry ∈ imports.entries ∨ name ∉ imports.names ∧ entry = (name, moduleName) := by
  rw [Table.mem_names_iff]
  unfold record Table.insertNew
  cases hknown : imports.contains name with
  | true => simp
  | false => simp [Table.entries_insert_of_new hknown]

def Recorded {α : Type} (step : Describe α) (entry : String × String) : Prop :=
  entry ∈ (step {}).2.typeImports.entries

/-- A step adds no import to a journal that it does not add to one without any. -/
theorem Additive.recorded {α : Type} {step : Describe α} (h : Additive Journal.add step)
    {journal : Journal} {entry : String × String}
    (hentry : entry ∈ (step journal).2.typeImports.entries) :
    entry ∈ journal.typeImports.entries ∨ Recorded step entry := by
  obtain ⟨result, added, hadds⟩ := h.adds
  -- Two journals are filled side by side: a name that is new to the first is new to the second as well.
  have hfill (first second : Journal) (hnames : second.typeImports.names ⊆ first.typeImports.names)
      (hentries : ∀ entry ∈ first.typeImports.entries,
        entry ∈ journal.typeImports.entries ∨ entry ∈ second.typeImports.entries) :
      ∀ entry ∈ (List.foldl Journal.add first added).typeImports.entries,
        entry ∈ journal.typeImports.entries
          ∨ entry ∈ (List.foldl Journal.add second added).typeImports.entries := by
    clear hadds
    induction added generalizing first second with
    | nil => exact hentries
    | cons item rest ih =>
      cases item with
      | log record => exact ih _ _ hnames hentries
      | typeImport name moduleName =>
        refine ih _ _ (fun other hother => ?_) fun entry hentry => ?_
        · have hcases := TypeImports.mem_names_record.1 hother
          exact TypeImports.mem_names_record.2 (hcases.imp_left fun hold => hnames hold)
        · rcases TypeImports.mem_record.1 hentry with hold | ⟨hnew, rfl⟩
          · exact (hentries entry hold).imp_right fun h => TypeImports.mem_record.2 (.inl h)
          · exact .inr (TypeImports.mem_record.2 (.inr ⟨mt (@hnames name) hnew, rfl⟩))
  unfold Recorded
  rw [hadds] at hentry ⊢
  exact hfill journal {} (List.nil_subset _) (fun _ => .inl) entry hentry

end ModelMetadata
