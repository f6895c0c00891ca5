import ModelMetadata.Proofs.Requoting

/-!
Descriptors of quoted annotations. A type in quotes has the shape that it has without them, with its
members and branches in quotes or not, and so the same entries. A union in quotes that is a branch of
another union is the exception: it is described apart.
-/
set_option autoImplicit false
namespace ModelMetadata

open Source

/-! ## Shapes -/

structure Declaration.SameBut (oracle : Oracle) (d d' : Declaration) : Prop where
  rest : d' = { d with typeHint := d'.typeHint }
  typeHint : Relation.ReflGen (Requoted oracle .hint) d.typeHint d'.typeHint

inductive AnnotationShape.SameBut (oracle : Oracle) : AnnotationShape → AnnotationShape → Prop
  | inline {members members' : List Declaration}
    (h : List.Forall₂ (Declaration.SameBut oracle) members members') :
    SameBut oracle (.inline members) (.inline members')
  | union {branches branches' : List Expr}
    (h : List.Forall₂ (Relation.ReflGen (Requoted oracle .branch)) branches branches') :
    SameBut oracle (.union branches) (.union branches')
  | named {core core' : Expr} (h : oracle.typeOf core = oracle.typeOf core') :
    SameBut oracle (.named core) (.named core')

namespace Requoted

variable {oracle : Oracle} {position : Position} {e e' : Expr}

/-- The members of a dict display with the type of one in quotes. -/
theorem shapeMembers (display : ShapeDisplay) {t t' : Expr} (h : Requoted oracle .hint t t')
    (optionalByDefault : Bool) :
    Outcomes (List.Forall₂ (Declaration.SameBut oracle))
      (ModelMetadata.shapeMembers optionalByDefault (display.entries t))
      (ModelMetadata.shapeMembers optionalByDefault (display.entries t')) := by
  have hrefl (members : List Declaration) :
      List.Forall₂ (Declaration.SameBut oracle) members members :=
    List.forall₂_same.2 fun _ _ => ⟨rfl, .refl⟩
  unfold ShapeDisplay.entries
  induction display.preceding with
  | nil =>
    rw [List.nil_append, List.nil_append, ModelMetadata.shapeMembers, ModelMetadata.shapeMembers]
    cases stringValue display.key with
    | error fault => exact .fault fault
    | ok name =>
      cases ModelMetadata.shapeMembers optionalByDefault display.following with
      | error fault => exact .fault fault
      | ok members => exact .ok (.cons ⟨rfl, .single h⟩ (hrefl _))
  | cons entry rest ih =>
    rw [List.cons_append, List.cons_append]
    obtain ⟨gap, item, comma⟩ := entry
    cases item with
    | pair key beforeColon afterColon value =>
      rw [ModelMetadata.shapeMembers, ModelMetadata.shapeMembers]
      cases stringValue key with
      | error fault => exact .fault fault
      | ok name => exact ih.bind fun members members' hmembers => .ok (.cons ⟨rfl, .refl⟩ hmembers)
    | _ => exact ih

def SameMembers (oracle : Oracle) (entries entries' : List Entry) : Prop :=
  ∀ optionalByDefault, Outcomes (List.Forall₂ (Declaration.SameBut oracle))
    (ModelMetadata.shapeMembers optionalByDefault entries)
    (ModelMetadata.shapeMembers optionalByDefault entries')

theorem SameMembers.refl (entries : List Entry) : SameMembers oracle entries entries := by
  intro optionalByDefault
  exact .self (fun _ => List.forall₂_same.2 fun _ _ => ⟨rfl, .refl⟩) _

structure SameArgument (oracle : Oracle) (argument argument' : String × Expr) : Prop where
  name : argument.1 = argument'.1
  total : argument.1 = "total" → argument.2 = argument'.2
  members : Option.Rel (SameMembers oracle) argument.2.dictEntries? argument'.2.dictEntries?

theorem filterMap_middle {α β : Type} {R : β → β → Prop} {f : α → Option β} {x x' : α}
    {preceding following : List α} (hrefl : ∀ b, R b b) (h : Option.Rel R (f x) (f x')) :
    List.Forall₂ R ((preceding ++ x :: following).filterMap f)
      ((preceding ++ x' :: following).filterMap f) := by
  have hall (xs : List α) : List.Forall₂ R (xs.filterMap f) (xs.filterMap f) :=
    List.forall₂_same.2 fun b _ => hrefl b
  rw [List.filterMap_append, List.filterMap_append, List.filterMap_cons, List.filterMap_cons]
  apply List.rel_append (hall _)
  cases hx : f x <;> cases hx' : f x' <;> rw [hx, hx'] at h <;> cases h
  · exact hall _
  · exact .cons ‹_› (hall _)

theorem foldlM_forall₂ {α β ε σ : Type} {R : α → β → Prop} {f : σ → α → Except ε σ}
    {g : σ → β → Except ε σ} (hfg : ∀ start a b, R a b → f start a = g start b) {as : List α}
    {bs : List β} (h : List.Forall₂ R as bs) (start : σ) : as.foldlM f start = bs.foldlM g start := by
  induction h generalizing start with
  | nil => rfl
  | cons hfirst _ ih =>
    rw [List.foldlM_cons, List.foldlM_cons, hfg _ _ _ hfirst]
    exact bind_congr ih

theorem isTotal_eq {arguments arguments' : List Entry}
    (h : List.Forall₂ (SameArgument oracle) (Entry.keywords arguments) (Entry.keywords arguments')) :
    isTotal arguments = isTotal arguments' := by
  refine foldlM_forall₂ (fun total argument argument' h => ?_) h true
  dsimp only
  rw [← h.name]
  by_cases hname : argument.1 = "total"
  · rw [h.total hname]
  · rw [if_neg (by simpa using hname), if_neg (by simpa using hname)]

theorem rel_or {α : Type} {R : α → α → Prop} {x x' y y' : Option α} (hx : Option.Rel R x x')
    (hy : Option.Rel R y y') : Option.Rel R (x.or y) (x'.or y') := by
  cases hx with
  | none => exact hy
  | some h => exact .some h

theorem rel_getLast? {α : Type} {R : α → α → Prop} {xs ys : List α} (h : List.Forall₂ R xs ys) :
    Option.Rel R xs.getLast? ys.getLast? := by
  have hreverse := List.rel_reverse h
  rw [← List.head?_reverse, ← List.head?_reverse]
  generalize xs.reverse = xs at hreverse
  generalize ys.reverse = ys at hreverse
  cases hreverse with
  | nil => exact .none
  | cons hfirst => exact .some hfirst

theorem fieldsDisplay? {arguments arguments' : List Entry}
    (hindices : List.Forall₂ (fun e e' : Expr => Option.Rel (SameMembers oracle) e.dictEntries? e'.dictEntries?)
      (Entry.indices arguments) (Entry.indices arguments'))
    (hkeywords : List.Forall₂ (SameArgument oracle) (Entry.keywords arguments) (Entry.keywords arguments')) :
    Option.Rel (SameMembers oracle) (ModelMetadata.fieldsDisplay? arguments)
      (ModelMetadata.fieldsDisplay? arguments') := by
  have hsecond : Option.Rel (SameMembers oracle) ((Entry.indices arguments)[1]?.bind Expr.dictEntries?)
      ((Entry.indices arguments')[1]?.bind Expr.dictEntries?) := by
    generalize Entry.indices arguments = indices at hindices
    generalize Entry.indices arguments' = indices' at hindices
    cases hindices with
    | nil => exact .none
    | cons _ hrest =>
      cases hrest with
      | nil => exact .none
      | cons hsecond => exact hsecond
  have hnamed : List.Forall₂ (SameMembers oracle)
      ((Entry.keywords arguments).filterMap fun argument =>
        if argument.1 == "fields" then argument.2.dictEntries? else none)
      ((Entry.keywords arguments').filterMap fun argument =>
        if argument.1 == "fields" then argument.2.dictEntries? else none) := by
    refine List.rel_filterMap ?_ hkeywords
    intro argument argument' h
    dsimp only
    rw [h.name]
    split
    · exact h.members
    · exact .none
  exact rel_or (rel_getLast? hnamed) hsecond

theorem typedDictMembers {arguments arguments' : List Entry}
    (hindices : List.Forall₂ (fun e e' : Expr => Option.Rel (SameMembers oracle) e.dictEntries? e'.dictEntries?)
      (Entry.indices arguments) (Entry.indices arguments'))
    (hkeywords : List.Forall₂ (SameArgument oracle) (Entry.keywords arguments) (Entry.keywords arguments')) :
    Outcomes (List.Forall₂ (Declaration.SameBut oracle)) (ModelMetadata.typedDictMembers arguments)
      (ModelMetadata.typedDictMembers arguments') := by
  unfold ModelMetadata.typedDictMembers
  rw [isTotal_eq hkeywords]
  cases isTotal arguments' with
  | error fault => exact .fault fault
  | ok total =>
    have hdisplay := fieldsDisplay? hindices hkeywords
    generalize ModelMetadata.fieldsDisplay? arguments = display at hdisplay
    generalize ModelMetadata.fieldsDisplay? arguments' = display' at hdisplay
    cases hdisplay with
    | none => exact .ok .nil
    | some h => exact h (!total)

/-- The shape of an annotation with a type in quotes inside. -/
theorem coreShape (h : Requoted oracle .unquoted e e') :
    Outcomes (AnnotationShape.SameBut oracle) (oracle.coreShape e) (oracle.coreShape e') := by
  have hall := h
  cases h with
  | quoted hposition => exact (hposition rfl).elim
  | @inside _ inner around _ _ t t' haround he he' h =>
    have hother (hdict : ∀ t, (around t).dictEntries? = none) (hcallee : ∀ t, (around t).callee? = none) :
        Outcomes (AnnotationShape.SameBut oracle) (oracle.coreShape e) (oracle.coreShape e') := by
      have hsome : (unionParts? oracle e).isSome = (unionParts? oracle e').isSome := by
        rw [← Oracle.unionParts?_bare e, ← Oracle.unionParts?_bare e', he, he']
        obtain hnone | ⟨-, preceding, following, implied, hparts⟩ := haround.parts
        · rw [hnone, hnone]
        · rw [hparts, hparts]
          rfl
      rw [Oracle.coreShape_other (by rw [← Expr.dictEntries?_bare, he, hdict])
          (by rw [← Expr.callee?_bare, he, hcallee]),
        Oracle.coreShape_other (by rw [← Expr.dictEntries?_bare, he', hdict])
          (by rw [← Expr.callee?_bare, he', hcallee]), hsome]
      split
      · exact .ok (.union (hall.branches nofun))
      · exact .ok (.named hall.typeOf_eq)
    cases haround with
    | left | right | index => exact hother (fun _ => rfl) fun _ => rfl
    | member display =>
      have hentries {e t : Expr} (he : e.bare = display.around t) :
          e.dictEntries? = some (display.entries t) := by
        rw [← Expr.dictEntries?_bare, he]
        rfl
      unfold Oracle.coreShape
      rw [hentries he, hentries he']
      exact (shapeMembers display h false).bind fun _ _ hmembers => .ok (.inline hmembers)
    | @field display keyword callee before close gap comma preceding following hcallee =>
      have harguments {e t : Expr} (he : e.bare = .call callee before
          (preceding ++ .mk gap (display.argument keyword t) comma :: following) close) :
          oracle.coreShape e = .inline <$> ModelMetadata.typedDictMembers
            (preceding ++ .mk gap (display.argument keyword t) comma :: following) := by
        have hdict : e.dictEntries? = none := by rw [← Expr.dictEntries?_bare, he]; rfl
        have hspecial : (e.callee?.bind oracle.specialForm?) = some "TypedDict" := by
          rw [← Expr.callee?_bare, he]
          exact hcallee
        unfold Oracle.coreShape
        rw [hdict, hspecial, ← Expr.arguments_bare, he, map_eq_pure_bind]
        rfl
      rw [harguments he, harguments he', map_eq_pure_bind, map_eq_pure_bind]
      have hentries : Option.Rel (SameMembers oracle) (display.around t).dictEntries?
          (display.around t').dictEntries? := .some (shapeMembers display h)
      refine (typedDictMembers ?_ ?_).bind fun _ _ hmembers => .ok (.inline hmembers)
      · apply filterMap_middle
        · exact fun e => rel_self fun entries _ => .refl entries
        · cases keyword with
          | none => exact .some hentries
          | some => exact .none
      · apply filterMap_middle
        · exact fun argument => ⟨rfl, fun _ => rfl, rel_self fun entries _ => .refl entries⟩
        · cases keyword with
          | none => exact .none
          | some => exact .some ⟨rfl, fun htotal => absurd htotal (by simp), hentries⟩

theorem shape (h : Requoted oracle position e e') :
    Outcomes (AnnotationShape.SameBut oracle) (oracle.shape e) (oracle.shape e') := by
  have hrefl (shape : AnnotationShape) : AnnotationShape.SameBut oracle shape shape := by
    cases shape with
    | inline members => exact .inline (List.forall₂_same.2 fun _ _ => ⟨rfl, .refl⟩)
    | union branches => exact .union (List.forall₂_same.2 fun _ _ => .refl)
    | named core => exact .named rfl
  unfold Oracle.shape
  refine h.core.bind fun core core' hcore => ?_
  cases hcore with
  | refl => exact .self hrefl _
  | single hcore => exact hcore.coreShape

end Requoted

/-! ## Descriptors -/

section

variable {site : Site}

theorem domainEntries_requoted {position : Position} {e e' : Expr}
    (h : Requoted site.oracle position e e') (existing : List String) :
    domainEntries site existing e = domainEntries site existing e' := by
  unfold domainEntries
  rw [h.typeOf_eq]

/-- Steps that go on alike from results that are alike. -/
theorem ofExcept_outcomes {α β γ : Type} {R : α → β → Prop} {r : Except Fault α} {s : Except Fault β}
    {f : α → Describe γ} {g : β → Describe γ} (h : Outcomes R r s)
    (hfg : ∀ a b, r = .ok a → R a b → f a = g b) :
    Describe.ofExcept r >>= f = Describe.ofExcept s >>= g := by
  cases h with
  | fault => rfl
  | ok hab => exact hfg _ _ rfl hab

theorem mapM_forall₂ {α β γ : Type} {f : α → Describe γ} {g : β → Describe γ} {as : List α}
    {bs : List β} (h : List.Forall₂ (fun a b => f a = g b) as bs) : as.mapM f = bs.mapM g := by
  induction h with
  | nil => rfl
  | cons hfirst _ ih => rw [List.mapM_cons, List.mapM_cons, hfirst, ih]

theorem memberEntry_requoted {member member' : Declaration}
    (h : Declaration.SameBut site.oracle member member')
    (hmember : ∀ found, site.oracle.unwrap member.typeHint = .ok found → ∀ typeHint type position,
      Relation.ReflGen (Requoted site.oracle position) found.type type →
      assembleUnwrapped site member found
        = assembleUnwrapped site { member with typeHint } { found with type }) :
    memberEntry site member = memberEntry site member' := by
  obtain ⟨hrest, htypeHint⟩ := h
  generalize member'.typeHint = typeHint at hrest htypeHint
  subst hrest
  cases htypeHint with
  | refl => rfl
  | single h =>
    unfold memberEntry
    dsimp only
    split
    · rfl
    refine ofExcept_outcomes h.unwrap fun found found' hfound hsame => ?_
    obtain ⟨hsaid, htype⟩ := hsame
    generalize found'.type = type at hsaid htype
    subst hsaid
    rw [hmember found hfound typeHint type _ htype]
    rfl

theorem shapeEntries_requoted {existing : List String} {shape shape' : AnnotationShape}
    (h : AnnotationShape.SameBut site.oracle shape shape')
    (hmembers : ∀ members, shape = .inline members → ∀ member ∈ members, ∀ found,
      site.oracle.unwrap member.typeHint = .ok found → ∀ typeHint type position,
      Relation.ReflGen (Requoted site.oracle position) found.type type →
      assembleUnwrapped site member found
        = assembleUnwrapped site { member with typeHint } { found with type })
    (hbranch : ∀ branches branch, shape = .union branches →
      site.oracle.nonNull branches = .ok [branch] → ∀ position branch',
      Requoted site.oracle position branch branch' →
      typeEntries site existing branch = typeEntries site existing branch') :
    shapeEntries site existing shape = shapeEntries site existing shape' := by
  cases h with
  | @inline members members' h =>
    have hall := (List.forall₂_and_left members members').2 ⟨hmembers members rfl, h⟩
    have hentries : members.mapM (memberEntry site) = members'.mapM (memberEntry site) :=
      mapM_forall₂ (hall.imp fun member member' h => memberEntry_requoted h.2 h.1)
    simp only [shapeEntries, hentries]
  | @union branches branches' h =>
    have hlength : branches.length = branches'.length := h.length_eq
    simp only [shapeEntries, hlength]
    refine ofExcept_outcomes (Requoted.nonNull h) fun kept kept' hkept hsame => ?_
    cases hsame with
    | nil => rfl
    | @cons branch branch' _ _ hfirst hrest =>
      cases hrest with
      | cons => rfl
      | nil =>
        have hsame : typeEntries site existing branch = typeEntries site existing branch' := by
          cases hfirst with
          | refl => rfl
          | single h => exact hbranch branches branch rfl hkept _ _ h
        dsimp only
        rw [hsame]
  | named h =>
    change namedEntries site _ = namedEntries site _
    rw [namedEntries_eq, namedEntries_eq, h]

/-- Types in quotes are described alike. -/
theorem describing_requoted (site : Site) :
    (∀ existing e, ∀ position e', Requoted site.oracle position e e' →
        typeEntries site existing e = typeEntries site existing e')
      ∧ ∀ (declaration : Declaration) (found : Unwrapped), ∀ typeHint type position,
        Relation.ReflGen (Requoted site.oracle position) found.type type →
        assembleUnwrapped site declaration found
          = assembleUnwrapped site { declaration with typeHint } { found with type } := by
  apply describing_induction site
  · intro existing e hmembers hbranch position e' h
    rw [typeEntries_eq, typeEntries_eq]
    split
    · rfl
    · apply ofExcept_outcomes h.shape
      intro shape shape' hshape hsame
      apply shapeEntries_requoted hsame
      · rintro members rfl
        exact hmembers members hshape
      · rintro branches branch rfl
        exact hbranch branches branch hshape
  · intro declaration found htype typeHint type position h
    rw [assembleUnwrapped, assembleUnwrapped]
    cases h with
    | refl => rfl
    | single h =>
      rw [htype _ _ _ h, domainEntries_requoted h]
      rfl

end

/-- Quotes change nothing. The descriptor of a property, and all that is noted and imported for it, stay
the same where its annotation, or a type in it at any depth, is written in quotes. The parser is taken to
read the text of that type as the type. A branch of a union keeps its quotes while unions are flattened and
`None` is looked for, so one that is written in quotes must be no union, and `None` only by its name. -/
theorem quotes_transparent (site : Site) (declaration : Declaration) (typeHint : Expr)
    (h : Requoted site.oracle .hint declaration.typeHint typeHint) :
    assemble site { declaration with typeHint } = assemble site declaration := by
  symm
  apply ofExcept_outcomes h.unwrap
  intro found found' _ hsame
  obtain ⟨hsaid, htype⟩ := hsame
  rw [hsaid]
  exact (describing_requoted site).2 declaration found typeHint found'.type _ htype

namespace Listed

/-- A module with `from typing import Optional` -/
def site : Site where
  oracle.host.moduleName := "m"
  oracle.host.imports := ⟨[("Optional", { origin := "typing", imported := some "Optional" })]⟩

/-- `Optional[e]` -/
def optional (e : Expr) : Expr := .subscript (.name "Optional") [] [.mk [] (.value e) none] []

/-- `list[int]` -/
def ints : Expr := .subscript (.name "list") [] [.mk [] (.value (.name "int")) none] []

def property (e : Expr) : Declaration where
  name := some "x"
  typeHint := optional e

theorem quotes_ints : Quotes (.string "\"list[int]\"") ints where
  value := by cbv
  reads := by cbv

theorem special_optional : site.oracle.specialForm? (.name "Optional") = some "Optional" := by decide

theorem unionParts_ints : unionParts? site.oracle ints = none := by
  have hspecial : site.oracle.specialForm? (.name "list") = some "list" := by decide
  simp only [unionParts?, ints, Expr.bare, hspecial]
  rfl

theorem requoted : Requoted site.oracle .hint (optional ints) (optional (.string "\"list[int]\"")) := by
  have hposition : site.oracle.indexPosition? (.name "Optional") = some .branch := by
    rw [Oracle.indexPosition?, special_optional]
    rfl
  have haround : Surrounds site.oracle .branch optional :=
    @Surrounds.index _ _ _ [] [] [] none [] [] hposition (.inl rfl)
  refine .inside haround rfl rfl (.branch quotes_ints (by rintro ⟨⟩) unionParts_ints (.inr ?_))
  rfl

end Listed

theorem quotes_transparent_of_list :
    assemble Listed.site { Listed.property Listed.ints with
        typeHint := Listed.optional (.string "\"list[int]\"") }
      = assemble Listed.site (Listed.property Listed.ints) :=
  quotes_transparent Listed.site (Listed.property Listed.ints) _ Listed.requoted

namespace Listed

/-- `int | str` -/
def either : Expr := .binary (.name "int") Gap.space "|" Gap.space (.name "str")

theorem quotes_either : Quotes (.string "\"int | str\"") either where
  value := by cbv
  reads := by cbv

theorem unwrap_optional (e : Expr) : site.oracle.unwrap (optional e) = .ok { type := optional e } := by
  have hname : site.oracle.wrapperName (.name "Optional") = "Optional" := by
    rw [Oracle.wrapperName, special_optional]
    rfl
  have hindexing : (optional e).indexing? = some (.name "Optional", e, []) := rfl
  have hlayer := @Oracle.unwrapFrom_indexed site.oracle (optional e) _ _ _ rfl hindexing
    { type := optional e }
  rw [hname] at hlayer
  exact hlayer

theorem shape_optional (e : Expr) : site.oracle.shape (optional e)
    = .ok (.union (unionBranches site.oracle e ++ [impliedNone])) := by
  have hwraps : site.oracle.wraps (.name "Optional") = false := by
    rw [Oracle.wraps, special_optional]
    decide
  have hindexing : (optional e).indexing? = some (.name "Optional", e, []) := rfl
  have hparts : unionParts? site.oracle (optional e) = some ([e], true) := by
    simp only [unionParts?, optional, Expr.bare, special_optional]
    rfl
  rw [Oracle.shape, Oracle.core_indexed rfl hindexing, hwraps]
  change site.oracle.coreShape (optional e) = _
  rw [Oracle.coreShape_other rfl rfl, Oracle.unionBranches_eq, hparts]
  simp only [List.flatMap_cons, List.flatMap_nil, List.append_nil]
  rfl

theorem branches_either : unionBranches site.oracle either = [.name "int", .name "str"] := by
  have hname (name : String) : unionBranches site.oracle (.name name) = [.name name] := by
    rw [Oracle.unionBranches_eq]
    rfl
  have hparts : unionParts? site.oracle either = some ([.name "int", .name "str"], false) := rfl
  rw [Oracle.unionBranches_eq, hparts]
  simp only [List.flatMap_cons, hname]
  rfl

theorem typeEntries_plain : typeEntries site [] (optional either) = pure [] := by
  have hkept : site.oracle.nonNull [.name "int", .name "str", impliedNone]
      = .ok [.name "int", .name "str"] := by rfl
  rw [typeEntries_eq, shape_optional, branches_either, if_neg (by decide), ofExcept_bind rfl, shapeEntries]
  change Describe.ofExcept (site.oracle.nonNull [.name "int", .name "str", impliedNone]) >>= _ = _
  rw [ofExcept_bind hkept]

theorem typeEntries_either : typeEntries site [] either = pure [] := by
  have hshape : site.oracle.shape either = .ok (.union [.name "int", .name "str"]) := by
    have hcore : site.oracle.core either = .ok either := Oracle.core_plain rfl rfl
    rw [Oracle.shape, hcore, ← branches_either]
    rfl
  have hkept : site.oracle.nonNull [.name "int", .name "str"] = .ok [.name "int", .name "str"] := by rfl
  rw [typeEntries_eq, hshape, if_neg (by decide), ofExcept_bind rfl, shapeEntries, ofExcept_bind hkept]

/-- `"int | str"` -/
def quoted : Expr := .string "\"int | str\""

theorem typeEntries_quoted : typeEntries site [] (optional quoted)
    = pure [(nullableKey, boolLiteral true)] := by
  have hbranches : unionBranches site.oracle quoted = [quoted] := by
    rw [Oracle.unionBranches_eq]
    rfl
  have hkept : site.oracle.nonNull [quoted, impliedNone] = .ok [quoted] := by cbv
  have hinner : typeEntries site [] quoted = pure [] := by
    rw [← (describing_requoted site).1 [] either .hint quoted (.hint quotes_either (by rintro ⟨⟩)),
      typeEntries_either]
  rw [typeEntries_eq, shape_optional, hbranches, if_neg (by decide), ofExcept_bind rfl, shapeEntries]
  change Describe.ofExcept (site.oracle.nonNull [quoted, impliedNone]) >>= _ = _
  rw [ofExcept_bind hkept]
  dsimp only
  rw [hinner]
  rfl

theorem typeOf_plain : site.oracle.typeOf (optional either)
    = .ok (some (.union [.builtin "int", .builtin "str", .none])) := by
  have hanswer := (Oracle.adequate_within site.oracle 100).resolve .host [] (optional either) (by decide)
  exact (Option.some.inj hanswer).symm

theorem typeOf_quoted : site.oracle.typeOf (optional quoted) = site.oracle.typeOf (optional either) := by
  have hspecial : (site.oracle.symbols .host).specialForm? (Expr.name "Optional").dottedName
      = some "Optional" := special_optional
  unfold Oracle.typeOf optional
  rw [Oracle.resolve_optional hspecial rfl, Oracle.resolve_optional hspecial rfl, quotes_either.resolve]
  rfl

theorem assembled {e : Expr} {entries : Descriptor}
    (htype : typeEntries site [] (optional e) = pure entries)
    (hdomain : site.oracle.typeOf (optional e) = site.oracle.typeOf (optional either)) :
    (assemble site (property e) {}).1
      = .ok (Descriptor.distinct ((requiredKey, boolLiteral true) :: entries)) := by
  have hdomain : domainEntries site [] (optional e) = pure [] := by
    rw [domainEntries, hdomain, typeOf_plain]
    rfl
  have hunwrap : site.oracle.unwrap (property e).typeHint = .ok { type := optional e } := unwrap_optional e
  have hseed : ({ type := optional e } : Unwrapped).seed = [] := rfl
  rw [assemble, ofExcept_bind hunwrap, assembleUnwrapped]
  simp only [hseed, List.map_nil, htype, hdomain]
  change Except.ok (Descriptor.distinct
    ([(requiredKey, boolLiteral true)] ++ entries ++ [] ++ [] ++ [] ++ [])) = _
  simp only [List.append_nil, List.cons_append, List.nil_append]

end Listed

/-- In place, a union within an optional type is one union with it; in quotes it is one branch, besides
which the value may be `None`. -/
theorem quotes_hide_union :
    Quotes Listed.quoted Listed.either
      ∧ (assemble Listed.site (Listed.property Listed.either) {}).1
        = .ok [(requiredKey, boolLiteral true)]
      ∧ (assemble Listed.site (Listed.property Listed.quoted) {}).1
        = .ok [(requiredKey, boolLiteral true), (nullableKey, boolLiteral true)] :=
  ⟨Listed.quotes_either, Listed.assembled Listed.typeEntries_plain rfl,
    Listed.assembled Listed.typeEntries_quoted Listed.typeOf_quoted⟩

end ModelMetadata
