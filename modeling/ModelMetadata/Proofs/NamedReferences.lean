import ModelMetadata.Proofs.DomainTypes
import ModelMetadata.Proofs.NamedFaults
import ModelMetadata.Proofs.PrintedNames

/-!
References of found types. Describing refers to a type only where it has found a printable name, and no type
that is found has such a name without being lists of a named type. So no run of the entries for a type or for
a domain is given up because a type has no name, and where they look into a union what they look for is there.
-/
set_option autoImplicit false
namespace ModelMetadata

open Source

/-! ## Steps -/

/-- A step whose fault, if it meets one, is as `P` says, whatever state it begins in. -/
abbrev Meets (P : Fault → Prop) {σ α : Type} (step : ExceptT Fault (StateM σ) α) : Prop :=
  Ends (fun _ => True) step (fun _ _ => True) fun fault _ => P fault

namespace Meets

variable {P : Fault → Prop} {σ α β : Type}

theorem blames {step : ExceptT Fault (StateM σ) α} (h : Meets P step) (state : σ) :
    Blames P (step state).1 := fun _ hfault => h.error trivial hfault

theorem ofBlames {step : ExceptT Fault (StateM σ) α} (h : ∀ state, Blames P (step state).1) :
    Meets P step where
  ok _ _ _ := trivial
  error _ _ hfault := h _ _ hfault

theorem pure (a : α) : Meets P (Pure.pure a : ExceptT Fault (StateM σ) α) := Ends.pure fun _ _ => trivial

theorem ofExcept {result : Except Fault α} (h : Blames P result) : Meets P (Describe.ofExcept result) :=
  ofBlames fun _ => h

theorem bind {step : ExceptT Fault (StateM σ) α} {f : α → ExceptT Fault (StateM σ) β}
    (hstep : Meets P step) (hf : ∀ a, Meets P (f a)) : Meets P (step >>= f) := Ends.bind hstep hf

/-- What follows a result may count on it. -/
theorem after {result : Except Fault α} {f : α → Describe β} (hresult : Blames P result)
    (hf : ∀ a, result = .ok a → Meets P (f a)) : Meets P (Describe.ofExcept result >>= f) := by
  cases result with
  | error fault => exact ofBlames fun _ => .error (hresult fault rfl)
  | ok a => exact hf a rfl

theorem map {step : ExceptT Fault (StateM σ) α} (hstep : Meets P step) (f : α → β) :
    Meets P (f <$> step) := by
  rw [map_eq_pure_bind]
  exact hstep.bind fun a => .pure (f a)

theorem ite {condition : Prop} [Decidable condition] {step other : ExceptT Fault (StateM σ) α}
    (hstep : Meets P step) (hother : Meets P other) :
    Meets P (if condition then step else other) :=
  Ends.ite (fun _ => hstep) fun _ => hother

theorem mapM {f : α → ExceptT Fault (StateM σ) β} {xs : List α} (h : ∀ x ∈ xs, Meets P (f x)) :
    Meets P (xs.mapM f) :=
  Ends.imp (Ends.mapM fun x hx => Ends.imp (h x hx) fun _ _ _ => ⟨trivial, trivial⟩) fun _ _ _ => trivial

end Meets

/-! ## References -/

section Entries

variable {site : Site}

theorem meets_note (text : String) : Meets Fault.NamesTypes (site.note text) := by
  unfold Site.note Describe.note
  split
  · exact .ofBlames fun _ => .ok ()
  · exact .pure ()

theorem meets_isCopyable (e : Expr) : Meets Fault.NamesTypes (site.isCopyable e) :=
  .ofExcept (namesTypes_isCopyable _ _ e)

theorem meets_refer (readonly : Bool) (host : String) (t : NamedType) :
    Meets Fault.NamesTypes (t.refer readonly host) := by
  unfold NamedType.refer
  refine .ite (.ofExcept (namesTypes_nameExpr _)) ?_
  have hread : Meets Fault.NamesTypes (Describe.ofExcept (readExpr (t.referenceText readonly))) :=
    .ofExcept (namesTypes_readExpr _)
  have hrecord : Meets Fault.NamesTypes (Describe.recordImport t.canonicalName t.origin) :=
    .ofBlames fun _ => .ok ()
  exact .ite (hrecord.bind fun _ => hread) hread

/-- A reference that names a type is not given up for a name. -/
theorem meets_reference {reference : TypeReference} {s : NamedType} (h : reference.named = some s)
    (readonly : Bool) (host : String) : Meets Fault.NamesTypes (reference.refer readonly host) := by
  unfold TypeReference.refer
  rw [h]
  exact (meets_refer readonly host s).map _

/-! ## Entries -/

/-- The entries for a type that is found: it is referred to only if it has a name. -/
theorem meets_namedEntries (core : Expr) : Meets Fault.NamesTypes (namedEntries site core) := by
  refine .after (namesTypes_typeOf site.oracle core) fun t? ht => ?_
  dsimp only
  split
  · exact .pure []
  · rename_i name hname
    cases t? with
    | none => cases hname
    | some t =>
      obtain hnone | ⟨s, hprints⟩ := ResolvedType.reference_cases (kept_normal.typeOf ht)
      · rw [Option.map_some, Option.getD_some, hnone] at hname
        cases hname
      · exact (meets_reference hprints.named ..).bind fun e => .pure _

theorem meets_domainExpr (domain : ResolvedType) : Meets Fault.NamesTypes (domainExpr site domain) := by
  unfold domainExpr
  split
  · exact .ite ((meets_refer ..).bind fun e => .pure _) (.pure none)
  · refine .bind (.bind (meets_refer ..) fun e => ?_) fun e => .pure _
    exact .ofExcept (namesTypes_memberExpr _ _)
  · split
    · rename_i values _
      refine .bind (.ofExcept ?_) fun literals => .pure _
      exact .mapM fun value _ => namesTypes_primitive value
    · exact .pure none

theorem meets_domainEntries (existing : List String) (e : Expr) :
    Meets Fault.NamesTypes (domainEntries site existing e) := by
  unfold domainEntries
  refine .ite (.pure []) (.bind (.ofExcept (namesTypes_typeOf site.oracle e)) fun t? => ?_)
  split
  · exact .pure []
  · refine (meets_domainExpr _).bind fun value? => ?_
    split
    · exact .pure []
    · exact .pure _

theorem meets_seedEntries (subject : String) (seed : List (String × Expr)) :
    Meets Fault.NamesTypes (seedEntries site subject seed) := by
  induction seed with
  | nil => exact .pure []
  | cons entry rest ih =>
    refine (meets_isCopyable _).bind fun copyable => .ite (ih.bind fun entries => .pure _) ?_
    exact (meets_note _).bind fun _ => ih

theorem meets_defaultEntries (subject : String) (existing : List String) (value : Option Expr) :
    Meets Fault.NamesTypes (defaultEntries site subject existing value) := by
  unfold defaultEntries
  refine .ite (.pure []) ?_
  split
  · exact .pure []
  · refine .bind (.ofExcept (namesTypes_toCopy _)) fun copied => (meets_isCopyable copied).bind fun _ => ?_
    exact .ite (.pure _) ((meets_note _).bind fun _ => .pure [])

theorem meets_argumentEntry (subject key : String) (argument : Option Expr) :
    Meets Fault.NamesTypes (argumentEntry site subject key argument) := by
  cases argument with
  | none => exact .pure []
  | some e =>
    have hcopy : Meets Fault.NamesTypes (copyArgument site subject e) := by
      refine .bind (.ofExcept (namesTypes_toCopy e)) fun copied => (meets_isCopyable copied).bind fun _ => ?_
      exact .ite (.pure _) ((meets_note _).bind fun _ => .pure none)
    exact hcopy.bind fun copied? => .pure _

theorem meets_ruleEntries (subject : String) (marker : Expr) (rule : MarkerRule) :
    Meets Fault.NamesTypes (rule.entries site subject marker) := by
  cases rule with
  | argument key => exact meets_argumentEntry ..
  | bound key value => exact .bind (.ofExcept (namesTypes_primitive _)) fun literal => .pure _
  | range lower upper =>
    refine (meets_argumentEntry ..).bind fun first => ?_
    split
    · exact .pure []
    · exact (meets_argumentEntry ..).bind fun second => .pure _
  | pattern key =>
    simp only [MarkerRule.entries]
    split
    · exact .pure []
    · exact .bind (.ofExcept (namesTypes_patternText _)) fun text => .pure _

theorem meets_validationEntries (subject : String) (markers : List Expr) :
    Meets Fault.NamesTypes (validationEntries site subject markers) := by
  have hrow (row : MarkerRow) : Meets Fault.NamesTypes (row.entries site subject markers) := by
    unfold MarkerRow.entries
    split
    · exact .pure []
    · exact meets_ruleEntries ..
  exact .bind (.mapM fun row _ => hrow row) fun entries => .pure _

/-- The entries for a type and all entries of a property, by the recursion through members and branches. -/
theorem meets_describing (site : Site) :
    (∀ existing e, Meets Fault.NamesTypes (typeEntries site existing e))
      ∧ ∀ declaration found, Meets Fault.NamesTypes (assembleUnwrapped site declaration found) := by
  refine describing_induction site (fun existing e hmembers hbranch => ?_) fun declaration found htype => ?_
  · rw [typeEntries_eq]
    refine .ite (.pure []) (.after (namesTypes_shape site.oracle e) fun shape hshape => ?_)
    cases shape with
    | inline members =>
      refine .bind (.mapM fun member hmember => ?_) fun entries => .pure _
      unfold memberEntry
      split
      · exact .pure none
      · refine .after (namesTypes_unwrapFrom site.oracle _) fun found hfound => .ite (.pure none) ?_
        exact (hmembers members hshape member hmember found hfound).bind fun d => .pure _
    | union branches =>
      refine .after (namesTypes_nonNull site.oracle branches) fun kept hkept => ?_
      split
      · exact (hbranch branches _ hshape hkept).bind fun entries => .ite (.pure _) (.pure _)
      · exact .pure []
    | named core => exact meets_namedEntries core
  · rw [assembleUnwrapped]
    refine (meets_seedEntries ..).bind fun seeded => (htype _).bind fun types =>
      .bind (.ofExcept (namesTypes_documentationEntries _ _ _)) fun docs =>
      (meets_defaultEntries ..).bind fun default => (meets_domainEntries ..).bind fun domain => ?_
    exact .ite ((meets_validationEntries ..).bind fun _ => .pure _) (.bind (.pure []) fun _ => .pure _)

end Entries

/-! ## Found types -/

/-- What describing counts on of a type. It has a printable name just if it gives a named type that is no
enumeration, and then is lists of that, as deep as it is said to be. Beside `None` in an optional type there
is another member, and a domain that is a union is one of literals. -/
structure ResolvedType.Describable (t : ResolvedType) : Prop where
  printed : t.reference.name.isSome = true
    ↔ ∃ s, t.reference.named = some s ∧ s.isEnumeration = false
  lists {s : NamedType} (h : t.reference.named = some s) : s.isEnumeration = false
    ∧ t.ListsOf s t.reference.depth ∧ t.reference.name = some (bracketed t.reference.depth s.name)
  branch {members : List ResolvedType} (hunion : t = .union members) (hoptional : t.isOptional = true) :
    ∃ only, members.find? (fun member => !member.isNone) = some only
  values {members : List ResolvedType} {isArray : Bool}
    (h : t.propertyDomain? = some (.union members, isArray)) : ∀ member ∈ members, member.isLiteral = true

theorem ResolvedType.Normal.describable {t : ResolvedType} (h : t.Normal ApartAsSpelled) :
    t.Describable where
  printed := by
    obtain hnone | ⟨s, hprints⟩ := reference_cases h
    · simp [hnone]
    · simp [hprints.name, hprints.named, hprints.notEnumeration]
  lists {s} hnamed := by
    obtain hnone | ⟨s', hprints⟩ := reference_cases h
    · rw [hnone] at hnamed
      cases hnamed
    · obtain rfl := Option.some.inj (hprints.named.symm.trans hnamed)
      exact ⟨hprints.notEnumeration, hprints.lists, hprints.name⟩
  branch hunion hoptional := by
    subst hunion
    exact exists_branch_of_isOptional h hoptional
  values hdomain := literalMembers_of_propertyDomain? hdomain _ rfl

/-- Whatever the host, the project, the mode and the annotation: describing can count on the type that is
found, and the entries for it and for its domain are never given up because a type has no name. -/
theorem found_describable (site : Site) (existing : List String) (e : Expr) (journal : Journal) :
    (∀ t, site.oracle.typeOf e = .ok (some t) → t.Describable)
      ∧ ∀ display, (typeEntries site existing e journal).1 ≠ .error (.namesNoType display)
        ∧ (domainEntries site existing e journal).1 ≠ .error (.namesNoType display) := by
  refine ⟨fun t ht => (kept_normal.typeOf ht).describable, fun display => ⟨fun h => ?_, fun h => ?_⟩⟩
  · exact ((meets_describing site).1 existing e).blames journal _ h
  · exact (meets_domainEntries existing e).blames journal _ h

namespace Levels

/-- `Optional[Literal[True, False]]` -/
def choices : Expr :=
  form "Optional" (.subscript (.name "Literal") []
    [.mk [] (.value (.name "True")) (some []), .mk [] (.value (.name "False")) none] [])

def falseType : ResolvedType := .literal (.bool false) (.builtin "bool")

theorem typeOf_choices : site.oracle.typeOf choices = .ok (some (.union [truthType, falseType, .none])) := by
  have hanswer := (Oracle.adequate_within site.oracle 100).resolve .host [] choices (by decide)
  exact (Option.some.inj hanswer).symm

end Levels

/-- `list[Optional[Literal[True]]]` is lists of `bool`, and the domain of `Optional[Literal[True, False]]` is a
union of two literals. -/
theorem found_describable_of_literals :
    (ResolvedType.array (.union [Levels.truthType, .none])).ListsOf (.builtin "bool") 1
      ∧ (ResolvedType.union [Levels.truthType, Levels.falseType, .none]).propertyDomain?
        = some (.union [Levels.truthType, Levels.falseType], false)
      ∧ ∀ member ∈ [Levels.truthType, Levels.falseType], member.isLiteral = true := by
  have htruths := (found_describable Levels.site [] Levels.truths {}).1 _ Levels.typeOf_truths
  have hchoices := (found_describable Levels.site [] Levels.choices {}).1 _ Levels.typeOf_choices
  have hnamed : (ResolvedType.array (.union [Levels.truthType, .none])).reference.named
      = some (.builtin "bool") := by rw [Levels.reference_truths]
  have hdomain : (ResolvedType.union [Levels.truthType, Levels.falseType, .none]).propertyDomain?
      = some (.union [Levels.truthType, Levels.falseType], false) := rfl
  have hlists := (htruths.lists hnamed).2.1
  rw [Levels.reference_truths] at hlists
  exact ⟨hlists, hdomain, hchoices.values hdomain⟩

end ModelMetadata
