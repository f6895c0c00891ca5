import ModelMetadata.Proofs.NullBranches

/-!
Nested unions. A union may be written with bars, as an optional type or as a union of arguments, and its
parts may be unions again. Describing it flattens what is written into branches; resolving it flattens the
types of its parts. Both come down to the leaves of the nesting, in their order, so all nestings of the
same leaves are described alike and denote the same type. A leaf may be `None` in three spellings, and a
description knows two of them.
-/
set_option autoImplicit false
namespace ModelMetadata

open Source

namespace Oracle

variable {oracle : Oracle} {e : Expr} {leaves : List Expr}

/-! ## Nestings -/

/-- What is no union in any of the three spellings, and no string. -/
structure IsLeaf (oracle : Oracle) (e : Expr) : Prop where
  notBar : e.bar? = none
  notOptional {owner : Expr} {before close : Gap} {entries : List Entry}
    (hbare : e.bare = .subscript owner before entries close)
    (hspecial : oracle.specialForm? owner = some "Optional") : (Entry.indices entries).length ≠ 1
  notUnion {owner : Expr} {before close : Gap} {entries : List Entry}
    (hbare : e.bare = .subscript owner before entries close)
    (hspecial : oracle.specialForm? owner = some "Union") : Entry.indices entries = []
  notString : stringValue e = .ok none

/-- A nesting of unions with its leaves from left to right. An optional type has `None` as a leaf right
behind those of its argument. -/
inductive Nests (oracle : Oracle) : Expr → List Expr → Prop where
  | leaf {e : Expr} (h : oracle.IsLeaf e) : Nests oracle e [e]
  | bar {e left right : Expr} {leftLeaves rightLeaves : List Expr} (hbar : e.bar? = some (left, right))
    (hleft : Nests oracle left leftLeaves) (hright : Nests oracle right rightLeaves) :
    Nests oracle e (leftLeaves ++ rightLeaves)
  | optional {e owner argument : Expr} {before close : Gap} {entries : List Entry} {leaves : List Expr}
    (hbare : e.bare = .subscript owner before entries close)
    (hspecial : oracle.specialForm? owner = some "Optional") (hindices : Entry.indices entries = [argument])
    (h : Nests oracle argument leaves) : Nests oracle e (leaves ++ [impliedNone])
  | union {e owner : Expr} {before close : Gap} {entries : List Entry} {parts : List (Expr × List Expr)}
    (hbare : e.bare = .subscript owner before entries close)
    (hspecial : oracle.specialForm? owner = some "Union") (hne : parts ≠ [])
    (hindices : Entry.indices entries = parts.map Prod.fst)
    (h : ∀ part ∈ parts, Nests oracle part.1 part.2) : Nests oracle e (parts.flatMap Prod.snd)

theorem isLeaf_name (oracle : Oracle) (name : String) : oracle.IsLeaf (.name name) where
  notBar := rfl
  notOptional hbare := by cases hbare
  notUnion hbare := by cases hbare
  notString := rfl

theorem unionParts?_of_isLeaf (h : oracle.IsLeaf e) : unionParts? oracle e = none := by
  unfold unionParts?
  split
  · rename_i hbare
    have hbar := h.notBar
    simp only [Expr.bar?, hbare] at hbar
    cases hbar
  · rename_i hbare
    dsimp only
    split
    · rename_i hspecial
      rw [if_neg]
      simpa using h.notOptional hbare hspecial
    · rename_i hspecial
      rw [h.notUnion hbare hspecial]
      rfl
    · rfl
  · rfl

theorem unionParts?_of_bar? {left right : Expr} (h : e.bar? = some (left, right)) :
    unionParts? oracle e = some ([left, right], false) := by
  unfold Expr.bar? at h
  split at h
  · rename_i hbare
    cases h
    rw [unionParts?, hbare]
    rfl
  · cases h

theorem unionParts?_optional {owner argument : Expr} {before close : Gap} {entries : List Entry}
    (hbare : e.bare = .subscript owner before entries close)
    (hspecial : oracle.specialForm? owner = some "Optional") (hindices : Entry.indices entries = [argument]) :
    unionParts? oracle e = some ([argument], true) := by
  rw [unionParts?, hbare]
  dsimp only
  rw [hspecial, hindices]
  rfl

theorem unionParts?_union {owner : Expr} {before close : Gap} {entries : List Entry}
    (hbare : e.bare = .subscript owner before entries close)
    (hspecial : oracle.specialForm? owner = some "Union") (hindices : Entry.indices entries ≠ []) :
    unionParts? oracle e = some (Entry.indices entries, false) := by
  rw [unionParts?, hbare]
  dsimp only
  rw [hspecial]
  exact if_neg (by simpa using hindices)

namespace Nests

/-- The branches of a union are the leaves of its nesting. -/
theorem branches (h : oracle.Nests e leaves) : unionBranches oracle e = leaves := by
  induction h with
  | leaf h => rw [unionBranches_eq, unionParts?_of_isLeaf h]
  | bar hbar _ _ hleft hright =>
    rw [unionBranches_eq, unionParts?_of_bar? hbar]
    simp [hleft, hright]
  | optional hbare hspecial hindices _ ih =>
    rw [unionBranches_eq, unionParts?_optional hbare hspecial hindices]
    simp [ih]
  | @union _ _ _ _ entries parts hbare hspecial hne hindices _ ih =>
    have hsome : Entry.indices entries ≠ [] := by
      rw [hindices]
      simpa using hne
    rw [unionBranches_eq, unionParts?_union hbare hspecial hsome, hindices]
    dsimp only
    rw [if_neg Bool.false_ne_true, List.append_nil, List.flatMap_map]
    exact List.flatMap_congr ih

/-- No leaf is a string. -/
theorem notString (h : oracle.Nests e leaves) : ∀ leaf ∈ leaves, stringValue leaf = .ok none := by
  induction h with
  | leaf h => exact List.forall_mem_singleton.2 h.notString
  | bar _ _ _ hleft hright => exact List.forall_mem_append.2 ⟨hleft, hright⟩
  | optional _ _ _ _ ih => exact List.forall_mem_append.2 ⟨ih, List.forall_mem_singleton.2 rfl⟩
  | union _ _ _ _ _ ih =>
    intro leaf hleaf
    obtain ⟨part, hpart, hleaf⟩ := List.mem_flatMap.1 hleaf
    exact ih part hpart leaf hleaf

theorem isSome_unionParts? (h : oracle.Nests e leaves) (hunion : ¬ oracle.IsLeaf e) :
    (unionParts? oracle e).isSome = true := by
  cases h with
  | leaf h => exact absurd h hunion
  | bar hbar => rw [unionParts?_of_bar? hbar]; rfl
  | optional hbare hspecial hindices => rw [unionParts?_optional hbare hspecial hindices]; rfl
  | @union _ _ _ _ entries parts hbare hspecial hne hindices =>
    rw [unionParts?_union hbare hspecial (by rw [hindices]; simpa using hne)]
    rfl

end Nests

/-! ## Shapes of unions -/

/-- A subscript of a form that wraps nothing is no layer. -/
theorem core_of_subscript {owner : Expr} {before close : Gap} {entries : List Entry} {special : String}
    (hbare : e.bare = .subscript owner before entries close)
    (hspecial : oracle.specialForm? owner = some special) (hwrapper : wrapperForms.contains special = false) :
    oracle.core e = .ok e := by
  have htext : stringValue e = .ok none := by
    rw [← stringValue_bare, hbare]
    rfl
  cases hindices : Entry.indices entries with
  | nil =>
    exact core_unindexed htext (by simp only [Expr.indexing?, hbare, hindices])
  | cons first rest =>
    have hindexing : e.indexing? = some (owner, first, rest) := by
      simp only [Expr.indexing?, hbare, hindices]
    have hwraps : oracle.wraps owner = false := by
      rw [wraps, hspecial]
      exact hwrapper
    rw [core_indexed htext hindexing, hwraps]
    rfl

/-- A union is neither quoted nor wrapped. -/
theorem shape_of_unionParts? (h : (unionParts? oracle e).isSome = true) :
    oracle.shape e = .ok (.union (unionBranches oracle e)) := by
  have hshape (hcore : oracle.core e = .ok e) (hdict : e.dictEntries? = none) (hcallee : e.callee? = none) :
      oracle.shape e = .ok (.union (unionBranches oracle e)) := by
    rw [shape, hcore]
    change oracle.coreShape e = _
    rw [coreShape_other hdict hcallee, if_pos h]
  have hparts := h
  unfold unionParts? at hparts
  split at hparts
  · rename_i hbare
    have htext : stringValue e = .ok none := by
      rw [← stringValue_bare, hbare]
      rfl
    refine hshape (core_plain htext ?_) ?_ ?_
    · rw [Expr.isSubscript, hbare]
    · rw [Expr.dictEntries?, hbare]
    · rw [Expr.callee?, hbare]
  · rename_i hbare
    have hdict : e.dictEntries? = none := by rw [Expr.dictEntries?, hbare]
    have hcallee : e.callee? = none := by rw [Expr.callee?, hbare]
    dsimp only at hparts
    split at hparts
    · rename_i hspecial
      exact hshape (core_of_subscript hbare hspecial (by decide)) hdict hcallee
    · rename_i hspecial
      exact hshape (core_of_subscript hbare hspecial (by decide)) hdict hcallee
    · cases hparts
  · cases hparts

/-- A union denotes the union of the types of its branches. -/
theorem typeOf_unionBranches (h : (unionParts? oracle e).isSome = true) :
    oracle.typeOf e = Option.map ResolvedType.ofMembers <$> oracle.typesOf (unionBranches oracle e) := by
  obtain ⟨⟨parts, implied⟩, hparts⟩ := Option.isSome_iff_exists.1 h
  have hall := typesOf_flatMap fun part (_ : part ∈ parts) => oracle.typeOf_branches part
  rw [typeOf_parts hparts, unionBranches_eq, hparts]
  dsimp only
  rw [typesOf_append, typesOf_implied, map_eq_pure_bind, map_eq_pure_bind, bind_assoc]
  refine (hall.bind fun ts? us? hts => .ok ?_).eq
  cases hts with
  | none => rfl
  | some hts =>
    refine congrArg some (ResolvedType.ofMembers_congr ?_)
    rw [List.flatMap_append, List.flatMap_append]
    exact ResolvedType.distinct_append_congr hts.2 rfl

/-! ## Null leaves -/

/-- `type(None)` -/
def isTypeOfNone (oracle : Oracle) (leaf : Expr) : Bool :=
  match leaf.callee?.bind oracle.specialForm?, leaf.arguments with
  | some "type", [argument] => (argument.item.argument.map fun e => e.isName "None").getD false
  | _, _ => false

/-- `Literal[None]` -/
def isLiteralOfNone (oracle : Oracle) (leaf : Expr) : Bool :=
  match leaf.indexing? with
  | some (owner, first, rest) =>
    oracle.specialForm? owner == some "Literal" && (first :: rest).all fun member => member.isName "None"
  | none => false

/-- Whether a leaf is `None`, in one of its three spellings. -/
def isNull (oracle : Oracle) (leaf : Expr) : Bool :=
  leaf.isName "None" || oracle.isTypeOfNone leaf || oracle.isLiteralOfNone leaf

theorem nullForm_of_isLiteralOfNone (h : oracle.isLiteralOfNone e = true) : oracle.NullForm e := by
  unfold isLiteralOfNone at h
  split at h
  · rename_i hindexing
    rw [Bool.and_eq_true, beq_iff_eq, List.all_eq_true] at h
    exact .literal hindexing h.1 h.2
  · cases h

theorem shownNull_of_isTypeOfNone (h : oracle.isTypeOfNone e = true) : oracle.ShownNull e := by
  unfold isTypeOfNone at h
  split at h
  · rename_i hspecial harguments
    obtain ⟨callee, hcallee, hspecial⟩ := Option.bind_eq_some_iff.1 hspecial
    exact .type hcallee hspecial harguments h
  · cases h

theorem typeOf_null (h : oracle.isNull e = true) : oracle.typeOf e = .ok (some .none) := by
  rw [isNull, Bool.or_eq_true, Bool.or_eq_true] at h
  apply typeOf_of_nullForm
  rcases h with (hname | htype) | hliteral
  · exact .shown (.name hname)
  · exact .shown (shownNull_of_isTypeOfNone htype)
  · exact nullForm_of_isLiteralOfNone hliteral

/-- A branch is recognised as `None` by its name and as the type of it. -/
theorem isNullBranch_of_not_string (h : stringValue e = .ok none) :
    oracle.isNullBranch e = .ok (e.isName "None" || oracle.isTypeOfNone e) := by
  unfold isNullBranch isTypeOfNone
  cases e.isName "None" with
  | true => rfl
  | false =>
    rw [h]
    change (match e.callee?.bind oracle.specialForm?, e.arguments with | some "type", [argument] => _ | _, _ => _)
      = _
    split <;> rfl

theorem nonNull_of_not_string (h : ∀ leaf ∈ leaves, stringValue leaf = .ok none)
    (hliteral : ∀ leaf ∈ leaves, oracle.isLiteralOfNone leaf = false) :
    oracle.nonNull leaves = .ok (leaves.filter fun leaf => !oracle.isNull leaf) := by
  induction leaves with
  | nil => rfl
  | cons leaf rest ih =>
    obtain ⟨hleaf, hrest⟩ := List.forall_mem_cons.1 h
    obtain ⟨hnot, hothers⟩ := List.forall_mem_cons.1 hliteral
    have hnull : oracle.isNullBranch leaf = .ok (oracle.isNull leaf) := by
      rw [isNullBranch_of_not_string hleaf, isNull, hnot, Bool.or_false]
    rw [nonNull, hnull, ih hrest hothers, List.filter_cons]
    cases oracle.isNull leaf <;> rfl

end Oracle

/-! ## Entries -/

/-- The entries of a union by its leaves: those of the only leaf that is not `None`, and that the
property may be `None` if a leaf is; none if several leaves are not `None`, or all are. -/
def leafEntries (site : Site) (existing : List String) (leaves : List Expr) : Describe Descriptor :=
  match leaves.filter fun leaf => !site.oracle.isNull leaf with
  | [leaf] => do
    let entries ← typeEntries site existing leaf
    return entries ++ if leaves.any site.oracle.isNull then [(nullableKey, boolLiteral true)] else []
  | _ => return []

/-- Where one member alone does not satisfy `p`, it is the only one at all just if no member does. -/
theorem length_of_filter_not {α : Type} {p : α → Bool} {xs : List α} {x : α}
    (h : (xs.filter fun a => !p a) = [x]) : (xs.length == 1) = !xs.any p := by
  have hx : x ∈ xs.filter fun a => !p a := h ▸ List.mem_singleton_self x
  obtain ⟨hx, hnot⟩ := List.mem_filter.1 hx
  cases hany : xs.any p with
  | false =>
    have hall : (xs.filter fun a => !p a) = xs :=
      List.filter_eq_self.2 fun a ha => by simpa using List.any_eq_false.1 hany a ha
    rw [← hall, h]
    rfl
  | true =>
    obtain ⟨a, ha, hp⟩ := List.any_eq_true.1 hany
    refine beq_eq_false_iff_ne.2 fun hlength => ?_
    obtain ⟨only, rfl⟩ := List.length_eq_one_iff.1 hlength
    obtain rfl := List.mem_singleton.1 ha
    obtain rfl := List.mem_singleton.1 hx
    rw [hp] at hnot
    cases hnot

theorem typeEntries_nested {site : Site} {existing : List String} {e : Expr} {leaves : List Expr}
    (hexisting : existing.contains typeKey = false) (h : site.oracle.Nests e leaves)
    (hunion : ¬ site.oracle.IsLeaf e)
    (hliteral : ∀ leaf ∈ leaves, site.oracle.isLiteralOfNone leaf = false) :
    typeEntries site existing e = leafEntries site existing leaves := by
  have hshape := Oracle.shape_of_unionParts? (h.isSome_unionParts? hunion)
  rw [h.branches] at hshape
  rw [typeEntries_eq, hexisting, ofExcept_bind hshape]
  simp only [Bool.false_eq_true, if_false, shapeEntries]
  rw [ofExcept_bind (Oracle.nonNull_of_not_string h.notString hliteral), leafEntries]
  cases hkept : leaves.filter fun leaf => !site.oracle.isNull leaf with
  | nil => rfl
  | cons leaf rest =>
    cases rest with
    | cons => rfl
    | nil =>
      dsimp only
      rw [length_of_filter_not hkept]
      refine bind_congr fun entries => ?_
      cases leaves.any site.oracle.isNull with
      | true => rfl
      | false => exact congrArg pure (List.append_nil entries).symm

/-- The answers about a union depend on its flattened leaves alone. Its type is the union of the types of
the leaves, each once in the order of first occurrence; its entries are those of the only leaf that is not
`None`, where no leaf is the literal type of it. Every other nesting of the same leaves gets the same
answers. -/
theorem union_flattened {site : Site} {existing : List String} {e : Expr} {leaves : List Expr}
    (hexisting : existing.contains typeKey = false) (h : site.oracle.Nests e leaves)
    (hunion : ¬ site.oracle.IsLeaf e) :
    ((∀ leaf ∈ leaves, site.oracle.isLiteralOfNone leaf = false) →
        typeEntries site existing e = leafEntries site existing leaves)
      ∧ site.oracle.typeOf e = Option.map ResolvedType.ofMembers <$> site.oracle.typesOf leaves
      ∧ (∀ leaf ∈ leaves, site.oracle.isNull leaf = true → site.oracle.typeOf leaf = .ok (some .none))
      ∧ ∀ e', site.oracle.Nests e' leaves → ¬ site.oracle.IsLeaf e' →
        typeEntries site existing e' = typeEntries site existing e
          ∧ site.oracle.typeOf e' = site.oracle.typeOf e := by
  have htype {e : Expr} (h : site.oracle.Nests e leaves) (hunion : ¬ site.oracle.IsLeaf e) :
      site.oracle.typeOf e = Option.map ResolvedType.ofMembers <$> site.oracle.typesOf leaves := by
    rw [Oracle.typeOf_unionBranches (h.isSome_unionParts? hunion), h.branches]
  refine ⟨typeEntries_nested hexisting h hunion, htype h hunion, fun leaf _ => Oracle.typeOf_null, ?_⟩
  intro e' h' hunion'
  refine ⟨?_, (htype h' hunion').trans (htype h hunion).symm⟩
  have hshape := Oracle.shape_of_unionParts? (h.isSome_unionParts? hunion)
  have hshape' := Oracle.shape_of_unionParts? (h'.isSome_unionParts? hunion')
  rw [h.branches] at hshape
  rw [h'.branches] at hshape'
  rw [typeEntries_eq, typeEntries_eq, ofExcept_bind hshape, ofExcept_bind hshape']

namespace Nested

/-- A module with `from typing import Optional, Union` -/
def site : Site where
  oracle.host :=
    { moduleName := "m"
      imports := ⟨[("Optional", { origin := "typing", imported := some "Optional" }),
        ("Union", { origin := "typing", imported := some "Union" })]⟩ }

/-- `Optional[int | None]` -/
def optional : Expr :=
  .subscript (.name "Optional") [] [.mk [] (.value (.binary (.name "int") [] "|" [] (.name "None"))) none] []

/-- `Optional[None]` -/
def argument : Expr := .subscript (.name "Optional") [] [.mk [] (.value (.name "None")) none] []

/-- `Union[int, Optional[None]]` -/
def union : Expr :=
  .subscript (.name "Union") [] [.mk [] (.value (.name "int")) (some []), .mk [] (.value argument) none] []

def leaves : List Expr := [.name "int", .name "None", .name "None"]

theorem special_optional : site.oracle.specialForm? (.name "Optional") = some "Optional" := by decide

theorem special_union : site.oracle.specialForm? (.name "Union") = some "Union" := by decide

theorem nests_optional : site.oracle.Nests optional leaves := by
  have hbar : site.oracle.Nests (.binary (.name "int") [] "|" [] (.name "None"))
      [.name "int", .name "None"] :=
    .bar rfl (.leaf (Oracle.isLeaf_name _ "int")) (.leaf (Oracle.isLeaf_name _ "None"))
  exact .optional rfl special_optional rfl hbar

theorem nests_union : site.oracle.Nests union leaves := by
  let parts : List (Expr × List Expr) :=
    [(.name "int", [.name "int"]), (argument, [.name "None", .name "None"])]
  have hparts : ∀ part ∈ parts, site.oracle.Nests part.1 part.2 := by
    refine List.forall_mem_cons.2 ⟨.leaf (Oracle.isLeaf_name _ "int"), List.forall_mem_singleton.2 ?_⟩
    exact .optional rfl special_optional rfl (.leaf (Oracle.isLeaf_name _ "None"))
  exact .union rfl special_union (List.cons_ne_nil _ _) rfl hparts

theorem not_isLeaf_optional : ¬ site.oracle.IsLeaf optional :=
  fun h => h.notOptional rfl special_optional rfl

theorem not_isLeaf_union : ¬ site.oracle.IsLeaf union :=
  fun h => List.cons_ne_nil _ _ (h.notUnion rfl special_union)

end Nested

/-- Three leaves, two of them `None`. -/
theorem union_flattened_of_nested :
    (typeEntries Nested.site [] Nested.union {}).1
        = .ok [(typeKey, Expr.thunk (.name "int")), (nullableKey, boolLiteral true)]
      ∧ typeEntries Nested.site [] Nested.union = typeEntries Nested.site [] Nested.optional
      ∧ Nested.site.oracle.typeOf Nested.union = Nested.site.oracle.typeOf Nested.optional := by
  have hliteral : ∀ leaf ∈ Nested.leaves, Nested.site.oracle.isLiteralOfNone leaf = false := by decide
  have hint : typeEntries Nested.site [] (.name "int") {}
      = (.ok [(typeKey, Expr.thunk (.name "int"))], {}) := by
    rw [typeEntries_eq]
    cbv
  have hunion := @union_flattened Nested.site [] _ _ rfl Nested.nests_union Nested.not_isLeaf_union
  have hentries : leafEntries Nested.site [] Nested.leaves {}
      = (.ok [(typeKey, Expr.thunk (.name "int")), (nullableKey, boolLiteral true)], {}) :=
    step_bind hint
  refine ⟨?_, ?_, ?_⟩
  · rw [hunion.1 hliteral, hentries]
  · exact (hunion.2.2.2 _ Nested.nests_optional Nested.not_isLeaf_optional).1.symm
  · exact (hunion.2.2.2 _ Nested.nests_optional Nested.not_isLeaf_optional).2.symm

namespace LiteralNull

def site : Site := { oracle := NullSpellings.oracle }

/-- `int | Literal[None]` -/
def union : Expr := .binary (.name "int") [] "|" [] NullSpellings.literalNone

def leaves : List Expr := [.name "int", NullSpellings.literalNone]

theorem nests_union : site.oracle.Nests union leaves := by
  have hliteral : site.oracle.IsLeaf NullSpellings.literalNone := by
    have hspecial : site.oracle.specialForm? (.name "Literal") = some "Literal" := by decide
    constructor
    · rfl
    · intro owner before close entries hbare hoptional
      cases hbare
      exact absurd (hspecial.symm.trans hoptional) (by decide)
    · intro owner before close entries hbare hunion
      cases hbare
      exact absurd (hspecial.symm.trans hunion) (by decide)
    · rfl
  exact .bar rfl (.leaf (Oracle.isLeaf_name _ "int")) (.leaf hliteral)

theorem not_isLeaf_union : ¬ site.oracle.IsLeaf union := by
  intro h
  cases h.notBar

end LiteralNull

/-- The literal type of `None` is a leaf that denotes `None`. In a union with one type, the description takes
it for a second one. -/
theorem literal_none_counted :
    LiteralNull.site.oracle.Nests LiteralNull.union LiteralNull.leaves
      ∧ ¬ LiteralNull.site.oracle.IsLeaf LiteralNull.union
      ∧ (leafEntries LiteralNull.site [] LiteralNull.leaves {}).1
        = .ok [(typeKey, Expr.thunk (.name "int")), (nullableKey, boolLiteral true)]
      ∧ (typeEntries LiteralNull.site [] LiteralNull.union {}).1 = .ok [] := by
  refine ⟨LiteralNull.nests_union, LiteralNull.not_isLeaf_union, ?_, ?_⟩
  · have hint : typeEntries LiteralNull.site [] (.name "int") {}
        = (.ok [(typeKey, Expr.thunk (.name "int"))], {}) := by
      rw [typeEntries_eq]
      cbv
    have hentries : leafEntries LiteralNull.site [] LiteralNull.leaves {}
        = (.ok [(typeKey, Expr.thunk (.name "int")), (nullableKey, boolLiteral true)], {}) :=
      step_bind hint
    rw [hentries]
  · have hshape := Oracle.shape_of_unionParts?
      (LiteralNull.nests_union.isSome_unionParts? LiteralNull.not_isLeaf_union)
    rw [LiteralNull.nests_union.branches] at hshape
    have hkept : LiteralNull.site.oracle.nonNull LiteralNull.leaves = .ok LiteralNull.leaves := by cbv
    rw [typeEntries_eq, ofExcept_bind hshape]
    simp only [List.contains_nil, Bool.false_eq_true, shapeEntries]
    rw [ofExcept_bind hkept]
    rfl

end ModelMetadata
