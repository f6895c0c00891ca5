import ModelMetadata.Descriptor.Domain
import ModelMetadata.Oracle

/-!
The named types in a type. A union keeps some of its members, a type that is passed on from a module keeps
its parts but for their spellings, and a reference to a type, or to the enumerable domain of one, is to
one of its parts. The types that literals are named by are told apart from the other parts, as they are
never spelled.
-/
set_option autoImplicit false
namespace ModelMetadata

open Source Oracle

namespace ResolvedType

theorem unspelledAll_eq_map (members : List ResolvedType) : unspelledAll members = members.map unspelled := by
  induction members with
  | nil => rfl
  | cons t rest ih => rw [unspelledAll, ih, List.map_cons]

/-- All named types in a type are as `P` says, the types that literals are named by as `B` says. -/
inductive Each (P B : NamedType → Prop) : ResolvedType → Prop where
  | named {t : NamedType} (h : P t) : Each P B (.named t)
  | array {element : ResolvedType} (h : element.Each P B) : Each P B (.array element)
  | literal {value : Primitive} {base : NamedType} (h : B base) : Each P B (.literal value base)
  | enumMember {owner : NamedType} {member : String} (h : P owner) : Each P B (.enumMember owner member)
  | union {members : List ResolvedType} (h : ∀ t ∈ members, t.Each P B) : Each P B (.union members)
  | none : Each P B .none

namespace Each

variable {P P' B : NamedType → Prop} {t : ResolvedType} {members : List ResolvedType}

theorem mono (h : t.Each P B) (hP : ∀ s, P s → P' s) : t.Each P' B := by
  induction h with
  | named h => exact .named (hP _ h)
  | array _ ih => exact .array ih
  | literal h => exact .literal h
  | enumMember h => exact .enumMember (hP _ h)
  | union _ ih => exact .union ih
  | none => exact .none

/-! ## Unions -/

theorem branches (h : t.Each P B) : ∀ branch ∈ t.branches, branch.Each P B := by
  refine forall_branches h ?_
  rintro members rfl
  cases h with
  | union h => exact h

theorem distinct_branches (h : ∀ t ∈ members, t.Each P B) :
    ∀ t ∈ distinct (members.flatMap ResolvedType.branches), t.Each P B := by
  intro t ht
  obtain ⟨member, hmember, hbranch⟩ := List.mem_flatMap.1 (mem_of_mem_distinct ht)
  exact (h member hmember).branches t hbranch

theorem ofMembers (h : ∀ t ∈ members, t.Each P B) : (ResolvedType.ofMembers members).Each P B := by
  have hdistinct := distinct_branches h
  unfold ResolvedType.ofMembers
  split
  · rename_i only honly
    rw [honly] at hdistinct
    exact hdistinct only (List.mem_singleton_self only)
  · exact .union hdistinct

theorem withoutNone? (h : ∀ t ∈ members, t.Each P B) {t : ResolvedType}
    (ht : withoutNone? members = some t) : t.Each P B := by
  have hrest : ∀ t ∈ members.filter fun t => !t.isNone, t.Each P B :=
    fun t hmem => h t (List.mem_filter.1 hmem).1
  unfold ResolvedType.withoutNone? at ht
  split at ht
  · cases ht
  · cases ht
    exact ofMembers hrest

theorem onlyBranch? (h : ∀ t ∈ members, t.Each P B)
    {only : { t : ResolvedType // sizeOf t < sizeOf (ResolvedType.union members) }}
    (honly : onlyBranch? members = some only) : only.val.Each P B := by
  have hdistinct : ∀ t ∈ distinct
      ((members.filter fun t => !t.isNone).flatMap ResolvedType.branches),
      t.Each P B := distinct_branches fun t ht => h t (List.mem_filter.1 ht).1
  unfold ResolvedType.onlyBranch? at honly
  split at honly
  · rename_i found hfound
    cases honly
    rw [hfound] at hdistinct
    exact hdistinct found (List.mem_singleton_self found)
  · cases honly

/-! ## Types passed on -/

theorem unspelled (h : t.Each P B) (hP : ∀ s, P s → P' (unspelledName s)) : t.unspelled.Each P' B := by
  induction h with
  | named h => exact .named (hP _ h)
  | array _ ih => exact .array ih
  | literal h => exact .literal h
  | enumMember h => exact .enumMember (hP _ h)
  | none => exact .none
  | union _ ih =>
    refine .union ?_
    rw [unspelledAll_eq_map]
    exact List.forall_mem_map.2 ih

theorem respelled (h : t.Each P B) {spelling : Option String} (hP : ∀ s, P s → P' (unspelledName s))
    (hspelling : ∀ s, P s → P' (if s.isBuiltin then s else { s with spelling })) :
    (respelled spelling t).Each P' B := by
  cases h with
  | named h => exact .named (hspelling _ h)
  | array h => exact (Each.array h).unspelled hP
  | literal h => exact .literal h
  | enumMember h => exact .enumMember (hP _ h)
  | union h => exact (Each.union h).unspelled hP
  | none => exact .none

/-! ## References -/

theorem commonBase? (h : ∀ t ∈ members, t.Each P B) {base : NamedType}
    (hbase : commonBase? members = some base) : B base := by
  unfold ResolvedType.commonBase? at hbase
  split at hbase
  · split at hbase
    · cases hbase
      cases h _ List.mem_cons_self
      assumption
    · cases hbase
  · cases hbase

theorem literalBase? (h : t.Each P B) {base : NamedType} (hbase : t.literalBase? = some base) :
    B base := by
  cases h with
  | literal h =>
    cases hbase
    exact h
  | union h => exact commonBase? h hbase
  | _ => cases hbase

theorem eq_of_ofNamed {s found : NamedType} (hfound : (TypeReference.ofNamed s).named = some found) :
    found = s := by
  unfold TypeReference.ofNamed at hfound
  split at hfound
  · cases hfound
  · exact (Option.some.inj hfound).symm

/-- A type is referred to by one of its parts. -/
theorem reference (h : t.Each P B) {s : NamedType} (hs : t.reference.named = some s) : P s ∨ B s := by
  induction hn : sizeOf t using Nat.strongRecOn generalizing t with
  | ind n ih =>
    subst hn
    cases h with
    | named h =>
      rw [ResolvedType.reference] at hs
      exact .inl (eq_of_ofNamed hs ▸ h)
    | literal h =>
      rw [ResolvedType.reference] at hs
      exact .inr (eq_of_ofNamed hs ▸ h)
    | @array element h =>
      rw [ResolvedType.reference, TypeReference.array] at hs
      split at hs
      · exact ih (sizeOf element) (by simp) h hs rfl
      · cases hs
    | enumMember h =>
      rw [ResolvedType.reference] at hs
      cases hs
    | none =>
      rw [ResolvedType.reference] at hs
      cases hs
    | @union members h =>
      rw [ResolvedType.reference] at hs
      split at hs
      · rename_i base hbase
        obtain rfl := eq_of_ofNamed hs
        refine .inr (literalBase? (P := P) ?_ hbase)
        cases hrest : ResolvedType.withoutNone? members with
        | none => exact .union h
        | some rest => exact withoutNone? h hrest
      · split at hs
        · rename_i only hlt honly
          split at hs
          · cases hs
          · exact ih (sizeOf only) (by simpa using hlt) (onlyBranch? h honly) hs rfl
        · cases hs

/-! ## Domains -/

theorem commonOwner? (h : ∀ t ∈ members, t.Each P B) {owner : NamedType}
    (howner : commonOwner? members = some owner) : P owner := by
  unfold ResolvedType.commonOwner? at howner
  split at howner
  · split at howner
    · cases howner
      cases h _ List.mem_cons_self
      assumption
    · cases howner
  · cases howner

theorem flatDomain? (h : t.Each P B) {domain : ResolvedType} (hdomain : t.flatDomain? = some domain) :
    domain.Each P B := by
  cases h with
  | literal h =>
    cases hdomain
    exact .literal h
  | @union members h =>
    simp only [ResolvedType.flatDomain?] at hdomain
    split at hdomain
    · cases hdomain
      exact .union h
    · obtain ⟨owner, howner, rfl⟩ := Option.map_eq_some_iff.1 hdomain
      exact .named (commonOwner? h howner)
  | _ => cases hdomain

theorem domain? (h : t.Each P B) {domain : ResolvedType} (hdomain : t.domain? = some domain) :
    domain.Each P B := by
  induction h generalizing domain with
  | array h ih =>
    obtain ⟨inner, hinner, rfl⟩ := Option.map_eq_some_iff.1 hdomain
    exact .array (ih hinner)
  | union h =>
    obtain ⟨rest, hrest, hdomain⟩ := Option.bind_eq_some_iff.1 hdomain
    exact flatDomain? (withoutNone? h hrest) hdomain
  | literal h => exact flatDomain? (.literal h) hdomain
  | _ => cases hdomain

theorem element (h : t.Each P B) : t.element.1.Each P B := by
  cases h with
  | array h => exact h
  | named h => exact .named h
  | literal h => exact .literal h
  | enumMember h => exact .enumMember h
  | union h => exact .union h
  | none => exact .none

theorem withoutOptional (h : t.Each P B) : t.withoutOptional.Each P B := by
  cases h with
  | @union members h =>
    simp only [ResolvedType.withoutOptional]
    split
    · cases hfound : members.find? fun m => !m.isNone with
      | none => exact .union h
      | some m => exact h m (List.mem_of_find?_eq_some hfound)
    · exact .union h
  | named h => exact .named h
  | literal h => exact .literal h
  | enumMember h => exact .enumMember h
  | array h => exact .array h
  | none => exact .none

theorem propertyDomain? (h : t.Each P B) {domain : ResolvedType} {isArray : Bool}
    (hdomain : t.propertyDomain? = some (domain, isArray)) : domain.Each P B := by
  unfold ResolvedType.propertyDomain? at hdomain
  dsimp only at hdomain
  split at hdomain
  · cases hdomain
    exact h.withoutOptional.element
  · obtain ⟨found, hfound, heq⟩ := Option.map_eq_some_iff.1 hdomain
    cases heq
    exact (h.withoutOptional.element.domain? hfound).element

end Each
end ResolvedType

/-- A type that is not built in is referred to by its text, whatever is recorded of it. -/
theorem NamedType.refer_fst {t : NamedType} (h : t.isBuiltin = false) (readonly : Bool) (host : String)
    (journal : Journal) :
    (t.refer readonly host journal).1 = readExpr (t.referenceText readonly) := by
  unfold refer
  simp only [h, Bool.false_eq_true, if_false]
  split <;> rfl

end ModelMetadata
