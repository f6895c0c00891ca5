import ModelMetadata.Descriptor.Domain
import ModelMetadata.Proofs.NormalTypes

/-!
Printed names. A type that is found has a printable name if it is lists of one named type that is no
enumeration: the name is that of the named type, in as many brackets as there are levels of lists. A type
that is optional has a member besides `None`, and the members of a domain are literals.
-/
set_option autoImplicit false
namespace ModelMetadata

def bracketed : Nat → String → String
  | 0, name => name
  | depth + 1, name => "[" ++ bracketed depth name ++ "]"

namespace ResolvedType

variable {t : ResolvedType} {members : List ResolvedType}

/-! ## Names -/

/-- A type is lists of a named type, of some depth. A literal counts for its base, and a union for what its
members besides `None` are: one and the same type, or literals of one base. -/
inductive ListsOf (s : NamedType) : Nat → ResolvedType → Prop
  | named : ListsOf s 0 (.named s)
  | literal {value : Primitive} : ListsOf s 0 (.literal value s)
  | array {depth : Nat} {element : ResolvedType} (h : ListsOf s depth element) :
    ListsOf s (depth + 1) (.array element)
  | branch {depth : Nat} {members : List ResolvedType} {only : ResolvedType} (hmem : only ∈ members)
    (hsame : ∀ member ∈ members, member.isNone = true ∨ member.same only = true)
    (h : ListsOf s depth only) : ListsOf s depth (.union members)
  | literals {members : List ResolvedType} {value : Primitive} (hmem : .literal value s ∈ members)
    (hbase : ∀ member ∈ members, member.isNone = true ∨ hasBase s member = true) :
    ListsOf s 0 (.union members)

structure Prints (reference : TypeReference) (t : ResolvedType) (s : NamedType) : Prop where
  named : reference.named = some s
  name : reference.name = some (bracketed reference.depth s.name)
  notEnumeration : s.isEnumeration = false
  lists : t.ListsOf s reference.depth

theorem ofNamed_cases (s : NamedType) : TypeReference.ofNamed s = {}
    ∨ s.isEnumeration = false
      ∧ TypeReference.ofNamed s = { name := some s.name, named := some s, depth := 0 } := by
  cases hkind : s.isEnumeration with
  | true => exact .inl (if_pos hkind)
  | false => exact .inr ⟨rfl, if_neg (by simp [hkind])⟩

/-- A union that is found prints as its only branch, or as the base of its literals. -/
theorem reference_union_cases (hflat : (union members).Flat) :
    (union members).reference = {}
      ∨ (∃ s, (union members).ListsOf s 0 ∧ (union members).reference = .ofNamed s)
      ∨ ∃ only, only ∈ members ∧ (∀ s depth, only.ListsOf s depth → (union members).ListsOf s depth)
        ∧ (union members).reference = only.reference := by
  have hrest {P : ResolvedType → Prop} (h : ∀ t ∈ members.filter fun t => !t.isNone, P t) :
      ∀ t ∈ members, t.isNone = true ∨ P t := by
    intro t ht
    cases hnone : t.isNone with
    | true => exact .inl rfl
    | false => exact .inr (h t (List.mem_filter.2 ⟨ht, by simp [hnone]⟩))
  rw [reference_eq_called hflat, branches, rest]
  unfold called
  split
  · rename_i base hbase
    obtain ⟨⟨value, hvalue⟩, hall⟩ := hasBase_of_commonBase? hbase
    exact .inr (.inl ⟨base, .literals (List.mem_filter.1 hvalue).1 (hrest hall), rfl⟩)
  · split
    · rename_i only honly
      obtain ⟨hmem, hsame⟩ := same_of_distinct_eq honly
      have hmem := (List.mem_filter.1 hmem).1
      exact .inr (.inr ⟨only, hmem, fun s depth hlists => .branch hmem (hrest hsame) hlists, rfl⟩)
    · exact .inl rfl

theorem prints_ofNamed {s : NamedType} (h : t.ListsOf s 0) (href : t.reference = .ofNamed s) :
    t.reference = {} ∨ ∃ s, Prints t.reference t s := by
  rw [href]
  obtain hnone | ⟨hkind, hsome⟩ := ofNamed_cases s
  · exact .inl hnone
  · rw [hsome]
    exact .inr ⟨s, rfl, rfl, hkind, h⟩

/-- What is found either has no printable name, or prints as what it is lists of. -/
theorem reference_cases {U : List ResolvedType → Prop} (h : t.Normal U) :
    t.reference = {} ∨ ∃ s, Prints t.reference t s := by
  induction h with
  | named => exact prints_ofNamed .named (by rw [reference])
  | literal => exact prints_ofNamed .literal (by rw [reference])
  | enumMember => exact .inl (by rw [reference])
  | none => exact .inl (by rw [reference])
  | @array element _ ih =>
    rw [reference]
    obtain hnone | ⟨s, hprints⟩ := ih
    · exact .inl (by rw [hnone]; rfl)
    · refine .inr ⟨s, ?_⟩
      rw [TypeReference.array, hprints.name]
      exact ⟨hprints.named, rfl, hprints.notEnumeration, .array hprints.lists⟩
  | @union members hlength hflat hU hmembers ih =>
    obtain hnone | ⟨s, hlists, href⟩ | ⟨only, hmem, hlists, href⟩ := reference_union_cases hflat
    · exact .inl hnone
    · exact prints_ofNamed hlists href
    · rw [href]
      obtain hnone | ⟨s, hprints⟩ := ih only hmem
      · exact .inl hnone
      · exact .inr ⟨s, hprints.named, hprints.name, hprints.notEnumeration, hlists s _ hprints.lists⟩

/-! ## Domains -/

/-- No union that is found has `None` twice, so an optional one has another member. -/
theorem exists_branch_of_isOptional (h : (union members).Normal ApartAsSpelled)
    (hoptional : (union members).isOptional = true) :
    ∃ only, members.find? (fun t => !t.isNone) = some only := by
  obtain ⟨hlength, -⟩ := Bool.and_eq_true_iff.1 hoptional
  obtain ⟨first, second, rfl⟩ := List.length_eq_two.1 (eq_of_beq hlength)
  cases h with
  | union _ _ hapart =>
    refine Option.isSome_iff_exists.1 (List.find?_isSome.2 ?_)
    by_contra hnone
    have hall : ∀ t ∈ [first, second], t = .none := by
      intro t ht
      cases t with
      | none => rfl
      | _ => exact (hnone ⟨_, ht, rfl⟩).elim
    obtain rfl := hall first List.mem_cons_self
    obtain rfl := hall second (List.mem_cons_of_mem _ List.mem_cons_self)
    exact List.rel_of_pairwise_cons hapart.whereSpelled (List.mem_singleton_self _) rfl .none

def LiteralMembers (t : ResolvedType) : Prop :=
  ∀ members, t = .union members → ∀ member ∈ members, member.isLiteral = true

theorem literalMembers_of_flatDomain? {d : ResolvedType} (h : t.flatDomain? = some d) :
    d.element.1 = d ∧ d.LiteralMembers := by
  unfold flatDomain? at h
  split at h
  · cases h
    exact ⟨rfl, nofun⟩
  · split at h
    · rename_i hall
      cases h
      refine ⟨rfl, fun members heq => ?_⟩
      cases heq
      exact List.all_eq_true.1 hall
    · obtain ⟨owner, -, rfl⟩ := Option.map_eq_some_iff.1 h
      exact ⟨rfl, nofun⟩
  · cases h

/-- The members of a domain are literals, also of a domain in an array. -/
theorem literalMembers_of_domain? {d : ResolvedType} (h : t.domain? = some d) :
    d.LiteralMembers ∧ d.element.1.LiteralMembers := by
  have hflat {u d : ResolvedType} (h : u.flatDomain? = some d) :
      d.LiteralMembers ∧ d.element.1.LiteralMembers := by
    obtain ⟨helement, hliterals⟩ := literalMembers_of_flatDomain? h
    rw [helement]
    exact ⟨hliterals, hliterals⟩
  fun_induction domain? t generalizing d with
  | case1 element ih =>
    obtain ⟨inner, hinner, rfl⟩ := Option.map_eq_some_iff.1 h
    exact ⟨nofun, (ih hinner).1⟩
  | case2 members =>
    obtain ⟨rest, -, hrest⟩ := Option.bind_eq_some_iff.1 h
    exact hflat hrest
  | case3 t => exact hflat h

/-- The members of the domain of a property are literals. -/
theorem literalMembers_of_propertyDomain? {domain : ResolvedType × Bool}
    (h : t.propertyDomain? = some domain) : domain.1.LiteralMembers := by
  unfold propertyDomain? at h
  dsimp only at h
  split at h
  · rename_i henumerated
    cases h
    intro members heq
    rw [heq] at henumerated
    cases henumerated
  · obtain ⟨d, hd, rfl⟩ := Option.map_eq_some_iff.1 h
    exact (literalMembers_of_domain? hd).2

end ResolvedType
end ModelMetadata
