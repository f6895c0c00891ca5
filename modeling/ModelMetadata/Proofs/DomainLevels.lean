import ModelMetadata.Proofs.NullBranches

/-!
Domains within levels. Around an enumerable domain there may be arrays, and `None` beside it or beside any
of the arrays. The domain is looked for from outside: one `None` is taken off, then one array; an enumeration
or a member of one must then stand there by itself, while literals and members that make a domain together
may still have `None` beside them or one more array around them.
-/
set_option autoImplicit false
namespace ModelMetadata

open Source

namespace ResolvedType

/-! ## Types with `None` beside them -/

theorem distinct_of_apart {members : List ResolvedType} (h : Apart members) : distinct members = members := by
  induction members using List.reverseRecOn with
  | nil => rfl
  | append_singleton members t ih =>
    obtain ⟨hmembers, -, hlast⟩ := List.pairwise_append.1 h
    have hnew : (members.any fun s => t.same s) = false := by
      refine List.any_eq_false.2 fun s hs => ?_
      rw [same_comm, hlast s hs t List.mem_cons_self]
      exact Bool.false_ne_true
    rw [distinct_concat, ih hmembers, keep, hnew]
    rfl

/-- The members of a type besides `None`. -/
def besideNone (t : ResolvedType) : List ResolvedType := t.branches.filter fun t => !t.isNone

/-- A type that has other members than `None`, each once, and no union among them. -/
structure Settled (t : ResolvedType) : Prop where
  flat : t.Flat
  apart : Apart t.branches
  some : t.besideNone ≠ []

/-- The same type but for `None`, which is among the members of the second. -/
structure Widened (t t' : ResolvedType) : Prop where
  flat : t'.Flat
  apart : Apart t'.branches
  none : .none ∈ t'.branches
  rest : t'.besideNone = t.besideNone

theorem settled_of_single {t : ResolvedType} (hunion : t.isUnion = false) (hnone : t.isNone = false) :
    t.Settled where
  flat := flat_of_not_union hunion
  apart := by
    rw [branches_of_not_union hunion]
    exact List.pairwise_singleton _ _
  some := by
    rw [besideNone, branches_of_not_union hunion, List.filter_cons, hnone]
    exact List.cons_ne_nil _ _

theorem besideNone_of_single {t : ResolvedType} (hunion : t.isUnion = false) (hnone : t.isNone = false) :
    t.besideNone = [t] := by
  rw [besideNone, branches_of_not_union hunion, List.filter_cons, hnone]
  rfl

theorem ofMembers_single {t : ResolvedType} (hunion : t.isUnion = false) : ofMembers [t] = t := by
  have hbranches : [t].flatMap branches = [t] := flatMap_branches_of_not_union (by simpa using hunion)
  rw [ofMembers, hbranches]
  rfl

namespace Widened

variable {t t' t'' : ResolvedType}

theorem settled (h : Widened t t') (ht : t.Settled) : t'.Settled :=
  ⟨h.flat, h.apart, by rw [h.rest]; exact ht.some⟩

/-- Adding `None` once more adds nothing. -/
theorem outside (h : t' = t ∨ Widened t t') (h' : Widened t' t'') : Widened t t'' := by
  obtain rfl | h := h
  · exact h'
  · exact ⟨h'.flat, h'.apart, h'.none, h'.rest.trans h.rest⟩

/-- Adding `None`, once or more, in front and behind. -/
theorem ofMembers (ht : t.Settled) {pre post : List ResolvedType} (hnone : ∀ s ∈ pre ++ post, s = .none)
    (hne : pre ++ post ≠ []) : Widened t (ResolvedType.ofMembers (pre ++ t :: post)) := by
  have hflat : ∀ s ∈ pre ++ t :: post, s.Flat := by
    intro s hs
    obtain hs | hs | hs : s ∈ pre ∨ s = t ∨ s ∈ post := by simpa using hs
    · rw [hnone s (List.mem_append_left _ hs)]
      exact flat_of_not_union rfl
    · exact hs ▸ ht.flat
    · rw [hnone s (List.mem_append_right _ hs)]
      exact flat_of_not_union rfl
  have hbranches := branches_ofMembers hflat
  have hempty {members : List ResolvedType} (h : ∀ s ∈ members, s = .none) :
      (members.flatMap branches).filter (fun s => !s.isNone) = [] := by
    refine List.filter_eq_nil_iff.2 fun s hs => ?_
    obtain ⟨u, hu, hs⟩ := List.mem_flatMap.1 hs
    rw [h u hu] at hs
    rw [List.mem_singleton.1 hs]
    exact Bool.false_ne_true
  obtain ⟨hpre, hpost⟩ := List.forall_mem_append.1 hnone
  refine ⟨flat_ofMembers hflat, ?_, ?_, ?_⟩
  · rw [hbranches]
    exact apart_distinct _
  · obtain ⟨s, hs⟩ := List.exists_mem_of_ne_nil _ hne
    obtain rfl := hnone s hs
    have hmem : ResolvedType.none ∈ (pre ++ t :: post).flatMap branches := by
      refine List.mem_flatMap.2 ⟨.none, ?_, List.mem_singleton_self _⟩
      simp only [List.mem_append, List.mem_cons] at hs ⊢
      exact hs.imp_right .inr
    obtain ⟨u, hu, hsame⟩ := List.any_eq_true.1 (any_foldl_keep [] (.inl hmem))
    rw [same_comm] at hsame
    obtain rfl := eq_none_of_same hsame
    rw [hbranches]
    exact hu
  · rw [besideNone, hbranches, ← distinct_filter fun _ _ => isNone_of_same, List.flatMap_append,
      List.flatMap_cons, List.filter_append, List.filter_append, hempty hpre, hempty hpost, List.nil_append,
      List.append_nil]
    exact distinct_of_apart (ht.apart.filter _)

/-- What has `None` beside it is a union. -/
theorem exists_union (h : Widened t t') (ht : t.Settled) : ∃ members, t' = .union members := by
  cases hunion : t'.isUnion with
  | true =>
    cases t' <;> first | exact ⟨_, rfl⟩ | cases hunion
  | false =>
    have hnone := h.none
    rw [branches_of_not_union hunion] at hnone
    have hrest := h.rest
    rw [← List.mem_singleton.1 hnone] at hrest
    exact (ht.some hrest.symm).elim

theorem length (h : Widened t t') : t'.branches.length = t.besideNone.length + 1 := by
  have hone : t'.branches.filter isNone = [.none] := by
    have hall : ∀ s ∈ t'.branches.filter isNone, s = .none := by
      intro s hs
      have hs := (List.mem_filter.1 hs).2
      cases s <;> first | rfl | cases hs
    have hmem : ResolvedType.none ∈ t'.branches.filter isNone := List.mem_filter.2 ⟨h.none, rfl⟩
    have hapart : Apart (t'.branches.filter isNone) := h.apart.filter _
    generalize t'.branches.filter isNone = nones at hall hmem hapart
    match nones with
    | [] => cases hmem
    | [s] => rw [hall s List.mem_cons_self]
    | s :: u :: rest =>
      have hother := (List.pairwise_cons.1 hapart).1 u List.mem_cons_self
      rw [hall s List.mem_cons_self, hall u (List.mem_cons_of_mem _ List.mem_cons_self)] at hother
      cases hother
  have hsplit := List.length_eq_length_filter_add (l := t'.branches) isNone
  rw [hone] at hsplit
  rw [hsplit, ← h.rest, Nat.add_comm]
  rfl

/-- `None` is taken off where one other member stands beside it. -/
theorem withoutOptional (h : Widened t t') (ht : t.Settled) :
    t'.withoutOptional = match t.besideNone with
      | [only] => only
      | _ => t' := by
  obtain ⟨members, rfl⟩ := h.exists_union ht
  have hlength : members.length = t.besideNone.length + 1 := h.length
  have hany : members.any isNone = true := List.any_eq_true.2 ⟨.none, h.none, rfl⟩
  have hfind : (members.find? fun s => !s.isNone) = t.besideNone.head? := by
    rw [← h.rest, besideNone, List.head?_filter]
    rfl
  simp only [ResolvedType.withoutOptional, isOptional, hlength, hany, hfind, Bool.and_true]
  cases t.besideNone with
  | nil => rfl
  | cons only others => cases others <;> rfl

/-- The domain beside `None`. -/
theorem domain? (h : Widened t t') (ht : t.Settled) :
    t'.domain? = (ResolvedType.ofMembers t.besideNone).flatDomain? := by
  obtain ⟨members, rfl⟩ := h.exists_union ht
  have hrest : members.filter (fun s => !s.isNone) = t.besideNone := h.rest
  have hsome := ht.some
  rw [ResolvedType.domain?, withoutNone?, hrest]
  cases hbeside : t.besideNone with
  | nil => exact (hsome hbeside).elim
  | cons => rfl

end Widened
end ResolvedType

/-! ## Levels -/

inductive Level where
  | array
  /-- `None` beside what is inside. -/
  | none
deriving Repr, DecidableEq

namespace Level

/-- How many arrays there are, where `None` stands only beside the domain itself. -/
def arraysOutside? : List Level → Option Nat
  | [] => some 0
  | .none :: levels => if levels.all (· = .none) then some 0 else Option.none
  | .array :: levels => (arraysOutside? levels).map (· + 1)

/-- Whether a domain is found within its levels, the outermost first. `None` may be outside; below the first
array an explicit domain must stand by itself, one that is made of literals or members may have one more
array around it, or `None` beside it. -/
def reaches (explicit : Bool) (levels : List Level) : Bool :=
  match levels.dropWhile (· = .none) with
  | [] => true
  | _ :: inner => if explicit then inner.isEmpty else (arraysOutside? inner).any (· ≤ 1)

theorem contains_array (levels : List Level) :
    levels.contains .array = !(levels.dropWhile (· = .none)).isEmpty := by
  induction levels with
  | nil => rfl
  | cons level levels ih =>
    cases level with
    | array => rfl
    | none => exact ih

end Level

namespace ResolvedType

inductive Leveled (domain : ResolvedType) : List Level → ResolvedType → Prop
  | domain : Leveled domain [] domain
  | array {levels : List Level} {t : ResolvedType} (h : Leveled domain levels t) :
    Leveled domain (.array :: levels) (.array t)
  | none {levels : List Level} {t t' : ResolvedType} (h : Leveled domain levels t) (hwidened : Widened t t') :
    Leveled domain (.none :: levels) t'

/-- A domain and what is written for it: an enumeration or a member of one as it is, and what literals or
members make together. -/
inductive DomainType : Bool → ResolvedType → ResolvedType → Prop
  | explicit {t : ResolvedType} (h : t.isEnumerated = true) : DomainType true t t
  | made {t domain : ResolvedType} (h : t.flatDomain? = some domain) (hwhole : ofMembers t.branches = t)
    (hflat : t.Flat) (hapart : Apart t.branches) (hne : t.branches ≠ [])
    (hnone : ∀ branch ∈ t.branches, branch.isNone = false) : DomainType false t domain

/-- A domain that can be written: an enumeration or a member of one, or values. -/
def Writable (domain : ResolvedType) : Prop :=
  domain.isEnumerated = true ∨ ∃ values, domain.literalValues? = some values

def arrays (n : Nat) (t : ResolvedType) : ResolvedType := array^[n] t

theorem single_of_isEnumerated {t : ResolvedType} (h : t.isEnumerated = true) :
    t.isUnion = false ∧ t.isNone = false ∧ t.withoutOptional = t ∧ t.element = (t, false)
      ∧ t.flatDomain? = Option.none ∧ t.domain? = Option.none := by
  cases t <;> first | exact ⟨rfl, rfl, rfl, rfl, rfl, rfl⟩ | cases h

theorem besideNone_eq {t : ResolvedType} (hnone : ∀ branch ∈ t.branches, branch.isNone = false) :
    t.besideNone = t.branches :=
  List.filter_eq_self.2 fun branch hbranch => by rw [hnone branch hbranch]; rfl

theorem propertyDomain?_eq {t u : ResolvedType} {isArray : Bool}
    (h : t.withoutOptional.element = (u, isArray)) :
    t.propertyDomain? = if u.isEnumerated then some (u, isArray)
      else u.domain?.map fun domain => (domain.element.1, isArray || domain.element.2) := by
  rw [propertyDomain?, h]

namespace DomainType

variable {explicit : Bool} {d domain t : ResolvedType}

theorem settled (h : DomainType explicit d domain) : d.Settled := by
  cases h with
  | explicit h =>
    obtain ⟨hunion, hnone, -⟩ := single_of_isEnumerated h
    exact settled_of_single hunion hnone
  | made h hwhole hflat hapart hne hnone => exact ⟨hflat, hapart, by rwa [besideNone_eq hnone]⟩

/-- What an explicit domain is in: itself, or with `None` beside it. -/
theorem withoutOptional_explicit (h : d.isEnumerated = true) (ht : t = d ∨ Widened d t) :
    t.withoutOptional = d := by
  obtain ⟨hunion, hnone, hwithout, -⟩ := single_of_isEnumerated h
  obtain rfl | hwidened := ht
  · exact hwithout
  · rw [hwidened.withoutOptional (settled_of_single hunion hnone), besideNone_of_single hunion hnone]

end DomainType

namespace Leveled

variable {explicit : Bool} {d domain t : ResolvedType} {levels : List Level}

theorem settled (hd : d.Settled) (h : Leveled d levels t) : t.Settled := by
  induction h with
  | domain => exact hd
  | array => exact settled_of_single rfl rfl
  | none _ hwidened ih => exact hwidened.settled ih

/-- Below the outer `None`s there is the domain, or else an array. -/
theorem inside (h : Leveled d levels t) :
    (levels.dropWhile (· = .none) = [] ∧ (t = d ∨ Widened d t))
    ∨ ∃ inner u, levels.dropWhile (· = .none) = .array :: inner ∧ Leveled d inner u
      ∧ (t = .array u ∨ Widened (.array u) t) := by
  induction h with
  | domain => exact .inl ⟨rfl, .inl rfl⟩
  | array h => exact .inr ⟨_, _, rfl, h, .inl rfl⟩
  | none _ hwidened ih =>
    obtain ⟨hlevels, ht⟩ | ⟨inner, u, hlevels, hu, ht⟩ := ih
    · exact .inl ⟨hlevels, .inr (.outside ht hwidened)⟩
    · exact .inr ⟨inner, u, hlevels, hu, .inr (.outside ht hwidened)⟩

/-- An array below the outer `None`s is the first to be taken off. -/
theorem element_of_array {inner : ResolvedType} (ht : t = .array inner ∨ Widened (.array inner) t) :
    t.withoutOptional.element = (inner, true) := by
  obtain rfl | hwidened := ht
  · rfl
  · rw [hwidened.withoutOptional (settled_of_single rfl rfl), besideNone_of_single rfl rfl]
    rfl

/-- An array with `None` beside it has no domain. -/
theorem domain?_of_widened_array {inner t' : ResolvedType} (ht : t = .array inner ∨ Widened (.array inner) t)
    (hwidened : Widened t t') : t'.domain? = Option.none := by
  rw [(Widened.outside ht hwidened).domain? (settled_of_single rfl rfl), besideNone_of_single rfl rfl]
  rfl

/-- A domain that is made of literals or members is itself below the outer `None`s. -/
theorem domain?_of_made (hd : DomainType false d domain) (ht : t = d ∨ Widened d t) :
    t.domain? = some domain := by
  cases hd with
  | made h hwhole hflat hapart hne hnone =>
    obtain rfl | hwidened := ht
    · cases t with
      | literal value base => exact h
      | union members =>
        have hrest : members.filter (fun s => !s.isNone) = members := besideNone_eq hnone
        rw [domain?, withoutNone?, hrest]
        split
        · exact (hne rfl).elim
        · rw [branches] at hwhole
          rw [Option.bind_some, hwhole, h]
      | _ => cases h
    · have hsettled := (DomainType.made h hwhole hflat hapart hne hnone).settled
      rw [hwidened.domain? hsettled, besideNone_eq hnone, hwhole, h]

/-- What is made of literals or members is found under arrays with `None` beside it at most. -/
theorem domain?_made (hd : DomainType false d domain) (h : Leveled d levels t) :
    t.domain? = (Level.arraysOutside? levels).map fun n => arrays n domain := by
  induction h with
  | domain => exact domain?_of_made hd (.inl rfl)
  | @array levels t h ih =>
    rw [domain?, ih, Level.arraysOutside?, Option.map_map, Option.map_map]
    congr 1
    funext n
    exact (Function.iterate_succ_apply' ResolvedType.array n domain).symm
  | @none levels t t' h hwidened ih =>
    rw [Level.arraysOutside?]
    obtain ⟨hlevels, ht⟩ | ⟨inner, u, hlevels, -, ht⟩ := h.inside
    · rw [if_pos (by simpa using hlevels)]
      exact domain?_of_made hd (.inr (.outside ht hwidened))
    · rw [domain?_of_widened_array ht hwidened, if_neg]
      · rfl
      · intro hall
        have hnil : levels.dropWhile (· = .none) = [] := by simpa using hall
        rw [hnil] at hlevels
        cases hlevels

theorem domain?_explicit (hd : d.isEnumerated = true) (h : Leveled d levels t) : t.domain? = Option.none := by
  obtain ⟨hunion, hnone, -, -, hflat, hdomain⟩ := single_of_isEnumerated hd
  induction h with
  | domain => exact hdomain
  | array _ ih => rw [domain?, ih, Option.map_none]
  | @none levels t t' h hwidened ih =>
    obtain ⟨hlevels, ht⟩ | ⟨inner, u, hlevels, -, ht⟩ := h.inside
    · rw [(Widened.outside ht hwidened).domain? (settled_of_single hunion hnone),
        besideNone_of_single hunion hnone, ofMembers_single hunion, hflat]
    · exact domain?_of_widened_array ht hwidened

theorem not_enumerated (hd : d.Settled) (h : Leveled d levels t)
    (hdomain : levels = [] → d.isEnumerated = false) : t.isEnumerated = false := by
  cases h with
  | domain => exact hdomain rfl
  | array => rfl
  | none h hwidened =>
    obtain ⟨members, rfl⟩ := hwidened.exists_union (h.settled hd)
    rfl

theorem propertyDomain?_explicit (hd : d.isEnumerated = true) (h : Leveled d levels t) :
    t.propertyDomain?
      = if Level.reaches true levels then some (d, levels.contains .array) else Option.none := by
  obtain ⟨hunion, hnone, -, helement, -, -⟩ := single_of_isEnumerated hd
  rw [Level.contains_array, Level.reaches]
  obtain ⟨hlevels, ht⟩ | ⟨inner, u, hlevels, hu, ht⟩ := h.inside
  · rw [propertyDomain?_eq (by rw [DomainType.withoutOptional_explicit hd ht, helement]), hlevels]
    exact if_pos hd
  · rw [propertyDomain?_eq (element_of_array ht), hlevels]
    cases inner with
    | nil =>
      cases hu
      exact if_pos hd
    | cons level inner =>
      rw [hu.not_enumerated (settled_of_single hunion hnone) nofun, domain?_explicit hd hu]
      rfl

/-- The type below an outer `None` is still the domain, with `None` beside it if it has several members. -/
theorem withoutOptional_made (hd : DomainType false d domain) (ht : t = d ∨ Widened d t) :
    t.withoutOptional = d ∨ Widened d t.withoutOptional := by
  have hsettled := hd.settled
  cases hd with
  | made h hwhole hflat hapart hne hnone =>
    obtain rfl | hwidened := ht
    · refine .inl ?_
      cases t with
      | union members =>
        have hany : members.any isNone = false :=
          List.any_eq_false.2 fun s hs => Bool.eq_false_iff.1 (hnone s hs)
        simp only [withoutOptional, isOptional, hany, Bool.and_false, Bool.false_eq_true, if_false]
      | _ => rfl
    · rw [hwidened.withoutOptional hsettled, besideNone_eq hnone]
      split
      · rename_i only honly
        have hsingle : only.isUnion = false := hflat only (honly ▸ List.mem_singleton_self only)
        rw [honly, ofMembers_single hsingle] at hwhole
        exact .inl hwhole
      · exact .inr hwidened

/-- What is made of literals or members is no array, and what it makes is none. -/
theorem element_of_flatDomain? (h : d.flatDomain? = some domain) :
    d.isEnumerated = false ∧ d.element = (d, false) ∧ domain.element = (domain, false) := by
  cases d with
  | literal value base =>
    cases h
    exact ⟨rfl, rfl, rfl⟩
  | union members =>
    refine ⟨rfl, rfl, ?_⟩
    rw [flatDomain?] at h
    split at h
    · cases h
      rfl
    · obtain ⟨owner, -, rfl⟩ := Option.map_eq_some_iff.1 h
      rfl
  | _ => cases h

theorem propertyDomain?_made (hd : DomainType false d domain) (h : Leveled d levels t) :
    (Level.reaches false levels = true → t.propertyDomain? = some (domain, levels.contains .array))
      ∧ (Level.reaches false levels = false → t.propertyDomain? = Option.none
        ∨ ∃ inner, t.propertyDomain? = some (.array inner, true)) := by
  have hsettled := hd.settled
  rw [Level.contains_array, Level.reaches]
  obtain ⟨hdomain, hplain, hcore⟩ : d.isEnumerated = false ∧ d.element = (d, false)
      ∧ domain.element = (domain, false) := by
    cases hd with
    | made h => exact element_of_flatDomain? h
  obtain ⟨hlevels, ht⟩ | ⟨inner, u, hlevels, hu, ht⟩ := h.inside
  · have hwithout := withoutOptional_made hd ht
    have helement : t.withoutOptional.element = (t.withoutOptional, false)
        ∧ t.withoutOptional.isEnumerated = false := by
      obtain heq | hwidened := hwithout
      · rw [heq]
        exact ⟨hplain, hdomain⟩
      · obtain ⟨members, heq⟩ := hwidened.exists_union hsettled
        rw [heq]
        exact ⟨rfl, rfl⟩
    rw [propertyDomain?_eq helement.1, helement.2, domain?_of_made hd hwithout, hlevels]
    refine ⟨fun _ => ?_, nofun⟩
    simp only [Option.map_some, hcore]
    rfl
  · rw [propertyDomain?_eq (element_of_array ht), hu.not_enumerated hsettled fun _ => hdomain,
      domain?_made hd hu, hlevels]
    simp only [Bool.false_eq_true, if_false]
    cases Level.arraysOutside? inner with
    | none => exact ⟨nofun, fun _ => .inl rfl⟩
    | some n =>
      match n with
      | 0 =>
        refine ⟨fun _ => ?_, nofun⟩
        simp only [Option.map_some, arrays, Function.iterate_zero, id, hcore]
        rfl
      | 1 => exact ⟨fun _ => rfl, nofun⟩
      | n + 2 =>
        have hmany : arrays (n + 2) domain = .array (.array (arrays n domain)) := by
          rw [arrays, Function.iterate_succ_apply', Function.iterate_succ_apply', arrays]
        refine ⟨fun hreaches => ?_, fun _ => .inr ⟨arrays n domain, ?_⟩⟩
        · simp at hreaches
        · rw [Option.map_some, Option.map_some, hmany]
          rfl

end Leveled

/-- A domain is found where its levels let it be reached, elsewhere nothing or a mere array. -/
theorem propertyDomain?_leveled {explicit : Bool} {d domain t : ResolvedType} {levels : List Level}
    (hd : DomainType explicit d domain) (h : Leveled d levels t) :
    (Level.reaches explicit levels = true → t.propertyDomain? = some (domain, levels.contains .array))
      ∧ (Level.reaches explicit levels = false → t.propertyDomain? = Option.none
        ∨ ∃ inner, t.propertyDomain? = some (.array inner, true)) := by
  cases hd with
  | made h' hwhole hflat hapart hne hnone =>
    exact Leveled.propertyDomain?_made (.made h' hwhole hflat hapart hne hnone) h
  | explicit henum =>
    rw [Leveled.propertyDomain?_explicit henum h]
    exact ⟨fun hreaches => if_pos hreaches, fun hreaches => .inl (if_neg (Bool.eq_false_iff.1 hreaches))⟩

end ResolvedType

/-! ## Domains -/

namespace ResolvedType

/-- A union of single members that makes a domain. -/
theorem made_ofMembers {ts : List ResolvedType} (hne : ts ≠ [])
    (hsingle : ∀ t ∈ ts, t.isUnion = false ∧ t.isNone = false) {domain : ResolvedType}
    (h : (ofMembers ts).flatDomain? = some domain) : DomainType false (ofMembers ts) domain := by
  have hflat : ∀ t ∈ ts, t.Flat := fun t ht => flat_of_not_union (hsingle t ht).1
  have hmembers : ts.flatMap branches = ts := flatMap_branches_of_not_union fun t ht => (hsingle t ht).1
  have hbranches : (ofMembers ts).branches = distinct ts := by rw [branches_ofMembers hflat, hmembers]
  have hdistinct : (distinct ts).flatMap branches = distinct ts :=
    flatMap_branches_of_not_union fun t ht => (hsingle t (mem_of_mem_distinct ht)).1
  refine .made h ?_ (flat_ofMembers hflat) ?_ ?_ fun t ht => ?_
  · rw [hbranches]
    exact ofMembers_congr (by rw [hdistinct, hmembers, distinct_distinct])
  · rw [hbranches]
    exact apart_distinct ts
  · rw [hbranches]
    exact distinct_ne_nil hne
  · rw [hbranches] at ht
    exact (hsingle t (mem_of_mem_distinct ht)).2

theorem exists_values {members : List ResolvedType} {P : Primitive → Prop}
    (h : ∀ t ∈ members, ∃ value base, t = .literal value base ∧ P value) :
    ∃ values, members.mapM literalValue? = some values ∧ ∀ value ∈ values, P value := by
  induction members with
  | nil => exact ⟨[], rfl, by rintro _ ⟨⟩⟩
  | cons t rest ih =>
    obtain ⟨⟨value, base, rfl, hvalue⟩, hrest⟩ := List.forall_mem_cons.1 h
    obtain ⟨values, hvalues, hall⟩ := ih hrest
    exact ⟨value :: values, by rw [List.mapM_cons, hvalues]; rfl, List.forall_mem_cons.2 ⟨hvalue, hall⟩⟩

/-- Literals make the domain of their values. -/
theorem flatDomain?_literals {ts : List ResolvedType} (h : ∀ t ∈ ts, t.isLiteral = true) :
    (ofMembers ts).flatDomain? = some (ofMembers ts)
      ∧ ∃ values, (ofMembers ts).literalValues? = some values := by
  have hmembers : ts.flatMap branches = ts := flatMap_branches_of_not_union fun t ht => by
    have hliteral := h t ht
    cases t <;> first | rfl | cases hliteral
  have hkept : ∀ t ∈ distinct ts, t.isLiteral = true := fun t ht => h t (mem_of_mem_distinct ht)
  rw [ofMembers, hmembers]
  split
  · rename_i only honly
    have hliteral := hkept only (honly ▸ List.mem_singleton_self only)
    cases only <;> first | exact ⟨rfl, _, rfl⟩ | cases hliteral
  · refine ⟨if_pos (List.all_eq_true.2 hkept), ?_⟩
    have hliterals : ∀ t ∈ distinct ts, ∃ value base, t = .literal value base ∧ True := by
      intro t ht
      have hliteral := hkept t ht
      cases t <;> first | exact ⟨_, _, rfl, trivial⟩ | cases hliteral
    obtain ⟨values, hvalues, -⟩ := exists_values hliterals
    exact ⟨values, hvalues⟩

/-- Several members of one enumeration make the enumeration. -/
theorem flatDomain?_members {found : List (NamedType × String)}
    (hsame : ∀ s ∈ found, ∀ t ∈ found, s.1.same t.1 = true)
    (hseveral : ∃ s ∈ found, ∃ t ∈ found, s.2 ≠ t.2) : ∃ member ∈ found,
      (ofMembers (found.map fun member => .enumMember member.1 member.2)).flatDomain?
        = some (.named member.1) := by
  let type (member : NamedType × String) : ResolvedType := .enumMember member.1 member.2
  have hmembers : (found.map type).flatMap branches = found.map type :=
    flatMap_branches_of_not_union (List.forall_mem_map.2 fun _ _ => rfl)
  have hkept : ∀ t ∈ distinct (found.map type), ∃ member ∈ found, type member = t :=
    fun t ht => List.mem_map.1 (mem_of_mem_distinct ht)
  have hcovered {member : NamedType × String} (hmember : member ∈ found) :
      ((distinct (found.map type)).any fun s => (type member).same s) = true :=
    any_foldl_keep [] (.inl (List.mem_map_of_mem hmember))
  rw [show (found.map fun member => ResolvedType.enumMember member.1 member.2) = found.map type from rfl,
    ofMembers, hmembers]
  obtain ⟨s, hs, t, ht, hother⟩ := hseveral
  cases hdistinct : distinct (found.map type) with
  | nil =>
    have hnone := hcovered hs
    rw [hdistinct] at hnone
    cases hnone
  | cons first rest =>
    rw [hdistinct] at hkept
    obtain ⟨member, hmember, rfl⟩ := hkept first List.mem_cons_self
    refine ⟨member, hmember, ?_⟩
    cases rest with
    | nil =>
      -- Both of the members would be the same as the only one that is kept.
      have hname {u : NamedType × String} (hu : u ∈ found) : u.2 = member.2 := by
        have hsame := hcovered hu
        rw [hdistinct, List.any_cons, List.any_nil, Bool.or_false] at hsame
        exact eq_of_beq (Bool.and_eq_true_iff.1 hsame).2
      exact (hother ((hname hs).trans (hname ht).symm)).elim
    | cons second rest =>
      have hall : ((second :: rest).all (hasOwner member.1)) = true := by
        refine List.all_eq_true.2 fun u hu => ?_
        obtain ⟨other, hother, rfl⟩ := hkept u (List.mem_cons_of_mem _ hu)
        exact hsame member hmember other hother
      have howner : commonOwner? (type member :: second :: rest) = some member.1 := if_pos hall
      dsimp only
      rw [flatDomain?, howner]
      rfl

end ResolvedType

/-! ## Annotations -/

theorem literalValue_bare (e : Expr) : literalValue e.bare = literalValue e := by
  fun_induction Expr.bare e with
  | case1 _ inner _ ih => rw [ih, literalValue]
  | case2 => rfl

namespace Oracle

variable {oracle : Oracle} {explicit : Bool} {domain e : Expr} {levels : List Level}

/-- A primitive value as the member of a literal type. -/
theorem resolveLiteral_value {value : Primitive} (h : literalValue e = .ok (some value)) :
    oracle.resolveLiteral .host [] e = .ok (some (.literal value (.builtin value.typeName))) := by
  have hname : e.isName "None" = false := by
    rw [← literalValue_bare] at h
    unfold Expr.isName
    split
    · rename_i text hbare
      rw [hbare] at h
      refine beq_eq_false_iff_ne.2 ?_
      rintro rfl
      cases h
    · rfl
  rw [resolveLiteral, hname, h]
  rfl

/-- An annotation that is a domain: an enumeration, a literal type of one member of an enumeration, of several
members of one, or of primitive values. The first two are explicit. -/
inductive IsDomain (oracle : Oracle) : Bool → Expr → Prop
  | enumeration {e : Expr} {t : NamedType} (htype : oracle.typeOf e = .ok (some (.named t)))
    (henum : t.isEnumeration = true) : IsDomain oracle true e
  | member {e owner first : Expr} {rest : List Expr} {t : NamedType} {name : String}
    (hindexing : e.indexing? = some (owner, first, rest)) (hspecial : oracle.specialForm? owner = some "Literal")
    (h : ∀ member ∈ first :: rest, oracle.resolveLiteral .host [] member = .ok (some (.enumMember t name))) :
    IsDomain oracle true e
  | members {e owner first : Expr} {rest : List Expr} {found : List (NamedType × String)}
    (hindexing : e.indexing? = some (owner, first, rest)) (hspecial : oracle.specialForm? owner = some "Literal")
    (h : List.Forall₂ (fun e member => oracle.resolveLiteral .host [] e
      = .ok (some (.enumMember member.1 member.2))) (first :: rest) found)
    (hsame : ∀ s ∈ found, ∀ t ∈ found, s.1.same t.1 = true)
    (hseveral : ∃ s ∈ found, ∃ t ∈ found, s.2 ≠ t.2) : IsDomain oracle false e
  | values {e owner first : Expr} {rest : List Expr} {values : List Primitive}
    (hindexing : e.indexing? = some (owner, first, rest)) (hspecial : oracle.specialForm? owner = some "Literal")
    (h : List.Forall₂ (fun e value => literalValue e = .ok (some value)) (first :: rest) values) :
    IsDomain oracle false e

/-- An annotation with levels around a domain, the outermost first: arrays, and unions in which all branches
but one are `None`. -/
inductive Leveled (oracle : Oracle) (domain : Expr) : List Level → Expr → Prop
  | domain : Leveled oracle domain [] domain
  | array {levels : List Level} {e owner inner : Expr} {rest : List Expr} {special : String}
    (hindexing : e.indexing? = some (owner, inner, rest)) (hspecial : oracle.specialForm? owner = some special)
    (hform : arrayForms.contains special = true
      ∨ tupleForms.contains special = true ∧ rest.map Expr.bare = [.ellipsis])
    (h : Leveled oracle domain levels inner) : Leveled oracle domain (.array :: levels) e
  | none {levels : List Level} {e inner : Expr} {pre post : List Expr} {implied : Bool}
    (hparts : unionParts? oracle e = some (pre ++ inner :: post, implied))
    (hnone : ∀ part ∈ pre ++ post, oracle.typeOf part = .ok (some .none))
    (hsome : pre ++ post ≠ [] ∨ implied = true) (h : Leveled oracle domain levels inner) :
    Leveled oracle domain (.none :: levels) e

theorem typeOf_literal {owner first : Expr} {rest : List Expr} {ts : List ResolvedType}
    (hindexing : e.indexing? = some (owner, first, rest)) (hspecial : oracle.specialForm? owner = some "Literal")
    (h : List.Forall₂ (fun e t => oracle.resolveLiteral .host [] e = .ok (some t)) (first :: rest) ts) :
    oracle.typeOf e = .ok (some (ResolvedType.ofMembers ts)) := by
  obtain ⟨before, entries, close, hbare, hindices⟩ := Expr.bare_of_indexing? hindexing
  have hspecial : (oracle.symbols .host).specialForm? owner.dottedName = some "Literal" := hspecial
  rw [typeOf, ← resolve_bare, hbare, resolve_literal hspecial hindices h]

/-- What a domain denotes, and what is written for it. -/
theorem IsDomain.domainType (h : IsDomain oracle explicit e) : ∃ d domain, oracle.typeOf e = .ok (some d)
    ∧ ResolvedType.DomainType explicit d domain
    ∧ domain.Writable := by
  cases h with
  | enumeration htype henum => exact ⟨_, _, htype, .explicit henum, .inl henum⟩
  | @member e owner first rest t name hindexing hspecial h =>
    have hall : List.Forall₂ (fun e t => oracle.resolveLiteral .host [] e = .ok (some t)) (first :: rest)
        ((first :: rest).map fun _ => .enumMember t name) :=
      List.forall₂_map_right_iff.2 (List.forall₂_same.2 h)
    have htype := typeOf_literal hindexing hspecial hall
    rw [ResolvedType.ofMembers_const rfl (List.cons_ne_nil first rest)] at htype
    exact ⟨_, _, htype, .explicit rfl, .inl rfl⟩
  | @members e owner first rest found hindexing hspecial h hsame hseveral =>
    have htype := typeOf_literal hindexing hspecial (List.forall₂_map_right_iff.2 h)
    obtain ⟨member, hmember, hdomain⟩ := ResolvedType.flatDomain?_members hsame hseveral
    have henum : ∀ member ∈ found, member.1.isEnumeration = true :=
      forall_of_forall₂ (P := fun _ => True) h.flip (fun member e htype _ => by
        obtain ⟨-, hnone⟩ | ⟨value, -, hvalue⟩ | ⟨owner, name, howner, hname⟩ := literal_cases htype
        · cases hnone
        · cases hvalue
        · cases hname
          exact howner) fun _ _ => trivial
    refine ⟨_, _, htype, ResolvedType.made_ofMembers ?_ ?_ hdomain, .inl (henum member hmember)⟩
    · exact mt List.map_eq_nil_iff.1 (List.ne_nil_of_mem hmember)
    · exact List.forall_mem_map.2 fun _ _ => ⟨rfl, rfl⟩
  | @values e owner first rest values hindexing hspecial h =>
    let type (value : Primitive) : ResolvedType := .literal value (.builtin value.typeName)
    have hall : List.Forall₂ (fun e t => oracle.resolveLiteral .host [] e = .ok (some t)) (first :: rest)
        (values.map type) :=
      List.forall₂_map_right_iff.2 (h.imp fun _ _ => resolveLiteral_value)
    have hliteral : ∀ t ∈ values.map type, t.isLiteral = true := List.forall_mem_map.2 fun _ _ => rfl
    obtain ⟨hdomain, hvalues⟩ := ResolvedType.flatDomain?_literals hliteral
    refine ⟨_, _, typeOf_literal hindexing hspecial hall, ResolvedType.made_ofMembers ?_ ?_ hdomain,
      .inr hvalues⟩
    · cases h
      exact List.cons_ne_nil _ _
    · exact List.forall_mem_map.2 fun _ _ => ⟨rfl, rfl⟩

/-- The type of an annotation has the levels of the annotation around the type of the domain. -/
theorem Leveled.typeOf {d : ResolvedType} (hd : d.Settled) (hdomain : oracle.typeOf domain = .ok (some d))
    (h : Leveled oracle domain levels e) :
    ∃ t, oracle.typeOf e = .ok (some t) ∧ ResolvedType.Leveled d levels t := by
  induction h with
  | domain => exact ⟨d, hdomain, .domain⟩
  | array hindexing hspecial hform _ ih =>
    obtain ⟨t, ht, hlevels⟩ := ih
    obtain ⟨before, entries, close, hbare, hindices⟩ := Expr.bare_of_indexing? hindexing
    refine ⟨.array t, ?_, .array hlevels⟩
    rw [Oracle.typeOf, ← resolve_bare, hbare]
    exact resolve_array hspecial hindices hform ht
  | @none levels e inner pre post implied hparts hnone hsome _ ih =>
    obtain ⟨t, ht, hlevels⟩ := ih
    let nones (parts : List Expr) : List ResolvedType := parts.map fun _ => .none
    have htypes (parts : List Expr) (hparts : ∀ part ∈ parts, oracle.typeOf part = .ok (some .none)) :
        List.Forall₂ (fun e t => oracle.typeOf e = .ok (some t)) parts (nones parts) :=
      List.forall₂_map_right_iff.2 (List.forall₂_same.2 hparts)
    obtain ⟨hpre, hpost⟩ := List.forall_mem_append.1 hnone
    have hall : oracle.typesOf (pre ++ inner :: post) = .ok (some (nones pre ++ t :: nones post)) :=
      typesOf_iff.2 (List.rel_append (htypes pre hpre) (.cons ht (htypes post hpost)))
    let more : List ResolvedType := nones post ++ if implied then [.none] else []
    have hmore : ∀ s ∈ nones pre ++ more, s = .none := by
      refine List.forall_mem_append.2 ⟨List.forall_mem_map.2 fun _ _ => rfl, List.forall_mem_append.2
        ⟨List.forall_mem_map.2 fun _ _ => rfl, ?_⟩⟩
      cases implied with
      | false =>
        intro s hs
        cases hs
      | true => exact List.forall_mem_singleton.2 rfl
    refine ⟨.ofMembers (nones pre ++ t :: more), ?_, .none hlevels (.ofMembers (hlevels.settled hd) hmore ?_)⟩
    · rw [typeOf_parts hparts, hall]
      simp only [Functor.map, Except.map, Option.map_some, List.append_assoc, List.cons_append, more]
    · obtain hne | rfl := hsome
      · simp only [nones, more, ne_eq, List.append_eq_nil_iff, List.map_eq_nil_iff] at hne ⊢
        exact fun h => hne ⟨h.1, h.2.1⟩
      · simp [more]

/-- A domain has an expression. -/
theorem exists_domainExpr {domain : ResolvedType} (site : Site)
    (h : domain.Writable) :
    ∃ value : Describe Expr, domainExpr site domain = some <$> value := by
  obtain henum | ⟨values, hvalues⟩ := h
  · cases domain with
    | named t =>
      have henum : t.isEnumeration = true := henum
      refine ⟨site.refer t, ?_⟩
      rw [domainExpr, if_pos henum]
      rfl
    | enumMember owner member => exact ⟨referMember site.options.readonly site.host owner member, rfl⟩
    | _ => cases henum
  · refine ⟨Expr.ofList <$> Describe.ofExcept (values.mapM Primitive.literal), ?_⟩
    rw [Functor.map_map, map_eq_pure_bind]
    cases domain with
    | literal value base =>
      cases hvalues
      rfl
    | union members =>
      rw [domainExpr, hvalues]
      · rintro _ ⟨⟩
      · rintro _ _ ⟨⟩
    | _ => cases hvalues

/-- The entries of a domain that is found. -/
theorem domainEntries_of_propertyDomain? {site : Site} {existing : List String}
    (habsent : existing.contains enumKey = false) {t domain : ResolvedType} {isArray : Bool}
    (htype : site.oracle.typeOf e = .ok (some t)) (hfound : t.propertyDomain? = some (domain, isArray)) :
    domainEntries site existing e = domainExpr site domain >>= fun value? => match value? with
      | Option.none => return []
      | some value => return (enumKey, value) :: if isArray then [(isArrayKey, boolLiteral true)] else [] := by
  have hdomain : (some t).bind ResolvedType.propertyDomain? = some (domain, isArray) := hfound
  rewrite [domainEntries, habsent, if_neg Bool.false_ne_true, ofExcept_bind htype, hdomain]
  rfl

theorem domainEntries_of_no_domain {site : Site} {existing : List String} {t : ResolvedType}
    (habsent : existing.contains enumKey = false) (htype : site.oracle.typeOf e = .ok (some t))
    (hfound : t.propertyDomain? = Option.none) : domainEntries site existing e = pure [] := by
  have hdomain : (some t).bind ResolvedType.propertyDomain? = Option.none := hfound
  rw [domainEntries, habsent, if_neg Bool.false_ne_true, ofExcept_bind htype, hdomain]

end Oracle

/-- Domains within levels. Whatever arrays are around a domain, and whatever `None`s beside it or beside
them, if it is found at all, it is written as by itself, and as an array exactly when there is an array around
it; and it is found just where its levels let it be reached. -/
theorem domain_within_levels (site : Site) (existing : List String) (explicit : Bool) (domain e : Expr)
    (levels : List Level) (habsent : existing.contains enumKey = false)
    (hdomain : site.oracle.IsDomain explicit domain) (h : site.oracle.Leveled domain levels e) :
    ∃ value : Describe Expr,
      domainEntries site existing domain = (fun value => [(enumKey, value)]) <$> value
      ∧ domainEntries site existing e = if Level.reaches explicit levels then
          (fun value => (enumKey, value) :: if levels.contains .array then [(isArrayKey, boolLiteral true)]
            else []) <$> value
        else pure [] := by
  obtain ⟨d, written, htype, hd, hwritten⟩ := hdomain.domainType
  obtain ⟨value, hvalue⟩ := Oracle.exists_domainExpr site hwritten
  have hfound {levels : List Level} {e : Expr} (h : site.oracle.Leveled domain levels e) :
      domainEntries site existing e = if Level.reaches explicit levels then
          (fun value => (enumKey, value) :: if levels.contains .array then [(isArrayKey, boolLiteral true)]
            else []) <$> value
        else pure [] := by
    obtain ⟨t, ht, hlevels⟩ := h.typeOf hd.settled htype
    obtain ⟨hreached, hmissed⟩ := ResolvedType.propertyDomain?_leveled hd hlevels
    split
    · rename_i hreaches
      rw [Oracle.domainEntries_of_propertyDomain? habsent ht (hreached hreaches), hvalue, map_eq_pure_bind,
        bind_assoc, map_eq_pure_bind]
      rfl
    · rename_i hreaches
      obtain hnone | ⟨inner, harray⟩ := hmissed (Bool.eq_false_iff.2 hreaches)
      · exact Oracle.domainEntries_of_no_domain habsent ht hnone
      · rw [Oracle.domainEntries_of_propertyDomain? habsent ht harray]
        rfl
  exact ⟨value, hfound .domain, hfound h⟩

namespace Levels

/-- A module with `from enum import Enum`, `from typing import Literal, Optional` and `class Color(Enum)` -/
def site : Site where
  oracle.host.moduleName := "m"
  oracle.host.imports := ⟨[("Enum", { origin := "enum", imported := some "Enum" }),
    ("Literal", { origin := "typing", imported := some "Literal" }),
    ("Optional", { origin := "typing", imported := some "Optional" })]⟩
  oracle.host.classes := ⟨[("Color", { name := "Color", bases := [.name "Enum"], members := ["RED"] })]⟩

/-- `form[e]` -/
def form (name : String) (e : Expr) : Expr := .subscript (.name name) [] [.mk [] (.value e) none] []

/-- `list[Optional[e]]` -/
def optionals (e : Expr) : Expr := form "list" (form "Optional" e)

theorem special_list : site.oracle.specialForm? (.name "list") = some "list" := by decide

theorem special_optional : site.oracle.specialForm? (.name "Optional") = some "Optional" := by decide

theorem leveled (domain : Expr) : site.oracle.Leveled domain [.array, .none] (optionals domain) := by
  have hparts : unionParts? site.oracle (form "Optional" domain) = some ([] ++ domain :: [], true) := by
    simp only [unionParts?, form, Expr.bare, special_optional]
    rfl
  exact .array rfl special_list (.inl (by decide)) (.none hparts (by rintro _ ⟨⟩) (.inr rfl) .domain)

/-- `Literal[1]` -/
def one : Expr := form "Literal" (.integer "1")

theorem isDomain_one : site.oracle.IsDomain false one := by
  have hvalue : literalValue (.integer "1") = .ok (some (.int 1)) := by decide
  exact .values rfl (by decide) (.cons hvalue .nil)

end Levels

theorem domain_within_levels_of_literal : ∃ value : Describe Expr,
    domainEntries Levels.site [] Levels.one = (fun value => [(enumKey, value)]) <$> value
      ∧ domainEntries Levels.site [] (Levels.optionals Levels.one)
        = (fun value => [(enumKey, value), (isArrayKey, boolLiteral true)]) <$> value :=
  domain_within_levels Levels.site [] false Levels.one (Levels.optionals Levels.one) [.array, .none] rfl
    Levels.isDomain_one (Levels.leveled Levels.one)

namespace Levels

def color : ResolvedType :=
  .named { name := "Color", origin := "m", spelling := "Color", kind := .enumeration, members := ["RED"] }

theorem typeOf_color : site.oracle.typeOf (.name "Color") = .ok (some color) := by
  have hanswer := (Oracle.adequate_within site.oracle 100).resolve .host [] (.name "Color") (by decide)
  exact (Option.some.inj hanswer).symm

theorem typeOf_colors : site.oracle.typeOf (optionals (.name "Color"))
    = .ok (some (.array (.union [color, .none]))) := by
  have hanswer :=
    (Oracle.adequate_within site.oracle 100).resolve .host [] (optionals (.name "Color")) (by decide)
  exact (Option.some.inj hanswer).symm

end Levels

/-- An enumeration with `None` beside it is not found below an array, where literals are. -/
theorem enumeration_lost_below_array :
    Levels.site.oracle.IsDomain true (.name "Color")
      ∧ Levels.site.oracle.Leveled (.name "Color") [.array, .none] (Levels.optionals (.name "Color"))
      ∧ (domainEntries Levels.site [] (.name "Color") {}).1 = .ok [(enumKey, .name "Color")]
      ∧ (domainEntries Levels.site [] (Levels.optionals (.name "Color")) {}).1 = .ok [] := by
  refine ⟨.enumeration Levels.typeOf_color rfl, Levels.leveled (.name "Color"), ?_, ?_⟩
  · rw [Oracle.domainEntries_of_propertyDomain? rfl Levels.typeOf_color rfl]
    cbv
  · rw [Oracle.domainEntries_of_no_domain rfl Levels.typeOf_colors rfl]
    rfl

end ModelMetadata
