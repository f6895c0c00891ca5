import ModelMetadata.Proofs.Chains
import ModelMetadata.Reference

/-!
The members of unions. Being the same is an equivalence of types, so to keep the first of each in one part
of a list and then in the whole is to keep the first of each in the whole. Hence a union of unions is the
union of all their members, and what a union is called depends on nothing but those that it keeps.
-/
set_option autoImplicit false
namespace ModelMetadata

/-! ## Sameness -/

theorem Primitive.same_trans {x y z : Primitive} (hxy : x.same y = true) (hyz : y.same z = true) :
    x.same z = true := by
  cases x <;> cases y <;> first | cases hxy | cases z <;> first | cases hyz | skip
  case float.float.float x y z =>
    simp only [Primitive.same, Number.Binary64.equal, Bool.or_eq_true, Bool.and_eq_true, beq_iff_eq,
      Bool.not_eq_true', Number.Binary64.isZero] at *
    grind
  all_goals simp_all [Primitive.same]

theorem Primitive.same_comm (x y : Primitive) : x.same y = y.same x := by
  cases x <;> cases y <;> first | rfl | skip
  case float.float x y =>
    rw [Bool.eq_iff_iff]
    simp only [Primitive.same, Number.Binary64.equal, Bool.or_eq_true, Bool.and_eq_true, beq_iff_eq,
      Bool.not_eq_true']
    grind
  all_goals exact BEq.comm

theorem NamedType.same_iff {s t : NamedType} : s.same t = true
    ↔ s.name = t.name ∧ s.origin = t.origin ∧ s.spelling = t.spelling ∧ s.kind = t.kind := by
  simp only [NamedType.same, Bool.and_eq_true, beq_iff_eq, and_assoc]

theorem NamedType.same_comm (s t : NamedType) : s.same t = t.same s := by
  rw [Bool.eq_iff_iff, NamedType.same_iff, NamedType.same_iff]
  grind

namespace ResolvedType

mutual

theorem same_refl (t : ResolvedType) : t.same t = true := by
  cases t with
  | named t => exact NamedType.same_iff.2 ⟨rfl, rfl, rfl, rfl⟩
  | array element => exact same_refl element
  | literal value base =>
    exact Bool.and_eq_true_iff.2 ⟨value.same_refl, NamedType.same_iff.2 ⟨rfl, rfl, rfl, rfl⟩⟩
  | enumMember owner member =>
    exact Bool.and_eq_true_iff.2 ⟨NamedType.same_iff.2 ⟨rfl, rfl, rfl, rfl⟩, beq_self_eq_true _⟩
  | union members => exact sameAll_refl members
  | none => rfl
termination_by structural t

theorem sameAll_refl (ts : List ResolvedType) : sameAll ts ts = true := by
  cases ts with
  | nil => rfl
  | cons t rest => exact Bool.and_eq_true_iff.2 ⟨same_refl t, sameAll_refl rest⟩
termination_by structural ts

end

mutual

theorem same_trans (s t u : ResolvedType) (hst : s.same t = true) (htu : t.same u = true) :
    s.same u = true := by
  cases s with
  | named s =>
    cases t <;> first | cases hst | skip
    cases u <;> first | cases htu | skip
    have hst := NamedType.same_iff.1 hst
    have htu := NamedType.same_iff.1 htu
    exact NamedType.same_iff.2 ⟨hst.1.trans htu.1, hst.2.1.trans htu.2.1, hst.2.2.1.trans htu.2.2.1,
      hst.2.2.2.trans htu.2.2.2⟩
  | array s =>
    cases t <;> first | cases hst | skip
    cases u <;> first | cases htu | skip
    exact same_trans s _ _ hst htu
  | literal x s =>
    cases t <;> first | cases hst | skip
    cases u <;> first | cases htu | skip
    simp only [same, Bool.and_eq_true, NamedType.same_iff] at hst htu ⊢
    exact ⟨Primitive.same_trans hst.1 htu.1, by grind⟩
  | enumMember s x =>
    cases t <;> first | cases hst | skip
    cases u <;> first | cases htu | skip
    simp only [same, Bool.and_eq_true, NamedType.same_iff] at hst htu ⊢
    grind
  | union ss =>
    cases t <;> first | cases hst | skip
    cases u <;> first | cases htu | skip
    exact sameAll_trans ss _ _ hst htu
  | none =>
    cases t <;> cases hst
    exact htu
termination_by structural s

theorem sameAll_trans (ss ts us : List ResolvedType) (hst : sameAll ss ts = true)
    (htu : sameAll ts us = true) : sameAll ss us = true := by
  cases ss with
  | nil =>
    cases ts with
    | nil => exact htu
    | cons => cases hst
  | cons s ss =>
    cases ts with
    | nil => cases hst
    | cons t ts =>
      cases us with
      | nil => cases htu
      | cons u us =>
        simp only [sameAll, Bool.and_eq_true] at hst htu ⊢
        exact ⟨same_trans s t u hst.1 htu.1, sameAll_trans ss ts us hst.2 htu.2⟩
termination_by structural ss

end

mutual

theorem same_comm (s t : ResolvedType) : s.same t = t.same s := by
  cases s <;> cases t <;> first | rfl | skip
  case named.named s t => exact s.same_comm t
  case array.array s t => exact same_comm s t
  case literal.literal x s y t => simp only [same, s.same_comm t, x.same_comm y]
  case enumMember.enumMember s x t y => simp only [same, s.same_comm t, BEq.comm (a := x) (b := y)]
  case union.union ss ts => exact sameAll_comm ss ts
termination_by structural s

theorem sameAll_comm (ss ts : List ResolvedType) : sameAll ss ts = sameAll ts ss := by
  cases ss <;> cases ts <;> first | rfl | skip
  case cons.cons s ss t ts => simp only [sameAll, same_comm s t, sameAll_comm ss ts]
termination_by structural ss

end

/-! ## Members once each -/

def keep (kept : List ResolvedType) (t : ResolvedType) : List ResolvedType :=
  if kept.any fun s => t.same s then kept else kept ++ [t]

theorem distinct_eq (members : List ResolvedType) : distinct members = members.foldl keep [] := rfl

theorem distinct_concat (members : List ResolvedType) (t : ResolvedType) :
    distinct (members ++ [t]) = keep (distinct members) t := by
  rw [distinct_eq, List.foldl_append]
  rfl

/-- A member is the same as one that is kept. -/
theorem any_foldl_keep {t : ResolvedType} (kept : List ResolvedType) {members : List ResolvedType}
    (h : t ∈ members ∨ (kept.any fun s => t.same s) = true) :
    ((members.foldl keep kept).any fun s => t.same s) = true := by
  induction members generalizing kept with
  | nil => exact h.resolve_left List.not_mem_nil
  | cons first rest ih =>
    apply ih
    unfold keep
    obtain h | h := h
    · obtain rfl | h := List.mem_cons.1 h
      · right
        split
        · assumption
        · simp [same_refl t]
      · exact .inl h
    · right
      split
      · exact h
      · rw [List.any_append, h, Bool.true_or]

/-- What is kept of some members is kept of those that are kept of them. -/
theorem foldl_keep_distinct (kept members : List ResolvedType) :
    (distinct members).foldl keep kept = members.foldl keep kept := by
  induction members using List.reverseRecOn with
  | nil => rfl
  | append_singleton members t ih =>
    rw [distinct_concat, List.foldl_append, List.foldl_cons, List.foldl_nil, ← ih]
    conv_lhs => rw [keep]
    split
    · rename_i hcovered
      obtain ⟨s, hs, hsame⟩ := List.any_eq_true.1 hcovered
      -- The member that `t` is the same as has one that is the same, so `t` has it too.
      obtain ⟨u, hu, hsu⟩ := List.any_eq_true.1 (any_foldl_keep kept (.inl hs))
      have hany : (((distinct members).foldl keep kept).any fun s => t.same s) = true :=
        List.any_eq_true.2 ⟨u, hu, same_trans t s u hsame hsu⟩
      rw [keep, if_pos hany]
    · rw [List.foldl_append, List.foldl_cons, List.foldl_nil]

theorem distinct_distinct (members : List ResolvedType) : distinct (distinct members) = distinct members :=
  foldl_keep_distinct [] members

theorem distinct_append_congr {ss ss' ts ts' : List ResolvedType} (hs : distinct ss = distinct ss')
    (ht : distinct ts = distinct ts') : distinct (ss ++ ts) = distinct (ss' ++ ts') := by
  calc distinct (ss ++ ts)
      = ts.foldl keep (distinct ss) := List.foldl_append
    _ = ts'.foldl keep (distinct ss') := by
      rw [hs, ← foldl_keep_distinct _ ts, ht, foldl_keep_distinct]
    _ = distinct (ss' ++ ts') := List.foldl_append.symm

/-- A choice of members that does not tell those apart which are the same may be made before or after. -/
theorem distinct_filter {p : ResolvedType → Bool} (hp : ∀ s t : ResolvedType, s.same t = true → p s = p t)
    (members : List ResolvedType) : distinct (members.filter p) = (distinct members).filter p := by
  induction members using List.reverseRecOn with
  | nil => rfl
  | append_singleton members t ih =>
    have hany (kept : List ResolvedType) (ht : p t = true) :
        ((kept.filter p).any fun s => t.same s) = kept.any fun s => t.same s := by
      rw [List.any_filter]
      congr 1
      funext s
      cases hsame : t.same s with
      | false => exact Bool.and_false _
      | true => rw [← hp t s hsame, ht]; rfl
    rw [List.filter_append, distinct_concat]
    cases ht : p t with
    | false =>
      have hnil : [t].filter p = [] := by simp [ht]
      rw [hnil, List.append_nil, ih, keep]
      split
      · rfl
      · rw [List.filter_append, hnil, List.append_nil]
    | true =>
      have hone : [t].filter p = [t] := by simp [ht]
      rw [hone, distinct_concat, ih, keep, keep, hany _ ht]
      split
      · rfl
      · rw [List.filter_append, hone]

/-! ## Unions of unions -/

/-- No member of the type is a union, if it is one itself. -/
def Flat (t : ResolvedType) : Prop := ∀ branch ∈ t.branches, branch.isUnion = false

theorem branches_of_not_union {t : ResolvedType} (h : t.isUnion = false) : t.branches = [t] := by
  cases t <;> first | rfl | cases h

theorem flat_of_not_union {t : ResolvedType} (h : t.isUnion = false) : t.Flat := by
  rw [Flat, branches_of_not_union h]
  exact List.forall_mem_singleton.2 h

/-- The members of a union are those that are kept of its parts. -/
theorem branches_ofMembers {ts : List ResolvedType} (h : ∀ t ∈ ts, t.Flat) :
    (ofMembers ts).branches = distinct (ts.flatMap branches) := by
  unfold ofMembers
  split
  · rename_i only honly
    have hmem : only ∈ ts.flatMap branches := mem_of_mem_distinct (honly ▸ List.mem_singleton_self only)
    obtain ⟨t, ht, hbranch⟩ := List.mem_flatMap.1 hmem
    rw [honly, branches_of_not_union (h t ht only hbranch)]
  · rfl

theorem flat_ofMembers {ts : List ResolvedType} (h : ∀ t ∈ ts, t.Flat) : (ofMembers ts).Flat := by
  intro branch hbranch
  rw [branches_ofMembers h] at hbranch
  obtain ⟨t, ht, hbranch⟩ := List.mem_flatMap.1 (mem_of_mem_distinct hbranch)
  exact h t ht branch hbranch

theorem distinct_ofMembers {ts : List ResolvedType} (h : ∀ t ∈ ts, t.Flat) :
    distinct (ofMembers ts).branches = distinct (ts.flatMap branches) := by
  rw [branches_ofMembers h, distinct_distinct]

theorem ofMembers_congr {ss ts : List ResolvedType}
    (h : distinct (ss.flatMap branches) = distinct (ts.flatMap branches)) : ofMembers ss = ofMembers ts := by
  unfold ofMembers
  rw [h]

/-! ## What a union is called -/

theorem isNone_of_same {s t : ResolvedType} (h : s.same t = true) : (!s.isNone) = !t.isNone := by
  cases s <;> cases t <;> first | rfl | cases h

/-- The members besides `None`, each once. -/
def rest (members : List ResolvedType) : List ResolvedType :=
  distinct (members.filter fun t => !t.isNone)

/-- What some members are called: literals of one base by it, a member by itself as it is. -/
def called (members : List ResolvedType) : TypeReference :=
  match commonBase? members with
  | some base => .ofNamed base
  | Option.none =>
    match members with
    | [only] => only.reference
    | _ => {}

theorem flatMap_branches_of_not_union {members : List ResolvedType}
    (h : ∀ t ∈ members, t.isUnion = false) : members.flatMap branches = members := by
  induction members with
  | nil => rfl
  | cons t others ih =>
    obtain ⟨hfirst, hothers⟩ := List.forall_mem_cons.1 h
    rw [List.flatMap_cons, branches_of_not_union hfirst, ih hothers]
    rfl

theorem commonBase?_singleton {t : ResolvedType} (h : t.isUnion = false) :
    commonBase? [t] = t.literalBase? := by
  cases t <;> first | rfl | cases h

theorem literalBase?_withoutNone {members : List ResolvedType} (h : (union members).Flat) :
    literalBase? ((withoutNone? members).getD (union members)) = commonBase? (rest members) := by
  have hflat : ∀ t ∈ members.filter fun t => !t.isNone, t.isUnion = false :=
    fun t ht => h t (List.mem_filter.1 ht).1
  unfold rest withoutNone?
  split
  · rename_i hnil
    rw [hnil]
    -- Where all members are `None`, none of them is a literal.
    cases members with
    | nil => rfl
    | cons t others =>
      have hnone : t.isNone = true := by simpa using List.filter_eq_nil_iff.1 hnil t List.mem_cons_self
      cases t <;> first | rfl | cases hnone
  · rw [Option.getD_some, ofMembers, flatMap_branches_of_not_union hflat]
    split
    · rename_i only honly
      have hmem := mem_of_mem_distinct (honly ▸ List.mem_singleton_self only)
      rw [honly, commonBase?_singleton (hflat only hmem)]
    · rfl

/-- A type is called by its members besides `None`. -/
theorem reference_eq_called {t : ResolvedType} (h : t.Flat) : t.reference = called (rest t.branches) := by
  cases t with
  | union members =>
    have hflat : ∀ t ∈ members.filter fun t => !t.isNone, t.isUnion = false :=
      fun t ht => h t (List.mem_filter.1 ht).1
    rw [reference, literalBase?_withoutNone h, branches]
    unfold called
    cases commonBase? (rest members) with
    | some base => rfl
    | none =>
      dsimp only
      unfold onlyBranch?
      split
      · rename_i only hlt honly
        split at honly
        · rename_i _ found hfound
          cases honly
          rw [flatMap_branches_of_not_union hflat] at hfound
          have hmem := mem_of_mem_distinct (hfound ▸ List.mem_singleton_self only)
          rw [rest, hfound, hflat only hmem]
          rfl
        · cases honly
      · rename_i hnone
        split at hnone
        · cases hnone
        · rename_i hother
          rw [flatMap_branches_of_not_union hflat] at hother
          split
          · rename_i only honly
            exact (hother only honly).elim
          · rfl
  | none => rw [reference]; rfl
  | literal value base => rw [reference]; rfl
  | _ => rfl

/-- What some types together are called depends on the members that a union of them keeps. -/
theorem rest_congr {members members' : List ResolvedType} (h : distinct members = distinct members') :
    rest members = rest members' := by
  have hnone : ∀ s t : ResolvedType, s.same t = true → (!s.isNone) = !t.isNone :=
    fun _ _ => isNone_of_same
  rw [rest, rest, distinct_filter hnone, distinct_filter hnone, h]

/-! ## Members with one name -/

/-- Members that have one name together: they are all the same type, which has a name, or they are
literals of one base. -/
inductive NamedAlike : List ResolvedType → Prop
  | same {first : ResolvedType} {others : List ResolvedType} (hname : first.reference.name ≠ Option.none)
    (h : ∀ t ∈ others, t.same first = true) : NamedAlike (first :: others)
  | literals {members : List ResolvedType} (base : NamedType) (hne : members ≠ [])
    (h : ∀ t ∈ members, hasBase base t = true) : NamedAlike members

theorem head_mem_distinct (first : ResolvedType) (others : List ResolvedType) :
    ∃ kept, distinct (first :: others) = first :: kept := by
  suffices hfold : ∀ kept : List ResolvedType, ∃ more, others.foldl keep (first :: kept)
      = first :: more from hfold []
  induction others with
  | nil => exact fun kept => ⟨kept, rfl⟩
  | cons t others ih =>
    intro kept
    rw [List.foldl_cons, keep]
    split
    · exact ih kept
    · exact ih (kept ++ [t])

theorem hasBase_of_same {base : NamedType} {s t : ResolvedType} (h : s.same t = true)
    (hbase : hasBase base t = true) : hasBase base s = true := by
  cases t <;> first | cases hbase | skip
  cases s <;> first | cases h | skip
  simp only [same, hasBase, Bool.and_eq_true, NamedType.same_iff] at h hbase ⊢
  grind

theorem same_of_mem_distinct {members : List ResolvedType} {t : ResolvedType} (ht : t ∈ members) :
    ∃ s ∈ distinct members, t.same s = true :=
  List.any_eq_true.1 (any_foldl_keep [] (.inl ht))

/-- Members of which one is kept are all the same. -/
theorem same_of_distinct_eq {members : List ResolvedType} {only : ResolvedType}
    (h : distinct members = [only]) : only ∈ members ∧ ∀ t ∈ members, t.same only = true := by
  refine ⟨mem_of_mem_distinct (h ▸ List.mem_singleton_self only), fun t ht => ?_⟩
  obtain ⟨s, hs, hts⟩ := same_of_mem_distinct ht
  rw [h] at hs
  exact List.mem_singleton.1 hs ▸ hts

/-- Members with a base in common among those that are kept are all literals of that base. -/
theorem hasBase_of_commonBase? {members : List ResolvedType} {base : NamedType}
    (h : commonBase? (distinct members) = some base) :
    (∃ value, .literal value base ∈ members) ∧ ∀ t ∈ members, hasBase base t = true := by
  unfold commonBase? at h
  split at h
  · rename_i value base' others heq
    split at h
    · rename_i hothers
      cases h
      have hkept : ∀ s ∈ literal value base :: others, hasBase base s = true :=
        List.forall_mem_cons.2 ⟨NamedType.same_iff.2 ⟨rfl, rfl, rfl, rfl⟩, List.all_eq_true.1 hothers⟩
      refine ⟨⟨value, mem_of_mem_distinct (heq ▸ List.mem_cons_self)⟩, fun t ht => ?_⟩
      obtain ⟨s, hs, hts⟩ := same_of_mem_distinct ht
      exact hasBase_of_same hts (hkept s (heq ▸ hs))
    · cases h
  · cases h

/-- Members that are called something have one name together. -/
theorem namedAlike_of_called {members : List ResolvedType}
    (h : (called (distinct members)).name ≠ Option.none) : NamedAlike members := by
  unfold called at h
  split at h
  · rename_i base hbase
    refine .literals base ?_ (hasBase_of_commonBase? hbase).2
    rintro rfl
    cases hbase
  · cases members with
    | nil => exact (h rfl).elim
    | cons first others =>
      obtain ⟨kept, hkept⟩ := head_mem_distinct first others
      rw [hkept] at h
      cases kept with
      | nil =>
        exact .same h fun t ht => (same_of_distinct_eq hkept).2 t (List.mem_cons_of_mem _ ht)
      | cons => exact (h rfl).elim

end ResolvedType
end ModelMetadata
