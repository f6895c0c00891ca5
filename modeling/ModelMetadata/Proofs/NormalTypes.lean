import ModelMetadata.Proofs.Reexports
import ModelMetadata.Proofs.UnionTypes

/-!
The normal form of types. A union is built with its members flattened and each of them once; a type that
another module passes on then loses the spellings that it had there. So no union is short or nested, and
its members are different where it is written, but two of them that differed in their spellings alone are
the same once they are passed on.
-/
set_option autoImplicit false
namespace ModelMetadata

open Source

/-! ## Different members -/

namespace ResolvedType

def Apart (members : List ResolvedType) : Prop := members.Pairwise fun s t => s.same t = false

theorem apart_distinct (members : List ResolvedType) : Apart (distinct members) := by
  induction members using List.reverseRecOn with
  | nil => exact .nil
  | append_singleton members t ih =>
    rw [distinct_concat, keep]
    split
    · exact ih
    · rename_i hnew
      refine List.pairwise_append.2 ⟨ih, List.pairwise_singleton _ _, fun s hs u hu => ?_⟩
      obtain rfl := List.mem_singleton.1 hu
      rw [same_comm]
      exact Bool.eq_false_iff.2 fun hsame => hnew (List.any_eq_true.2 ⟨s, hs, hsame⟩)

/-- No two of the types are the same, or were before they lost their spellings: what every union keeps on
its way through the modules. -/
def ApartAsSpelled (members : List ResolvedType) : Prop :=
  ∃ spelled, Apart spelled ∧ (members = spelled ∨ members = unspelledAll spelled)

theorem ApartAsSpelled.unspelledAll {members : List ResolvedType} (h : ApartAsSpelled members) :
    ApartAsSpelled (unspelledAll members) := by
  obtain ⟨spelled, hapart, rfl | rfl⟩ := h
  · exact ⟨_, hapart, .inr rfl⟩
  · exact ⟨_, hapart, .inr (unspelledAll_unspelledAll spelled)⟩

end ResolvedType

/-! ## Normal forms -/

def NamedType.MembersFit (t : NamedType) : Prop := t.isEnumeration = false → t.members = []

theorem NamedType.membersFit_unspelledName {t : NamedType} (h : t.MembersFit) :
    (ResolvedType.unspelledName t).MembersFit := by
  unfold ResolvedType.unspelledName
  split
  · exact h
  · exact h

namespace ResolvedType

/-- A type in normal form: unions in it, at any depth, have two or more members, which are no unions and
are as `U` says, and only enumerations have member names. -/
inductive Normal (U : List ResolvedType → Prop) : ResolvedType → Prop where
  | named {t : NamedType} (h : t.MembersFit) : Normal U (.named t)
  | array {element : ResolvedType} (h : element.Normal U) : Normal U (.array element)
  | literal {value : Primitive} {base : NamedType} (h : base.MembersFit) : Normal U (.literal value base)
  | enumMember {owner : NamedType} {member : String} (h : owner.MembersFit) :
    Normal U (.enumMember owner member)
  | union {members : List ResolvedType} (hlength : 2 ≤ members.length)
    (hflat : ∀ t ∈ members, t.isUnion = false) (hapart : U members)
    (h : ∀ t ∈ members, t.Normal U) : Normal U (.union members)
  | none : Normal U .none

namespace Normal

variable {U : List ResolvedType → Prop} {t : ResolvedType} {members : List ResolvedType}

theorem mono (h : t.Normal U) {U' : List ResolvedType → Prop} (hU : ∀ members, U members → U' members) :
    t.Normal U' := by
  induction h with
  | named h => exact .named h
  | array _ ih => exact .array ih
  | literal h => exact .literal h
  | enumMember h => exact .enumMember h
  | union hlength hflat hapart _ ih => exact .union hlength hflat (hU _ hapart) ih
  | none => exact .none

theorem flat (h : t.Normal U) : t.Flat := by
  cases h with
  | union _ hflat => exact hflat
  | _ => exact flat_of_not_union rfl

theorem branches (h : t.Normal U) : ∀ branch ∈ t.branches, branch.Normal U := by
  refine forall_branches h ?_
  rintro members rfl
  cases h with
  | union _ _ _ h => exact h

theorem branches_ne_nil (h : t.Normal U) : t.branches ≠ [] := by
  cases h with
  | union hlength => exact List.ne_nil_of_length_pos (Nat.lt_of_lt_of_le Nat.two_pos hlength)
  | _ => exact List.cons_ne_nil _ _

/-- A union of some types is in normal form, or is the only one of their branches. -/
theorem ofMembers (hU : ∀ members, Apart members → U members) (hne : members ≠ [])
    (h : ∀ t ∈ members, t.Normal U) : (ResolvedType.ofMembers members).Normal U := by
  have hbranch : ∀ branch ∈ distinct (members.flatMap ResolvedType.branches),
      branch.Normal U ∧ branch.isUnion = false := by
    intro branch hbranch
    obtain ⟨t, ht, hbranch⟩ := List.mem_flatMap.1 (mem_of_mem_distinct hbranch)
    exact ⟨(h t ht).branches branch hbranch, (h t ht).flat branch hbranch⟩
  have hsome : distinct (members.flatMap ResolvedType.branches) ≠ [] := by
    obtain ⟨t, ht⟩ := List.exists_mem_of_ne_nil members hne
    obtain ⟨branch, hbranch⟩ := List.exists_mem_of_ne_nil _ (h t ht).branches_ne_nil
    exact distinct_ne_nil (List.ne_nil_of_mem (List.mem_flatMap.2 ⟨t, ht, hbranch⟩))
  have hapart := apart_distinct (members.flatMap ResolvedType.branches)
  unfold ResolvedType.ofMembers
  split
  · rename_i only honly
    exact (hbranch only (honly ▸ List.mem_singleton_self only)).1
  · rename_i hmany
    refine .union ?_ (fun t ht => (hbranch t ht).2) (hU _ hapart) fun t ht => (hbranch t ht).1
    generalize distinct (members.flatMap ResolvedType.branches) = kept at hsome hmany
    match kept with
    | [] => exact absurd rfl hsome
    | [only] => exact absurd rfl (hmany only)
    | _ :: _ :: _ => exact Nat.le_add_left 2 _

theorem unspelled (h : t.Normal ApartAsSpelled) : t.unspelled.Normal ApartAsSpelled := by
  induction h with
  | named h => exact .named (NamedType.membersFit_unspelledName h)
  | array _ ih => exact .array ih
  | literal h => exact .literal h
  | enumMember h => exact .enumMember (NamedType.membersFit_unspelledName h)
  | none => exact .none
  | @union members hlength hflat hapart _ ih =>
    have hunspelled {P : ResolvedType → Prop} (h : ∀ t ∈ members, P t.unspelled) :
        ∀ t ∈ unspelledAll members, P t := by
      rw [unspelledAll_eq_map]
      exact List.forall_mem_map.2 h
    refine .union ?_ (hunspelled fun t ht => ?_) hapart.unspelledAll (hunspelled ih)
    · rw [unspelledAll_eq_map, List.length_map]
      exact hlength
    · exact (isUnion_unspelled t).trans (hflat t ht)

theorem respelled (h : t.Normal ApartAsSpelled) (spelling : Option String) :
    (Oracle.respelled spelling t).Normal ApartAsSpelled := by
  cases h with
  | named h =>
    refine .named ?_
    split
    · exact h
    · exact h
  | array h => exact (Normal.array h).unspelled
  | literal h => exact (Normal.literal h).unspelled
  | enumMember h => exact (Normal.enumMember h).unspelled
  | union hlength hflat hapart h => exact (Normal.union hlength hflat hapart h).unspelled
  | none => exact .none

end Normal
end ResolvedType

theorem kept_normal : Kept (ResolvedType.Normal ResolvedType.ApartAsSpelled) where
  none := .none
  named _ hmembers := .named hmembers
  builtin _ := .named fun _ => rfl
  array h := .array h
  enumMember h _ := by
    cases h with
    | named h => exact .enumMember h
  ofMembers hne h := .ofMembers (fun members hapart => ⟨members, hapart, .inl rfl⟩) hne h
  literal _ := .literal fun _ => rfl
  unspelled h := h.unspelled
  respelled h spelling := h.respelled spelling

/-! ## Spelled types -/

def NamedType.Spelled (t : NamedType) : Prop := t.isBuiltin = true ∨ t.spelling ≠ none

namespace ResolvedType

def Spelled (t : ResolvedType) : Prop := t.Each NamedType.Spelled fun _ => True

theorem unspelledName_of_spelled {t : NamedType} (h : (unspelledName t).Spelled) : unspelledName t = t := by
  unfold unspelledName at h ⊢
  split
  · rfl
  · rename_i hbuiltin
    rw [if_neg hbuiltin] at h
    obtain h | h := h
    · exact absurd h hbuiltin
    · exact absurd rfl h

mutual

/-- What is spelled after all has lost no spelling. -/
theorem unspelled_of_spelled (t : ResolvedType) (h : t.unspelled.Spelled) : t.unspelled = t := by
  cases t with
  | named t =>
    cases h with
    | named h => exact congrArg named (unspelledName_of_spelled h)
  | array element =>
    cases h with
    | array h => exact congrArg array (unspelled_of_spelled element h)
  | literal value base => rfl
  | enumMember owner member =>
    cases h with
    | enumMember h => exact congrArg (enumMember · member) (unspelledName_of_spelled h)
  | union members =>
    cases h with
    | union h => exact congrArg union (unspelledAll_of_spelled members h)
  | none => rfl
termination_by structural t

theorem unspelledAll_of_spelled (ts : List ResolvedType) (h : ∀ t ∈ unspelledAll ts, t.Spelled) :
    unspelledAll ts = ts := by
  cases ts with
  | nil => rfl
  | cons t rest =>
    obtain ⟨hfirst, hrest⟩ := List.forall_mem_cons.1 h
    exact congrArg₂ List.cons (unspelled_of_spelled t hfirst) (unspelledAll_of_spelled rest hrest)
termination_by structural ts

end

mutual

theorem spelled_of_same (s t : ResolvedType) (hsame : s.same t = true) (h : s.Spelled) : t.Spelled := by
  have hnamed {s t : NamedType} (hsame : s.same t = true) (h : s.Spelled) : t.Spelled := by
    obtain ⟨-, -, hspelling, hkind⟩ := NamedType.same_iff.1 hsame
    rw [NamedType.Spelled, NamedType.isBuiltin] at h ⊢
    rw [← hspelling, ← hkind]
    exact h
  cases s with
  | named s =>
    cases t <;> first | cases hsame | skip
    cases h with
    | named h => exact .named (hnamed hsame h)
  | array s =>
    cases t <;> first | cases hsame | skip
    cases h with
    | array h => exact .array (spelled_of_same s _ hsame h)
  | literal value base =>
    cases t <;> first | cases hsame | skip
    exact .literal trivial
  | enumMember s member =>
    cases t <;> first | cases hsame | skip
    cases h with
    | enumMember h => exact .enumMember (hnamed (Bool.and_eq_true_iff.1 hsame).1 h)
  | union ss =>
    cases t <;> first | cases hsame | skip
    cases h with
    | union h => exact .union (spelledAll_of_same ss _ hsame h)
  | none =>
    cases t <;> cases hsame
    exact .none
termination_by structural s

theorem spelledAll_of_same (ss ts : List ResolvedType) (hsame : sameAll ss ts = true)
    (h : ∀ s ∈ ss, s.Spelled) : ∀ t ∈ ts, t.Spelled := by
  cases ss with
  | nil =>
    cases ts with
    | nil => exact h
    | cons => cases hsame
  | cons s ss =>
    cases ts with
    | nil => cases hsame
    | cons t ts =>
      obtain ⟨hfirst, hrest⟩ := Bool.and_eq_true_iff.1 hsame
      obtain ⟨hs, hss⟩ := List.forall_mem_cons.1 h
      exact List.forall_mem_cons.2 ⟨spelled_of_same s t hfirst hs, spelledAll_of_same ss ts hrest hss⟩
termination_by structural ss

end

/-- Two of the types are the same only if a type in them has lost its spelling. -/
def ApartWhereSpelled (members : List ResolvedType) : Prop :=
  members.Pairwise fun s t => s.same t = true → ¬ s.Spelled

theorem ApartAsSpelled.whereSpelled {members : List ResolvedType} (h : ApartAsSpelled members) :
    ApartWhereSpelled members := by
  obtain ⟨spelled, hapart, rfl | rfl⟩ := h
  · exact hapart.imp fun hother hsame => absurd hsame (Bool.eq_false_iff.1 hother)
  · rw [unspelledAll_eq_map]
    refine List.pairwise_map.2 (hapart.imp fun {s t} hother hsame hspelled => ?_)
    -- Neither of the two has lost anything, so they were the same before.
    have hs := unspelled_of_spelled s hspelled
    have ht := unspelled_of_spelled t (spelled_of_same _ _ hsame hspelled)
    rw [hs, ht, hother] at hsame
    cases hsame

/-- Where each part has its spelling, the members are different. -/
theorem Normal.of_spelled {t : ResolvedType} (h : t.Normal ApartWhereSpelled) (hspelled : t.Spelled) :
    t.Normal Apart := by
  induction h with
  | named h => exact .named h
  | array _ ih =>
    cases hspelled with
    | array hspelled => exact .array (ih hspelled)
  | literal h => exact .literal h
  | enumMember h => exact .enumMember h
  | none => exact .none
  | union hlength hflat hapart _ ih =>
    cases hspelled with
    | union hspelled =>
      refine .union hlength hflat ?_ fun t ht => ih t ht (hspelled t ht)
      exact hapart.imp_of_mem fun hs _ hother => Bool.eq_false_iff.2 fun hsame => hother hsame (hspelled _ hs)

end ResolvedType

/-- Whatever the host, the project and the annotation, the type that is found is in normal form, but that
two members of a union may be the same where a type in them has lost its spelling on the way: the members
are different if the host has a name for each type that is not builtin. -/
theorem typeOf_normal {oracle : Oracle} {e : Expr} {t : ResolvedType}
    (h : oracle.typeOf e = .ok (some t)) :
    t.Normal ResolvedType.ApartWhereSpelled ∧ (t.Spelled → t.Normal ResolvedType.Apart) :=
  have hnormal : t.Normal ResolvedType.ApartWhereSpelled :=
    (kept_normal.typeOf h).mono fun _ hapart => hapart.whereSpelled
  ⟨hnormal, hnormal.of_spelled⟩

namespace Rejoining

/-- A module with `from b import User`, `from b import User as Person` and `X = User | Person` -/
def aliased : ModuleSymbols where
  moduleName := "a"
  imports := ⟨[("User", { origin := "b", imported := some "User" }),
    ("Person", { origin := "b", imported := some "User" })]⟩
  aliases := ⟨[("X", .binary (.name "User") [] "|" [] (.name "Person"))]⟩

def inside : Oracle where
  host := aliased

/-- A host with `from a import X` -/
def outside : Oracle where
  host := { moduleName := "h", imports := ⟨[("X", { origin := "a", imported := some "X" })]⟩ }
  project := some ⟨[("a", aliased)]⟩

def user (spelling : Option String) : ResolvedType := .named { name := "User", origin := "b", spelling }

theorem typeOf_inside : inside.typeOf (.name "X")
    = .ok (some (.union [user (some "User"), user (some "Person")])) := by
  have hanswer := (Oracle.adequate_within inside 100).resolve .host [] (.name "X") (by decide)
  exact (Option.some.inj hanswer).symm

theorem typeOf_outside : outside.typeOf (.name "X") = .ok (some (.union [user none, user none])) := by
  have hanswer := (Oracle.adequate_within outside 100).resolve .host [] (.name "X") (by decide)
  exact (Option.some.inj hanswer).symm

theorem spelled_inside : (ResolvedType.union [user (some "User"), user (some "Person")]).Spelled := by
  refine .union fun t ht => ?_
  simp only [List.mem_cons, List.not_mem_nil, or_false] at ht
  obtain rfl | rfl := ht
  · exact .named (.inr (by decide))
  · exact .named (.inr (by decide))

end Rejoining

theorem typeOf_normal_of_rejoining :
    Rejoining.inside.typeOf (.name "X")
        = .ok (some (.union [Rejoining.user (some "User"), Rejoining.user (some "Person")]))
      ∧ (ResolvedType.union [Rejoining.user (some "User"), Rejoining.user (some "Person")]).Normal
        ResolvedType.Apart :=
  ⟨Rejoining.typeOf_inside, (typeOf_normal Rejoining.typeOf_inside).2 Rejoining.spelled_inside⟩

/-- Two spellings of one type are two members where the union is written, and one member twice elsewhere. -/
theorem typeOf_rejoined :
    Rejoining.outside.typeOf (.name "X") = .ok (some (.union [Rejoining.user none, Rejoining.user none]))
      ∧ ¬ (ResolvedType.union [Rejoining.user none, Rejoining.user none]).Normal ResolvedType.Apart := by
  refine ⟨Rejoining.typeOf_outside, fun h => ?_⟩
  cases h with
  | union _ _ hapart =>
    have hsame : (Rejoining.user none).same (Rejoining.user none) = true := by decide
    have hother := List.rel_of_pairwise_cons hapart (List.mem_singleton_self _)
    rw [hsame] at hother
    cases hother

end ModelMetadata
