import ModelMetadata.Proofs.Comparing

/-!
Types up to their spellings. A type keeps its parts and its unions when the texts that it is spelled by are
exchanged one for one: what was told apart before is told apart after. Hence every way to build a type
takes types that are respelled to one that is, and types that are respelled are the same once they are seen
from another module.
-/
set_option autoImplicit false
namespace ModelMetadata

open Source Oracle

/-- Texts that are exchanged: none has two counterparts, and none is the counterpart of two. -/
def OneToOne (S : String → String → Prop) : Prop :=
  ∀ ⦃text other text' other'⦄, S text text' → S other other' → (text = other ↔ text' = other')

variable {S : String → String → Prop}

/-- A named type under another spelling. A builtin type has one spelling only. -/
inductive NamedType.Respelled (S : String → String → Prop) : NamedType → NamedType → Prop
  | builtin {t : NamedType} (h : t.isBuiltin = true) : Respelled S t t
  | spelled (t : NamedType) {spelling spelling' : Option String} (hbuiltin : t.isBuiltin = false)
    (h : Option.Rel S spelling spelling') :
    Respelled S { t with spelling } { t with spelling := spelling' }

theorem OneToOne.beq_eq (hS : OneToOne S) {spelling other spelling' other' : Option String}
    (h : Option.Rel S spelling spelling') (hother : Option.Rel S other other') :
    (spelling == other) = (spelling' == other') := by
  cases h with
  | none => cases hother <;> rfl
  | some h =>
    cases hother with
    | none => rfl
    | some hother => exact Bool.eq_iff_iff.2 (by simpa using hS h hother)

namespace NamedType.Respelled

variable {s s' t t' : NamedType}

theorem isEnumeration (h : s.Respelled S s') : s.isEnumeration = s'.isEnumeration := by
  cases h <;> rfl

theorem unspelledName (h : s.Respelled S s') :
    ResolvedType.unspelledName s = ResolvedType.unspelledName s' := by
  cases h with
  | builtin => rfl
  | @spelled t spelling spelling' hbuiltin h =>
    have hkind (text : Option String) : ({ t with spelling := text } : NamedType).isBuiltin = false :=
      hbuiltin
    simp [ResolvedType.unspelledName, hkind]

/-- Types are told apart under the one spelling just as under the other. -/
theorem same_eq (hS : OneToOne S) (hs : s.Respelled S s') (ht : t.Respelled S t') :
    s.same t = s'.same t' := by
  cases hs with
  | builtin hs =>
    cases ht with
    | builtin => rfl
    | spelled t ht =>
      have hkind : (s.kind == t.kind) = false := by
        refine beq_eq_false_iff_ne.2 fun heq => ?_
        simp_all [NamedType.isBuiltin]
      simp [NamedType.same, hkind]
  | spelled s hs hspelling =>
    cases ht with
    | builtin ht =>
      have hkind : (s.kind == t.kind) = false := by
        refine beq_eq_false_iff_ne.2 fun heq => ?_
        simp_all [NamedType.isBuiltin]
      simp [NamedType.same, hkind]
    | spelled t ht hother => simp only [NamedType.same, hS.beq_eq hspelling hother]

end NamedType.Respelled

namespace ResolvedType

/-- A type under other spellings of the types in it. -/
inductive Respelled (S : String → String → Prop) : ResolvedType → ResolvedType → Prop
  | named {s t : NamedType} (h : s.Respelled S t) : Respelled S (.named s) (.named t)
  | array {s t : ResolvedType} (h : Respelled S s t) : Respelled S (.array s) (.array t)
  | literal (value : Primitive) (base : NamedType) : Respelled S (.literal value base) (.literal value base)
  | enumMember {s t : NamedType} (h : s.Respelled S t) (member : String) :
    Respelled S (.enumMember s member) (.enumMember t member)
  | union {ss ts : List ResolvedType} (h : List.Forall₂ (Respelled S) ss ts) :
    Respelled S (.union ss) (.union ts)
  | none : Respelled S .none .none

namespace Respelled

/-! ## Unions -/

mutual

theorem same_eq (hS : OneToOne S) (s : ResolvedType) {s' t t' : ResolvedType} (hs : Respelled S s s')
    (ht : Respelled S t t') : s.same t = s'.same t' := by
  cases s with
  | array s =>
    cases hs with
    | array hs =>
      cases ht with
      | array ht =>
        have helement := same_eq hS s hs ht
        exact helement
      | _ => rfl
  | union ss =>
    cases hs with
    | union hs =>
      cases ht with
      | union ht => exact sameAll_eq hS ss hs ht
      | _ => rfl
  | named s =>
    cases hs with
    | named hs =>
      cases ht with
      | named ht => exact hs.same_eq hS ht
      | _ => rfl
  | enumMember s member =>
    cases hs with
    | enumMember hs =>
      cases ht with
      | enumMember ht => exact congrArg (· && _) (hs.same_eq hS ht)
      | _ => rfl
  | literal value base =>
    cases hs
    cases ht <;> rfl
  | none =>
    cases hs
    cases ht <;> rfl
termination_by structural s

theorem sameAll_eq (hS : OneToOne S) (ss : List ResolvedType) {ss' ts ts' : List ResolvedType}
    (hs : List.Forall₂ (Respelled S) ss ss') (ht : List.Forall₂ (Respelled S) ts ts') :
    sameAll ss ts = sameAll ss' ts' := by
  cases ss with
  | nil =>
    cases hs
    cases ht <;> rfl
  | cons s ss =>
    cases hs with
    | cons hfirst hrest =>
      cases ht with
      | nil => rfl
      | cons hother hothers =>
        exact congrArg₂ (· && ·) (same_eq hS s hfirst hother) (sameAll_eq hS ss hrest hothers)
termination_by structural ss

end

theorem branches {s t : ResolvedType} (h : Respelled S s t) :
    List.Forall₂ (Respelled S) s.branches t.branches := by
  cases h with
  | union h => exact h
  | named h => exact .cons (.named h) .nil
  | array h => exact .cons (.array h) .nil
  | literal value base => exact .cons (.literal value base) .nil
  | enumMember h member => exact .cons (.enumMember h member) .nil
  | none => exact .cons .none .nil

theorem any_same (hS : OneToOne S) {kept kept' : List ResolvedType}
    (hkept : List.Forall₂ (Respelled S) kept kept') {t t' : ResolvedType} (ht : Respelled S t t') :
    (kept.any fun s => t.same s) = kept'.any fun s => t'.same s := by
  induction hkept with
  | nil => rfl
  | cons hfirst _ ih => rw [List.any_cons, List.any_cons, ih, same_eq hS _ ht hfirst]

theorem distinct (hS : OneToOne S) {ss ts : List ResolvedType} (h : List.Forall₂ (Respelled S) ss ts) :
    List.Forall₂ (Respelled S) (distinct ss) (distinct ts) := by
  unfold ResolvedType.distinct
  suffices hfold : ∀ kept kept', List.Forall₂ (Respelled S) kept kept' →
      List.Forall₂ (Respelled S)
        (ss.foldl (fun kept t => if kept.any fun s => t.same s then kept else kept ++ [t]) kept)
        (ts.foldl (fun kept t => if kept.any fun s => t.same s then kept else kept ++ [t]) kept') from
    hfold [] [] .nil
  induction h with
  | nil => exact fun kept kept' hkept => hkept
  | cons hfirst _ ih =>
    intro kept kept' hkept
    refine ih _ _ ?_
    dsimp only
    rw [any_same hS hkept hfirst]
    split
    · exact hkept
    · exact List.rel_append hkept (.cons hfirst .nil)

theorem ofMembers (hS : OneToOne S) {ss ts : List ResolvedType} (h : List.Forall₂ (Respelled S) ss ts) :
    Respelled S (.ofMembers ss) (.ofMembers ts) := by
  have hbranches := distinct hS (List.rel_flatMap h fun _ _ => branches)
  unfold ResolvedType.ofMembers
  generalize ResolvedType.distinct (ss.flatMap ResolvedType.branches) = kept at hbranches
  generalize ResolvedType.distinct (ts.flatMap ResolvedType.branches) = kept' at hbranches
  cases hbranches with
  | nil => exact .union .nil
  | cons hfirst hrest =>
    cases hrest with
    | nil => exact hfirst
    | cons hsecond hrest => exact .union (.cons hfirst (.cons hsecond hrest))

end Respelled

theorem built_respelled (hS : OneToOne S) : Built (Respelled S) where
  none := .none
  builtin _ := .named (.builtin rfl)
  array := .array
  enumMember h member := by
    cases h with
    | named h => exact .enumMember h member
  ofMembers _ := Respelled.ofMembers hS
  literal value := .literal value _
  isEnumeration h := by
    cases h with
    | named h => exact h.isEnumeration
    | _ => rfl

/-! ## Types passed on -/

theorem respelled_unspelledName (t : NamedType) : (unspelledName t).Respelled S (unspelledName t) := by
  unfold unspelledName
  cases hbuiltin : t.isBuiltin with
  | true => exact .builtin hbuiltin
  | false => exact .spelled t hbuiltin .none

mutual

/-- A type that has no spelling is under all spellings. -/
theorem respelled_unspelled (t : ResolvedType) : Respelled S t.unspelled t.unspelled := by
  cases t with
  | named t => exact .named (respelled_unspelledName t)
  | array element => exact .array (respelled_unspelled element)
  | literal value base => exact .literal value base
  | enumMember owner member => exact .enumMember (respelled_unspelledName owner) member
  | union members => exact .union (respelled_unspelledAll members)
  | none => exact .none
termination_by structural t

theorem respelled_unspelledAll (members : List ResolvedType) :
    List.Forall₂ (Respelled S) (unspelledAll members) (unspelledAll members) := by
  cases members with
  | nil => exact .nil
  | cons t rest => exact .cons (respelled_unspelled t) (respelled_unspelledAll rest)
termination_by structural members

end

mutual

theorem Respelled.unspelled_eq (s : ResolvedType) {t : ResolvedType} (h : Respelled S s t) :
    s.unspelled = t.unspelled := by
  cases s with
  | named s =>
    cases h with
    | named h => exact congrArg ResolvedType.named h.unspelledName
  | array s =>
    cases h with
    | array h => exact congrArg ResolvedType.array (Respelled.unspelled_eq s h)
  | literal value base =>
    cases h
    rfl
  | enumMember s member =>
    cases h with
    | enumMember h => exact congrArg (ResolvedType.enumMember · member) h.unspelledName
  | union ss =>
    cases h with
    | union h => exact congrArg ResolvedType.union (Respelled.unspelledAll_eq ss h)
  | none =>
    cases h
    rfl
termination_by structural s

theorem Respelled.unspelledAll_eq (ss : List ResolvedType) {ts : List ResolvedType}
    (h : List.Forall₂ (Respelled S) ss ts) : unspelledAll ss = unspelledAll ts := by
  cases ss with
  | nil =>
    cases h
    rfl
  | cons s ss =>
    cases h with
    | cons hfirst hrest =>
      exact congrArg₂ List.cons (Respelled.unspelled_eq s hfirst) (Respelled.unspelledAll_eq ss hrest)
termination_by structural ss

end
end ResolvedType

/-- A type that two modules pass on under their own spellings. -/
theorem respelled_respelling {spelling spelling' : Option String} (h : Option.Rel S spelling spelling')
    (t : ResolvedType) : ResolvedType.Respelled S (respelled spelling t) (respelled spelling' t) := by
  cases t with
  | named t =>
    refine .named ?_
    by_cases hbuiltin : t.isBuiltin = true
    · rw [if_pos hbuiltin, if_pos hbuiltin]
      exact .builtin hbuiltin
    · rw [if_neg hbuiltin, if_neg hbuiltin]
      exact .spelled t (Bool.eq_false_iff.2 hbuiltin) h
  | _ => exact ResolvedType.respelled_unspelled _

end ModelMetadata
