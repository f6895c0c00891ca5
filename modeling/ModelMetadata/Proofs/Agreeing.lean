import ModelMetadata.Proofs.Seeding
import ModelMetadata.Proofs.TypeParts

/-!
What agrees. A reference to a type is spelled in one way in the class's own module and in another in the
collected module; apart from that the expressions of both modes are the same, down to the descriptors of
inline shapes. Two runs of one step, in either mode, are compared when both give a result.
-/
set_option autoImplicit false
namespace ModelMetadata

open Source

/-! ## Expressions -/

mutual

/-- Expressions of the collected module and of the class's own that say the same: they differ in how they
refer to types, and a descriptor of an inline shape may lack entries in the collected module. -/
inductive Agrees : Expr → Expr → Prop where
  | same (e : Expr) : Agrees e e
  | reference {t : NamedType} {e e' : Expr} (h : readExpr (t.referenceText true) = .ok e)
    (h' : readExpr (t.referenceText false) = .ok e') : Agrees e e'
  | member {e e' : Expr} (h : Agrees e e') (attr : String) : Agrees (e.member attr) (e'.member attr)
  | list {e e' : Expr} (h : Agrees e e') : Agrees (Expr.ofList [e]) (Expr.ofList [e'])
  | thunk {e e' : Expr} (h : Agrees e e') : Agrees (Expr.thunk e) (Expr.thunk e')
  | shape {members members' : Descriptor} (h : MembersAgree members members') :
    Agrees members.display members'.display

/-- Every entry of the first descriptor has one of the second under its key that agrees. -/
inductive Within : Descriptor → Descriptor → Prop where
  | nil (d' : Descriptor) : Within [] d'
  | cons {key : String} {e e' : Expr} {d d' : Descriptor} (hmem : (key, e') ∈ d') (h : Agrees e e')
    (rest : Within d d') : Within ((key, e) :: d) d'

inductive MembersAgree : Descriptor → Descriptor → Prop where
  | nil : MembersAgree [] []
  | cons {d d' members members' : Descriptor} (name : String) (h : Within d d')
    (rest : MembersAgree members members') :
    MembersAgree ((name, d.display) :: members) ((name, d'.display) :: members')

end

/-- An expression in as many lists as one that it agrees with. -/
theorem Agrees.nested {e e' : Expr} (h : Agrees e e') (depth : Nat) :
    Agrees (nested depth e) (nested depth e') := by
  induction depth generalizing e e' with
  | zero => exact h
  | succ depth ih => exact ih (.list h)

theorem within_iff {d d' : Descriptor} :
    Within d d' ↔ ∀ key e, (key, e) ∈ d → ∃ e', (key, e') ∈ d' ∧ Agrees e e' := by
  constructor
  · intro h key e hmem
    induction d with
    | nil => cases hmem
    | cons entry rest ih =>
      cases h with
      | cons hfound hagrees hrest =>
        obtain heq | hmem := List.mem_cons.1 hmem
        · cases heq
          exact ⟨_, hfound, hagrees⟩
        · exact ih hrest hmem
  · intro h
    induction d with
    | nil => exact .nil d'
    | cons entry rest ih =>
      obtain ⟨e', hmem, hagrees⟩ := h entry.1 entry.2 List.mem_cons_self
      exact .cons hmem hagrees (ih fun key e hmem => h key e (List.mem_cons_of_mem _ hmem))

/-! ## Descriptors -/

def Descriptor.keys (d : Descriptor) : List String := d.map Prod.fst

/-- What is found under a key agrees with what the other descriptor has there. -/
def Descriptor.Follows (d d' : Descriptor) : Prop :=
  ∀ key e, d.lookup key = some e → ∃ e', d'.lookup key = some e' ∧ Agrees e e'

def Descriptor.Parallel (d d' : Descriptor) : Prop :=
  List.Forall₂ (fun entry entry' => entry.1 = entry'.1 ∧ Agrees entry.2 entry'.2) d d'

namespace Descriptor

variable {d d' more more' : Descriptor} {key : String}

theorem mem_keys : key ∈ d.keys ↔ ∃ e, (key, e) ∈ d := by
  simp [keys]

theorem keys_append : (d ++ more).keys = d.keys ++ more.keys := List.map_append

theorem lookup_eq_none (h : key ∉ d.keys) : d.lookup key = none :=
  lookup_eq_none_of_keys fun entry hentry heq => h (mem_keys.2 ⟨entry.2, heq ▸ hentry⟩)

theorem mem_keys_of_lookup {e : Expr} (h : d.lookup key = some e) : key ∈ d.keys := by
  by_contra hkey
  rw [lookup_eq_none hkey] at h
  cases h

theorem Parallel.refl (d : Descriptor) : d.Parallel d := by
  induction d with
  | nil => exact .nil
  | cons entry rest ih => exact .cons ⟨rfl, .same _⟩ ih

theorem Parallel.keys (h : d.Parallel d') : d.keys = d'.keys := by
  induction h with
  | nil => rfl
  | cons hentry _ ih => exact congrArg₂ List.cons hentry.1 ih

theorem Parallel.append (h : d.Parallel d') (hmore : more.Parallel more') :
    (d ++ more).Parallel (d' ++ more') := List.rel_append h hmore

theorem Parallel.follows (h : d.Parallel d') : d.Follows d' := by
  intro key e hlookup
  induction h with
  | nil => cases hlookup
  | @cons entry entry' d d' hentry _ ih =>
    obtain ⟨name, value⟩ := entry
    obtain ⟨name', value'⟩ := entry'
    obtain ⟨rfl, hagrees⟩ := hentry
    rw [List.lookup_cons] at hlookup ⊢
    cases hkey : key == name with
    | true =>
      rw [hkey] at hlookup
      obtain rfl := Option.some.inj hlookup
      exact ⟨value', rfl, hagrees⟩
    | false =>
      rw [hkey] at hlookup
      exact ih hlookup

/-- No key that one descriptor has left out comes in again with what stands behind it. -/
theorem Follows.append (h : d.Follows d') (hmore : more.Follows more')
    (hapart : ∀ key ∈ d'.keys, key ∈ more.keys → key ∈ d.keys) : (d ++ more).Follows (d' ++ more') := by
  intro key e hlookup
  rw [List.lookup_append] at hlookup ⊢
  cases hfirst : d.lookup key with
  | some value =>
    rw [hfirst] at hlookup
    obtain rfl := Option.some.inj hlookup
    obtain ⟨value', hvalue', hagrees⟩ := h key value hfirst
    exact ⟨value', by rw [hvalue', Option.some_or], hagrees⟩
  | none =>
    rw [hfirst, Option.none_or] at hlookup
    have hnone : d'.lookup key = none := by
      refine lookup_eq_none fun hkey => ?_
      obtain ⟨value, hvalue⟩ := mem_keys.1 (hapart key hkey (mem_keys_of_lookup hlookup))
      simpa using List.lookup_eq_none_iff.1 hfirst _ hvalue
    rw [hnone, Option.none_or]
    exact hmore key e hlookup

/-- Behind parallel descriptors nothing is left out. -/
theorem Parallel.append_follows (h : d.Parallel d') (hmore : more.Follows more') :
    (d ++ more).Follows (d' ++ more') :=
  h.follows.append hmore fun _ hkey _ => h.keys ▸ hkey

/-- Of descriptors without repeated keys, one is within the other. -/
theorem Follows.within (h : d.Follows d') : Within d.distinct d'.distinct := by
  refine within_iff.2 fun key e hmem => ?_
  obtain ⟨e', hfound, hagrees⟩ := h key e (mem_distinct.1 hmem)
  exact ⟨e', mem_distinct.2 hfound, hagrees⟩

end Descriptor

/-! ## Steps in both modes -/

/-- Two steps that both give a result, whatever state each begins in: the results are as `R` says. -/
structure Jointly {σ α β : Type} (R : α → β → Prop) (step : ExceptT Fault (StateM σ) α)
    (step' : ExceptT Fault (StateM σ) β) : Prop where
  results {state state' : σ} {a : α} {b : β} (h : (step state).1 = .ok a)
    (h' : (step' state').1 = .ok b) : R a b

namespace Jointly

variable {σ α β γ δ : Type} {R : α → β → Prop} {S : γ → δ → Prop}

theorem pure {a : α} {b : β} (h : R a b) :
    Jointly R (Pure.pure a : ExceptT Fault (StateM σ) α) (Pure.pure b) :=
  ⟨fun ha hb => by cases ha; cases hb; exact h⟩

theorem ofEnsures {P : α → Prop} {Q : β → Prop} {step : ExceptT Fault (StateM σ) α}
    {step' : ExceptT Fault (StateM σ) β} (h : Ensures step P) (h' : Ensures step' Q)
    (hR : ∀ a b, P a → Q b → R a b) : Jointly R step step' :=
  ⟨fun ha hb => hR _ _ (h.ensures ha) (h'.ensures hb)⟩

theorem mono {R' : α → β → Prop} {step : ExceptT Fault (StateM σ) α}
    {step' : ExceptT Fault (StateM σ) β} (h : Jointly R step step') (hR : ∀ a b, R a b → R' a b) :
    Jointly R' step step' :=
  ⟨fun ha hb => hR _ _ (h.results ha hb)⟩

/-- What each of the steps is known to give besides. -/
theorem and {P : α → Prop} {Q : β → Prop} {step : ExceptT Fault (StateM σ) α}
    {step' : ExceptT Fault (StateM σ) β} (h : Jointly R step step') (hP : Ensures step P)
    (hQ : Ensures step' Q) : Jointly (fun a b => R a b ∧ P a ∧ Q b) step step' :=
  ⟨fun ha hb => ⟨h.results ha hb, hP.ensures ha, hQ.ensures hb⟩⟩

theorem exists_of_bind {step : ExceptT Fault (StateM σ) α} {f : α → ExceptT Fault (StateM σ) γ}
    {state : σ} {c : γ} (h : ((step >>= f) state).1 = .ok c) :
    ∃ a next, (step state).1 = .ok a ∧ (f a next).1 = .ok c := by
  obtain ⟨a, next, hfirst, hsecond⟩ := step_bind_eq_ok (Prod.ext h rfl)
  exact ⟨a, next, congrArg Prod.fst hfirst, congrArg Prod.fst hsecond⟩

theorem bind {step : ExceptT Fault (StateM σ) α} {step' : ExceptT Fault (StateM σ) β}
    {f : α → ExceptT Fault (StateM σ) γ} {g : β → ExceptT Fault (StateM σ) δ}
    (h : Jointly R step step') (hfg : ∀ a b, R a b → Jointly S (f a) (g b)) :
    Jointly S (step >>= f) (step' >>= g) := by
  refine ⟨fun hc hd => ?_⟩
  obtain ⟨a, next, ha, hc⟩ := exists_of_bind hc
  obtain ⟨b, next', hb, hd⟩ := exists_of_bind hd
  exact (hfg a b (h.results ha hb)).results hc hd

/-- A result that both steps read. -/
theorem bind_ofExcept {result : Except Fault α} {f : α → Describe γ} {g : α → Describe δ}
    (hfg : ∀ a, result = .ok a → Jointly S (f a) (g a)) :
    Jointly S (Describe.ofExcept result >>= f) (Describe.ofExcept result >>= g) := by
  have hsame : Jointly (fun a b => result = .ok a ∧ a = b) (Describe.ofExcept result)
      (Describe.ofExcept result) :=
    .ofEnsures (.ofExcept result) (.ofExcept result) fun a b ha hb =>
      ⟨ha, Except.ok.inj (ha.symm.trans hb)⟩
  exact hsame.bind fun a b hab => hab.2 ▸ hfg a hab.1

theorem ite {condition : Prop} [Decidable condition] {step other : ExceptT Fault (StateM σ) α}
    {step' other' : ExceptT Fault (StateM σ) β} (h : condition → Jointly R step step')
    (hother : ¬ condition → Jointly R other other') :
    Jointly R (if condition then step else other) (if condition then step' else other') := by
  split
  · exact h ‹_›
  · exact hother ‹_›

theorem mapM {ε : Type} {xs : List ε} {f : ε → ExceptT Fault (StateM σ) α}
    {g : ε → ExceptT Fault (StateM σ) β} (h : ∀ x ∈ xs, Jointly R (f x) (g x)) :
    Jointly (List.Forall₂ R) (xs.mapM f) (xs.mapM g) := by
  induction xs with
  | nil => exact .pure .nil
  | cons x rest ih =>
    rw [List.mapM_cons, List.mapM_cons]
    refine (h x List.mem_cons_self).bind fun a b hab => ?_
    refine (ih fun y hy => h y (List.mem_cons_of_mem _ hy)).bind fun as bs hrest => ?_
    exact .pure (.cons hab hrest)

end Jointly

/-! ## Modes -/

def Site.inMode (site : Site) (readonly : Bool) : Site :=
  { site with options := { site.options with readonly } }

theorem Site.inMode_oracle (site : Site) (readonly : Bool) :
    (site.inMode readonly).oracle = site.oracle := rfl

/-- The expressions that refer to a type in both modes. -/
theorem refer_agrees (t : NamedType) (host host' : String) :
    Jointly Agrees (t.refer true host) (t.refer false host') := by
  cases hbuiltin : t.isBuiltin with
  | true =>
    simp only [NamedType.refer, hbuiltin, if_true]
    exact .ofEnsures (.ofExcept _) (.ofExcept _) fun e e' he he' =>
      Except.ok.inj (he.symm.trans he') ▸ .same e
  | false =>
    refine ⟨fun he he' => ?_⟩
    rw [NamedType.refer_fst hbuiltin] at he he'
    exact .reference he he'

theorem typeReference_agrees (reference : TypeReference) (host host' : String) :
    Jointly Agrees (reference.refer true host) (reference.refer false host') := by
  unfold TypeReference.refer
  split
  · rename_i t _
    simp only [map_eq_pure_bind]
    exact (refer_agrees t host host').bind fun e e' hagrees => .pure (hagrees.nested _)
  · exact ⟨fun he => by cases he⟩

theorem referMember_agrees (owner : NamedType) (member host host' : String) :
    Jointly Agrees (referMember true host owner member) (referMember false host' owner member) := by
  refine (refer_agrees owner host host').bind fun e e' hagrees => ?_
  unfold memberExpr
  split
  · exact .pure (hagrees.member member)
  · exact ⟨fun he => by cases he⟩

end ModelMetadata
