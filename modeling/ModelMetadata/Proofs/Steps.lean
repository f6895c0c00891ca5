import ModelMetadata.Journal

/-!
Steps that may fail and keep a state. What is known of a step is said of the states that it begins in, of its
result with the state behind it, and of its fault with the state behind that. What a step keeps, what its
result is like and what faults it meets are cases of it.
-/
set_option autoImplicit false
namespace ModelMetadata

/-! ## Two steps in a row -/

theorem step_bind {ε σ α β : Type} {step : ExceptT ε (StateM σ) α}
    {f : α → ExceptT ε (StateM σ) β} {state state' : σ} {a : α} (h : step state = (.ok a, state')) :
    (step >>= f) state = f a state' := by
  change ExceptT.bindCont f (step state).1 (step state).2 = _
  rw [h]
  rfl

theorem step_stop {ε σ α β : Type} {step : ExceptT ε (StateM σ) α}
    {f : α → ExceptT ε (StateM σ) β} {state state' : σ} {fault : ε}
    (h : step state = (.error fault, state')) : (step >>= f) state = (.error fault, state') := by
  change ExceptT.bindCont f (step state).1 (step state).2 = _
  rw [h]
  rfl

/-- What two steps in a row say of each when both succeed. -/
theorem step_bind_eq_ok {σ α β : Type} {step : ExceptT Fault (StateM σ) α}
    {f : α → ExceptT Fault (StateM σ) β} {state state' : σ} {b : β}
    (h : (step >>= f) state = (.ok b, state')) :
    ∃ a middle, step state = (.ok a, middle) ∧ f a middle = (.ok b, state') := by
  change ExceptT.bindCont f (step state).1 (step state).2 = _ at h
  cases hfirst : (step state).1 with
  | error fault =>
    rw [hfirst] at h
    cases h
  | ok a =>
    rw [hfirst] at h
    exact ⟨a, (step state).2, Prod.ext hfirst rfl, h⟩

/-! ## What is known of a step -/

section

variable {σ α β : Type}

/-- Begun as `P` says, a step ends as `Q` says with a result and as `F` says with a fault. -/
structure Ends (P : σ → Prop) (step : ExceptT Fault (StateM σ) α) (Q : α → σ → Prop)
    (F : Fault → σ → Prop) : Prop where
  ok {s : σ} (hs : P s) {a : α} (h : (step s).1 = .ok a) : Q a (step s).2
  error {s : σ} (hs : P s) {fault : Fault} (h : (step s).1 = .error fault) : F fault (step s).2

namespace Ends

variable {P P' : σ → Prop} {Q Q' : α → σ → Prop} {F F' : Fault → σ → Prop}
  {step other : ExceptT Fault (StateM σ) α} {f : α → ExceptT Fault (StateM σ) β}

theorem pure {a : α} (h : ∀ s, P s → Q a s) :
    Ends P (Pure.pure a : ExceptT Fault (StateM σ) α) Q F where
  ok hs _ ha := by
    cases ha
    exact h _ hs
  error _ _ := nofun

theorem throw {fault : Fault} (h : ∀ s, P s → F fault s) :
    Ends P (MonadExcept.throw fault : ExceptT Fault (StateM σ) α) Q F where
  ok _ _ := nofun
  error hs _ hfault := by
    cases hfault
    exact h _ hs

theorem bind {R : β → σ → Prop} (hstep : Ends P step Q F) (hf : ∀ a, Ends (Q a) (f a) R F) :
    Ends P (step >>= f) R F := by
  have hbind (s : σ) : (step >>= f) s = ExceptT.bindCont f (step s).1 (step s).2 := rfl
  constructor
  · intro s hs b h
    rw [hbind] at h ⊢
    cases hfirst : (step s).1 with
    | error fault =>
      rw [hfirst] at h
      cases h
    | ok a =>
      rw [hfirst] at h
      exact (hf a).ok (hstep.ok hs hfirst) h
  · intro s hs fault h
    rw [hbind] at h ⊢
    cases hfirst : (step s).1 with
    | error met =>
      rw [hfirst] at h
      cases h
      exact hstep.error hs hfirst
    | ok a =>
      rw [hfirst] at h
      exact (hf a).error (hstep.ok hs hfirst) h

theorem imp (hstep : Ends P step Q F) (h : ∀ a s, Q a s → Q' a s) : Ends P step Q' F where
  ok hs _ ha := h _ _ (hstep.ok hs ha)
  error hs _ := hstep.error hs

theorem weaken (hstep : Ends P step Q F) (h : ∀ s, P' s → P s) : Ends P' step Q F where
  ok hs _ := hstep.ok (h _ hs)
  error hs _ := hstep.error (h _ hs)

theorem blame (hstep : Ends P step Q F) (h : ∀ fault s, F fault s → F' fault s) : Ends P step Q F' where
  ok hs _ := hstep.ok hs
  error hs _ hfault := h _ _ (hstep.error hs hfault)

theorem state {R : σ → Prop} (h : Ends P step (fun _ => R) fun _ => R) {s : σ} (hs : P s) :
    R (step s).2 := by
  cases hend : (step s).1 with
  | ok a => exact h.ok hs hend
  | error fault => exact h.error hs hend

/-- What does not speak of the state may be taken out of the front. -/
theorem assume {p : Prop} (h : p → Ends P step Q F) : Ends (fun s => p ∧ P s) step Q F where
  ok hs _ := (h hs.1).ok hs.2
  error hs _ := (h hs.1).error hs.2

theorem ite {condition : Prop} [Decidable condition] (hstep : condition → Ends P step Q F)
    (hother : ¬ condition → Ends P other Q F) : Ends P (if condition then step else other) Q F := by
  split
  · exact hstep ‹_›
  · exact hother ‹_›

theorem foldlM {I : β → σ → Prop} {f : β → α → ExceptT Fault (StateM σ) β} {xs : List α}
    (h : ∀ b, ∀ x ∈ xs, Ends (I b) (f b x) I F) (start : β) : Ends (I start) (xs.foldlM f start) I F := by
  induction xs generalizing start with
  | nil => exact .pure fun _ hs => hs
  | cons x rest ih =>
    rw [List.foldlM_cons]
    refine (h start x List.mem_cons_self).bind fun b => ?_
    exact ih (fun b y hy => h b y (List.mem_cons_of_mem x hy)) b

/-- The results of a list of steps, in whatever order they come to stand in the end. -/
theorem mapM {I : σ → Prop} {R : β → Prop} {f : α → ExceptT Fault (StateM σ) β} {xs : List α}
    (h : ∀ x ∈ xs, Ends I (f x) (fun y s => R y ∧ I s) F) :
    Ends I (xs.mapM f) (fun ys s => (∀ y ∈ ys, R y) ∧ I s) F := by
  induction xs with
  | nil => exact .pure fun _ hs => ⟨List.forall_mem_nil _, hs⟩
  | cons x rest ih =>
    rw [List.mapM_cons]
    refine (h x List.mem_cons_self).bind fun y => .assume fun hy => ?_
    refine (ih fun z hz => h z (List.mem_cons_of_mem x hz)).bind fun ys => .assume fun hys => ?_
    exact .pure fun _ hs => ⟨List.forall_mem_cons.2 ⟨hy, hys⟩, hs⟩

end Ends

/-! ## Steps that keep an invariant -/

/-- A step that keeps what `I` says of its state however it ends, and whose results are as `P` says. -/
abbrev Maintains (I : σ → Prop) (step : ExceptT Fault (StateM σ) α) (P : α → Prop) : Prop :=
  Ends I step (fun a s => P a ∧ I s) fun _ s => I s

namespace Maintains

variable {I : σ → Prop} {P : α → Prop} {Q : β → Prop} {step : ExceptT Fault (StateM σ) α}
  {f : α → ExceptT Fault (StateM σ) β}

theorem of (hstate : ∀ s, I s → I (step s).2) (hresult : ∀ s, I s → ∀ a, (step s).1 = .ok a → P a) :
    Maintains I step P where
  ok hs _ ha := ⟨hresult _ hs _ ha, hstate _ hs⟩
  error hs _ _ := hstate _ hs

theorem state (h : Maintains I step P) {s : σ} (hs : I s) : I (step s).2 :=
  Ends.state (h.imp fun _ _ => And.right) hs

theorem result (h : Maintains I step P) {s : σ} (hs : I s) {a : α} (ha : (step s).1 = .ok a) : P a :=
  (h.ok hs ha).1

theorem pure {a : α} (h : P a) : Maintains I (Pure.pure a : ExceptT Fault (StateM σ) α) P :=
  Ends.pure fun _ hs => ⟨h, hs⟩

theorem throw (fault : Fault) : Maintains I (MonadExcept.throw fault : ExceptT Fault (StateM σ) α) P :=
  Ends.throw fun _ hs => hs

theorem bind (hstep : Maintains I step P) (hf : ∀ a, P a → Maintains I (f a) Q) :
    Maintains I (step >>= f) Q :=
  Ends.bind hstep fun a => .assume (hf a)

/-- The first of two steps, when nothing is asked of what it gives. -/
theorem andThen (hstep : Maintains I step P) (hf : ∀ a, Maintains I (f a) Q) :
    Maintains I (step >>= f) Q :=
  hstep.bind fun a _ => hf a

theorem imp {P' : α → Prop} (hstep : Maintains I step P) (h : ∀ a, P a → P' a) : Maintains I step P' :=
  Ends.imp hstep fun a _ => And.imp_left (h a)

theorem any (hstep : Maintains I step P) : Maintains I step fun _ => True := hstep.imp fun _ _ => trivial

theorem map {g : α → β} (hstep : Maintains I step P) (hg : ∀ a, P a → Q (g a)) :
    Maintains I (g <$> step) Q := by
  rw [map_eq_pure_bind]
  exact hstep.bind fun a ha => .pure (hg a ha)

theorem ite {condition : Prop} [Decidable condition] {other : ExceptT Fault (StateM σ) α}
    (hstep : condition → Maintains I step P) (hother : ¬ condition → Maintains I other P) :
    Maintains I (if condition then step else other) P := Ends.ite hstep hother

theorem mapM {xs : List α} (h : ∀ x ∈ xs, Maintains I (f x) Q) :
    Maintains I (xs.mapM f) fun ys => ∀ y ∈ ys, Q y := Ends.mapM h

theorem foldlM {f : β → α → ExceptT Fault (StateM σ) β} {xs : List α}
    (h : ∀ b, Q b → ∀ x ∈ xs, Maintains I (f b x) Q) {start : β} (hstart : Q start) :
    Maintains I (xs.foldlM f start) Q :=
  (Ends.foldlM (fun b x hx => .assume fun hb => h b hb x hx) start).weaken fun _ hs => ⟨hstart, hs⟩

theorem ofExcept {I : Journal → Prop} (result : Except Fault α) :
    Maintains I (Describe.ofExcept result) fun a => result = .ok a :=
  of (fun _ hs => hs) fun _ _ _ h => h

end Maintains

/-! ## Results and faults -/

/-- A step all of whose results are as `P` says, whatever state it begins in. -/
abbrev Ensures (step : ExceptT Fault (StateM σ) α) (P : α → Prop) : Prop :=
  Maintains (fun _ => True) step P

namespace Ensures

variable {P : α → Prop} {step : ExceptT Fault (StateM σ) α}

theorem of (h : ∀ state a, (step state).1 = .ok a → P a) : Ensures step P :=
  Maintains.of (fun _ _ => trivial) fun state _ => h state

theorem ensures (h : Ensures step P) {state : σ} {a : α} (ha : (step state).1 = .ok a) : P a :=
  h.result trivial ha

end Ensures

theorem Maintains.trivially (step : ExceptT Fault (StateM σ) α) : Ensures step fun _ => True :=
  Ensures.of fun _ _ _ => trivial

/-- A step that, begun as `P` says, ends as `Q` says when it succeeds. -/
abbrev Leads (P : σ → Prop) (step : ExceptT Fault (StateM σ) α) (Q : α → σ → Prop) : Prop :=
  Ends P step Q fun _ _ => True

namespace Leads

variable {P : σ → Prop} {Q : α → σ → Prop} {R : β → σ → Prop} {step : ExceptT Fault (StateM σ) α}
  {f : α → ExceptT Fault (StateM σ) β}

theorem of (h : ∀ s, P s → ∀ a, (step s).1 = .ok a → Q a (step s).2) : Leads P step Q where
  ok hs a ha := h _ hs a ha
  error _ _ _ := trivial

/-- Beside what the first step leads to, what it ensures is known when the second one begins. -/
theorem bindWith {E : α → Prop} (hensures : Ensures step E) (hstep : Leads P step Q)
    (hf : ∀ a, E a → Leads (Q a) (f a) R) : Leads P (step >>= f) R :=
  Ends.bind (Leads.of fun _ hs _ ha => And.intro (hensures.ensures ha) (hstep.ok hs ha)) fun a =>
    .assume (hf a)

end Leads

end
end ModelMetadata
