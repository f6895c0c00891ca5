import Mathlib
import ModelMetadata.Source.Parser.Basic

/-!
What parsers read. A parser that succeeds has taken some tokens from the front of the list and left
the others as they were; `Yields p P` says that its result and the tokens taken are always related by
`P`. The combinators hand this on: two parsers in a row take the tokens of the first, then those of
the second, and a repetition keeps whatever every round keeps.
-/
set_option autoImplicit false
namespace ModelMetadata.Source.Parser

variable {α β : Type}

def Yields (p : Parser α) (P : α → List Token → Prop) : Prop :=
  ∀ tokens a rest, p tokens = some (a, rest) → ∃ taken, tokens = taken ++ rest ∧ P a taken

namespace Yields

variable {p q : Parser α} {P Q : α → List Token → Prop}

theorem mono (hp : Yields p P) (hPQ : ∀ a taken, P a taken → Q a taken) : Yields p Q := by
  intro tokens a rest h
  obtain ⟨taken, htokens, hP⟩ := hp tokens a rest h
  exact ⟨taken, htokens, hPQ a taken hP⟩

theorem pure {a : α} (h : P a []) : Yields (Pure.pure a) P := by
  intro tokens b rest hrun
  cases hrun
  exact ⟨[], rfl, h⟩

theorem failure : Yields (Alternative.failure : Parser α) P := by
  intro tokens a rest h
  cases h

theorem bind {k : α → Parser β} {R : β → List Token → Prop} (hp : Yields p P)
    (hk : ∀ a taken, P a taken → Yields (k a) fun b more => R b (taken ++ more)) :
    Yields (p >>= k) R := by
  intro tokens b rest h
  obtain ⟨⟨a, middle⟩, hrun, hmore⟩ := Option.bind_eq_some_iff.1 h
  obtain ⟨taken, rfl, hP⟩ := hp tokens a middle hrun
  obtain ⟨more, rfl, hR⟩ := hk a taken hP middle b rest hmore
  exact ⟨taken ++ more, (List.append_assoc ..).symm, hR⟩

/-- A last step that only changes the result. -/
theorem map {f : α → β} {R : β → List Token → Prop} (hp : Yields p P)
    (h : ∀ a taken, P a taken → R (f a) taken) : Yields (f <$> p) R := by
  refine bind hp fun a taken hP => pure ?_
  simpa using h a taken hP

theorem orElse (hp : Yields p P) (hq : Yields q P) : Yields (p <|> q) P := by
  intro tokens a rest h
  have hcases : (p tokens <|> q tokens) = some (a, rest) := h
  cases hrun : p tokens with
  | none => exact hq tokens a rest (by simpa [hrun] using hcases)
  | some found => exact hp tokens a rest (by simpa [hrun] using hcases)

theorem get {k : List Token → Parser β} {R : β → List Token → Prop}
    (hk : ∀ tokens, Yields (k tokens) R) : Yields (MonadState.get >>= k) R :=
  fun tokens b rest h => hk tokens tokens b rest h

end Yields

/-! ## Single tokens -/

theorem yields_peek : Yields peek fun _ taken => taken = [] := by
  intro tokens a rest h
  refine ⟨[], ?_, rfl⟩
  unfold peek at h
  cases tokens with
  | nil => cases h; rfl
  | cons token tokens => cases token <;> cases h <;> rfl

theorem yields_isNext (text : String) : Yields (isNext text) fun _ taken => taken = [] := by
  refine yields_peek.bind fun found taken htaken => ?_
  subst htaken
  cases found <;> exact Yields.pure rfl

theorem oneOf?_word (texts : List String) (kind : WordKind) (word : Word) (rest : List Token) :
    oneOf? texts (.word kind word :: rest)
      = if isMark kind && texts.contains word.text then some (some word, rest)
        else some (none, .word kind word :: rest) := by
  change (if isMark kind && texts.contains word.text then
      (do set rest; return some word : Parser (Option Word)) else return none)
    (.word kind word :: rest) = _
  split <;> rfl

theorem oneOf?_other (texts : List String) {tokens : List Token}
    (h : ∀ kind word rest, tokens ≠ .word kind word :: rest) :
    oneOf? texts tokens = some (none, tokens) := by
  cases tokens with
  | nil => rfl
  | cons token rest =>
    cases token with
    | word kind word => exact absurd rfl (h kind word rest)
    | _ => rfl

theorem yields_oneOf? (texts : List String) :
    Yields (oneOf? texts) fun found taken =>
      match found with
      | some word => word.text ∈ texts ∧ ∃ kind, taken = [.word kind word]
      | none => taken = [] := by
  intro tokens found rest h
  by_cases hword : ∃ kind word rest, tokens = .word kind word :: rest
  · obtain ⟨kind, word, tail, rfl⟩ := hword
    rw [oneOf?_word] at h
    split at h
    · rename_i hmark
      cases h
      refine ⟨[.word kind word], rfl, ?_, kind, rfl⟩
      simpa using (Bool.and_eq_true_iff.1 hmark).2
    · cases h
      exact ⟨[], rfl, rfl⟩
  · rw [oneOf?_other texts fun kind word tail he => hword ⟨kind, word, tail, he⟩] at h
    cases h
    exact ⟨[], rfl, rfl⟩

theorem yields_mark? (text : String) :
    Yields (mark? text) fun found taken =>
      match found with
      | some gap => ∃ kind, taken = [.word kind ⟨gap, text⟩]
      | none => taken = [] := by
  refine (yields_oneOf? [text]).map fun found taken h => ?_
  cases found with
  | none => exact h
  | some word =>
    obtain ⟨htext, kind, rfl⟩ := h
    rw [List.mem_singleton] at htext
    exact ⟨kind, by rw [← htext]⟩

theorem yields_mark (text : String) :
    Yields (mark text) fun gap taken => ∃ kind, taken = [.word kind ⟨gap, text⟩] := by
  refine (yields_mark? text).bind fun found taken h => ?_
  cases found with
  | none => exact Yields.failure
  | some gap =>
    obtain ⟨kind, rfl⟩ := h
    exact Yields.pure ⟨kind, rfl⟩

theorem yields_word (kind : WordKind) :
    Yields (word kind) fun found taken => taken = [.word kind found] := by
  intro tokens found rest h
  cases tokens with
  | nil => cases h
  | cons token tokens =>
    cases token with
    | word actual word =>
      have hrun : (if actual == kind then (do set tokens; return word : Parser Word) else failure)
          (.word actual word :: tokens) = some (found, rest) := h
      split at hrun
      · rename_i hkind
        rw [beq_iff_eq] at hkind
        subst hkind
        cases hrun
        exact ⟨_, rfl, rfl⟩
      · cases hrun
    | _ => cases h

theorem yields_name :
    Yields name fun found taken =>
      found.text ∉ reservedNames ∧ taken = [.word .name found] := by
  refine (yields_word .name).bind fun found taken h => ?_
  subst h
  split
  · exact Yields.failure
  · rename_i hreserved
    exact Yields.pure ⟨by simpa using hreserved, rfl⟩

/-! ## Alternatives and repetitions -/

theorem Yields.attempt {p : Parser α} {P : α → List Token → Prop} (hp : Yields p P) :
    Yields (attempt p) fun found taken =>
      match found with
      | some a => P a taken
      | none => taken = [] :=
  Yields.orElse (hp.map fun _ _ h => h) (Yields.pure rfl)

/-- An invariant `I` of the growing result and the tokens read so far. -/
theorem Yields.iterate {p : α → Parser (Option α)} {I : α → List Token → Prop}
    (step : ∀ a before, I a before → Yields (p a) fun found taken =>
      match found with
      | some b => I b (before ++ taken)
      | none => taken = []) :
    ∀ (fuel : Nat) (a : α) (before : List Token), I a before →
      Yields (Parser.iterate p fuel a) fun b taken => I b (before ++ taken) := by
  intro fuel
  induction fuel with
  | zero =>
    intro a before h
    exact Yields.pure (by simpa using h)
  | succ fuel ih =>
    intro a before h
    refine (step a before h).bind fun found taken hfound => ?_
    cases found with
    | none =>
      subst hfound
      exact Yields.pure (by simpa using h)
    | some b =>
      refine (ih b (before ++ taken) hfound).mono fun c more hc => ?_
      rwa [List.append_assoc] at hc

theorem Yields.iterateFrom {p : α → Parser (Option α)} {I : α → List Token → Prop} {a : α}
    (start : I a [])
    (step : ∀ a before, I a before → Yields (p a) fun found taken =>
      match found with
      | some b => I b (before ++ taken)
      | none => taken = []) :
    Yields (Parser.iterateFrom p a) I :=
  Yields.get fun tokens => (Yields.iterate step tokens.length a [] start).mono fun _ _ h => h

/-- What is found piece by piece, with the tokens of each piece. -/
theorem Yields.many {p : Parser (Option α)} {P : α → List Token → Prop}
    (hp : Yields p fun found taken =>
      match found with
      | some a => P a taken
      | none => taken = []) :
    Yields (Parser.many p) fun found taken =>
      ∃ takens, List.Forall₂ P found takens ∧ taken = takens.flatten := by
  refine Yields.bind (P := fun found taken =>
    ∃ takens, List.Forall₂ P found.reverse takens ∧ taken = takens.flatten) ?_ ?_
  · refine Yields.iterateFrom ⟨[], .nil, rfl⟩ fun found before hbefore => ?_
    obtain ⟨takens, hall, rfl⟩ := hbefore
    refine hp.bind fun next taken hnext => ?_
    cases next with
    | none => exact Yields.pure (by simpa using hnext)
    | some a =>
      refine Yields.pure ⟨takens ++ [taken], ?_, by simp⟩
      rw [List.reverse_cons]
      exact List.rel_append hall (.cons hnext .nil)
  · intro found taken h
    exact Yields.pure (by simpa using h)

theorem Yields.verbatim {p : Parser α} {P : α → List Token → Prop} (hp : Yields p P) :
    Yields (verbatim p) fun words taken => words = wordsOf taken ∧ ∃ a, P a taken := by
  intro tokens words rest h
  obtain ⟨⟨a, middle⟩, hrun, hmore⟩ := Option.bind_eq_some_iff.1
    (show (p tokens >>= fun (_, after) =>
      some (wordsOf (tokens.take (tokens.length - after.length)), after)) = some (words, rest)
      from h)
  obtain ⟨taken, rfl, hP⟩ := hp tokens a middle hrun
  cases hmore
  exact ⟨taken, rfl, by simp, a, hP⟩

end ModelMetadata.Source.Parser
