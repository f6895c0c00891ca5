import Mathlib
import ModelMetadata.ClassPass
import ModelMetadata.Proofs.Steps

/-!
What a pass goes through. The pass visits the classes of a module one after the other, inner classes
before the class around them, and does nothing else to its state: what the emission of each class keeps,
the whole pass keeps.
-/
set_option autoImplicit false
namespace ModelMetadata

open Source

/-! ## Visits -/

mutual

/-- The classes in a statement, in the order that they are emitted in, each with whether it stands at
module level. -/
def visits (isModuleLevel : Bool) : Statement → List (Bool × ClassHead × Suite)
  | .line _ _ => []
  | .classDef head body => visitsOfSuite false body ++ [(isModuleLevel, head, body)]
  | .functionDef _ body => visitsOfSuite false body
  | .compound clauses => visitsOfClauses isModuleLevel clauses

def visitsOfAll (isModuleLevel : Bool) : List Statement → List (Bool × ClassHead × Suite)
  | [] => []
  | statement :: rest => visits isModuleLevel statement ++ visitsOfAll isModuleLevel rest

def visitsOfClauses (isModuleLevel : Bool) : List Clause → List (Bool × ClassHead × Suite)
  | [] => []
  | .mk _ _ body :: rest => visitsOfSuite isModuleLevel body ++ visitsOfClauses isModuleLevel rest

def visitsOfSuite (isModuleLevel : Bool) : Suite → List (Bool × ClassHead × Suite)
  | .block _ _ body _ => visitsOfAll isModuleLevel body
  | .inline _ _ => []

end

/-! ## Passes -/

/-- What holds of a step that visits nothing, and of two steps one after the other if it holds of each
for the classes that it visits. -/
structure Composes (P : List (Bool × ClassHead × Suite) → ∀ {α : Type}, Pass α → Prop) : Prop where
  pure {α : Type} (a : α) : P [] (Pure.pure a : Pass α)
  bind {α β : Type} {found more : List (Bool × ClassHead × Suite)} {step : Pass α} {f : α → Pass β}
    (hstep : P found step) (hf : ∀ a, P more (f a)) : P (found ++ more) (step >>= f)

structure Emits (P : List (Bool × ClassHead × Suite) → ∀ {α : Type}, Pass α → Prop) (site : Site)
    (key : Except Fault String) (found : List (Bool × ClassHead × Suite)) : Prop where
  emits : ∀ visit ∈ found, ∀ outer, (visit.1 = true → outer = []) → ∀ updated,
    P [visit] (emitClass site key outer visit.1 visit.2.1 visit.2.2 updated)

theorem Composes.andPure {P : List (Bool × ClassHead × Suite) → ∀ {α : Type}, Pass α → Prop}
    (hP : Composes P) {α β : Type} {found : List (Bool × ClassHead × Suite)} {step : Pass α}
    (hstep : P found step) (f : α → β) : P found (step >>= fun a => Pure.pure (f a)) := by
  have h := hP.bind hstep fun a => hP.pure (f a)
  rwa [List.append_nil] at h

namespace Emits

variable {P : List (Bool × ClassHead × Suite) → ∀ {α : Type}, Pass α → Prop} {site : Site}
  {key : Except Fault String}

theorem left {found more : List (Bool × ClassHead × Suite)} (h : Emits P site key (found ++ more)) :
    Emits P site key found :=
  ⟨fun visit hvisit => h.emits visit (List.mem_append_left more hvisit)⟩

theorem right {found more : List (Bool × ClassHead × Suite)} (h : Emits P site key (found ++ more)) :
    Emits P site key more :=
  ⟨fun visit hvisit => h.emits visit (List.mem_append_right found hvisit)⟩

variable (hP : Composes P)
include hP

mutual

theorem passStatement {outer : List String} {isModuleLevel : Bool}
    (houter : isModuleLevel = true → outer = []) (statement : Statement)
    (h : Emits P site key (visits isModuleLevel statement)) :
    P (visits isModuleLevel statement) (passStatement site key outer isModuleLevel statement) := by
  have hinner {outer : List String} : false = true → outer = [] := nofun
  cases statement with
  | line above line => exact hP.pure _
  | classDef head body =>
    rw [visits] at h
    refine hP.bind (passSuite hinner body h.left) fun updated => ?_
    have hemit := h.right.emits (isModuleLevel, head, body) List.mem_cons_self outer houter updated
    exact hP.andPure hemit _
  | functionDef head body => exact hP.andPure (passSuite hinner body h) _
  | compound clauses => exact hP.andPure (passClauses houter clauses h) _
termination_by structural statement

theorem passStatements {outer : List String} {isModuleLevel : Bool}
    (houter : isModuleLevel = true → outer = []) (statements : List Statement)
    (h : Emits P site key (visitsOfAll isModuleLevel statements)) :
    P (visitsOfAll isModuleLevel statements)
      (passStatements site key outer isModuleLevel statements) := by
  cases statements with
  | nil => exact hP.pure _
  | cons statement rest =>
    rw [visitsOfAll] at h
    refine hP.bind (passStatement houter statement h.left) fun first => ?_
    exact hP.andPure (passStatements houter rest h.right) _
termination_by structural statements

theorem passClauses {outer : List String} {isModuleLevel : Bool}
    (houter : isModuleLevel = true → outer = []) (clauses : List Clause)
    (h : Emits P site key (visitsOfClauses isModuleLevel clauses)) :
    P (visitsOfClauses isModuleLevel clauses)
      (passClauses site key outer isModuleLevel clauses) := by
  cases clauses with
  | nil => exact hP.pure _
  | cons clause rest =>
    obtain ⟨above, head, body⟩ := clause
    rw [visitsOfClauses] at h
    refine hP.bind (passSuite houter body h.left) fun first => ?_
    exact hP.andPure (passClauses houter rest h.right) _
termination_by structural clauses

theorem passSuite {outer : List String} {isModuleLevel : Bool}
    (houter : isModuleLevel = true → outer = []) (body : Suite)
    (h : Emits P site key (visitsOfSuite isModuleLevel body)) :
    P (visitsOfSuite isModuleLevel body) (passSuite site key outer isModuleLevel body) := by
  cases body with
  | block tail step body footer => exact hP.andPure (passStatements houter body h) _
  | inline gap line => exact hP.pure _
termination_by structural body

end

theorem passModule (source : Module) (h : Emits P site key (visitsOfAll true source.body)) :
    P (visitsOfAll true source.body) (passModule site key source) :=
  hP.andPure (passStatements hP (fun _ => rfl) source.body h) _

end Emits

structure Emitting (I : PassState → Prop) (site : Site) (key : Except Fault String)
    (found : List (Bool × ClassHead × Suite)) : Prop where
  emits : ∀ visit ∈ found, ∀ outer updated,
    Maintains I (emitClass site key outer visit.1 visit.2.1 visit.2.2 updated) fun _ => True

theorem Emitting.passModule {I : PassState → Prop} {site : Site} {key : Except Fault String}
    (source : Module) (h : Emitting I site key (visitsOfAll true source.body)) :
    Maintains I (passModule site key source) fun _ => True :=
  Emits.passModule (P := fun _ _ step => Maintains I step fun _ => True)
    ⟨fun _ => .pure trivial, .andThen⟩ source ⟨fun visit hvisit outer _ => h.emits visit hvisit outer⟩

end ModelMetadata
