import ModelMetadata.Engine
import ModelMetadata.Proofs.Visiting

/-!
Steps of an engine. The tables that an engine reads from a source tree depend on the tree and on what can be
shown, and not on the engine; what is said of an engine but not of its tables stays true while they are read.
What a pass keeps in its state is kept in the engine that runs it.
-/
set_option autoImplicit false
namespace ModelMetadata

open Source

/-! ## The tables of a source tree -/

theorem engineStep_ofExcept {α : Type} (result : Except Fault α) (state : Engine × List LogRecord) :
    EngineStep.ofExcept result state = (result, state) := rfl

theorem engineStep_log {engine : Engine} {record : LogRecord} (log : List LogRecord)
    (h : engine.console.refusal? record.message = none) :
    EngineStep.log record (engine, log) = (.ok (), engine, log ++ [record]) := by
  unfold EngineStep.log
  dsimp only
  rw [h]

theorem engineStep_log_refused {engine : Engine} {record : LogRecord} {words : String}
    (log : List LogRecord) (h : engine.console.refusal? record.message = some words) :
    EngineStep.log record (engine, log) = (.error (.refusedText words), engine, log) := by
  unfold EngineStep.log
  dsimp only
  rw [h]

/-- The index with the table of one more file, if the file has one. That it has none must be shown. -/
def indexedFile (console : Console) (tree : FileTree) (root : Path) (index : ProjectIndex) (file : Path) :
    Except Fault ProjectIndex := do
  match ← fileSymbols tree root file with
  | some symbols => return index.add symbols
  | none =>
    match console.refusal? (skippedFile file).message with
    | some words => throw (.refusedText words)
    | none => return index

def indexOf (console : Console) (tree : FileTree) (root : Path) : Except Fault ProjectIndex :=
  (tree.programFiles root).foldlM (indexedFile console tree root) {}

theorem indexFile_eq (tree : FileTree) (root : Path) (index : ProjectIndex) (file : Path)
    (before : Engine × List LogRecord) :
    ∃ log, indexFile tree root index file before
      = (indexedFile before.1.console tree root index file, before.1, log) := by
  obtain ⟨engine, log⟩ := before
  unfold indexFile indexedFile
  cases hsymbols : fileSymbols tree root file with
  | error fault => exact ⟨log, step_stop (engineStep_ofExcept (.error fault) (engine, log))⟩
  | ok symbols? =>
    rw [step_bind (engineStep_ofExcept (.ok symbols?) (engine, log))]
    cases symbols? with
    | some symbols => exact ⟨log, rfl⟩
    | none =>
      dsimp only [bind, Except.bind]
      cases hrefusal : engine.console.refusal? (skippedFile file).message with
      | none => exact ⟨_, step_bind (engineStep_log log hrefusal)⟩
      | some words => exact ⟨log, step_stop (engineStep_log_refused log hrefusal)⟩

theorem indexTree_eq (tree : FileTree) (root : Path) (before : Engine × List LogRecord) :
    ∃ log, indexTree tree root before = (indexOf before.1.console tree root, before.1, log) := by
  have hfold (files : List Path) (index : ProjectIndex) (before : Engine × List LogRecord) :
      ∃ log, files.foldlM (indexFile tree root) index before
        = (files.foldlM (indexedFile before.1.console tree root) index, before.1, log) := by
    induction files generalizing index before with
    | nil => exact ⟨before.2, rfl⟩
    | cons file rest ih =>
      obtain ⟨log, hfirst⟩ := indexFile_eq tree root index file before
      rw [List.foldlM_cons, List.foldlM_cons]
      cases hindexed : indexedFile before.1.console tree root index file with
      | error fault =>
        rw [hindexed] at hfirst
        exact ⟨log, step_stop hfirst⟩
      | ok indexed =>
        rw [hindexed] at hfirst
        rw [step_bind hfirst]
        exact ih indexed (before.1, log)
  exact hfold (tree.programFiles root) {} before

/-- The tables that a run works with: those at hand, or those of the configured root. -/
def Engine.tablesIn (tree : FileTree) (engine : Engine) : Except Fault (Option ProjectIndex) :=
  match engine.project, engine.options.pathToSource with
  | none, some root => if tree.isDirectory root then some <$> indexOf engine.console tree root else .ok none
  | project, _ => .ok project

/-- Reading the tables leaves an engine that works with the same ones. -/
theorem projectIndex_tablesIn (tree : FileTree) (engine : Engine) (log : List LogRecord) :
    ∃ project log', projectIndex tree (engine, log)
        = (engine.tablesIn tree, { engine with project }, log')
      ∧ (project = engine.project ∨ ∃ index, project = some index
        ∧ engine.tablesIn tree = .ok (some index)) := by
  obtain ⟨options, typeImports, registry, project, console⟩ := engine
  have hget (state : Engine × List LogRecord) :
      (get : EngineStep (Engine × List LogRecord)) state = (.ok state, state) := rfl
  unfold projectIndex Engine.tablesIn
  rw [step_bind (hget _)]
  dsimp only
  cases project with
  | some index => exact ⟨some index, log, rfl, .inl rfl⟩
  | none =>
    cases hroot : options.pathToSource with
    | none => exact ⟨none, log, rfl, .inl rfl⟩
    | some root =>
      dsimp only
      by_cases hdirectory : tree.isDirectory root = true
      · rw [if_pos hdirectory, if_pos hdirectory]
        obtain ⟨log', hindex⟩ := indexTree_eq tree root (⟨options, typeImports, registry, none, console⟩, log)
        cases hfound : indexOf console tree root with
        | error fault =>
          rw [hfound] at hindex
          exact ⟨none, log', step_stop hindex, .inl rfl⟩
        | ok index =>
          rw [hfound] at hindex
          refine ⟨some index, log', ?_, .inr ⟨index, rfl, rfl⟩⟩
          rw [step_bind hindex]
          rfl
      · rw [if_neg hdirectory, if_neg hdirectory]
        exact ⟨none, log, rfl, .inl rfl⟩

/-! ## What is kept -/

section

variable {I : Engine × List LogRecord → Prop}

theorem maintains_ofExcept {α : Type} (result : Except Fault α) :
    Maintains I (EngineStep.ofExcept result) fun a => result = .ok a :=
  .of (fun _ hs => hs) fun _ _ _ h => h

theorem maintains_get : Maintains I get I := by
  refine .of (fun _ hs => hs) fun state hs found h => ?_
  cases h
  exact hs

theorem maintains_modify {f : Engine × List LogRecord → Engine × List LogRecord}
    (hf : ∀ state, I state → I (f state)) : Maintains I (modify f) fun _ => True :=
  .of hf fun _ _ _ _ => trivial

end

section

variable {I : Engine → Prop}

theorem maintains_log (record : LogRecord) :
    Maintains (fun state => I state.1) (EngineStep.log record) fun _ => True := by
  refine .of (fun state hs => ?_) fun _ _ _ _ => trivial
  obtain ⟨engine, log⟩ := state
  unfold EngineStep.log
  dsimp only
  split <;> exact hs

theorem maintains_indexFile (tree : FileTree) (root : Path) (index : ProjectIndex) (file : Path) :
    Maintains (fun state => I state.1) (indexFile tree root index file) fun _ => True := by
  refine (maintains_ofExcept _).andThen fun symbols? => ?_
  cases symbols? with
  | none => exact (maintains_log _).andThen fun _ => .pure trivial
  | some symbols => exact .pure trivial

/-- Reading the tables of a source tree keeps whatever does not depend on them. -/
theorem maintains_projectIndex (hI : ∀ engine index, I engine → I { engine with project := some index })
    (tree : FileTree) :
    Maintains (fun state => I state.1) (projectIndex tree) fun _ => True := by
  refine maintains_get.andThen fun before => ?_
  dsimp only
  split
  · rename_i root _ _
    have htree : Maintains (fun state => I state.1) (indexTree tree root) fun _ => True :=
      .foldlM (fun index _ file _ => maintains_indexFile tree root index file) trivial
    have hkept (index : ProjectIndex) : Maintains (fun state => I state.1)
        (modify fun state : Engine × List LogRecord =>
          ({ state.1 with project := some index }, state.2)) fun _ => True :=
      maintains_modify fun state => hI state.1 index
    refine .ite (fun _ => ?_) fun _ => .pure trivial
    exact htree.andThen fun index => (hkept index).andThen fun _ => .pure trivial
  · exact .pure trivial

/-- What a pass keeps of the recorded imports and the registry is kept in the engine. -/
theorem maintains_runPass {α : Type} {pass : Pass α}
    (h : ∀ engine : Engine, Maintains (fun state : PassState =>
      I { engine with typeImports := state.journal.typeImports, registry := state.registry }) pass
        fun _ => True) :
    Maintains (fun state => I state.1) (runPass pass) fun _ => True :=
  .of (fun state hs => (h state.1).state (s :=
    { journal := { typeImports := state.1.typeImports, log := state.2 },
      registry := state.1.registry }) hs) fun _ _ _ _ => trivial

end

end ModelMetadata
