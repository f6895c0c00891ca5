import ModelMetadata.CommandLine.Run
import ModelMetadata.Proofs.Completing

/-!
Shared engines. An engine that goes from file to file keeps its recorded imports and the tables of the
source tree. Neither shows in the code that it gives: the imports are only written, and the tables are
those that a fresh engine would read, as long as the source tree is the same when they are read.
-/
set_option autoImplicit false
namespace ModelMetadata

open Source

/-! ## The tables of a source tree -/

/-- The tables that a run of an engine works with: its own, or those of the source tree. -/
def Engine.tables (engine : Engine) (tree : FileTree) (root : Path) : Except Fault ProjectIndex :=
  match engine.project with
  | some index => .ok index
  | none => indexOf engine.console tree root

/-- The tables are read once; later they are the ones that were read. -/
theorem projectIndex_eq {tree : FileTree} {root : Path} {engine : Engine}
    (hroot : engine.options.pathToSource = some root)
    (hdirectory : engine.project = none → tree.isDirectory root = true) (log : List LogRecord) :
    ∃ log', projectIndex tree (engine, log) = match engine.tables tree root with
      | .error fault => (.error fault, engine, log')
      | .ok index => (.ok (some index), { engine with project := some index }, log') := by
  obtain ⟨options, typeImports, registry, project, console⟩ := engine
  dsimp only at hroot
  have hget (state : Engine × List LogRecord) :
      (get : EngineStep (Engine × List LogRecord)) state = (.ok state, state) := rfl
  unfold projectIndex Engine.tables
  rw [step_bind (hget _)]
  dsimp only
  rw [hroot]
  cases project with
  | some index => exact ⟨log, rfl⟩
  | none =>
    dsimp only
    rw [if_pos (hdirectory rfl)]
    obtain ⟨log', hindex⟩ := indexTree_eq tree root (⟨options, typeImports, registry, none, console⟩, log)
    refine ⟨log', ?_⟩
    cases hfound : indexOf console tree root with
    | error fault =>
      rw [hfound] at hindex
      exact step_stop hindex
    | ok index =>
      rw [hfound] at hindex
      rw [step_bind hindex]
      rfl

/-! ## The code of a file -/

def RunResult.code? (result : RunResult) : Option String :=
  if result.success then some result.code else none

theorem RunResult.code?_eq_some {result : RunResult} {code : String} :
    result.code? = some code ↔ result.success = true ∧ result.code = code := by
  simp [code?]

theorem RunResult.code?_eq_none {result : RunResult} :
    result.code? = none ↔ result.success = false := by
  simp [code?]

def codeOf? : Except Fault RunResult → Option String
  | .ok result => result.code?
  | .error _ => none

theorem codeOf?_eq {result : Except Fault RunResult}
    (h : ∀ found, result = .ok found → found.success = true) :
    codeOf? result = (RunResult.code <$> result).toOption := by
  cases result with
  | error fault => rfl
  | ok found => exact if_pos (h found rfl)

def codeWith? (tables : Except Fault ProjectIndex) (tree : FileTree) (options : Options)
    (code file : String) : Option String :=
  match Module.parse code with
  | .error _ => none
  | .ok source => (do
      let index ← tables
      Module.render <$> augmented (some index) options file (fileKey tree options file) source).toOption

def codeIn? (tree : FileTree) (options : Options) (root : Path) (code file : String) : Option String :=
  codeWith? (indexOf {} tree root) tree options code file

/-- The tables that a run over a text comes to: it has to have symbols of its own. -/
def tablesRead? (tables : Except Fault ProjectIndex) (options : Options) (code file : String) :
    Option ProjectIndex :=
  (Module.parse code).toOption.bind fun source =>
    (siteOf none options file source).toOption.bind fun _ => tables.toOption

theorem tablesRead?_ok {code : String} {source : Module} (hparse : Module.parse code = .ok source)
    (tables : Except Fault ProjectIndex) (options : Options) (file : String) :
    tablesRead? tables options code file
      = (siteOf none options file source).toOption.bind fun _ => tables.toOption := by
  unfold tablesRead?
  rw [hparse]
  rfl

theorem runPass_keeps {α β : Type} (pass : Pass α)
    (f : α × List (String × ClassEmission) → β) (before : Engine × List LogRecord) :
    ((runPass pass >>= fun passed => pure (f passed)) before).2.1.options = before.1.options
      ∧ ((runPass pass >>= fun passed => pure (f passed)) before).2.1.console = before.1.console
      ∧ ((runPass pass >>= fun passed => pure (f passed)) before).2.1.project
        = before.1.project := by
  have hstate : ((runPass pass >>= fun passed => pure (f passed)) before).2
      = (runPass pass before).2 := by
    have hpure (result : Except Fault (α × List (String × ClassEmission)))
        (state : Engine × List LogRecord) :
        ((ExceptT.bindCont (fun passed => (pure (f passed) : EngineStep β)) result :
          StateM (Engine × List LogRecord) (Except Fault β)) state).2 = state := by
      cases result <;> rfl
    exact hpure _ _
  rw [hstate]
  exact ⟨rfl, rfl, rfl⟩

theorem tables_of_tablesRead? {tables : Except Fault ProjectIndex} {options : Options}
    {code file : String} {index : ProjectIndex}
    (h : tablesRead? tables options code file = some index) : tables = .ok index := by
  obtain ⟨source, -, h⟩ := Option.bind_eq_some_iff.1 h
  obtain ⟨site, -, h⟩ := Option.bind_eq_some_iff.1 h
  cases tables with
  | error fault => cases h
  | ok found => exact congrArg Except.ok (Option.some.inj h)

theorem siteOf_isSome (project : Option ProjectIndex) (options : Options) (file : String)
    (source : Module) : (siteOf project options file source).toOption.isSome
      = (siteOf none options file source).toOption.isSome := by
  unfold siteOf
  dsimp only
  cases ModuleSymbols.collect source (moduleNameFor options.pathToSource (Path.parse file)).1
    (moduleNameFor options.pathToSource (Path.parse file)).2 <;> rfl

/-- Without tables there is no code. -/
theorem codeWith?_eq_none {tables : Except Fault ProjectIndex} {tree : FileTree} {options : Options}
    {code file : String} (h : tablesRead? tables options code file = none) :
    codeWith? tables tree options code file = none := by
  unfold codeWith?
  cases hparse : Module.parse code with
  | error reason => rfl
  | ok source =>
    rw [tablesRead?_ok hparse] at h
    dsimp only
    cases tables with
    | error fault => rfl
    | ok index =>
      have hsome := siteOf_isSome (some index) options file source
      cases hnone : siteOf none options file source with
      | ok site =>
        rw [hnone] at h
        cases h
      | error fault =>
        rw [hnone] at hsome
        change (Module.render <$> augmented (some index) options file _ source).toOption = none
        unfold augmented
        cases hsite : siteOf (some index) options file source with
        | error fault => rfl
        | ok site =>
          rw [hsite] at hsome
          cases hsome

/-- The code that a run gives, and the tables that it leaves, follow from the tables that it works
with. -/
theorem run_tables {tree : FileTree} {root : Path} {engine : Engine}
    (hwrites : engine.options.readonly = false) (hroot : engine.options.pathToSource = some root)
    (hdirectory : engine.project = none → tree.isDirectory root = true) (code file : String)
    (log : List LogRecord) :
    codeOf? (run tree code file (engine, log)).1
        = codeWith? (engine.tables tree root) tree engine.options code file
      ∧ (run tree code file (engine, log)).2.1.options = engine.options
      ∧ (run tree code file (engine, log)).2.1.console = engine.console
      ∧ (run tree code file (engine, log)).2.1.project
        = (tablesRead? (engine.tables tree root) engine.options code file).or engine.project := by
  unfold codeWith?
  cases hparse : Module.parse code with
  | error reason =>
    unfold run tablesRead?
    rw [hparse]
    cases reason <;> exact ⟨rfl, rfl, rfl, rfl⟩
  | ok source =>
    have hsuccess : ∀ found, (run tree code file (engine, log)).1 = .ok found →
        found.success = true := fun found hfound =>
      (run_parsed tree file hparse).result trivial hfound
    obtain ⟨log', hproject⟩ := projectIndex_eq hroot hdirectory log
    have hcases := @run_cases source tree code hparse file (engine, log)
    rw [codeOf?_eq hsuccess, tablesRead?_ok hparse]
    dsimp only
    rcases hcases with ⟨fault, hhost, hrun⟩ | ⟨fault, middle, hmiddle, hrun⟩
      | ⟨project, middle, site, hmiddle, hsite, hrun⟩
    · -- The text has no symbols.
      have hsite (project : Option ProjectIndex) :
          siteOf project engine.options file source = .error fault := by
        unfold siteOf
        dsimp only at hhost ⊢
        rw [hhost]
        rfl
      rw [hrun, hsite]
      refine ⟨?_, rfl, rfl, rfl⟩
      cases engine.tables tree root with
      | error fault => rfl
      | ok index =>
        change none = (Module.render <$> augmented (some index) engine.options file _ source).toOption
        unfold augmented
        rw [hsite]
        rfl
    · -- The tables cannot be read.
      rw [hproject] at hmiddle
      cases htables : engine.tables tree root with
      | error fault' =>
        rw [htables] at hmiddle
        cases hmiddle
        rw [hrun]
        refine ⟨rfl, rfl, rfl, ?_⟩
        cases siteOf none engine.options file source <;> rfl
      | ok index =>
        rw [htables] at hmiddle
        cases hmiddle
    · rw [hproject] at hmiddle
      cases htables : engine.tables tree root with
      | error fault =>
        rw [htables] at hmiddle
        cases hmiddle
      | ok index =>
        rw [htables] at hmiddle hproject
        cases hmiddle
        have hsome := siteOf_isSome (some index) engine.options file source
        rw [hsite] at hsome
        obtain ⟨site', hsite'⟩ := Option.isSome_iff_exists.1 hsome.symm
        have hkept : (run tree code file (engine, log)).2.1.options = engine.options
            ∧ (run tree code file (engine, log)).2.1.console = engine.console
            ∧ (run tree code file (engine, log)).2.1.project = some index := by
          rw [hrun]
          exact runPass_keeps ..
        refine ⟨congrArg Except.toOption (run_code hwrites hparse hproject), hkept.1,
          hkept.2.1, ?_⟩
        rw [hsite', hkept.2.2]
        rfl

section

variable {tree tree' : FileTree} {options : Options} {root : Path} {engine : Engine}

theorem Console.ShowsAll.eq {console : Console} (h : console.ShowsAll) : console = {} := by
  obtain ⟨refusal?⟩ := console
  exact congrArg Console.mk (funext h)

/-- An engine with some options that can show all and whose tables, if it has any, are those of a source
tree. -/
structure Engine.Shares (tree : FileTree) (options : Options) (root : Path) (engine : Engine) : Prop where
  options : engine.options = options
  shows : engine.console.ShowsAll
  project : ∀ index, engine.project = some index → indexOf {} tree root = .ok index

/-- What a run leaves of the engine it began with. Its tables are read before it succeeds. -/
structure Engine.Follows (tree : FileTree) (options : Options) (root : Path) (engine : Engine)
    (code? : Option String) (after : Engine) : Prop where
  shares : after.Shares tree options root
  idle : after.project = none → engine.project = none ∧ code? = none

theorem Engine.Shares.tables (h : engine.Shares tree options root)
    (hsame : engine.project = none → tree' = tree) : engine.tables tree' root = indexOf {} tree root := by
  unfold Engine.tables
  cases hproject : engine.project with
  | none =>
    rw [hsame hproject, h.shows.eq]
  | some index => exact (h.project index hproject).symm

/-- The code that a shared engine gives for a text does not depend on what it did before. -/
theorem run_shared (hwrites : options.readonly = false) (hroot : options.pathToSource = some root)
    (hdirectory : tree.isDirectory root = true) (h : engine.Shares tree options root)
    (hsame : engine.project = none → tree' = tree) (hplace : tree'.directory = tree.directory)
    (code file : String) (log : List LogRecord) :
    codeOf? (run tree' code file (engine, log)).1 = codeIn? tree options root code file
      ∧ engine.Follows tree options root (codeIn? tree options root code file)
        (run tree' code file (engine, log)).2.1 := by
  obtain rfl := h.options
  have hkey : fileKey tree' engine.options file = fileKey tree engine.options file := by
    unfold fileKey
    rw [hplace]
  have htables := h.tables hsame
  obtain ⟨hcode, hoptions, hconsole, hproject⟩ := @run_tables tree' root engine hwrites hroot
    (fun hnone => (hsame hnone).symm ▸ hdirectory) code file log
  rw [htables] at hcode hproject
  have hcodeIn : codeWith? (indexOf {} tree root) tree' engine.options code file
      = codeIn? tree engine.options root code file := by
    unfold codeIn? codeWith?
    rw [hkey]
  refine ⟨hcode.trans hcodeIn, ⟨hoptions, hconsole ▸ h.shows, fun index hindex => ?_⟩, fun hnone => ?_⟩
  · rw [hproject, Option.or_eq_some_iff] at hindex
    rcases hindex with hread | ⟨-, hindex⟩
    · exact tables_of_tablesRead? hread
    · exact h.project index hindex
  · rw [hproject, Option.or_eq_none_iff] at hnone
    exact ⟨hnone.2, codeWith?_eq_none hnone.1⟩

end

/-! ## Files one after another -/

def runPath (tree : FileTree) (file : Path) : EngineStep RunResult := do
  let code ← EngineStep.ofExcept (tree.readText file)
  run tree code (tree.resolve file).render

theorem runPath_error {tree : FileTree} {file : Path} {fault : Fault}
    (h : tree.readText file = .error fault) (before : Engine × List LogRecord) :
    runPath tree file before = (.error fault, before) := by
  unfold runPath
  rw [h]
  exact step_stop (engineStep_ofExcept (.error fault) before)

theorem runPath_ok {tree : FileTree} {file : Path} {code : String}
    (h : tree.readText file = .ok code) (before : Engine × List LogRecord) :
    runPath tree file before = run tree code (tree.resolve file).render before := by
  unfold runPath
  rw [h]
  exact step_bind (engineStep_ofExcept (.ok code) before)

def codeAlone? (tree : FileTree) (options : Options) (file : Path) : Option String :=
  codeOf? (runPath tree file ({ options }, [])).1

section

variable {tree tree' : FileTree} {options : Options} {root : Path} {engine : Engine}

/-- The code of a file is that of its text. -/
theorem codeAlone?_eq (hwrites : options.readonly = false) (hroot : options.pathToSource = some root)
    (hdirectory : tree.isDirectory root = true) {file : Path} {code : String}
    (hread : tree.readText file = .ok code) :
    codeAlone? tree options file = codeIn? tree options root code (tree.resolve file).render := by
  have hfresh : Engine.Shares tree options root { options } := ⟨rfl, fun _ => rfl, nofun⟩
  unfold codeAlone?
  rw [runPath_ok hread]
  exact (run_shared hwrites hroot hdirectory hfresh (fun _ => rfl) rfl code
    (tree.resolve file).render []).1

/-- A shared engine gives for a file what a fresh one would give in the tree that its tables are of, if
the file reads the same. -/
theorem runPath_shared (hwrites : options.readonly = false) (hroot : options.pathToSource = some root)
    (hdirectory : tree.isDirectory root = true) (h : engine.Shares tree options root)
    (hsame : engine.project = none → tree' = tree) (hplace : tree'.directory = tree.directory)
    {file : Path} (hread : (tree'.readText file).toOption = (tree.readText file).toOption)
    (log : List LogRecord) :
    codeOf? (runPath tree' file (engine, log)).1 = codeAlone? tree options file
      ∧ engine.Follows tree options root (codeAlone? tree options file)
        (runPath tree' file (engine, log)).2.1 := by
  have hresolve : tree'.resolve file = tree.resolve file := by
    unfold FileTree.resolve
    rw [hplace]
  cases hcode : tree.readText file with
  | error fault =>
    have halone : codeAlone? tree options file = none := by
      unfold codeAlone?
      rw [runPath_error hcode]
      rfl
    rw [hcode] at hread
    cases hcode' : tree'.readText file with
    | error fault' =>
      rw [runPath_error hcode', halone]
      exact ⟨rfl, h, fun hnone => ⟨hnone, rfl⟩⟩
    | ok code =>
      rw [hcode'] at hread
      cases hread
  | ok code =>
    rw [codeAlone?_eq hwrites hroot hdirectory hcode]
    rw [hcode] at hread
    cases hcode' : tree'.readText file with
    | error fault =>
      rw [hcode'] at hread
      cases hread
    | ok code' =>
      rw [hcode'] at hread
      obtain rfl : code' = code := Option.some.inj hread
      rw [runPath_ok hcode', hresolve]
      exact run_shared hwrites hroot hdirectory h hsame hplace code' (tree.resolve file).render log

end

end ModelMetadata
