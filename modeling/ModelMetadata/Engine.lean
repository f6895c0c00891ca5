import ModelMetadata.ClassPass
import ModelMetadata.FileTree
import ModelMetadata.Log

/-!
The engine. It runs the pass over one text after another; all runs share the recorded imports and
the registry, from which the collected module is made at the end. The tables of the source tree are
read when they are first needed, unless they were given.
-/
set_option autoImplicit false
namespace ModelMetadata

open Source

structure Engine where
  options : Options := {}
  typeImports : TypeImports := {}
  registry : Registry := {}
  project : Option ProjectIndex := none
  console : Console := {}
deriving Inhabited

structure RunResult where
  code : String := ""
  errors : List String := []
  success : Bool := true
  classes : List (String × ClassEmission) := []
deriving Repr, DecidableEq, Inhabited

/-- A step of an engine. It may fail, and keeps its engine and its log when it does. -/
abbrev EngineStep := ExceptT Fault (StateM (Engine × List LogRecord))

namespace EngineStep

def log (record : LogRecord) : EngineStep Unit := fun (engine, log) =>
  match engine.console.refusal? record.message with
  | some words => (.error (.refusedText words), engine, log)
  | none => (.ok (), engine, log ++ [record])

def ofExcept {α : Type} (result : Except Fault α) : EngineStep α := fun state => (result, state)

end EngineStep

/-! ## Source trees -/

/-- The symbol table of a file, none when the file cannot be read or parsed. -/
def fileSymbols (tree : FileTree) (root file : Path) : Except Fault (Option ModuleSymbols) :=
  match tree.readText file with
  | .error (.undecodable _) => .ok none
  | .error fault => .error fault
  | .ok text =>
    match Module.parse text with
    | .error .malformed => .ok none
    | .error .invalid => .error .invalidNode
    | .ok source =>
      let (name, isPackage) := moduleNameFor (some root) file
      some <$> ModuleSymbols.collect source name isPackage

def skippedFile (file : Path) : LogRecord := .warning ("Skipping unparsable module " ++ file.render)

/-- The index with the table of one more file; a file without a table is reported. -/
def indexFile (tree : FileTree) (root : Path) (index : ProjectIndex) (file : Path) :
    EngineStep ProjectIndex := do
  match ← EngineStep.ofExcept (fileSymbols tree root file) with
  | some symbols => return index.add symbols
  | none =>
    EngineStep.log (skippedFile file)
    return index

def indexTree (tree : FileTree) (root : Path) : EngineStep ProjectIndex :=
  (tree.programFiles root).foldlM (indexFile tree root) {}

/-- The tables of the source tree: those at hand, or those of the configured root. -/
def projectIndex (tree : FileTree) : EngineStep (Option ProjectIndex) := do
  let (engine, _) ← get
  match engine.project, engine.options.pathToSource with
  | none, some root =>
    if tree.isDirectory root then
      let index ← indexTree tree root
      modify fun (engine, log) => ({ engine with project := some index }, log)
      return some index
    else return none
  | project, _ => return project

/-! ## Runs -/

def runPass {α : Type} (pass : Pass α) : EngineStep (α × List (String × ClassEmission)) :=
  fun (engine, log) =>
    let (result, state) := pass
      { journal := { typeImports := engine.typeImports, log }, registry := engine.registry }
    (result.map fun a => (a, state.emissions),
      { engine with typeImports := state.journal.typeImports, registry := state.registry },
      state.journal.log)

def parseErrorText : String := "Parse Error"

/-- The key of a file for the registry. Without a source root there is none. -/
def fileKey (tree : FileTree) (options : Options) (file : String) : Except Fault String :=
  match options.pathToSource with
  | some root => registryKey tree.directory root.render file
  | none => .error .emptyPath

/-- Runs the pass over a text. A text that cannot be parsed is reported in the result. -/
def run (tree : FileTree) (code file : String) : EngineStep RunResult := do
  match Module.parse code with
  | .error .malformed => return { code, errors := [parseErrorText], success := false }
  | .error .invalid => throw .invalidNode
  | .ok source =>
    let (engine, _) ← get
    let options := engine.options
    let (name, isPackage) := moduleNameFor options.pathToSource (Path.parse file)
    let host ← EngineStep.ofExcept (ModuleSymbols.collect source name isPackage)
    let project ← projectIndex tree
    let site : Site := { oracle := { host, project }, options, file }
    let (updated, classes) ← runPass (passModule site (fileKey tree options file) source)
    return { code := if options.readonly then code else updated.render, classes }

def renderArtifact (engine : Engine) : Except Fault String :=
  Module.render <$> artifact engine.typeImports engine.registry

/-- The text of a module with the factories of its classes; none when it cannot be parsed. -/
def augment (tree : FileTree) (options : Options) (code file : String) :
    Except Fault (Option String) :=
  match ((run tree code file).run ({ options }, [])).1 with
  | .ok result => .ok (if result.success then some result.code else none)
  | .error fault => .error fault

end ModelMetadata
