import ModelMetadata.CommandLine.Arguments
import ModelMetadata.Config.Assignment
import ModelMetadata.Config.Load
import ModelMetadata.Engine

/-!
Runs of the command line. A run reads and writes files of a tree, keeps a log, shows a report and
prints. It ends where its arguments stop it, or with the success of its command; only faults outside
the processing of a single file break it off.
-/
set_option autoImplicit false
namespace ModelMetadata

inductive Display where
  | text (text : String)
  | table (title : String) (columns : List String) (rows : List (List String))
deriving Repr, DecidableEq, Inhabited

def Display.texts : Display → List String
  | .text shown => [shown]
  | .table title columns rows => title :: columns ++ rows.flatten

structure Session where
  tree : FileTree
  log : List LogRecord := []
  report : List Display := []
  /-- What was printed. -/
  output : String := ""
  console : Console := {}
deriving Inhabited

inductive RunFault where
  /-- A setting has a name that no setting may have. -/
  | reservedSetting
  | options (fault : LoadFault)
  | file (fault : Fault)
deriving Repr, DecidableEq, Inhabited

def RunFault.message : RunFault → String
  | .reservedSetting => "a setting has a reserved name"
  | .options fault => fault.message
  | .file fault => fault.message

/-- A step of a run. It may break off, and keeps its session when it does. -/
abbrev SessionStep := ExceptT RunFault (StateM Session)

namespace SessionStep

def keep (records : List LogRecord) : SessionStep Unit :=
  modify fun session => { session with log := session.log ++ records }

/-- Breaks off at the first text that the console refuses. -/
def offer (texts : List String) : SessionStep Unit := do
  match texts.findSome? (← get).console.refusal? with
  | some words => throw (.file (.refusedText words))
  | none => return ()

def log (records : List LogRecord) : SessionStep Unit :=
  records.forM fun record => do
    offer [record.message]
    keep [record]

/-- Shows a part of the report, unless the console refuses a text of it. -/
def display (part : Display) : SessionStep Unit := do
  offer part.texts
  modify fun session => { session with report := session.report ++ [part] }

def print (text : String) : SessionStep Unit :=
  modify fun session => { session with output := session.output ++ text ++ "\n" }

def write (path : Path) (text : String) : SessionStep Unit := do
  match (← get).tree.writeText path text with
  | .ok tree => modify fun session => { session with tree }
  | .error fault => throw (.file fault)

end SessionStep

/-! ## Settings -/

/-- The names of what options are loaded from and into, which no setting may have. -/
def reservedSettings : List String := ["search_path", "cls"]

/-- The settings of a command line: its assignments, then its flags. -/
def Invocation.settings (invocation : Invocation) : Table ConfigValue × List LogRecord :=
  let (settings, log) := readAssignments invocation.config
  let settings := if invocation.debug then settings.insert "debug" (.bool true) else settings
  let settings :=
    if invocation.introspectComments then settings.insert "introspect_comments" (.bool true)
    else settings
  (settings, log)

def searchDirectory (tree : FileTree) (input : Path) : Path :=
  if tree.isDirectory input then input else input.parent

/-- The options for an input. Invalid ones are logged. -/
def loadOptions (input : Path) (settings : Table ConfigValue) : SessionStep (Option Options) := do
  if reservedSettings.any settings.contains then throw .reservedSetting
  let tree := (← get).tree
  let settings := settings.insert "readonly" (.bool false)
  let (loaded, log) := Options.load tree (searchDirectory tree input) settings.entries
  SessionStep.log log
  match loaded with
  | .ok options => return some options
  | .error (.invalid issues) =>
    SessionStep.log [.error (LoadFault.invalid issues).message]
    return none
  | .error fault => throw (.options fault)

/-! ## Files -/

/-- The model files below a directory: those whose name has one of the endings. -/
def selectFiles (tree : FileTree) (directory : Path) (endings : List String) : List Path :=
  (tree.programFiles directory).filter fun file =>
    endings.any fun ending => file.name.endsWith ending

def noFilesText (endings : List String) (input : Path) : String :=
  "No model files (" ++ ", ".intercalate endings ++ ") found in " ++ input.render

/-- Runs the pass over a file. What keeps the file from being processed is logged and becomes the
error of its result. -/
def runFile (engine : Engine) (file : Path) : SessionStep (RunResult × Engine) := do
  let tree := (← get).tree
  let step : EngineStep RunResult := do
    let code ← EngineStep.ofExcept (tree.readText file)
    run tree code (tree.resolve file).render
  let (result, engine, log) := step.run (engine, [])
  SessionStep.keep log
  match result with
  | .ok result => return (result, engine)
  | .error fault =>
    SessionStep.log
      [.error ("Failed to process " ++ file.render ++ ": " ++ fault.message)]
    return ({ errors := [fault.message], success := false }, engine)

/-- The results of files by the names they are reported under. -/
abbrev Results := List (String × RunResult)

def RunResult.isClean (result : RunResult) : Bool := result.success && result.errors.isEmpty

def reportRow (name : String) (result : RunResult) : List String :=
  [name, if result.success then "Warnings" else "Failed", "; ".intercalate result.errors]

/-- Reports what became of a batch: a line in the log when all went well, else a table of the files
with issues. -/
def summarize (results : Results) : SessionStep Unit := do
  let failed := results.filter fun (_, result) => !result.isClean
  let passed := results.length - failed.length
  if failed.isEmpty then
    SessionStep.log
      [.success ("Batch Complete: " ++ toString passed ++ "/" ++ toString results.length
        ++ " files processed.")]
  else
    SessionStep.display (.table "Metadata Report" ["File", "Status", "Issues"]
      (failed.map fun (name, result) => reportRow name result))
    SessionStep.display (.text ("\n[bold]Summary:[/bold] " ++ toString passed ++ " Passed, "
      ++ toString failed.length ++ " with Issues."))

def Results.allSucceeded (results : Results) : Bool :=
  results.all fun (_, result) => result.success

/-! ## Commands -/

/-- Augments one file. It is printed when no destination is given. -/
def augmentFile (engine : Engine) (input : Path) (destination : Option Path) :
    SessionStep Bool := do
  let (result, _) ← runFile engine input
  if !result.success then return false
  match destination with
  | none => SessionStep.print result.code
  | some destination =>
    SessionStep.write destination result.code
    SessionStep.log [.success ("Augmented: [path]" ++ input.render ++ "[/path] -> [path]"
      ++ destination.render ++ "[/path]")]
  return true

/-- Augments files below a directory, one after another. Each is written to the same place below the
destination. -/
def augmentFiles (engine : Engine) (input destination : Path) :
    List Path → SessionStep Results
  | [] => return []
  | file :: rest => do
    let (result, engine) ← runFile engine file
    let segments := (input.below? file).getD []
    if result.success then
      SessionStep.write (destination.join ⟨"", segments⟩) result.code
    let results ← augmentFiles engine input destination rest
    return ((⟨"", segments⟩ : Path).render, result) :: results

def augmentDirectory (engine : Engine) (input : Path) (destination : Option Path) :
    SessionStep Bool := do
  let endings := engine.options.dtoFileNameSuffix
  match destination with
  | none =>
    SessionStep.log
      [.error "Directory augmentation requires --out destination directory or --in-place."]
    return false
  | some destination =>
    match selectFiles (← get).tree input endings with
    | [] =>
      SessionStep.log [.warning (noFilesText endings input)]
      return true
    | files =>
      SessionStep.log [.info ("Processing " ++ toString files.length ++ " files from "
        ++ input.render ++ "...")]
      let results ← augmentFiles engine input destination files
      summarize results
      return results.allSucceeded

def augmentInput (invocation : Invocation) (input : Path) (settings : Table ConfigValue) :
    SessionStep Bool := do
  match ← loadOptions input settings with
  | none => return false
  | some options =>
    let tree := (← get).tree
    let root := options.pathToSource.getD (tree.resolve (searchDirectory tree input))
    let engine : Engine :=
      { options := { options with pathToSource := some root }, console := (← get).console }
    let destination := (invocation.out.map Path.parse).or
      (if invocation.inPlace then some input else none)
    if tree.isFile input then augmentFile engine input destination
    else augmentDirectory engine input destination

def collectFiles (engine : Engine) : List Path → SessionStep (Results × Engine)
  | [] => return ([], engine)
  | file :: rest => do
    let (result, engine) ← runFile engine file
    let (results, engine) ← collectFiles engine rest
    return ((file.render, result) :: results, engine)

def collectedCount : Results → Nat
  | [] => 0
  | (_, result) :: rest =>
    (result.classes.filter fun (_, emission) => emission == .collect).length + collectedCount rest

/-- Collects the metadata of the exported classes of an input into one module. -/
def collectInput (invocation : Invocation) (input out : Path) (settings : Table ConfigValue) :
    SessionStep Bool := do
  match ← loadOptions input settings with
  | none => return false
  | some options =>
    let tree := (← get).tree
    let root := ((invocation.sourceRoot.map Path.parse).or options.pathToSource).getD
      (searchDirectory tree input)
    let options := { options with readonly := true, pathToSource := some (tree.resolve root) }
    let files := if tree.isFile input then [input]
      else selectFiles tree input options.dtoFileNameSuffix
    if files.isEmpty then
      SessionStep.log [.warning (noFilesText options.dtoFileNameSuffix input)]
    let (results, engine) ← collectFiles { options, console := (← get).console } files
    match renderArtifact engine with
    | .error fault => throw (.file fault)
    | .ok text => SessionStep.write out text
    SessionStep.log [.success ("Collected " ++ toString (collectedCount results) ++ " classes from "
      ++ toString files.length ++ " files -> [path]" ++ out.render ++ "[/path]")]
    summarize results
    return results.allSucceeded

/-- Runs a command. An input that does not exist is logged. -/
def Invocation.run (invocation : Invocation) : SessionStep Bool := do
  let input := Path.parse (invocation.path.getD "")
  let (settings, log) := invocation.settings
  SessionStep.log log
  if !(← get).tree.exists? input then
    SessionStep.log [.error ("Input not found: " ++ input.render)]
    return false
  match invocation.command with
  | .augment => augmentInput invocation input settings
  | .collect => collectInput invocation input (Path.parse (invocation.out.getD "")) settings

/-! ## The command line -/

inductive Ending where
  | stopped (stop : ArgumentStop)
  | finished (isSuccess : Bool)
deriving Repr, DecidableEq, Inhabited

def Ending.status : Ending → Nat
  | .stopped .misuse => 2
  | .stopped _ => 0
  | .finished true => 0
  | .finished false => 1

def usageText : String := "usage: apimeta [-h] [--version] augment|collect ..."

def versionText : String := "apimeta 0.1.0"

def runCommandLine (texts : List String) : SessionStep Ending := do
  match Invocation.read texts with
  | .ok invocation => return .finished (← invocation.run)
  | .error stop =>
    match stop with
    | .help => SessionStep.print usageText
    | .version => SessionStep.print versionText
    | .misuse => pure ()
    return .stopped stop

end ModelMetadata
