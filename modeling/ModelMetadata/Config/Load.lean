import ModelMetadata.Config.Check
import ModelMetadata.Config.Toml
import ModelMetadata.FileTree
import ModelMetadata.Log
import ModelMetadata.Table

/-!
Loading of options. The nearest configuration file at or above a directory gives a table of options;
what a caller gives overrides entries of the same name. A root that the file gives is relative to the
directory of the file. A file that does not follow the grammar is ignored with a warning.
-/
set_option autoImplicit false
namespace ModelMetadata

inductive LoadFault where
  | invalid (issues : List OptionIssue)
  | undecodable (message : String)
  /-- An integer in the file has too many digits. -/
  | overlongInteger
  /-- The section of the tools is no table. -/
  | noToolTable
  /-- The section of this tool is neither a table nor a list of pairs. -/
  | noPairs
  /-- A member of the list that stands for the section has not two parts. -/
  | noPair
  /-- The root is no text. -/
  | rootNotText
  /-- The root has a NUL in it, as no place has. -/
  | rootNoPlace
deriving Repr, DecidableEq, Inhabited

def LoadFault.message : LoadFault → String
  | .invalid _ => "Invalid apimeta options"
  | .undecodable message => message
  | .overlongInteger => "an integer has too many digits"
  | .noToolTable => "the section of the tools is no table"
  | .noPairs => "the section of the tool holds no pairs"
  | .noPair => "a member of the section of the tool is no pair"
  | .rootNotText => "the source root is no text"
  | .rootNoPlace => "the source root has a NUL in it"

def configFile : String := "pyproject.toml"

/-! ## Sections -/

/-- The two parts of a member of a list of pairs, the first as a key. -/
def pairOf? (item : ConfigValue) : Except LoadFault (Option String × ConfigValue) :=
  match item with
  | .array [.text key, value] => .ok (some key, value)
  | .array [.array _, _] => .error .noPairs
  | .array [.table _, _] => .error .noPairs
  | .array [_, value] => .ok (none, value)
  | .array _ => .error .noPair
  | .text text =>
    match text.toList with
    | [first, second] => .ok (some (String.singleton first), .text (String.singleton second))
    | _ => .error .noPair
  | .table [(first, _), (second, _)] => .ok (some first, .text second)
  | .table _ => .error .noPair
  | _ => .error .noPairs

/-- The entries that the section of this tool stands for: of a table its own, of a list of pairs
those with a text for a key. -/
def sectionEntries : ConfigValue → Except LoadFault ConfigEntries
  | .table entries => .ok entries
  | .array items => do
    let pairs ← items.mapM pairOf?
    let table := pairs.foldl (fun (table : Table ConfigValue) (key, value) =>
      match key with
      | some key => table.insert key value
      | none => table) {}
    return table.entries
  | .text "" => .ok []
  | .text _ => .error .noPair
  | _ => .error .noPairs

def toolEntries (document : ConfigEntries) : Except LoadFault ConfigEntries :=
  match document.lookup "tool" with
  | none => .ok []
  | some (.table tools) => sectionEntries ((tools.lookup "apimeta").getD (.table []))
  | some _ => .error .noToolTable

/-! ## Loading -/

/-- The nearest configuration file at or above a directory, and its contents. -/
def findConfig? (tree : FileTree) (directory : Path) : Option (Path × List UInt8) :=
  (tree.resolve directory).ancestors.findSome? fun above =>
    let place := above.segments ++ [configFile]
    (tree.contents? place).map fun bytes => (above, bytes)

/-- The names that the root is given under in a file, in the order that they are read in. -/
def rootNames : List String := ["path_to_source", "pathToSource"]

/-- A root that is text must be able to name a place. -/
def checkPlace (entries : ConfigEntries) : Except LoadFault Unit :=
  match givenAs? entries rootNames with
  | some (_, .text root) => if root.toList.contains '\x00' then .error .rootNoPlace else .ok ()
  | _ => .ok ()

/-- What a configuration file gives, with the directory it lies in; nothing when it does not follow the
grammar. -/
def readConfig (directory : Path) (bytes : List UInt8) :
    Except LoadFault (Option ConfigEntries × List LogRecord) :=
  match Text.decodeUtf8 bytes with
  | .error fault => .error (.undecodable fault.message)
  | .ok text =>
    match Toml.parse text with
    | .error .malformed =>
      let file := directory.join ⟨"", [configFile]⟩
      .ok (none, [.warning ("Ignoring unreadable " ++ file.render)])
    | .error .overlongInteger => .error .overlongInteger
    | .ok document => do
      let entries ← toolEntries document
      checkPlace entries
      return (some entries, [])

/-- The entries of a file with the root as a path that is absolute. -/
def absoluteRoot (tree : FileTree) (directory : Path) (entries : ConfigEntries) :
    Except LoadFault ConfigEntries :=
  match givenAs? entries rootNames with
  | none => .ok entries
  | some (_, .text root) =>
    let rest := entries.filter fun (name, _) => name != "pathToSource" && name != "path_to_source"
    let root := tree.resolve (directory.join (Path.parse root))
    .ok (rest ++ [("path_to_source", .path root)])
  | some (_, value) => if value.isNone then .ok entries else .error .rootNotText

/-- The entries of a file with those given by a caller in their place; absent values override
nothing. -/
def override (entries overrides : ConfigEntries) : ConfigEntries :=
  ((overrides.filter fun (_, value) => !value.isNone).foldl
    (fun (table : Table ConfigValue) (name, value) => table.insert name value) ⟨entries⟩).entries

def Options.load (tree : FileTree) (directory : Path) (overrides : ConfigEntries) :
    Except LoadFault Options × List LogRecord :=
  let found : Except LoadFault (ConfigEntries × List LogRecord) :=
    match findConfig? tree directory with
    | none => .ok ([], [])
    | some (above, bytes) => do
      match ← readConfig above bytes with
      | (none, log) => return ([], log)
      | (some entries, log) => return (← absoluteRoot tree above entries, log)
  match found with
  | .error fault => (.error fault, [])
  | .ok (entries, log) =>
    ((Options.check (override entries overrides)).mapError .invalid, log)

end ModelMetadata
