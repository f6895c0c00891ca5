import ModelMetadata.CommandLine.Run

/-!
The program. It reads the files that a run may see, runs the command line over them, writes the files
that the run changed, and shows what it logged, printed and reported. A run sees the files below the
working directory and below the paths among its arguments, and the configuration files above them. Of
what lies below a directory only program files and configuration files are read; the others are seen
as empty.
-/
set_option autoImplicit false
namespace ModelMetadata.Program

/-- The place of an absolute path that is written as text. -/
def placeOf (path : String) : Place := (Path.parse path).segments

def pathOf (place : Place) : String := (⟨"/", place⟩ : Path).render

def readBytes (path : String) : IO (List UInt8) := return (← IO.FS.readBinFile path).toList

/-- Whether the contents of a file matter to a run. -/
def isRelevant (place : Place) : Bool :=
  let name := place.getLast?.getD ""
  name.endsWith ".py" || name == configFile

/-- The files at a path of the disk and below it. -/
def filesBelow (path : String) : IO (List (Place × List UInt8)) := do
  let named := (← IO.currentDir) / path
  if !(← named.pathExists) then return []
  let root ← IO.FS.realPath named
  if ← root.isDir then
    (← root.walkDir).toList.filterMapM fun file => do
      if ← file.isDir then return none
      let place := placeOf file.toString
      return some (place, ← if isRelevant place then readBytes file.toString else pure [])
  else return [(placeOf root.toString, ← readBytes root.toString)]

def configFilesAbove (place : Place) : IO (List (Place × List UInt8)) := do
  let found ← (List.range place.length).mapM fun n =>
    filesBelow (pathOf (place.take n ++ [configFile]))
  return found.flatten

/-- The tree of the files that a run with some arguments may see. -/
def readTree (arguments : List String) : IO FileTree := do
  let directory := Path.parse (← IO.currentDir).toString
  let paths := "." :: arguments.filter fun argument => !argument.startsWith "-"
  let below ← paths.mapM filesBelow
  let above ← paths.mapM fun path => configFilesAbove (directory.resolve (Path.parse path)).segments
  let files := (below ++ above).flatten.foldl (fun files (place, bytes) =>
    FileTree.store place bytes files) []
  return { directory, files }

def writeChanges (before after : FileTree) : IO Unit :=
  after.files.forM fun (place, bytes) => do
    if before.contents? place != some bytes then
      IO.FS.createDirAll (pathOf place.dropLast)
      IO.FS.writeBinFile (pathOf place) ⟨bytes.toArray⟩

def levelName : LogLevel → String
  | .debug => "DEBUG"
  | .info => "INFO"
  | .success => "SUCCESS"
  | .warning => "WARNING"
  | .error => "ERROR"

def Display.lines : Display → List String
  | .text text => [text]
  | .table title columns rows => title :: (columns :: rows).map ("  ".intercalate ·)

def showSession (session : Session) : IO Unit := do
  session.log.forM fun record => IO.println (levelName record.level ++ " " ++ record.message)
  IO.print session.output
  session.report.forM fun part => (Display.lines part).forM fun line => IO.println line

end ModelMetadata.Program

open ModelMetadata ModelMetadata.Program

/-- Runs the program; its result is the status of the run. -/
def main (arguments : List String) : IO UInt32 := do
  let tree ← readTree arguments
  let (ending, session) := (runCommandLine arguments).run { tree }
  writeChanges tree session.tree
  showSession session
  match ending with
  | .ok ending => return ending.status.toUInt32
  | .error fault =>
    IO.eprintln fault.message
    return 1
