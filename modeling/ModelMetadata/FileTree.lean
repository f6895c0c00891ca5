import ModelMetadata.Fault
import ModelMetadata.Literal
import ModelMetadata.Path
import ModelMetadata.Text.Utf8

/-!
File trees. A tree holds the contents of files by their absolute place, and the working directory
that relative paths are seen from. Directories are what lies above the files and above the working
directory.
-/
set_option autoImplicit false
namespace ModelMetadata

/-- A place: the segments below the root. -/
abbrev Place := List String

structure FileTree where
  /-- The working directory. -/
  directory : Path
  files : List (Place × List UInt8) := []
deriving Inhabited

namespace FileTree

/-- Whether a place is a directory: the working directory or a file lies in it or below. -/
def isDirectoryAt (tree : FileTree) (place : Place) : Bool :=
  place.isPrefixOf tree.directory.segments
    || tree.files.any fun (file, _) => place.isPrefixOf file && place != file

def contents? (tree : FileTree) (place : Place) : Option (List UInt8) :=
  (tree.files.find? fun (file, _) => file == place).map Prod.snd

/-- The place that segments lead to from a place; only directories can be left again. -/
def walk? (tree : FileTree) : Place → List String → Option Place
  | place, [] => some place
  | place, segment :: rest =>
    if segment == ".." then
      if tree.isDirectoryAt place then tree.walk? place.dropLast rest else none
    else tree.walk? (place ++ [segment]) rest

def place? (tree : FileTree) (path : Path) : Option Place :=
  if path.isAbsolute then tree.walk? [] path.segments
  else tree.walk? tree.directory.segments path.segments

def isDirectory (tree : FileTree) (path : Path) : Bool :=
  ((tree.place? path).map tree.isDirectoryAt).getD false

def isFile (tree : FileTree) (path : Path) : Bool :=
  (((tree.place? path).bind tree.contents?).map fun _ => true).getD false

def exists? (tree : FileTree) (path : Path) : Bool := tree.isFile path || tree.isDirectory path

def resolve (tree : FileTree) (path : Path) : Path := tree.directory.resolve path

/-- Text as it is read from a file: line ends of every kind become line feeds. -/
def decodeText (bytes : List UInt8) : Except Fault String :=
  match Text.decodeUtf8 bytes with
  | .ok text => .ok (String.ofList (plainLineEnds text.toList))
  | .error fault => .error (.undecodable fault.message)

def readText (tree : FileTree) (path : Path) : Except Fault String :=
  match (tree.place? path).bind tree.contents? with
  | some bytes => decodeText bytes
  | none => .error (if tree.isDirectory path then .isDirectory path.render else .noFile path.render)

def leads (place : Place) : List Place :=
  (List.range place.length).map fun n => place.take (n + 1)

def insertPlace (place : Place) : List Place → List Place
  | [] => [place]
  | other :: rest =>
    if place < other then place :: other :: rest
    else if place = other then other :: rest
    else other :: insertPlace place rest

/-- Everything below a directory whose name ends in a way, in order, seen from the directory. -/
def below (tree : FileTree) (path : Path) (ending : String) : List Place :=
  match tree.place? path with
  | none => []
  | some base =>
    let found := tree.files.flatMap fun (file, _) =>
      if base.isPrefixOf file && base != file then leads (file.drop base.length) else []
    (found.filter fun place => (place.getLast?.getD "").endsWith ending).foldl
      (fun sorted place => insertPlace place sorted) []

def programFiles (tree : FileTree) (path : Path) : List Path :=
  (tree.below path ".py").map fun place => path.join ⟨"", place⟩

def store (place : Place) (bytes : List UInt8) :
    List (Place × List UInt8) → List (Place × List UInt8)
  | [] => [(place, bytes)]
  | (found, old) :: rest =>
    if found = place then (place, bytes) :: rest else (found, old) :: store place bytes rest

/-- The tree with a text written to a file; the directories above it are made when needed, but no
file can be one of them. -/
def writeText (tree : FileTree) (path : Path) (text : String) : Except Fault FileTree :=
  match tree.place? path with
  | none => .error (.noFile path.render)
  | some place =>
    if tree.isDirectoryAt place then .error (.isDirectory path.render)
    else
      match (leads place.dropLast).find? fun lead => (tree.contents? lead).isSome with
      | some lead =>
        .error (if lead == place.dropLast then .fileExists path.parent.render
          else .notDirectory path.parent.render)
      | none => .ok { tree with files := store place text.toUTF8.toList tree.files }

end FileTree
end ModelMetadata
