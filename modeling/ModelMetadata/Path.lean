import ModelMetadata.Text.Lines

/-!
File paths as text. A path is a list of segments below a root; empty segments and single dots do not
count, double dots are kept until a path is resolved against a working directory. Two slashes in
front are a root of their own.
-/
set_option autoImplicit false
namespace ModelMetadata

structure Path where
  /-- The slashes in front: none, one or two. -/
  root : String := ""
  segments : List String := []
deriving Repr, DecidableEq, Inhabited

namespace Path

def slashPieces (text : String) : List String :=
  (Text.splitAt '/' text.toList).map String.ofList

def rootOf (text : List Char) : String :=
  match text with
  | '/' :: '/' :: '/' :: _ => "/"
  | '/' :: '/' :: _ => "//"
  | '/' :: _ => "/"
  | _ => ""

def parse (text : String) : Path :=
  ⟨rootOf text.toList, (slashPieces text).filter fun piece => piece != "" && piece != "."⟩

def isAbsolute (path : Path) : Bool := path.root != ""

def render (path : Path) : String :=
  if path.root == "" && path.segments.isEmpty then "."
  else path.root ++ "/".intercalate path.segments

def parts (path : Path) : List String :=
  if path.isAbsolute then path.root :: path.segments else path.segments

def name (path : Path) : String := path.segments.getLast?.getD ""

def parent (path : Path) : Path := { path with segments := path.segments.dropLast }

/-- `path` seen from `base`; an absolute path stays itself. -/
def join (base path : Path) : Path :=
  if path.isAbsolute then path else ⟨base.root, base.segments ++ path.segments⟩

/-- The list without `lead` in front, when it begins so. -/
def dropLead? : List String → List String → Option (List String)
  | [], rest => some rest
  | a :: lead, b :: rest => if a = b then dropLead? lead rest else none
  | _ :: _, [] => none

/-- The segments of a path below a base, none when it does not lie there. An absolute path lies
below no path without segments and root. -/
def below? (base path : Path) : Option (List String) :=
  if path.isAbsolute && base.parts.isEmpty then none else dropLead? base.parts path.parts

/-- Segments with double dots taken back; above the root they have no effect. -/
def collapse (segments : List String) : List String :=
  (segments.foldl (fun kept segment =>
    if segment == ".." then kept.drop 1 else segment :: kept) []).reverse

/-- An absolute path without double dots, seen from a working directory. -/
def resolve (directory path : Path) : Path :=
  let whole := directory.join path
  { whole with segments := collapse whole.segments }

def ancestors (path : Path) : List Path :=
  path :: go path.segments.length path
where
  go : Nat → Path → List Path
    | 0, _ => []
    | fuel + 1, path => path.parent :: go fuel path.parent

def commonLength : List String → List String → Nat
  | a :: as, b :: bs => if a = b then commonLength as bs + 1 else 0
  | _, _ => 0

/-- The way from one directory to a path, both made absolute: steps up, then steps down. -/
def relativeText (directory start path : Path) : String :=
  let start := (directory.resolve start).segments
  let path := (directory.resolve path).segments
  let common := commonLength start path
  let steps := List.replicate (start.length - common) ".." ++ path.drop common
  if steps.isEmpty then "." else "/".intercalate steps

def forwardSlashes (text : String) : String :=
  String.ofList (text.toList.map fun c => if c == '\\' then '/' else c)

end Path
end ModelMetadata
