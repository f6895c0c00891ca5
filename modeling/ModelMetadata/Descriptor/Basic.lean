import ModelMetadata.Declaration
import ModelMetadata.Options
import ModelMetadata.Reference

/-!
Descriptors. The descriptor of a property is a list of keys with the expressions that give their
values. An expression of the source may be copied into it when it still means the same there: in the
class's own module when it reads no name of the class body, in the collected module when it reads no
name at all.
-/
set_option autoImplicit false
namespace ModelMetadata

open Source

abbrev Descriptor := List (String × Expr)

def Descriptor.display (descriptor : Descriptor) : Expr :=
  Expr.ofPairs (descriptor.map fun (key, e) => (textLiteral key, e))

/-- The elements without those whose key came before. Elements without a key all stay. -/
def keepFirst {α : Type} (key : α → Option String) (elements : List α) : List α :=
  go [] elements
where
  go (seen : List String) : List α → List α
    | [] => []
    | element :: rest =>
      match key element with
      | none => element :: go seen rest
      | some found =>
        if seen.contains found then go seen rest else element :: go (found :: seen) rest

def Descriptor.distinct (descriptor : Descriptor) : Descriptor :=
  keepFirst (fun (key, _) => some key) descriptor

/-- An entry of a display with its comma: the gaps before and after the comma that follows it. -/
abbrev DisplayCell := Item × Option (Gap × Gap)

/-- The entries of a display, with the gap after each comma taken from what follows it. -/
def displayCells (beforeClose : Gap) : List Entry → List DisplayCell
  | [] => []
  | [.mk _ item comma] => [(item, comma.map fun gap => (gap, beforeClose))]
  | .mk _ item comma :: next :: rest =>
    (item, comma.map fun gap => (gap, next.before)) :: displayCells beforeClose (next :: rest)

/-- A display of entries that keep their commas; where one is missing between two entries, a comma and
a space are put there. -/
def displayOfCells (cells : List DisplayCell) : Expr :=
  let (entries, beforeClose) := entriesOf [] cells
  .dict entries beforeClose
where
  entriesOf (before : Gap) : List DisplayCell → List Entry × Gap
    | [] => ([], before)
    | [(item, none)] => ([.mk before item none], [])
    | (item, comma) :: rest =>
      let (gap, after) := comma.getD ([], Gap.space)
      let (entries, close) := entriesOf after rest
      (.mk before item (some gap) :: entries, close)

/-- The entries of a display whose key did not come before, with their commas. -/
def distinctCells (e : Expr) : Except Fault (List DisplayCell) :=
  match e.bare with
  | .dict entries beforeClose => do
    let keyed ← (displayCells beforeClose entries).mapM fun (item, comma) =>
      return (← entryKey? item, item, comma)
    return (keepFirst (fun (key, _, _) => key) keyed).map Prod.snd
  | _ => .ok []

/-- Where a property is described: the module around it, the options of the run, the file, and the
names bound in the body of its class. -/
structure Site where
  oracle : Oracle
  options : Options := {}
  file : String := ""
  scope : List String := []
deriving Inhabited

namespace Site

def host (site : Site) : String := site.oracle.host.moduleName

def subject (site : Site) (property : Option String) : String :=
  let file := "\"" ++ site.file ++ "\""
  match property.filter fun name => !name.isEmpty with
  | some name => "\"" ++ name ++ "\" property in " ++ file
  | none => file

def note (site : Site) (text : String) : Describe Unit := Describe.note site.options.debug text

def refer (site : Site) (t : NamedType) : Describe Expr := t.refer site.options.readonly site.host

end Site

/-- Whether an expression keeps its meaning when it is copied. -/
def isCopyable (readonly : Bool) (scope : List String) (e : Expr) : Except Fault Bool :=
  if readonly then isStatic e else .ok (!e.namesRead.any scope.contains)

def Site.isCopyable (site : Site) (e : Expr) : Describe Bool :=
  Describe.ofExcept (ModelMetadata.isCopyable site.options.readonly site.scope e)

/-- The expression to copy: primitive literals in canonical form, any other as it is. -/
def toCopy (e : Expr) : Except Fault Expr := return (← canonicalLiteral e).getD e

/-- The end of a note about an expression that is not copied. -/
def notReferenceable (e : Expr) : String :=
  " because it is not a referenceable value (\"" ++ e.text ++ "\")."

end ModelMetadata
