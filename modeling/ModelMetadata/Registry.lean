import ModelMetadata.Reference
import ModelMetadata.Symbols

/-!
The registry of collected metadata: the class maps of each file, in the order of registration. A
file is known by its path relative to the source root, and its key determines the module that a
consumer imports for it. Files outside the root have no module.
-/
set_option autoImplicit false
namespace ModelMetadata

open Source

/-- The relative path of a file below or beside a root, marked when it does not begin with a dot. -/
def registryKey (directory : Path) (root file : String) : Except Fault String :=
  if file.isEmpty then .error .emptyPath
  else
    let relative := directory.relativeText (Path.parse (Path.forwardSlashes root))
      (Path.parse (Path.forwardSlashes file))
    .ok (if relative.startsWith "." then relative else "./" ++ relative)

/-- The dotted name of the module that a key stands for. -/
def moduleOfKey? (key : String) : Option String :=
  let path := if key.startsWith "./" then (key.drop 2).toString else key
  if path.startsWith "../" || path == ".." then none
  else
    let pieces := (Path.slashPieces (fileStem path)).filter fun piece => piece != ""
    let pieces := if pieces.getLast? == some "__init__" then pieces.dropLast else pieces
    let name := joinDots pieces
    if name.isEmpty then none else some name

/-- A function that imports a module when it is called. -/
def lateImport (moduleName : String) : Except Fault Expr :=
  Expr.thunk <$> readExpr ("importlib.import_module(\"" ++ moduleName ++ "\")")

/-- The class maps by file and class name. -/
abbrev Registry := Table (Table Expr)

namespace Registry

def add (registry : Registry) (key className : String) (metadata : Expr) : Registry :=
  let classes := (Table.get? registry key).getD {}
  Table.insert registry key (classes.insert className metadata)

/-- The class maps of every file that has a module, behind a function that imports it. -/
def collected (registry : Registry) : Except Fault (List (Expr × Table Expr)) := do
  let found ← registry.entries.mapM fun (key, classes) =>
    match moduleOfKey? key with
    | none => return none
    | some name => return some (← lateImport name, classes)
  return found.filterMap id

end Registry
end ModelMetadata
