import ModelMetadata.Literal
import ModelMetadata.Path
import ModelMetadata.Source.Parser.Statement
import ModelMetadata.Table
import ModelMetadata.Text.Dotted

/-!
Symbol tables. The table of a module records the names that an annotation in it may refer to: what
its imports bind, its classes with their bases and, for enumerations, their members, its type
aliases, and the names it exports. Only definitions at module level count; the blocks of compound
statements are part of that level, functions and classes are not.
-/
set_option autoImplicit false
namespace ModelMetadata

open Source

/-- What an import binds a name to: a module, or the attribute of a module. A type-only binding
stands in a block that does not run. -/
structure ImportBinding where
  origin : String
  imported : Option String := none
  typeOnly : Bool := false
deriving Repr, DecidableEq, Inhabited

structure ClassSymbol where
  name : String
  bases : List Expr := []
  members : List String := []
deriving Inhabited

structure ModuleSymbols where
  moduleName : String
  isPackage : Bool := false
  imports : Table ImportBinding := {}
  classes : Table ClassSymbol := {}
  aliases : Table Expr := {}
  exports : Option (List String) := none
deriving Inhabited

/-! ## Names of modules -/

def fileStem (name : String) : String :=
  if name.endsWith ".py" then (name.dropEnd 3).toString else name

/-- The dotted name of the module in a file, and whether the module is a package. A file outside the
root is named by itself. -/
def moduleNameFor (root : Option Path) (file : Path) : String × Bool :=
  let pieces := ((root.bind fun root => Path.below? root file).getD [file.name])
  match pieces.getLast? with
  | none => ("", false)
  | some last =>
    let directories := pieces.dropLast
    let stem := fileStem last
    if stem == "__init__" then (joinDots directories, true)
    else (joinDots (directories ++ [stem]), false)

namespace ModuleSymbols

/-- Whether a class is exported: listed, or without a leading underscore where no list is given. -/
def isExported (symbols : ModuleSymbols) (className : String) : Bool :=
  match symbols.exports with
  | some names => names.contains className
  | none => !className.startsWith "_"

/-- The module that a relative import means. The first dot is the package of the module, each
further one the package around. -/
def resolveRelative (symbols : ModuleSymbols) (level : Int) (target : Option String) : String :=
  let pieces := if symbols.moduleName.isEmpty then [] else dotPieces symbols.moduleName
  let pieces := if symbols.isPackage then pieces else pieces.dropLast
  let pieces := if 1 < level then pieces.take (pieces.length - (level - 1).toNat) else pieces
  joinDots (pieces ++ (target.filter fun text => !text.isEmpty).toList)

/-! ## Collection -/

def targetName? (e : Expr) : Option String :=
  match e.bare with
  | .name text => some text
  | _ => none

def assignedNames : Small → List String
  | .assign targets _ => targets.filterMap fun target => targetName? target.target
  | .annotated target _ _ _ (some _) => (targetName? target).toList
  | _ => []

/-- The members that a class has when it is an enumeration: assigned names in its block that begin
with no underscore. -/
def memberNames : Suite → List String
  | .inline _ _ => []
  | .block _ _ body _ =>
    (body.flatMap fun statement =>
      match statement with
      | .line _ line => line.entries.flatMap fun entry => assignedNames entry.statement
      | _ => []).filter fun name => !name.startsWith "_"

/-- Whether an assigned value may be a type. -/
def looksLikeType (e : Expr) : Bool :=
  match e.bare with
  | .subscript .. => true
  | .name _ => true
  | .attribute .. => true
  | .binary _ _ op _ _ => op == "|"
  | _ => false

def stringItems (e : Expr) : Except Fault (List String) := do
  let entries := match e.bare with
    | .list entries _ => entries
    | .tuple entries => entries
    | _ => []
  let found ← entries.mapM fun entry =>
    match entry.item.argument with
    | some value => stringValue value
    | none => return none
  return found.filterMap id

def exportsName : String := "__all__"

/-- The flag whose blocks are read by type checkers alone. -/
def typeCheckingFlag : String := "TYPE_CHECKING"

def bindImport (symbols : ModuleSymbols) (name : String) (binding : ImportBinding) :
    ModuleSymbols :=
  { symbols with imports := symbols.imports.insert name binding }

def bindAlias (symbols : ModuleSymbols) (name : String) (value : Expr) : ModuleSymbols :=
  { symbols with aliases := symbols.aliases.insert name value }

/-- Binds a module under its own first name or under the name given to it. -/
def bindModule (typeOnly : Bool) (symbols : ModuleSymbols) (name : ImportName) : ModuleSymbols :=
  let full := name.path.dottedName
  match name.boundAs with
  | some (_, _, bound) => symbols.bindImport bound ⟨full, none, typeOnly⟩
  | none =>
    let first := (dotPieces full).headD ""
    symbols.bindImport first ⟨first, none, typeOnly⟩

def bindAttribute (typeOnly : Bool) (origin : String) (symbols : ModuleSymbols)
    (name : ImportName) : ModuleSymbols :=
  let full := name.path.dottedName
  let bound := match name.boundAs with
    | some (_, _, bound) => bound
    | none => full
  symbols.bindImport bound ⟨origin, some full, typeOnly⟩

def importedNames : ImportNames → List ImportName
  | .star _ => []
  | .plain names => names
  | .bracketed _ names _ => names

def dotCount : List Word → Nat
  | [] => 0
  | word :: rest => word.text.length + dotCount rest

def collectSmall (typeOnly : Bool) (symbols : ModuleSymbols) :
    Small → Except Fault ModuleSymbols
  | .importModules names => return names.foldl (bindModule typeOnly) symbols
  | .importFrom dots path _ names =>
    let target := path.map fun (_, path) => path.dottedName
    let origin :=
      if dots.isEmpty then target.getD "" else symbols.resolveRelative (dotCount dots) target
    return (importedNames names).foldl (bindAttribute typeOnly origin) symbols
  | .assign [target] value => do
    match targetName? target.target with
    | none => return symbols
    | some name =>
      if name == exportsName then return { symbols with exports := some (← stringItems value) }
      else if looksLikeType value then return symbols.bindAlias name value
      else return symbols
  | .augmented target _ _ _ value => do
    if targetName? target == some exportsName then
      let more ← stringItems value
      return { symbols with exports := some (symbols.exports.getD [] ++ more) }
    else return symbols
  | .annotated target _ _ typeHint (some assigned) => do
    match targetName? target with
    | none => return symbols
    | some name =>
      if typeHint.lastName == "TypeAlias" then return symbols.bindAlias name assigned.value
      else if name == exportsName then
        return { symbols with exports := some (← stringItems assigned.value) }
      else return symbols
  | .typeAlias _ name _ _ _ value => return symbols.bindAlias name value
  | _ => return symbols

def collectLine (typeOnly : Bool) (symbols : ModuleSymbols) (line : SmallLine) :
    Except Fault ModuleSymbols :=
  line.entries.foldlM (fun symbols entry => collectSmall typeOnly symbols entry.statement) symbols

def bindClass (symbols : ModuleSymbols) (head : ClassHead) (body : Suite) : ModuleSymbols :=
  let found : ClassSymbol := ⟨head.name, head.positionalBases, memberNames body⟩
  { symbols with classes := symbols.classes.insert head.name found }

def isTypeOnlyClause : ClauseHead → Bool
  | .test _ _ condition _ => condition.lastName == typeCheckingFlag
  | .verbatim _ => false

mutual

def collectStatement (typeOnly : Bool) (symbols : ModuleSymbols) :
    Statement → Except Fault ModuleSymbols
  | .line _ line => collectLine typeOnly symbols line
  | .classDef head body => .ok (symbols.bindClass head body)
  | .functionDef _ _ => .ok symbols
  | .compound clauses => collectClauses typeOnly symbols clauses

def collectStatements (typeOnly : Bool) (symbols : ModuleSymbols) :
    List Statement → Except Fault ModuleSymbols
  | [] => .ok symbols
  | statement :: rest => do
    collectStatements typeOnly (← collectStatement typeOnly symbols statement) rest

def collectClauses (typeOnly : Bool) (symbols : ModuleSymbols) :
    List Clause → Except Fault ModuleSymbols
  | [] => .ok symbols
  | .mk _ head body :: rest => do
    let symbols ← collectSuite (typeOnly || isTypeOnlyClause head) symbols body
    collectClauses typeOnly symbols rest

def collectSuite (typeOnly : Bool) (symbols : ModuleSymbols) :
    Suite → Except Fault ModuleSymbols
  | .block _ _ body _ => collectStatements typeOnly symbols body
  | .inline _ line => collectLine typeOnly symbols line

end

def collect (source : Module) (moduleName : String) (isPackage : Bool) :
    Except Fault ModuleSymbols :=
  collectStatements false { moduleName, isPackage } source.body

end ModuleSymbols

/-- The symbol tables of a source tree, by module name. -/
abbrev ProjectIndex := Table ModuleSymbols

def ProjectIndex.add (index : ProjectIndex) (symbols : ModuleSymbols) : ProjectIndex :=
  Table.insert index symbols.moduleName symbols

end ModelMetadata
