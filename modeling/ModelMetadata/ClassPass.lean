import ModelMetadata.Artifact
import ModelMetadata.Descriptor.Assembly

/-!
The pass over the classes of a module. Every model class is described; its map is either returned by
a static function at the end of its body, or recorded in the registry when the class is exported and
metadata is collected. A property that cannot be described is left out and costs no other one. Inner
classes come before the class around them, and a function that was added before is replaced.
-/
set_option autoImplicit false
namespace ModelMetadata

open Source

/-- The name of the static function that returns the metadata of a class. -/
def factoryName : String := "_OPENAPI_METADATA_FACTORY"

/-! ## Class bodies -/

def docstringOf? : Option Statement → Except Fault (Option String)
  | some (.line _ ⟨[⟨.expr e, _⟩], _⟩) => stringValue e
  | _ => .ok none

def docCommentMark : String := "#:"

/-- The documenting comments directly above a statement; an empty line cuts off those before it. -/
def docComments (above : List EmptyLine) : List String :=
  above.foldl (fun texts line =>
    match line.comment with
    | none => []
    | some comment =>
      if comment.startsWith docCommentMark then
        texts ++ [Text.trimmed (comment.drop docCommentMark.length).toString]
      else texts) []

def lineProperties (above : List EmptyLine) (line : SmallLine) (following : Option Statement) :
    Except Fault (List Declaration) :=
  line.entries.foldlM (fun found entry =>
    match entry.statement with
    | .annotated target _ _ typeHint assigned => do
      let docstring ← docstringOf? following
      return found ++
        [{ name := ModuleSymbols.targetName? target, typeHint
           value := assigned.map Assigned.value, docstring, comments := docComments above }]
    | _ => .ok found) []

def propertiesOf : List Statement → Except Fault (List Declaration)
  | [] => .ok []
  | .line above line :: rest => do
    let found ← lineProperties above line rest.head?
    return found ++ (← propertiesOf rest)
  | _ :: rest => propertiesOf rest

def Source.Suite.properties (body : Suite) : Except Fault (List Declaration) :=
  propertiesOf body.statements

def boundNames : Small → List String
  | .assign targets _ => targets.filterMap fun target => ModuleSymbols.targetName? target.target
  | .annotated target _ _ _ _ => (ModuleSymbols.targetName? target).toList
  | .augmented target _ _ _ _ => (ModuleSymbols.targetName? target).toList
  | _ => []

def Source.Suite.scopeNames (body : Suite) : List String :=
  body.statements.flatMap fun statement =>
    match statement with
    | .line _ line => line.entries.flatMap fun entry => boundNames entry.statement
    | .classDef head _ => [head.name]
    | .functionDef head _ => [head.name]
    | .compound _ => []

/-! ## Class maps -/

namespace Describe

/-- The result of a step, faults included. -/
def caught {α : Type} (step : Describe α) : Describe (Except Fault α) := fun journal =>
  let (result, journal) := step journal
  (.ok result, journal)

end Describe

def Declaration.displayName (declaration : Declaration) : String :=
  declaration.name.getD Value.none.display

def describeProperty (site : Site) (className : String) (declaration : Declaration) :
    Describe (Option Descriptor) := do
  let found ← Describe.ofExcept (site.oracle.unwrap declaration.typeHint)
  match skipReason declaration found with
  | some reason =>
    site.note ("Skipping \"" ++ declaration.displayName ++ "\" property of class \"" ++ className
      ++ "\" because " ++ reason ++ ".")
    return none
  | none => some <$> assembleUnwrapped site declaration found

def addProperty (site : Site) (className : String) (table : Table Descriptor)
    (declaration : Declaration) : Describe (Table Descriptor) := do
  match ← (describeProperty site className declaration).caught with
  | .ok (some descriptor) => return table.insert (declaration.name.getD "") descriptor
  | .ok none => return table
  | .error _ =>
    site.note ("Skipping \"" ++ declaration.displayName ++ "\" property in \"" ++ site.file
      ++ "\" after an error")
    return table

def classDescriptors (site : Site) (className : String) (declarations : List Declaration) :
    Describe (Table Descriptor) :=
  declarations.foldlM (addProperty site className) {}

/-- The map of a class: its property names with their descriptors. -/
def classMetadata (site : Site) (head : ClassHead) (body : Suite) : Describe Expr := do
  let site := { site with scope := body.scopeNames }
  let declarations ← Describe.ofExcept body.properties
  let table ← classDescriptors site head.name declarations
  return Descriptor.display (table.entries.map fun (name, descriptor) => (name, descriptor.display))

/-! ## Emission -/

/-- What is done with a class. -/
inductive ClassEmission where
  /-- Not a model, or not exported when metadata is collected. -/
  | skip
  /-- The factory is added to the body. -/
  | augment
  /-- The map goes to the registry and the class stays as it is. -/
  | collect
deriving Repr, DecidableEq, Inhabited

/-- Whether a class with some bases is a model: neither an enumeration nor, where a function would be
added to it, a typed dict. -/
def isModel (site : Site) : List Expr → Except Fault Bool
  | [] => .ok true
  | base :: rest => do
    let owner := match base.bare with
      | .subscript owner _ _ _ => owner
      | e => e
    if site.oracle.specialForm? owner == some "TypedDict" && !site.options.readonly then
      return false
    else
      match ← site.oracle.typeOf owner with
      | some t => if t.isEnumeration then return false else isModel site rest
      | none => isModel site rest

/-- What is done with a class, by its bases, its name and its place. -/
def emissionOf (site : Site) (head : ClassHead) (isModuleLevel : Bool) :
    Describe ClassEmission := do
  if !(← Describe.ofExcept (isModel site head.positionalBases)) then
    site.note ("Skipping class \"" ++ head.name ++ "\" because it is not a model class.")
    return .skip
  else if !site.options.readonly then return .augment
  else if isModuleLevel && site.oracle.host.isExported head.name then return .collect
  else
    site.note ("Skipping class \"" ++ head.name ++ "\" because it's not exported.")
    return .skip

def factoryFor (metadata : Expr) : Statement :=
  Statement.function
    { above := [{ indented := false }]
      decorators := [⟨[], [], .name "staticmethod", {}⟩] }
    factoryName [.ofSmall (.returning Gap.space metadata)]

def isFactory : Statement → Bool
  | .functionDef head _ => head.name == factoryName
  | _ => false

/-- The body with the factory as its last statement, in place of any other one. -/
def withFactory (metadata : Expr) (body : Suite) : Suite :=
  let statements := body.statements.filter (fun statement => !isFactory statement)
    ++ [factoryFor metadata]
  match body with
  | .block tail step _ footer => .block tail step statements footer
  | .inline _ _ => .block {} none statements []

/-! ## The pass -/

/-- What a pass leaves behind: the journal, the registry, and what was done with each class. -/
structure PassState where
  journal : Journal := {}
  registry : Registry := {}
  emissions : List (String × ClassEmission) := []
deriving Inhabited

/-- A step of a pass. It may fail, and keeps its state when it does. -/
abbrev Pass := ExceptT Fault (StateM PassState)

namespace Pass

def describe {α : Type} (step : Describe α) : Pass α := fun state =>
  let (result, journal) := step state.journal
  (result, { state with journal })

def emit (name : String) (emission : ClassEmission) : Pass Unit := fun state =>
  (.ok (), { state with emissions := state.emissions ++ [(name, emission)] })

def register (key className : String) (metadata : Expr) : Pass Unit := fun state =>
  (.ok (), { state with registry := state.registry.add key className metadata })

end Pass

/-- Records the map of a class, unless its file has no module. -/
def collectClass (site : Site) (key : Except Fault String) (className : String) (metadata : Expr) :
    Pass Unit := do
  let key ← Pass.describe (Describe.ofExcept key)
  if (moduleOfKey? key).isSome then Pass.register key className metadata
  else
    Pass.describe (site.note ("Skipping class \"" ++ className ++ "\" because \"" ++ site.file
      ++ "\" is outside \"pathToSource\"."))

/-- Emits a class whose body was read as `body` and has become `updated`. -/
def emitClass (site : Site) (key : Except Fault String) (outer : List String)
    (isModuleLevel : Bool) (head : ClassHead) (body updated : Suite) : Pass Suite := do
  let emission ← Pass.describe (emissionOf site head isModuleLevel)
  Pass.emit (joinDots (outer ++ [head.name])) emission
  match emission with
  | .skip => return updated
  | .collect =>
    let metadata ← Pass.describe (classMetadata site head body)
    collectClass site key head.name metadata
    return updated
  | .augment =>
    let metadata ← Pass.describe (classMetadata site head body)
    return withFactory metadata updated

mutual

/-- Passes over a statement inside the classes `outer`. -/
def passStatement (site : Site) (key : Except Fault String) (outer : List String)
    (isModuleLevel : Bool) : Statement → Pass Statement
  | .line above line => return .line above line
  | .classDef head body => do
    let updated ← passSuite site key (outer ++ [head.name]) false body
    return .classDef head (← emitClass site key outer isModuleLevel head body updated)
  | .functionDef head body => return .functionDef head (← passSuite site key outer false body)
  | .compound clauses => return .compound (← passClauses site key outer isModuleLevel clauses)

def passStatements (site : Site) (key : Except Fault String) (outer : List String)
    (isModuleLevel : Bool) : List Statement → Pass (List Statement)
  | [] => return []
  | statement :: rest => do
    let first ← passStatement site key outer isModuleLevel statement
    return first :: (← passStatements site key outer isModuleLevel rest)

def passClauses (site : Site) (key : Except Fault String) (outer : List String)
    (isModuleLevel : Bool) : List Clause → Pass (List Clause)
  | [] => return []
  | .mk above head body :: rest => do
    let body ← passSuite site key outer isModuleLevel body
    return .mk above head body :: (← passClauses site key outer isModuleLevel rest)

def passSuite (site : Site) (key : Except Fault String) (outer : List String)
    (isModuleLevel : Bool) : Suite → Pass Suite
  | .block tail step body footer => do
    return .block tail step (← passStatements site key outer isModuleLevel body) footer
  | .inline gap line => return .inline gap line

end

def passModule (site : Site) (key : Except Fault String) (source : Module) : Pass Module := do
  return { source with body := ← passStatements site key [] true source.body }

end ModelMetadata
