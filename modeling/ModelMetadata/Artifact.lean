import ModelMetadata.Descriptor.Basic
import ModelMetadata.Registry
import ModelMetadata.Source.Statement

/-!
The collected module. Its function binds the table of imported modules and returns, for every
collected file, a late import of the file with its class maps.
-/
set_option autoImplicit false
namespace ModelMetadata

open Source

def artifactHeader : String := "# Generated by apimeta. Do not edit."

def Source.Statement.ofSmall (small : Small) : Statement := .line [] ⟨[⟨small, none⟩], {}⟩

def Source.Statement.function (preamble : Preamble) (name : String) (body : List Statement) :
    Statement :=
  .functionDef
    { preamble, keywords := [⟨[], "def"⟩], beforeName := Gap.space, name
      signature := [⟨[], "("⟩, ⟨[], ")"⟩, ⟨[], ":"⟩] }
    (.block {} none body [])

def Source.Expr.callWith (callee : Expr) (arguments : List Expr) : Expr :=
  .call callee [] (Entry.ofItems (arguments.map Item.value)) []

def importCall (moduleName : String) : Expr :=
  ((Expr.name "importlib").member "import_module").callWith [textLiteral moduleName]

def importsStatement (modules : List String) : Statement :=
  .ofSmall (.assign [⟨.name importsBinding, Gap.space, Gap.space⟩]
    (Expr.ofPairs (modules.map fun name => (textLiteral name, importCall name))))

def modelsExpr (files : List (Expr × Table Expr)) : Expr :=
  Expr.ofList (files.map fun (handle, classes) =>
    Expr.ofList [handle, Descriptor.display classes.entries])

def artifact (imports : TypeImports) (registry : Registry) : Except Fault Module := do
  let files ← registry.collected
  let importLine : Statement := .line [{ comment := some artifactHeader }]
    ⟨[⟨.importModules [⟨Gap.space, .name "importlib", none, none⟩], none⟩], {}⟩
  let function := Statement.function { above := [{}, {}] } "metadata"
    [importsStatement imports.modules,
      .ofSmall (.returning Gap.space (Descriptor.display [("models", modelsExpr files)]))]
  return { body := [importLine, function] }

end ModelMetadata
