import ModelMetadata.Descriptor.Basic
import ModelMetadata.DocComment

/-!
Entries from documentation: the description under the configured key, the examples, and whether the
property is deprecated. There are none unless comments are to be introspected.
-/
set_option autoImplicit false
namespace ModelMetadata

open Source

/-- The text that documents a property: its docstring, else the comments above it. -/
def Declaration.docText? (declaration : Declaration) : Option String :=
  match declaration.docstring.filter fun text => !text.isEmpty with
  | some text => some text
  | none =>
    if declaration.comments.isEmpty then none else some ("\n".intercalate declaration.comments)

/-- The entry of the examples: one as it is, several as a list. -/
def exampleField? (examples : List Value) : Option (String × Value) :=
  match examples with
  | [] => none
  | [only] => some ("example", only)
  | examples => some ("examples", .list examples)

/-- The entries of a documentation for keys that are not there yet. -/
def DocComment.entries (doc : DocComment) (descriptionKey : String) (existing : List String) :
    Except Fault Descriptor := do
  let description := (doc.description.filter fun _ => !existing.contains descriptionKey).map
    fun text => (descriptionKey, textLiteral text)
  let isExampleGiven := existing.contains "example" || existing.contains "examples"
  let examples ← match (exampleField? doc.examples).filter fun _ => !isExampleGiven with
    | none => .ok []
    | some (key, value) => pure [(key, ← value.literal)]
  let deprecated :=
    if doc.deprecated && !existing.contains "deprecated" then [("deprecated", boolLiteral true)]
    else []
  return description.toList ++ examples ++ deprecated

def documentationEntries (options : Options) (declaration : Declaration)
    (existing : List String) : Except Fault Descriptor :=
  if options.introspectComments then do
    let doc ← DocComment.parse (declaration.docText?.getD "")
    doc.entries options.dtoKeyOfComment existing
  else .ok []

end ModelMetadata
