import ModelMetadata.Example
import ModelMetadata.Text.Word

/-!
Documentation of properties. A text is prose and fields: a field is a line that begins with a tag
between colons. Examples and a deprecation are taken from the fields, other fields are dropped, and
the remaining lines are the description.
-/
set_option autoImplicit false
namespace ModelMetadata

structure DocComment where
  description : Option String := none
  examples : List Value := []
  deprecated : Bool := false
  deprecationReason : Option String := none
deriving Inhabited

def nonempty (text : String) : Option String := if text.isEmpty then none else some text

/-- Whether a text can be a tag: an ASCII letter or an underscore, then word characters and
hyphens. -/
def isTag : List Char → Bool
  | [] => false
  | c :: rest => (c.isAlpha || c == '_') && rest.all fun c => Text.isWordChar c || c == '-'

def fieldOf? (line : List Char) : Option (String × String) :=
  match line with
  | ':' :: rest =>
    let tag := rest.takeWhile (· != ':')
    match rest.drop tag.length with
    | ':' :: value =>
      if isTag tag then some (String.ofList tag, String.ofList (Text.trim value)) else none
    | _ => none
  | _ => none

/-- What one line adds to the prose lines and the fields before it. -/
def readDocLine (prose : List (List Char)) (doc : DocComment) (line : List Char) :
    Except Fault (List (List Char) × DocComment) :=
  match fieldOf? (Text.trim line) with
  | none => .ok (prose ++ [Text.trimRight line], doc)
  | some (tag, value) =>
    if tag == "example" then do
      let found ← exampleValue value
      return (prose, { doc with examples := doc.examples ++ [found] })
    else if tag == "deprecated" then
      .ok (prose, { doc with deprecated := true, deprecationReason := nonempty value })
    else .ok (prose, doc)

def DocComment.parse (text : String) : Except Fault DocComment := do
  let lines := Text.splitLines (Text.dropMargin text.toList)
  let (prose, doc) ← lines.foldlM (fun (prose, doc) line => readDocLine prose doc line)
    (([] : List (List Char)), ({} : DocComment))
  let description := String.ofList (Text.trim (Text.joinLines prose))
  return { doc with description := nonempty description }

end ModelMetadata
