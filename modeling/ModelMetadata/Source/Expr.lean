import ModelMetadata.Source.Token

/-!
Expressions as written. A tree holds every token of its expression and the gaps between them, but
neither the gap before its first token nor the one after its last: an expression can be copied to
another place and is printed there with that place's indentation and line ends.

The forms that the description of a property looks into have constructors of their own. All others
(comparisons, conditionals, comprehensions, awaited and yielded values, named and formatted ones)
are compounds, whose parts still show which names are read.
-/
set_option autoImplicit false
namespace ModelMetadata.Source

mutual

inductive Expr where
  | name (text : String)
  | integer (text : String)
  | float (text : String)
  | imaginary (text : String)
  | ellipsis
  /-- A single string token with its prefix letters and quotes. -/
  | string (text : String)
  /-- Strings joined by standing side by side. -/
  | adjacent (first : Expr) (gap : Gap) (rest : Expr)
  | attribute (owner : Expr) (beforeDot afterDot : Gap) (attr : String)
  | subscript (owner : Expr) (beforeOpen : Gap) (entries : List Entry) (beforeClose : Gap)
  | call (callee : Expr) (beforeOpen : Gap) (entries : List Entry) (beforeClose : Gap)
  | unary (op : String) (gap : Gap) (operand : Expr)
  | binary (left : Expr) (beforeOp : Gap) (op : String) (afterOp : Gap) (right : Expr)
  | list (entries : List Entry) (beforeClose : Gap)
  | set (entries : List Entry) (beforeClose : Gap)
  | dict (entries : List Entry) (beforeClose : Gap)
  /-- Entries without brackets of their own; parentheses around them are a `paren`. -/
  | tuple (entries : List Entry)
  /-- The header runs from the keyword to the colon. -/
  | lambda (header : List Word) (gap : Gap) (body : Expr)
  | paren (afterOpen : Gap) (inner : Expr) (beforeClose : Gap)
  | compound (parts : List Part)

/-- A member of a comma separated list: the gap before it and, when a comma follows, the gap before
the comma. -/
inductive Entry where
  | mk (before : Gap) (item : Item) (comma : Option Gap)

inductive Item where
  | value (value : Expr)
  /-- An unpacked value, behind one star or two. -/
  | star (stars : String) (gap : Gap) (value : Expr)
  | keyword (name : String) (beforeEq afterEq : Gap) (value : Expr)
  | pair (key : Expr) (beforeColon afterColon : Gap) (value : Expr)
  | slice (parts : List Part)

/-- A part of a compound: a token, or an expression and the gap before it. -/
inductive Part where
  | word (word : Word)
  | expr (gap : Gap) (value : Expr)

end

instance : Inhabited Expr := ⟨.ellipsis⟩
instance : Inhabited Item := ⟨.value .ellipsis⟩
instance : Inhabited Entry := ⟨.mk [] default none⟩
instance : Inhabited Part := ⟨.word default⟩

def Entry.before : Entry → Gap
  | .mk before _ _ => before

def Entry.item : Entry → Item
  | .mk _ item _ => item

def Entry.comma : Entry → Option Gap
  | .mk _ _ comma => comma

/-! ## Printing -/

def Gap.renderComma (page : Page) : Option Gap → String
  | some gap => Gap.render page gap ++ ","
  | none => ""

mutual

def Expr.render (page : Page) : Expr → String
  | .name text => text
  | .integer text => text
  | .float text => text
  | .imaginary text => text
  | .ellipsis => "..."
  | .string text => text
  | .adjacent first gap rest => first.render page ++ Gap.render page gap ++ rest.render page
  | .attribute owner beforeDot afterDot attr =>
    owner.render page ++ Gap.render page beforeDot ++ "." ++ Gap.render page afterDot ++ attr
  | .subscript owner beforeOpen entries beforeClose =>
    owner.render page ++ Gap.render page beforeOpen ++ "[" ++ Entry.renderAll page entries
      ++ Gap.render page beforeClose ++ "]"
  | .call callee beforeOpen entries beforeClose =>
    callee.render page ++ Gap.render page beforeOpen ++ "(" ++ Entry.renderAll page entries
      ++ Gap.render page beforeClose ++ ")"
  | .unary op gap operand => op ++ Gap.render page gap ++ operand.render page
  | .binary left beforeOp op afterOp right =>
    left.render page ++ Gap.render page beforeOp ++ op ++ Gap.render page afterOp
      ++ right.render page
  | .list entries beforeClose =>
    "[" ++ Entry.renderAll page entries ++ Gap.render page beforeClose ++ "]"
  | .set entries beforeClose =>
    "\x7b" ++ Entry.renderAll page entries ++ Gap.render page beforeClose ++ "\x7d"
  | .dict entries beforeClose =>
    "\x7b" ++ Entry.renderAll page entries ++ Gap.render page beforeClose ++ "\x7d"
  | .tuple entries => Entry.renderAll page entries
  | .lambda header gap body =>
    Word.renderAll page header ++ Gap.render page gap ++ body.render page
  | .paren afterOpen inner beforeClose =>
    "(" ++ Gap.render page afterOpen ++ inner.render page ++ Gap.render page beforeClose ++ ")"
  | .compound parts => Part.renderAll page parts

def Entry.render (page : Page) : Entry → String
  | .mk before item comma =>
    Gap.render page before ++ item.render page ++ Gap.renderComma page comma

def Entry.renderAll (page : Page) : List Entry → String
  | [] => ""
  | entry :: rest => entry.render page ++ Entry.renderAll page rest

def Item.render (page : Page) : Item → String
  | .value e => e.render page
  | .star stars gap e => stars ++ Gap.render page gap ++ e.render page
  | .keyword name beforeEq afterEq e =>
    name ++ Gap.render page beforeEq ++ "=" ++ Gap.render page afterEq ++ e.render page
  | .pair key beforeColon afterColon e =>
    key.render page ++ Gap.render page beforeColon ++ ":" ++ Gap.render page afterColon
      ++ e.render page
  | .slice parts => Part.renderAll page parts

def Part.render (page : Page) : Part → String
  | .word word => word.render page
  | .expr gap e => Gap.render page gap ++ e.render page

def Part.renderAll (page : Page) : List Part → String
  | [] => ""
  | part :: rest => part.render page ++ Part.renderAll page rest

end

def Expr.text (e : Expr) : String := e.render {}

/-! ## Building -/

/-- Members of a list one after the other, with a comma and a space between them. -/
def Entry.ofItems : List Item → List Entry
  | [] => []
  | item :: rest => go item rest []
where
  go (item : Item) (rest : List Item) (before : Gap) : List Entry :=
    match rest with
    | [] => [.mk before item none]
    | next :: rest => .mk before item (some []) :: go next rest Gap.space

def Expr.ofList (values : List Expr) : Expr :=
  .list (Entry.ofItems (values.map Item.value)) []

def Expr.ofPairs (pairs : List (Expr × Expr)) : Expr :=
  .dict (Entry.ofItems (pairs.map fun (key, value) => .pair key [] Gap.space value)) []

def Expr.thunk (body : Expr) : Expr :=
  .lambda [⟨[], "lambda"⟩, ⟨[], ":"⟩] Gap.space body

/-- `owner.attr` without gaps. -/
def Expr.member (owner : Expr) (attr : String) : Expr :=
  .attribute owner [] [] attr

/-! ## Reading -/

def Expr.bare : Expr → Expr
  | .paren _ inner _ => inner.bare
  | e => e

/-- The dotted name that an expression spells, empty when it spells none. -/
def Expr.dottedName : Expr → String
  | .name text => text
  | .attribute owner _ _ attr =>
    let base := owner.dottedName
    if base.isEmpty then "" else base ++ "." ++ attr
  | .paren _ inner _ => inner.dottedName
  | _ => ""

def Expr.callee (e : Expr) : Expr :=
  match e.bare with
  | .call callee _ _ _ => callee
  | other => other

def Expr.isName (e : Expr) (text : String) : Bool :=
  match e.bare with
  | .name found => found == text
  | _ => false

def lastSegment (dotted : String) : String :=
  String.ofList (dotted.toList.reverse.takeWhile (· != '.')).reverse

/-- The last identifier of a dotted name or of the callee of a call, empty when there is none. -/
def Expr.lastName (e : Expr) : String := lastSegment e.callee.dottedName

/-- The value of an index, with or without a star; slices have none. -/
def Item.index? : Item → Option Expr
  | .value e => some e
  | .star _ _ e => some e
  | _ => none

def Entry.indices (entries : List Entry) : List Expr :=
  entries.filterMap fun entry => entry.item.index?

def Expr.bar? (e : Expr) : Option (Expr × Expr) :=
  match e.bare with
  | .binary left _ "|" _ right => some (left, right)
  | _ => none

/-- Positional arguments: neither keywords nor unpacked values. -/
def Entry.positional (entries : List Entry) : List Expr :=
  entries.filterMap fun entry =>
    match entry.item with
    | .value e => some e
    | _ => none

def Item.keyword? : Item → Option (String × Expr)
  | .keyword name _ _ e => some (name, e)
  | _ => none

def Entry.keywords (entries : List Entry) : List (String × Expr) :=
  entries.filterMap fun entry => entry.item.keyword?

def Item.argument : Item → Option Expr
  | .value e => some e
  | .star _ _ e => some e
  | .keyword _ _ _ e => some e
  | _ => none

mutual

/-- The names that evaluating an expression reads. Attribute names, keywords and the parameters of a
function are not among them, the body of a function is. -/
def Expr.namesRead : Expr → List String
  | .name text => [text]
  | .integer _ | .float _ | .imaginary _ | .ellipsis | .string _ => []
  | .adjacent first _ rest => first.namesRead ++ rest.namesRead
  | .attribute owner _ _ _ => owner.namesRead
  | .subscript owner _ entries _ => owner.namesRead ++ Entry.namesRead entries
  | .call callee _ entries _ => callee.namesRead ++ Entry.namesRead entries
  | .unary _ _ operand => operand.namesRead
  | .binary left _ _ _ right => left.namesRead ++ right.namesRead
  | .list entries _ => Entry.namesRead entries
  | .set entries _ => Entry.namesRead entries
  | .dict entries _ => Entry.namesRead entries
  | .tuple entries => Entry.namesRead entries
  | .lambda _ _ body => body.namesRead
  | .paren _ inner _ => inner.namesRead
  | .compound parts => Part.namesRead parts

def Entry.namesRead : List Entry → List String
  | [] => []
  | .mk _ item _ :: rest => item.namesRead ++ Entry.namesRead rest

def Item.namesRead : Item → List String
  | .value e => e.namesRead
  | .star _ _ e => e.namesRead
  | .keyword _ _ _ e => e.namesRead
  | .pair key _ _ e => key.namesRead ++ e.namesRead
  | .slice parts => Part.namesRead parts

def Part.namesRead : List Part → List String
  | [] => []
  | .word _ :: rest => Part.namesRead rest
  | .expr _ e :: rest => e.namesRead ++ Part.namesRead rest

end

end ModelMetadata.Source
