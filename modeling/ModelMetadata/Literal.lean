import ModelMetadata.Fault
import ModelMetadata.Value
import ModelMetadata.Text.Lines

/-!
Literals: which value an expression stands for, and which expression is written for a value. A
primitive literal is a plain string, a number that may be negated any number of times, `True` or
`False`. Written literals are canonical: decimal integers, shortest decimals, double quotes.
-/
set_option autoImplicit false
namespace ModelMetadata

open Number Source

/-! ## Strings -/

inductive StringValue where
  | text (value : String)
  | bytes (value : List Nat)
deriving Repr, DecidableEq, Inhabited

def plainLineEnds : List Char → List Char
  | '\r' :: '\n' :: rest => '\n' :: plainLineEnds rest
  | '\r' :: rest => '\n' :: plainLineEnds rest
  | c :: rest => c :: plainLineEnds rest
  | [] => []

/-- The letters before a string token's quotes and the characters between them. -/
def stringParts (token : List Char) : List Char × List Char :=
  let mark := token.takeWhile fun c => c != '"' && c != '\''
  match splitQuote (token.drop mark.length) with
  | some (quote, body) => (mark, body.take (body.length - quote.length))
  | none => (mark, [])

/-- What the characters between the quotes of a string token stand for. Half of a surrogate pair is no
character. -/
def readBody (mark body : List Char) : Except Fault StringValue :=
  if isBytesMark mark then
    if isRawMark mark then
      if body.any fun c => 128 ≤ c.toNat then .error .malformedLiteral
      else .ok (.bytes (body.map Char.toNat))
    else
      match Text.unescapeBytes (body.length + 1) body with
      | some bytes => .ok (.bytes bytes)
      | none => .error .malformedLiteral
  else if isRawMark mark then .ok (.text (String.ofList body))
  else
    match Text.unescape (body.length + 1) body with
    | some codes =>
      match codes.mapM Text.codePoint? with
      | some text => .ok (.text (String.ofList text))
      | none => .error .loneSurrogate
    | none => .error .malformedLiteral

def hasNul (text : String) : Bool := text.toList.contains '\x00'

def readString (token : String) : Except Fault StringValue :=
  match hasNul token with
  | true => .error .malformedLiteral
  | false =>
    let (mark, body) := stringParts token.toList
    readBody mark (plainLineEnds body)

/-- Strings side by side: both of text or both of bytes. -/
def StringValue.append? : StringValue → StringValue → Option StringValue
  | .text x, .text y => some (.text (x ++ y))
  | .bytes x, .bytes y => some (.bytes (x ++ y))
  | _, _ => none

/-- What a string literal stands for; formatted strings and other expressions stand for none. -/
def stringLiteral : Expr → Except Fault (Option StringValue)
  | .string token => some <$> readString token
  | .adjacent (.compound _) _ _ => .ok none
  | .adjacent _ _ (.compound _) => .ok none
  | .adjacent first _ rest => do
    let x ← stringLiteral first
    let y ← stringLiteral rest
    return do (← x).append? (← y)
  | .paren _ inner _ => stringLiteral inner
  | _ => .ok none

def stringValue (e : Expr) : Except Fault (Option String) := do
  match ← stringLiteral e with
  | some (.text value) => return some value
  | _ => return none

/-! ## Numbers -/

def digitsValue (radix : Nat) (digits : List Char) : Nat :=
  digits.foldl (fun value c => value * radix + (Text.hexValue? c).getD 0) 0

/-- What an integer literal stands for. A decimal one must not be overlong. -/
def integerValue (text : String) : Except Fault Int :=
  match text.toList.filter (· != '_') with
  | '0' :: mark :: digits =>
    if mark == 'x' || mark == 'X' then .ok (digitsValue 16 digits)
    else if mark == 'o' || mark == 'O' then .ok (digitsValue 8 digits)
    else if mark == 'b' || mark == 'B' then .ok (digitsValue 2 digits)
    else .ok (digitsValue 10 (mark :: digits))
  | digits =>
    if digitLimit < digits.length then .error .malformedLiteral
    else .ok (digitsValue 10 digits)

def signedDigits (text : List Char) : Int :=
  match text with
  | '-' :: digits => -(digitsValue 10 digits : Int)
  | '+' :: digits => digitsValue 10 digits
  | digits => digitsValue 10 digits

def floatValue (text : String) : Binary64 :=
  let chars := text.toList.filter (· != '_')
  let mantissa := chars.takeWhile fun c => c != 'e' && c != 'E'
  let exponent := signedDigits (chars.drop (mantissa.length + 1))
  let whole := mantissa.takeWhile (· != '.')
  let fraction := mantissa.drop (whole.length + 1)
  Binary64.ofDecimal (digitsValue 10 (whole ++ fraction)) (exponent - fraction.length)

/-! ## Primitive literals -/

def Primitive.negate? : Primitive → Option Primitive
  | .int value => some (.int (-value))
  | .float value => some (.float value.neg)
  | _ => none

/-- The value of a primitive literal, none for any other expression. -/
def literalValue : Expr → Except Fault (Option Primitive)
  | .paren _ inner _ => literalValue inner
  | .integer text => (some ∘ .int) <$> integerValue text
  | .float text => .ok (some (.float (floatValue text)))
  | .unary "-" _ operand => return (← literalValue operand).bind Primitive.negate?
  | .name "True" => .ok (some (.bool true))
  | .name "False" => .ok (some (.bool false))
  | e => return (← stringValue e).map .text

def primitiveKind (e : Expr) : Except Fault (Option String) := do
  match ← literalValue e with
  | some (.bool _) => return some "boolean"
  | some (.int _) => return some "number"
  | some (.float _) => return some "number"
  | some (.text _) => return some "string"
  | none => return none

/-! ## Writing -/

def textLiteral (value : String) : Expr := .string (Text.quote value)

def boolLiteral (value : Bool) : Expr := .name (boolText value)

def negated (isNegative : Bool) (e : Expr) : Expr :=
  if isNegative then .unary "-" [] e else e

/-- The canonical literal of a primitive. Numbers that are not finite have none. -/
def Primitive.literal : Primitive → Except Fault Expr
  | .bool value => .ok (boolLiteral value)
  | .int value =>
    if isOverlong value then .error .overlongInteger
    else .ok (negated (value < 0) (.integer (toString value.natAbs)))
  | .float value =>
    if value.isFinite then .ok (negated value.isBelowZero (.float value.abs.text))
    else .error .invalidNode
  | .text value => .ok (textLiteral value)

def Value.primitiveLiteral : Value → Except Fault Expr
  | .primitive value => value.literal
  | value => .error (.notPrimitive value.display)

mutual

/-- The literal of any value: tuples are written as lists, and what has no literal as its text. -/
def Value.literal : Value → Except Fault Expr
  | .none => .ok (.name "None")
  | .primitive value => value.literal
  | .list items => do return Expr.ofList (← Value.literals items)
  | .tuple items => do return Expr.ofList (← Value.literals items)
  | .dict entries => do return Expr.ofPairs (← Value.entryLiterals entries)
  | value => .ok (textLiteral value.asText)

def Value.literals : List Value → Except Fault (List Expr)
  | [] => .ok []
  | item :: rest => do
    let first ← item.literal
    return first :: (← Value.literals rest)

def Value.entryLiterals : List (Value × Value) → Except Fault (List (Expr × Expr))
  | [] => .ok []
  | (key, value) :: rest => do
    let first ← key.literal
    let second ← value.literal
    return (first, second) :: (← Value.entryLiterals rest)

end

/-- A primitive literal in canonical form, none for any other expression. -/
def canonicalLiteral (e : Expr) : Except Fault (Option Expr) := do
  match ← literalValue e with
  | some value => some <$> value.literal
  | none => return none

/-! ## Values that can be copied -/

mutual

/-- Whether an expression reads nothing: primitive literals, `None`, and lists, tuples, sets and
dicts of such. -/
def isStatic : Expr → Except Fault Bool
  | .paren _ inner _ => isStatic inner
  | .name "None" => .ok true
  | .list entries _ => areStatic entries
  | .set entries _ => areStatic entries
  | .tuple entries => areStatic entries
  | .dict entries _ => areStatic entries
  | e => return (← literalValue e).isSome

def areStatic : List Entry → Except Fault Bool
  | [] => .ok true
  | .mk _ item _ :: rest => do
    if ← isStaticItem item then areStatic rest else return false

def isStaticItem : Item → Except Fault Bool
  | .value e => isStatic e
  | .pair key _ _ e => do
    if ← isStatic key then isStatic e else return false
  | _ => .ok false

end

/-- The text that is the key of a dict entry, none for an unpacked dict or any other key. -/
def entryKey? (item : Item) : Except Fault (Option String) :=
  match item with
  | .pair key _ _ _ => do
    match ← literalValue key with
    | some (.text value) => return some value
    | _ => return none
  | _ => .ok none

end ModelMetadata
