import ModelMetadata.Literal

/-!
Documented examples. The text of an example is read as a literal: a string, a number, a truth value,
`None`, an ellipsis, a sum of a real and an imaginary number, or a display of such. Any other text
is an example by itself. Displays are evaluated from left to right, and the first thing that is no
literal, or no key, ends the evaluation.
-/
set_option autoImplicit false
namespace ModelMetadata

open Number Source

inductive ExampleFault where
  | notLiteral
  | loneSurrogate
  /-- A key cannot be one. -/
  | unhashable
  | numberTooLarge
deriving Repr, DecidableEq, Inhabited

/-! ## Numbers -/

def numberLiteral : Expr → Except ExampleFault Value
  | .paren _ inner _ => numberLiteral inner
  | .integer text =>
    match integerValue text with
    | .ok value => .ok (.primitive (.int value))
    | .error _ => .error .notLiteral
  | .float text => .ok (.primitive (.float (floatValue text)))
  | .imaginary text =>
    .ok (.complex Binary64.zero (floatValue (text.dropEnd 1).toString))
  | _ => .error .notLiteral

def Value.negated : Value → Except ExampleFault Value
  | .primitive (.int value) => .ok (.primitive (.int (-value)))
  | .primitive (.float value) => .ok (.primitive (.float value.neg))
  | .complex re im => .ok (.complex re.neg im.neg)
  | _ => .error .notLiteral

def signedLiteral : Expr → Except ExampleFault Value
  | .paren _ inner _ => signedLiteral inner
  | .unary op _ operand => do
    let value ← numberLiteral operand
    if op == "-" then value.negated
    else if op == "+" then return value
    else throw .notLiteral
  | e => numberLiteral e

/-- A real number as a floating point number; integers must not be too large for one. -/
def realPart? : Value → Except ExampleFault Binary64
  | .primitive (.int value) =>
    let magnitude := Binary64.ofDecimal value.natAbs 0
    if magnitude.isFinite then .ok (if value < 0 then magnitude.neg else magnitude)
    else .error .numberTooLarge
  | .primitive (.float value) => .ok value
  | _ => .error .notLiteral

def plusZero (x : Binary64) : Binary64 := if x.isZero then Binary64.zero else x

def complexSum (isSum : Bool) (left right : Value) : Except ExampleFault Value := do
  match right with
  | .complex _ im =>
    let re ← realPart? left
    if isSum then return .complex (plusZero re) (plusZero im)
    else return .complex re (plusZero im.neg)
  | _ => throw .notLiteral

/-! ## Evaluation -/

def insertHashable (items : List Value) (item : Value) : Except ExampleFault (List Value) :=
  if item.isHashable then .ok (Value.insertItem items item) else .error .unhashable

def insertHashableEntry (entries : List (Value × Value)) (key value : Value) :
    Except ExampleFault (List (Value × Value)) :=
  if key.isHashable then .ok (Value.insertEntry entries key value) else .error .unhashable

def scalarLiteral (e : Expr) : Except ExampleFault Value :=
  match stringLiteral e with
  | .ok (some (.text value)) => .ok (.primitive (.text value))
  | .ok (some (.bytes value)) => .ok (.bytes value)
  | .error .loneSurrogate => .error .loneSurrogate
  | _ => numberLiteral e

mutual

def evaluate : Expr → Except ExampleFault Value
  | .paren _ inner _ => evaluate inner
  | .name "None" => .ok .none
  | .name "True" => .ok (.primitive (.bool true))
  | .name "False" => .ok (.primitive (.bool false))
  | .ellipsis => .ok .ellipsis
  | .list entries _ => .list <$> evaluateAll entries
  | .tuple entries => .tuple <$> evaluateAll entries
  | .set entries _ => .set <$> evaluateSet [] entries
  | .dict entries _ => .dict <$> evaluateDict [] entries
  | .call callee _ [] _ =>
    if callee.isName "set" then .ok (.set []) else .error .notLiteral
  | .binary left _ op _ right =>
    if op == "+" || op == "-" then do
      let x ← signedLiteral left
      let y ← numberLiteral right
      complexSum (op == "+") x y
    else .error .notLiteral
  | .unary op gap operand => signedLiteral (.unary op gap operand)
  | e => scalarLiteral e

def evaluateAll : List Entry → Except ExampleFault (List Value)
  | [] => .ok []
  | .mk _ (.value e) _ :: rest => do
    let first ← evaluate e
    return first :: (← evaluateAll rest)
  | _ => .error .notLiteral

def evaluateSet (items : List Value) : List Entry → Except ExampleFault (List Value)
  | [] => .ok items
  | .mk _ (.value e) _ :: rest => do
    let item ← evaluate e
    evaluateSet (← insertHashable items item) rest
  | _ => .error .notLiteral

def evaluateDict (entries : List (Value × Value)) :
    List Entry → Except ExampleFault (List (Value × Value))
  | [] => .ok entries
  | .mk _ (.pair key _ _ e) _ :: rest => do
    let key ← evaluate key
    let value ← evaluate e
    evaluateDict (← insertHashableEntry entries key value) rest
  | _ => .error .notLiteral

end

/-- The value of an example's text: of the literal that it is, else the text itself. -/
def exampleValue (text : String) : Except Fault Value :=
  match hasNul text, Expr.parse text with
  | true, _ => .ok (.primitive (.text text))
  | false, .error _ => .ok (.primitive (.text text))
  | false, .ok e =>
    match evaluate e with
    | .ok value => .ok value
    | .error .notLiteral => .ok (.primitive (.text text))
    | .error .loneSurrogate => .error .loneSurrogate
    | .error .unhashable => .error .unhashable
    | .error .numberTooLarge => .error .numberTooLarge

end ModelMetadata
