import ModelMetadata.Number.Shortest
import ModelMetadata.Text.Quoted

/-!
Plain values: what a literal of a model stands for. Primitives are the values that a literal type may
hold and that are re-created in canonical form; the other values occur only as documented examples
and as marker arguments.
-/
set_option autoImplicit false
namespace ModelMetadata

open Number

inductive Primitive where
  | bool (value : Bool)
  | int (value : Int)
  | float (value : Binary64)
  | text (value : String)
deriving Repr, DecidableEq, Inhabited

def Primitive.typeName : Primitive → String
  | .bool _ => "bool"
  | .int _ => "int"
  | .float _ => "float"
  | .text _ => "str"

/-- The same value of the same type. The two zeros of the floating point numbers are the same. -/
def Primitive.same : Primitive → Primitive → Bool
  | .bool x, .bool y => x == y
  | .int x, .int y => x == y
  | .float x, .float y => x == y || x.equal y
  | .text x, .text y => x == y
  | _, _ => false

def Primitive.truth : Primitive → Bool
  | .bool value => value
  | .int value => value != 0
  | .float value => !value.isZero
  | .text value => !value.isEmpty

theorem Primitive.same_refl (p : Primitive) : p.same p = true := by
  cases p <;> simp [Primitive.same]

inductive Value where
  | none
  | primitive (value : Primitive)
  | bytes (value : List Nat)
  | complex (re im : Binary64)
  | ellipsis
  | list (items : List Value)
  | tuple (items : List Value)
  | set (items : List Value)
  | dict (entries : List (Value × Value))

instance : Inhabited Value := ⟨.none⟩

/-! ## Display -/

/-- The largest number of decimal digits that an integer is written with. -/
def digitLimit : Nat := 4300

/-- Whether an integer has more decimal digits than are ever written. -/
def isOverlong (value : Int) : Bool :=
  Nat.pow 10 digitLimit ≤ value.natAbs

def boolText (value : Bool) : String := if value then "True" else "False"

def Primitive.display : Primitive → String
  | .bool value => boolText value
  | .int value => toString value
  | .float value => value.text
  | .text value => Text.display value

def complexText (re im : Binary64) : String :=
  if re == Binary64.zero then im.render partFormat ++ "j"
  else
    let sign := if im.negative then "" else "+"
    "(" ++ re.render partFormat ++ sign ++ im.render partFormat ++ "j)"

mutual

/-- The display of a value. The members of a set have no order of their own in a display; they are shown here
in the order in which they were written. -/
def Value.display : Value → String
  | .none => "None"
  | .primitive value => value.display
  | .bytes value => Text.displayBytes value
  | .complex re im => complexText re im
  | .ellipsis => "Ellipsis"
  | .list items => "[" ++ ", ".intercalate (Value.displayAll items) ++ "]"
  | .tuple items =>
    match items with
    | [item] => "(" ++ item.display ++ ",)"
    | items => "(" ++ ", ".intercalate (Value.displayAll items) ++ ")"
  | .set items =>
    if items.isEmpty then "set()"
    else "\x7b" ++ ", ".intercalate (Value.displayAll items) ++ "\x7d"
  | .dict entries => "\x7b" ++ ", ".intercalate (Value.displayEntries entries) ++ "\x7d"

def Value.displayAll : List Value → List String
  | [] => []
  | item :: rest => item.display :: Value.displayAll rest

def Value.displayEntries : List (Value × Value) → List String
  | [] => []
  | (key, value) :: rest =>
    (key.display ++ ": " ++ value.display) :: Value.displayEntries rest

end

/-- The text of a value that no literal is made for: its display, or its text when it is one. -/
def Value.asText : Value → String
  | .primitive (.text value) => value
  | value => value.display

def Value.typeName : Value → String
  | .none => "NoneType"
  | .primitive value => value.typeName
  | .bytes _ => "bytes"
  | .complex _ _ => "complex"
  | .ellipsis => "ellipsis"
  | .list _ => "list"
  | .tuple _ => "tuple"
  | .set _ => "set"
  | .dict _ => "dict"

/-! ## Keys -/

/-- An exact number: an integer or a floating point number that is not a NaN. -/
def numberOf? : Value → Option (Bool × Nat × Int)
  | .primitive (.bool value) => some (false, if value then 1 else 0, 0)
  | .primitive (.int value) => some (value < 0, value.natAbs, 0)
  | .primitive (.float value) =>
    if value.isFinite then
      let (significand, exponent) := value.decode
      some (value.negative, significand, exponent)
    else none
  | .complex re im =>
    if im.isZero && re.isFinite then
      let (significand, exponent) := re.decode
      some (re.negative, significand, exponent)
    else none
  | _ => none

/-- Equality of exact numbers: sign, then magnitude on a common exponent. -/
def sameNumber : Bool × Nat × Int → Bool × Nat × Int → Bool
  | (negative, m, e), (negative', m', e') =>
    if m == 0 || m' == 0 then m == m'
    else
      let low := min e e'
      negative == negative' && m * Nat.pow 2 (e - low).toNat == m' * Nat.pow 2 (e' - low).toNat

mutual

/-- Equality of keys: numbers of all types compare by value. -/
def Value.sameKey : Value → Value → Bool
  | .none, .none => true
  | .ellipsis, .ellipsis => true
  | .primitive (.text x), .primitive (.text y) => x == y
  | .bytes x, .bytes y => x == y
  | .tuple xs, .tuple ys => Value.sameKeys xs ys
  | x, y =>
    match numberOf? x, numberOf? y with
    | some m, some n => sameNumber m n
    | .none, .none =>
      match x, y with
      | .primitive (.float a), .primitive (.float b) => a.equal b
      | .complex a b, .complex c d => a.equal c && b.equal d
      | _, _ => false
    | _, _ => false

def Value.sameKeys : List Value → List Value → Bool
  | [], [] => true
  | x :: xs, y :: ys => x.sameKey y && Value.sameKeys xs ys
  | _, _ => false

end

mutual

/-- Whether a value can be a key: no list, set or dict occurs in it. -/
def Value.isHashable : Value → Bool
  | .list _ => false
  | .set _ => false
  | .dict _ => false
  | .tuple items => Value.areHashable items
  | _ => true

def Value.areHashable : List Value → Bool
  | [] => true
  | item :: rest => item.isHashable && Value.areHashable rest

end

/-- The entries with one more; an equal key keeps its first spelling and its place. -/
def Value.insertEntry (entries : List (Value × Value)) (key value : Value) : List (Value × Value) :=
  match entries with
  | [] => [(key, value)]
  | (found, old) :: rest =>
    if found.sameKey key then (found, value) :: rest
    else (found, old) :: Value.insertEntry rest key value

def Value.insertItem (items : List Value) (item : Value) : List Value :=
  if items.any fun found => found.sameKey item then items else items ++ [item]

end ModelMetadata
