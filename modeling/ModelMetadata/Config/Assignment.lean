import ModelMetadata.Config.Check
import ModelMetadata.Literal
import ModelMetadata.Log
import ModelMetadata.Table
import ModelMetadata.Text.Word

/-!
Options as assignments on a command line. The text behind the equals sign is a truth value, a number
when it is written like one, or the text itself. Digits of every script count, and single
underscores may stand between digits.
-/
set_option autoImplicit false
namespace ModelMetadata

open Number

def spanDecimalDigits : List Char → List Nat × List Char
  | [] => ([], [])
  | '_' :: rest => ([], '_' :: rest)
  | c :: rest =>
    match Text.decimalDigit? c with
    | none => ([], c :: rest)
    | some digit =>
      match rest with
      | '_' :: d :: more =>
        if (Text.decimalDigit? d).isSome then
          let (digits, left) := spanDecimalDigits (d :: more)
          (digit :: digits, left)
        else ([digit], rest)
      | rest =>
        let (digits, left) := spanDecimalDigits rest
        (digit :: digits, left)

def decimalValue (digits : List Nat) : Nat := digits.foldl (fun value digit => value * 10 + digit) 0

/-- Whether a minus sign comes first, and what follows a sign. -/
def spanSign : List Char → Bool × List Char
  | '-' :: rest => (true, rest)
  | '+' :: rest => (false, rest)
  | text => (false, text)

def readInteger? (text : String) : Option Int :=
  let (isNegative, rest) := spanSign text.toList
  match spanDecimalDigits rest with
  | ([], _) => none
  | (digits, []) =>
    if digitLimit < digits.length then none
    else some (if isNegative then -(decimalValue digits : Int) else decimalValue digits)
  | _ => none

/-- The exponent that ends a number, zero when there is none. -/
def readExponent? : List Char → Option Int
  | [] => some 0
  | c :: rest =>
    if c == 'e' || c == 'E' then
      let (isNegative, rest) := spanSign rest
      match spanDecimalDigits rest with
      | ([], _) => none
      | (digits, []) =>
        some (if isNegative then -(decimalValue digits : Int) else decimalValue digits)
      | _ => none
    else none

def readFloat? (text : String) : Option Binary64 := do
  let (isNegative, rest) := spanSign text.toList
  let (whole, rest) := spanDecimalDigits rest
  let (fraction, rest) := match rest with
    | '.' :: rest => spanDecimalDigits rest
    | rest => ([], rest)
  if whole.isEmpty && fraction.isEmpty then none
  else
    let exponent ← readExponent? rest
    let value := Binary64.ofDecimal (decimalValue (whole ++ fraction)) (exponent - fraction.length)
    return if isNegative then value.neg else value

def assignedValue (text : String) : ConfigValue :=
  if lowerText text == "true" then .bool true
  else if lowerText text == "false" then .bool false
  else
    let number :=
      if text.contains '.' || text.contains 'e' then (readFloat? text).map ConfigValue.float
      else (readInteger? text).map ConfigValue.int
    number.getD (.text text)

def readAssignment? (item : String) : Option (String × ConfigValue) :=
  let text := item.toList
  let name := text.takeWhile (· != '=')
  match text.drop name.length with
  | [] => none
  | _ :: value =>
    some (String.ofList (Text.trim name), assignedValue (String.ofList (Text.trim value)))

/-- The entries that assignments give; what is none is reported. -/
def readAssignments (items : List String) : Table ConfigValue × List LogRecord :=
  items.foldl (fun (table, log) item =>
    match readAssignment? item with
    | some (name, value) => (Table.insert table name value, log)
    | none =>
      (table, log ++ [.warning ("Ignoring invalid config format: '" ++ item
        ++ "'. Expected 'key=value'.")])) (({} : Table ConfigValue), ([] : List LogRecord))

end ModelMetadata
