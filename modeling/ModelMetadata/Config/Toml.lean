import ModelMetadata.Config.Value
import ModelMetadata.Literal

/-!
Configuration files in TOML. A document is a list of lines: assignments of values to dotted keys, and
headers that open a table or append one to an array. A table can be opened once, a value is never
overwritten, and what was written as an inline table or an array cannot be added to. Reading stops at the
first place that is no TOML, and at an integer that is too long to be evaluated.
-/
set_option autoImplicit false
namespace ModelMetadata.Toml

open Number

inductive Refusal where
  /-- The text does not follow the grammar. -/
  | malformed
  /-- A decimal integer has too many digits to be evaluated. -/
  | overlongInteger
deriving Repr, DecidableEq, Inhabited

/-- A part of a text read from its front, and what is left. -/
abbrev Reader (α : Type) := StateT (List Char) (Except Refusal) α

def malformed {α : Type} : Reader α := throw .malformed

def wanted {α : Type} (found : Option α) : Reader α := found.elim malformed pure

abbrev Key := List String

/-! ## Characters -/

def isBlank (c : Char) : Bool := c == ' ' || c == '\t'

def isBlankOrEnd (c : Char) : Bool := isBlank c || c == '\n'

def isControl (c : Char) : Bool := (c.toNat < 32 && c != '\t') || c.toNat == 127

def isBareKeyChar (c : Char) : Bool := c.isAlphanum || c == '-' || c == '_'

def peek : Reader (Option Char) := fun text => .ok (text.head?, text)

def skip (isSkipped : Char → Bool) : Reader Unit := fun text =>
  .ok ((), text.dropWhile isSkipped)

def token (expected : String) : Reader Unit := fun text =>
  if expected.toList.isPrefixOf text then .ok ((), text.drop expected.length) else .error .malformed

def token? (expected : String) : Reader Bool := fun text =>
  .ok (if expected.toList.isPrefixOf text then (true, text.drop expected.length) else (false, text))

/-- The characters before the next occurrence of a mark, which is taken with them. -/
def upTo (mark : List Char) : List Char → Option (List Char × List Char)
  | [] => none
  | c :: rest =>
    if mark.isPrefixOf (c :: rest) then some ([], (c :: rest).drop mark.length)
    else (upTo mark rest).map fun (found, left) => (c :: found, left)

/-- A comment, if one comes next; its line end is left. -/
def comment : Reader Unit := fun text =>
  match text with
  | '#' :: rest =>
    let found := rest.takeWhile (· != '\n')
    if found.any isControl then .error .malformed else .ok ((), rest.drop found.length)
  | _ => .ok ((), text)

def skipLines : Nat → Reader Unit
  | 0 => pure ()
  | fuel + 1 => do
    let before ← get
    skip isBlankOrEnd
    comment
    let after ← get
    if after.length < before.length then skipLines fuel else pure ()

/-! ## Strings -/

def escapes : List (Char × Char) :=
  [('b', '\x08'), ('t', '\t'), ('n', '\n'), ('f', '\x0c'), ('r', '\r'), ('"', '"'), ('\\', '\\')]

/-- The character of exactly `count` hexadecimal digits. -/
def hexChar (count : Nat) : Reader Char := do
  let (value, rest) ← wanted (Text.hexRun count 0 (← get))
  set rest
  wanted (Text.codePoint? value)

/-- What stands after a backslash. A line end, with blanks before it, joins lines in a string of many
lines. -/
def escape (manyLines : Bool) : Reader (List Char) := fun text =>
  match text with
  | [] => .error .malformed
  | c :: rest =>
    if manyLines && isBlankOrEnd c then
      match (c :: rest).dropWhile isBlank with
      | [] => .ok ([], [])
      | '\n' :: rest => .ok ([], rest.dropWhile isBlankOrEnd)
      | _ => .error .malformed
    else if c == 'u' then ((hexChar 4).map fun c => [c]) rest
    else if c == 'U' then ((hexChar 8).map fun c => [c]) rest
    else ((wanted (escapes.lookup c)).map fun found => [found]) rest

def basicBody (manyLines : Bool) : Nat → Reader (List Char)
  | 0 => malformed
  | fuel + 1 => do
    let text ← get
    match text with
    | [] => malformed
    | '"' :: rest =>
      if !manyLines then set rest; return []
      else if ← token? "\"\"\"" then return []
      else set rest; return '"' :: (← basicBody manyLines fuel)
    | '\\' :: rest =>
      set rest
      let found ← escape manyLines
      return found ++ (← basicBody manyLines fuel)
    | c :: rest =>
      if isControl c && !(manyLines && c == '\n') then malformed
      else set rest; return c :: (← basicBody manyLines fuel)

def literalBody (mark : String) : Reader (List Char) := do
  let (found, rest) ← wanted (upTo mark.toList (← get))
  let manyLines := 1 < mark.length
  if found.any fun c => isControl c && !(manyLines && c == '\n') then malformed
  else set rest; return found

/-- Up to two quotes that still belong to a string of many lines. -/
def extraQuotes (quote : String) : Reader (List Char) := do
  if ← token? quote then
    if ← token? quote then return quote.toList ++ quote.toList else return quote.toList
  else return []

def basicString : Reader String := do
  token "\""
  let text ← get
  return String.ofList (← basicBody false (text.length + 1))

def literalString : Reader String := do
  token "'"
  return String.ofList (← literalBody "'")

def manyLineString (quote : String) : Reader String := do
  token (quote ++ quote ++ quote)
  let _ ← token? "\n"
  let text ← get
  let body ←
    if quote == "'" then literalBody "'''" else basicBody true (text.length + 1)
  return String.ofList (body ++ (← extraQuotes quote))

/-! ## Keys -/

def keyPart : Reader String := do
  match ← peek with
  | some '"' => basicString
  | some '\'' => literalString
  | some c =>
    if isBareKeyChar c then
      let text ← get
      skip isBareKeyChar
      return String.ofList (text.takeWhile isBareKeyChar)
    else malformed
  | none => malformed

def keyRest : Nat → Reader Key
  | 0 => return []
  | fuel + 1 => do
    skip isBlank
    if ← token? "." then
      skip isBlank
      let part ← keyPart
      return part :: (← keyRest fuel)
    else return []

def key : Reader Key := do
  let first ← keyPart
  let text ← get
  return first :: (← keyRest text.length)

/-! ## Dates and times -/

/-- Exactly `count` digits as a number. -/
def digits (count : Nat) : Reader Nat := fun text =>
  let found := text.take count
  if found.length == count && found.all Char.isDigit then
    .ok (digitsValue 10 found, text.drop count)
  else .error .malformed

def ensure (holds : Bool) : Reader Unit := if holds then pure () else malformed

def attempt (α : Type) (reader : Reader α) : Reader (Option α) := fun text =>
  match reader text with
  | .ok (a, rest) => .ok (some a, rest)
  | .error .malformed => .ok (none, text)
  | .error refusal => .error refusal

def timeOfDay : Reader Unit := do
  let hour ← digits 2
  token ":"
  let minute ← digits 2
  token ":"
  let second ← digits 2
  ensure (hour < 24 && minute < 60 && second < 60)
  let _ ← attempt Unit do
    token "."
    let _ ← digits 1
    skip Char.isDigit

def offset : Reader Unit := do
  match ← peek with
  | some 'Z' => token "Z"
  | some 'z' => token "z"
  | some c =>
    ensure (c == '+' || c == '-')
    token (String.singleton c)
    let hour ← digits 2
    token ":"
    let minute ← digits 2
    ensure (hour < 24 && minute < 60)
  | none => malformed

def isLeapYear (year : Nat) : Bool := year % 4 == 0 && (year % 100 != 0 || year % 400 == 0)

def daysIn (year month : Nat) : Nat :=
  if month == 2 then (if isLeapYear year then 29 else 28)
  else if [4, 6, 9, 11].contains month then 30
  else 31

/-- A date whose parts are in range; the answer tells whether the month has the day. -/
def date : Reader Bool := do
  let year ← digits 4
  token "-"
  let month ← digits 2
  token "-"
  let day ← digits 2
  ensure (1 ≤ month && month ≤ 12 && 1 ≤ day && day ≤ 31)
  return 1 ≤ year && day ≤ daysIn year month

def dateTime : Reader Bool := do
  let exists? ← date
  let _ ← attempt Unit do
    match ← peek with
    | some c => ensure (c == 'T' || c == 't' || c == ' '); token (String.singleton c)
    | none => malformed
    timeOfDay
    let _ ← attempt Unit offset
  return exists?

/-! ## Numbers -/

def digitRun (isDigit : Char → Bool) : List Char → List Char × List Char
  | c :: '_' :: d :: rest =>
    if isDigit c then
      if isDigit d then
        let (found, left) := digitRun isDigit (d :: rest)
        (c :: found, left)
      else ([c], '_' :: d :: rest)
    else ([], c :: '_' :: d :: rest)
  | c :: rest =>
    if isDigit c then
      let (found, left) := digitRun isDigit rest
      (c :: found, left)
    else ([], c :: rest)
  | [] => ([], [])

def someDigits (isDigit : Char → Bool) : Reader (List Char) := fun text =>
  match digitRun isDigit text with
  | ([], _) => .error .malformed
  | found => .ok found

def radixNumber : Reader ConfigValue := do
  token "0"
  match ← peek with
  | some 'x' =>
    token "x"
    return .int (digitsValue 16 (← someDigits fun c => (Text.hexValue? c).isSome))
  | some 'o' => token "o"; return .int (digitsValue 8 (← someDigits Text.isOctal))
  | some 'b' => token "b"; return .int (digitsValue 2 (← someDigits fun c => c == '0' || c == '1'))
  | _ => malformed

def sign : Reader Bool := do
  if ← token? "-" then return true
  else
    let _ ← token? "+"
    return false

def wholeDigits : Reader (List Char) := do
  if ← token? "0" then return ['0'] else someDigits Char.isDigit

def decimalNumber : Reader ConfigValue := do
  let isNegative ← sign
  let whole ← wholeDigits
  let fraction ← attempt (List Char) do
    token "."
    someDigits Char.isDigit
  let exponent ← attempt Int do
    match ← peek with
    | some c => ensure (c == 'e' || c == 'E'); token (String.singleton c)
    | none => malformed
    let isBelow ← sign
    let found ← someDigits Char.isDigit
    let value : Int := digitsValue 10 found
    return if isBelow then -value else value
  match fraction, exponent with
  | none, none =>
    if digitLimit < whole.length then throw .overlongInteger
    let value : Int := digitsValue 10 whole
    return .int (if isNegative then -value else value)
  | _, _ =>
    let fraction := fraction.getD []
    let value := Binary64.ofDecimal (digitsValue 10 (whole ++ fraction))
      (exponent.getD 0 - fraction.length)
    return .float (if isNegative then value.neg else value)

def specialNumber : Reader ConfigValue := do
  let isNegative ← sign
  let value ←
    if ← token? "inf" then pure Binary64.infinity
    else do
      token "nan"
      pure Binary64.notANumber
  return .float (if isNegative then value.neg else value)

/-! ## Tables -/

abbrev Entries := List (String × ConfigValue)

def alter (name : String) (change : Option ConfigValue → Option ConfigValue) :
    Entries → Option Entries
  | [] => (change none).map fun value => [(name, value)]
  | (found, value) :: rest =>
    if found = name then (change (some value)).map fun value => (found, value) :: rest
    else (alter name change rest).map ((found, value) :: ·)

/-- Changes the table behind a key, which is made when it is missing. Of an array of tables the last
one is meant, unless arrays are closed. Anything else behind the key is in the way. -/
def changeTable (openArrays : Bool) (change : Entries → Option Entries) :
    Key → Entries → Option Entries
  | [], entries => change entries
  | part :: rest, entries =>
    alter part (fun found =>
      match found with
      | none => ConfigValue.table <$> changeTable openArrays change rest []
      | some (.table inner) => ConfigValue.table <$> changeTable openArrays change rest inner
      | some (.array items) =>
        match openArrays, items.getLast? with
        | true, some (.table inner) => do
          let last ← changeTable openArrays change rest inner
          return .array (items.dropLast ++ [.table last])
        | _, _ => none
      | some _ => none) entries

def enterNew (name : String) (value : ConfigValue) : Entries → Option Entries :=
  alter name fun found => if found.isSome then none else some value

def appendTable (name : String) : Entries → Option Entries :=
  alter name fun found =>
    match found with
    | none => some (.array [.table []])
    | some (.array items) => some (.array (items ++ [.table []]))
    | some _ => none

/-- What a key was declared as. -/
inductive Mark where
  /-- A table that cannot be opened again. -/
  | opened
  /-- A value that, like everything below it, cannot be added to. -/
  | closed
deriving Repr, DecidableEq, Inhabited

abbrev Marks := List (Key × Mark)

/-- Whether a key or, for closed values, a key above it has a mark. -/
def Marks.has (marks : Marks) (key : Key) (mark : Mark) : Bool :=
  !key.isEmpty && marks.any fun (found, m) =>
    m == mark && (found == key || (m == .closed && found.isPrefixOf key))

def Marks.clear (marks : Marks) (key : Key) : Marks :=
  marks.filter fun (found, _) => !key.isPrefixOf found

def isContainer : ConfigValue → Bool
  | .array _ => true
  | .table _ => true
  | _ => false

def addInline (marks : Marks) (entries : Entries) (key : Key) (value : ConfigValue) :
    Option Entries :=
  if marks.has key .closed then none
  else changeTable false (enterNew (key.getLast?.getD "") value) key.dropLast entries

/-! ## Values -/

mutual

/-- Reads a value; `fuel` bounds the depth and the number of values in it. -/
def value : Nat → Reader ConfigValue
  | 0 => malformed
  | fuel + 1 => do
    let text ← get
    match text with
    | '"' :: '"' :: '"' :: _ => return .text (← manyLineString "\"")
    | '"' :: _ => return .text (← basicString)
    | '\'' :: '\'' :: '\'' :: _ => return .text (← manyLineString "'")
    | '\'' :: _ => return .text (← literalString)
    | '[' :: rest =>
      set rest
      skipLines text.length
      return .array (← arrayItems fuel)
    | '\x7b' :: rest =>
      set rest
      skip isBlank
      if ← token? "\x7d" then return .table [] else return .table (← inlineEntries fuel [] [])
    | _ =>
      if ← token? "true" then return .bool true
      else if ← token? "false" then return .bool false
      else
        match ← attempt Bool dateTime with
        | some isDate => do
          ensure isDate
          let rest ← get
          return .moment (String.ofList (text.take (text.length - rest.length)))
        | none =>
          match ← attempt Unit timeOfDay with
          | some _ => do
            let rest ← get
            return .moment (String.ofList (text.take (text.length - rest.length)))
          | none =>
            match ← attempt ConfigValue radixNumber with
            | some found => return found
            | none =>
              match ← attempt ConfigValue decimalNumber with
              | some found => return found
              | none => specialNumber

/-- The items of an array, from the first one or the closing bracket on. -/
def arrayItems : Nat → Reader (List ConfigValue)
  | 0 => malformed
  | fuel + 1 => do
    if ← token? "]" then return []
    else
      let item ← value fuel
      let text ← get
      skipLines text.length
      if ← token? "]" then return [item]
      else
        token ","
        skipLines text.length
        return item :: (← arrayItems fuel)

def inlineEntries : Nat → Marks → Entries → Reader Entries
  | 0, _, _ => malformed
  | fuel + 1, marks, entries => do
    let name ← key
    token "="
    skip isBlank
    let found ← value fuel
    let entries ← wanted (addInline marks entries name found)
    skip isBlank
    if ← token? "\x7d" then return entries
    else
      token ","
      skip isBlank
      inlineEntries fuel (if isContainer found then (name, .closed) :: marks else marks) entries

end

/-! ## Documents -/

structure Document where
  entries : Entries := []
  marks : Marks := []
  /-- Keys that are marked as opened once the next header comes. -/
  pending : List Key := []
  /-- The table that assignments go to. -/
  header : Key := []
deriving Inhabited

def ways (key : Key) : List Key :=
  (List.range (key.length - 1)).map fun n => key.take (n + 1)

/-- The document with a value assigned below the current header. A table that a dotted key passes
through must not have been opened by a header. -/
def Document.assign (document : Document) (key : Key) (value : ConfigValue) : Option Document :=
  let passed := (ways key).map (document.header ++ ·)
  let parent := document.header ++ key.dropLast
  if passed.any fun way => document.marks.has way .opened then none
  else if document.marks.has parent .closed then none
  else do
    let entries ← changeTable true (enterNew (key.getLast?.getD "") value) parent document.entries
    let marks :=
      if isContainer value then (document.header ++ key, Mark.closed) :: document.marks
      else document.marks
    return { document with entries, marks, pending := passed ++ document.pending }

def Document.settle (document : Document) : Document :=
  { document with
    marks := document.pending.map (fun way => (way, Mark.opened)) ++ document.marks
    pending := [] }

def Document.openTable (document : Document) (key : Key) : Option Document :=
  if document.marks.has key .opened || document.marks.has key .closed then none
  else do
    let entries ← changeTable true some key document.entries
    return { document with entries, marks := (key, Mark.opened) :: document.marks, header := key }

def Document.openItem (document : Document) (key : Key) : Option Document :=
  if document.marks.has key .closed then none
  else do
    let entries ← changeTable true (appendTable (key.getLast?.getD "")) key.dropLast
      document.entries
    let marks := (key, Mark.opened) :: Marks.clear document.marks key
    return { document with entries, marks, header := key }

def statement (document : Document) : Reader Document := do
  match ← peek with
  | some '[' =>
    let document := document.settle
    token "["
    if ← token? "[" then
      skip isBlank
      let name ← key
      let document ← wanted (document.openItem name)
      token "]]"
      return document
    else
      skip isBlank
      let name ← key
      let document ← wanted (document.openTable name)
      token "]"
      return document
  | some c =>
    if isBareKeyChar c || c == '"' || c == '\'' then
      let name ← key
      token "="
      skip isBlank
      let text ← get
      let found ← value (text.length + 1)
      wanted (document.assign name found)
    else return document
  | none => return document

/-- Reads the lines of a document; every line takes at least its end. -/
def lines : Nat → Document → Reader Document
  | 0, document => return document
  | fuel + 1, document => do
    skip isBlank
    let document ← statement document
    skip isBlank
    comment
    match ← peek with
    | none => return document
    | some c =>
      ensure (c == '\n')
      token "\n"
      lines fuel document

/-- Line feeds for pairs of a carriage return and a line feed. -/
def joinReturns : List Char → List Char
  | '\r' :: '\n' :: rest => '\n' :: joinReturns rest
  | c :: rest => c :: joinReturns rest
  | [] => []

def parse (text : String) : Except Refusal Entries :=
  let chars := joinReturns text.toList
  (lines (chars.length + 1) {} chars).map fun (document, _) => document.entries

end ModelMetadata.Toml
