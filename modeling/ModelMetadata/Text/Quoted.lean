import ModelMetadata.Text.CharacterName
import ModelMetadata.Text.Printable

/-!
Quoted texts. Written text stands in double quotes and escapes the quote, the backslash and control
characters; displayed text prefers single quotes and escapes whatever is not printable. Reading takes
the escapes of string literals, raw or not, of text or of bytes.
-/
set_option autoImplicit false
namespace ModelMetadata.Text

/-! ## Writing -/

def hexDigit (n : Nat) : Char :=
  if n < 10 then Char.ofNat ('0'.toNat + n) else Char.ofNat ('a'.toNat + (n - 10))

/-- The last `count` hexadecimal digits of a number. -/
def hexText (count n : Nat) : List Char :=
  (List.range count).reverse.map fun i => hexDigit (n / Nat.pow 16 i % 16)

def escapeChar (c : Char) : List Char :=
  if c == '"' then ['\\', '"']
  else if c == '\\' then ['\\', '\\']
  else if c == '\n' then ['\\', 'n']
  else if c == '\r' then ['\\', 'r']
  else if c == '\t' then ['\\', 't']
  else if c == '\x08' then ['\\', 'b']
  else if c == '\x0c' then ['\\', 'f']
  else if c.toNat < 32 then '\\' :: 'u' :: hexText 4 c.toNat
  else [c]

def quote (text : String) : String :=
  String.ofList ('"' :: (text.toList.flatMap escapeChar ++ ['"']))

/-! ## Displaying -/

/-- Single quotes, unless the text holds one and no double quote. -/
def displayQuote (text : List Char) : Char :=
  if text.contains '\'' && !text.contains '"' then '"' else '\''

def displayChar (mark : Char) (c : Char) : List Char :=
  let n := c.toNat
  if c == mark || c == '\\' then ['\\', c]
  else if c == '\n' then ['\\', 'n']
  else if c == '\r' then ['\\', 'r']
  else if c == '\t' then ['\\', 't']
  else if isPrintable c then [c]
  else if n < 0x100 then '\\' :: 'x' :: hexText 2 n
  else if n < 0x10000 then '\\' :: 'u' :: hexText 4 n
  else '\\' :: 'U' :: hexText 8 n

def display (text : String) : String :=
  let mark := displayQuote text.toList
  String.ofList (mark :: (text.toList.flatMap (displayChar mark) ++ [mark]))

/-- The display of bytes: only ASCII is shown as characters. -/
def displayBytes (bytes : List Nat) : String :=
  let chars := bytes.map Char.ofNat
  let mark := displayQuote chars
  let show1 (c : Char) : List Char :=
    if c.toNat < 128 then displayChar mark c else '\\' :: 'x' :: hexText 2 c.toNat
  String.ofList ('b' :: mark :: (chars.flatMap show1 ++ [mark]))

/-! ## Reading -/

/-- Exactly `count` hexadecimal digits. -/
def hexRun : Nat → Nat → List Char → Option (Nat × List Char)
  | 0, value, text => some (value, text)
  | count + 1, value, c :: rest =>
    match hexValue? c with
    | some digit => hexRun count (value * 16 + digit) rest
    | none => none
  | _ + 1, _, [] => none

def isOctal (c : Char) : Bool := '0' ≤ c && c ≤ '7'

/-- At most `count` octal digits. -/
def octalRun : Nat → Nat → List Char → Nat × List Char
  | 0, value, text => (value, text)
  | _ + 1, value, [] => (value, [])
  | count + 1, value, c :: rest =>
    if isOctal c then octalRun count (value * 8 + (c.toNat - '0'.toNat)) rest
    else (value, c :: rest)

def lastCode : Nat := 0x10ffff

/-- The character of a code point. Half of a surrogate pair is none by itself. -/
def codePoint? (n : Nat) : Option Char :=
  if h : n.isValidChar then some (Char.ofNatAux n h) else none

/-- The simple escapes: a letter or mark for one character. -/
def simpleEscape? (c : Char) : Option Char :=
  match c with
  | '\\' => some '\\'
  | '\'' => some '\''
  | '"' => some '"'
  | 'a' => some '\x07'
  | 'b' => some '\x08'
  | 'f' => some '\x0c'
  | 'n' => some '\n'
  | 'r' => some '\r'
  | 't' => some '\t'
  | 'v' => some '\x0b'
  | _ => none

/-- The code point of the character that is named between braces, and what follows them. -/
def namedCode? : List Char → Option (Nat × List Char)
  | '{' :: rest =>
    let name := rest.takeWhile (· != '}')
    match name, rest.drop name.length with
    | _ :: _, '}' :: rest => (characterNamed? name).map fun code => (code, rest)
    | _, _ => none
  | _ => none

/-- The code points that the inside of a literal stands for. An unknown escape stands for itself; a truncated
one, a number beyond the last code point and an unknown name are refused. -/
def unescape : Nat → List Char → Option (List Nat)
  | 0, _ => some []
  | _ + 1, [] => some []
  | fuel + 1, '\\' :: c :: rest =>
    match simpleEscape? c with
    | some found => (unescape fuel rest).map (found.toNat :: ·)
    | none =>
      let coded (read : Option (Nat × List Char)) : Option (List Nat) := do
        let (code, rest) ← read
        if lastCode < code then none else return code :: (← unescape fuel rest)
      if c == '\n' then unescape fuel rest
      else if isOctal c then coded (octalRun 3 0 (c :: rest))
      else if c == 'x' then coded (hexRun 2 0 rest)
      else if c == 'u' then coded (hexRun 4 0 rest)
      else if c == 'U' then coded (hexRun 8 0 rest)
      else if c == 'N' then coded (namedCode? rest)
      else (unescape fuel rest).map fun codes => '\\'.toNat :: c.toNat :: codes
  | fuel + 1, c :: rest => (unescape fuel rest).map (c.toNat :: ·)

/-- The bytes that the inside of a literal stands for; it must be ASCII. -/
def unescapeBytes : Nat → List Char → Option (List Nat)
  | 0, _ => some []
  | _ + 1, [] => some []
  | fuel + 1, '\\' :: c :: rest =>
    match simpleEscape? c with
    | some found => (unescapeBytes fuel rest).map (found.toNat :: ·)
    | none =>
      if c == '\n' then unescapeBytes fuel rest
      else if isOctal c then
        let (value, rest) := octalRun 3 0 (c :: rest)
        (unescapeBytes fuel rest).map (value % 256 :: ·)
      else if c == 'x' then do
        let (value, rest) ← hexRun 2 0 rest
        return value :: (← unescapeBytes fuel rest)
      else if 128 ≤ c.toNat then none
      else (unescapeBytes fuel rest).map fun bytes => '\\'.toNat :: c.toNat :: bytes
  | fuel + 1, c :: rest =>
    if 128 ≤ c.toNat then none else (unescapeBytes fuel rest).map (c.toNat :: ·)

example : quote "a\"\\\n\x01é" = "\"a\\\"\\\\\\n\\u0001é\"" := by decide +kernel
example : display "it's" = "\"it's\"" := by decide +kernel
example : unescape 9 "\\x41\\q".toList = some [0x41, 0x5c, 0x71] := by decide +kernel
example : unescape 24 "\\N{dollar sign}\\ud800".toList = some [0x24, 0xd800] := by decide +kernel

end ModelMetadata.Text
