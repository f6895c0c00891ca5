/-!
Blank characters and lines of text, in every script. A margin is removed from the lines of an
indented text after its tabs have been expanded.
-/
set_option autoImplicit false
namespace ModelMetadata.Text

/-- White space of every script and the separators among the control characters. -/
def isSpace (c : Char) : Bool :=
  let n := c.toNat
  (9 ≤ n && n ≤ 13) || (28 ≤ n && n ≤ 32) || n == 0x85 || n == 0xa0 || n == 0x1680
    || (0x2000 ≤ n && n ≤ 0x200a) || n == 0x2028 || n == 0x2029 || n == 0x202f || n == 0x205f
    || n == 0x3000

def trimLeft (text : List Char) : List Char := text.dropWhile isSpace

def trimRight (text : List Char) : List Char := (text.reverse.dropWhile isSpace).reverse

def trim (text : List Char) : List Char := trimRight (trimLeft text)

def trimmed (text : String) : String := String.ofList (trim text.toList)

def endsLine (c : Char) : Bool :=
  let n := c.toNat
  (10 ≤ n && n ≤ 13) || (28 ≤ n && n ≤ 30) || n == 0x85 || n == 0x2028 || n == 0x2029

/-- The lines of a text without their ends; a text that ends with a line end has no empty line after
it. -/
def splitLines (text : List Char) : List (List Char) :=
  go [] text
where
  go (line : List Char) : List Char → List (List Char)
    | [] => if line.isEmpty then [] else [line.reverse]
    | '\r' :: '\n' :: rest => line.reverse :: go [] rest
    | c :: rest => if endsLine c then line.reverse :: go [] rest else go (c :: line) rest

def splitAt (mark : Char) (text : List Char) : List (List Char) :=
  go [] text
where
  go (piece : List Char) : List Char → List (List Char)
    | [] => [piece.reverse]
    | c :: rest => if c = mark then piece.reverse :: go [] rest else go (c :: piece) rest

/-- The text with every tab replaced by blanks up to the next multiple of eight columns. -/
def expandTabs (text : List Char) : List Char :=
  go 0 text
where
  go (column : Nat) : List Char → List Char
    | [] => []
    | c :: rest =>
      if c == '\t' then
        let width := 8 - column % 8
        List.replicate width ' ' ++ go (column + width) rest
      else if c == '\n' || c == '\r' then c :: go 0 rest
      else c :: go (column + 1) rest

def joinLines (lines : List (List Char)) : List Char :=
  List.intercalate ['\n'] lines

/-- The indentation that all lines but the first have in common, lines without content aside. -/
def commonMargin (lines : List (List Char)) : Nat :=
  let margins := (lines.filter fun line => !(trimLeft line).isEmpty).map fun line =>
    (line.takeWhile isSpace).length
  match margins with
  | [] => 0
  | first :: rest => rest.foldl min first

/-- The text without its common margin and without empty lines at either end. -/
def dropMargin (text : List Char) : List Char :=
  match splitAt '\n' (expandTabs text) with
  | [] => []
  | first :: rest =>
    let margin := commonMargin rest
    let lines := trimLeft first :: rest.map (·.drop margin)
    let lines := (lines.reverse.dropWhile List.isEmpty).reverse
    joinLines (lines.dropWhile List.isEmpty)

end ModelMetadata.Text
