import ModelMetadata.Source.Token
import ModelMetadata.Text.Identifier

/-!
Reading characters into tokens. Text is first seen as lines: an empty line holds a blank and perhaps
a comment, any other line begins a statement and is read token by token up to the line end that no
bracket encloses. Indentation opens and closes blocks; the empty lines before a closed block's
successor belong to the block as far as the last one that begins with the block's indentation.

The loops take the number of remaining characters as fuel: every round but the last reads at least
one character.
-/
set_option autoImplicit false
namespace ModelMetadata.Source

/-! ## Line ends, blanks and comments -/

def isLineEndChar (c : Char) : Bool := c == '\n' || c == '\r'

/-- The line end at the head of a text, and the text after it. -/
def splitLineEnd : List Char → Option (String × List Char)
  | '\r' :: '\n' :: rest => some ("\r\n", rest)
  | '\r' :: rest => some ("\r", rest)
  | '\n' :: rest => some ("\n", rest)
  | _ => none

/-- The first line end of a text, which is the usual one of its module. -/
def firstLineEnd : List Char → String
  | [] => "\n"
  | c :: rest =>
    match splitLineEnd (c :: rest) with
    | some (ending, _) => ending
    | none => firstLineEnd rest

def isBlankChar (c : Char) : Bool := c == ' ' || c == '\t' || c == '\x0c'

/-- The blank at the head of a text, with the continued line ends in it. -/
def spanBlank : List Char → List Char × List Char
  | '\\' :: '\r' :: '\n' :: rest =>
    let (blank, rest) := spanBlank rest
    ('\\' :: '\r' :: '\n' :: blank, rest)
  | '\\' :: c :: rest =>
    if isLineEndChar c then
      let (blank, rest) := spanBlank rest
      ('\\' :: c :: blank, rest)
    else ([], '\\' :: c :: rest)
  | c :: rest =>
    if isBlankChar c then
      let (blank, rest) := spanBlank rest
      (c :: blank, rest)
    else ([], c :: rest)
  | [] => ([], [])

def endsContinued (blank : List Char) : Bool := (blank.getLast?.map isLineEndChar).getD false

def spanComment (text : List Char) : Option String × List Char :=
  match text with
  | '#' :: _ =>
    let (comment, rest) := text.span fun c => !isLineEndChar c
    (some (String.ofList comment), rest)
  | _ => (none, text)

/-- A line end as layout: `none` when it is the usual one. -/
def toLineEnd (usual : String) (ending : String) : LineEnd :=
  if ending = usual then none else some ending

/-- An empty line before it is known to which block it belongs. -/
structure RawLine where
  blank : List Char
  comment : Option String
  ending : LineEnd
deriving Repr, DecidableEq, Inhabited

/-- The text without `lead` in front, when it begins so. -/
def dropLead? : List Char → List Char → Option (List Char)
  | [], text => some text
  | c :: lead, d :: text => if c = d then dropLead? lead text else none
  | _ :: _, [] => none

def RawLine.belongsTo (block : List Char) (line : RawLine) : Bool :=
  (dropLead? block line.blank).isSome

def RawLine.toEmptyLine (block : List Char) (line : RawLine) : EmptyLine :=
  match dropLead? block line.blank with
  | some blank => ⟨true, String.ofList blank, line.comment, line.ending⟩
  | none => ⟨false, String.ofList line.blank, line.comment, line.ending⟩

/-- The lines up to the last one that belongs to the block, and the lines after it. -/
def splitFooter (block : List Char) (lines : List RawLine) : List RawLine × List RawLine :=
  let after := (lines.reverse.takeWhile fun line => !line.belongsTo block).reverse
  (lines.take (lines.length - after.length), after)

/-! ## Gaps -/

/-- The blank piece of a text, none for the empty text. -/
def blankPiece (text : List Char) : Gap :=
  if text.isEmpty then [] else [.blank (String.ofList text)]

/-- Layout of the lines inside brackets, from the start of a line. -/
def gapLines (usual : String) (block : List Char) : Nat → List Char → Gap
  | 0, text => blankPiece text
  | fuel + 1, text =>
    let (lead, text) := match dropLead? block text with
      | some rest => ([GapPiece.indent], rest)
      | none => ([], text)
    let (blank, rest) := spanBlank text
    let (comment, rest) := spanComment rest
    match splitLineEnd rest with
    | some (ending, rest) =>
      lead ++ blankPiece blank ++ (comment.map GapPiece.comment).toList
        ++ [.lineEnd (toLineEnd usual ending)] ++ gapLines usual block fuel rest
    | none => lead ++ blankPiece text

/-- Layout of a gap. Within brackets it may span lines. -/
def gapOfText (usual : String) (block : List Char) (bracketed : Bool) (text : List Char) : Gap :=
  let (blank, rest) := spanBlank text
  let (comment, rest) := spanComment rest
  match bracketed, splitLineEnd rest with
  | true, some (ending, rest) =>
    blankPiece blank ++ (comment.map GapPiece.comment).toList
      ++ [.lineEnd (toLineEnd usual ending)] ++ gapLines usual block rest.length rest
  | _, _ => blankPiece text

/-- The gap text at the head of a text within brackets: blanks, comments and line ends. -/
def spanBracketed : Nat → List Char → List Char × List Char
  | 0, text => ([], text)
  | fuel + 1, text =>
    let (blank, rest) := spanBlank text
    let (comment, rest) := spanComment rest
    let head := blank ++ (comment.map String.toList).getD []
    match splitLineEnd rest with
    | some (ending, rest) =>
      let (more, rest) := spanBracketed fuel rest
      (head ++ ending.toList ++ more, rest)
    | none => (head, rest)

/-! ## Numbers -/

def spanDigits (isDigit : Char → Bool) : List Char → List Char × List Char
  | '_' :: c :: rest =>
    if isDigit c then
      let (digits, rest) := spanDigits isDigit rest
      ('_' :: c :: digits, rest)
    else ([], '_' :: c :: rest)
  | c :: rest =>
    if isDigit c then
      let (digits, rest) := spanDigits isDigit rest
      (c :: digits, rest)
    else ([], c :: rest)
  | [] => ([], [])

/-- A digit run that must begin with a digit; refused when an underscore trails. -/
def scanDigits (isDigit : Char → Bool) (text : List Char) : Option (List Char × List Char) :=
  match text with
  | c :: _ =>
    if isDigit c then
      match spanDigits isDigit text with
      | (_, '_' :: _) => none
      | found => some found
    else none
  | [] => none

def isHexDigit (c : Char) : Bool :=
  c.isDigit || ('a' ≤ c && c ≤ 'f') || ('A' ≤ c && c ≤ 'F')

def isOctalDigit (c : Char) : Bool := '0' ≤ c && c ≤ '7'

def isBinaryDigit (c : Char) : Bool := c == '0' || c == '1'

/-- Digits after a base mark; an underscore may separate the mark from them, and no decimal digit
may follow. -/
def scanRadix (isDigit : Char → Bool) (text : List Char) : Option (List Char × List Char) :=
  let (lead, text) := match text with
    | '_' :: rest => (['_'], rest)
    | _ => ([], text)
  match scanDigits isDigit text with
  | some (digits, rest) =>
    if (rest.head?.map Char.isDigit).getD false then none else some (lead ++ digits, rest)
  | none => none

def scanFraction (text : List Char) : Option (List Char × List Char) :=
  match text with
  | c :: _ => if c.isDigit then scanDigits Char.isDigit text else some ([], text)
  | [] => some ([], [])

/-- The exponent at the head of a text; nothing when no digits follow its mark. -/
def scanExponent (text : List Char) : Option (List Char × List Char) :=
  match text with
  | e :: sign :: c :: rest =>
    if (e == 'e' || e == 'E') && (sign == '+' || sign == '-') && c.isDigit then
      (scanDigits Char.isDigit (c :: rest)).map fun (digits, rest) => (e :: sign :: digits, rest)
    else if (e == 'e' || e == 'E') && sign.isDigit then
      (scanDigits Char.isDigit (sign :: c :: rest)).map fun (digits, rest) => (e :: digits, rest)
    else some ([], text)
  | [e, c] =>
    if (e == 'e' || e == 'E') && c.isDigit then some ([e, c], []) else some ([], text)
  | _ => some ([], text)

def scanImaginary (text : List Char) : List Char × List Char :=
  match text with
  | c :: rest => if c == 'j' || c == 'J' then ([c], rest) else ([], text)
  | [] => ([], [])

/-- The digits before a decimal point; there may be none when a point comes next. -/
def scanWhole (text : List Char) : Option (List Char × List Char) :=
  match text with
  | '.' :: _ => some ([], text)
  | _ => scanDigits Char.isDigit text

/-- A decimal point and the fraction after it, if one comes next. -/
def scanPoint (text : List Char) : Option (List Char × List Char) :=
  match text with
  | '.' :: more => (scanFraction more).map fun (digits, rest) => ('.' :: digits, rest)
  | _ => some ([], text)

/-- A decimal number: an integer, or a number with a fraction, an exponent or an imaginary mark.
An integer with a leading zero is refused unless it is zero. -/
def scanDecimal (text : List Char) : Option (List Char × List Char) := do
  let (whole, rest) ← scanWhole text
  let (fraction, rest) ← scanPoint rest
  let (exponent, rest) ← scanExponent rest
  let (imaginary, rest) := scanImaginary rest
  let isInteger := fraction.isEmpty && exponent.isEmpty && imaginary.isEmpty
  let leadingZero := whole.head? == some '0' && whole.any fun c => c != '0' && c != '_'
  if isInteger && leadingZero then none
  else some (whole ++ fraction ++ exponent ++ imaginary, rest)

def scanNumber (text : List Char) : Option (List Char × List Char) :=
  match text with
  | '0' :: mark :: rest =>
    let based (isDigit : Char → Bool) :=
      (scanRadix isDigit rest).map fun (digits, rest) => ('0' :: mark :: digits, rest)
    if mark == 'x' || mark == 'X' then based isHexDigit
    else if mark == 'o' || mark == 'O' then based isOctalDigit
    else if mark == 'b' || mark == 'B' then based isBinaryDigit
    else scanDecimal text
  | _ => scanDecimal text

/-! ## Strings -/

def stringMarks : List String :=
  ["", "r", "u", "b", "br", "rb", "f", "fr", "rf", "t", "tr", "rt"]

def isFormattedMark (mark : List Char) : Bool :=
  mark.any fun c => c == 'f' || c == 'F' || c == 't' || c == 'T'

def isRawMark (mark : List Char) : Bool :=
  mark.any fun c => c == 'r' || c == 'R'

def isBytesMark (mark : List Char) : Bool :=
  mark.any fun c => c == 'b' || c == 'B'

/-- The opening quote at the head of a text: one mark or three. -/
def splitQuote : List Char → Option (List Char × List Char)
  | '"' :: '"' :: '"' :: rest => some (['"', '"', '"'], rest)
  | '\'' :: '\'' :: '\'' :: rest => some (['\'', '\'', '\''], rest)
  | '"' :: rest => some (['"'], rest)
  | '\'' :: rest => some (['\''], rest)
  | _ => none

/-- The characters of a string up to and with its closing quote. A backslash protects the character
after it; a line end ends a string in single quote marks unclosed. -/
def scanString (quote : List Char) : Nat → List Char → Option (List Char × List Char)
  | 0, _ => none
  | fuel + 1, text =>
    match dropLead? quote text with
    | some rest => some (quote, rest)
    | none =>
      match text with
      | '\\' :: '\r' :: '\n' :: rest =>
        (scanString quote fuel rest).map fun (body, rest) =>
          ('\\' :: '\r' :: '\n' :: body, rest)
      | '\\' :: c :: rest =>
        (scanString quote fuel rest).map fun (body, rest) => ('\\' :: c :: body, rest)
      | c :: rest =>
        if isLineEndChar c && quote.length == 1 then none
        else (scanString quote fuel rest).map fun (body, rest) => (c :: body, rest)
      | [] => none

/-- An open formatted string: brackets open in it, and how many of its fields have reached their
format. Text is read when the two agree, an expression otherwise. -/
structure Formatted where
  quote : List Char
  raw : Bool
  depth : Nat
  formats : Nat
deriving Repr, DecidableEq, Inhabited

def Formatted.inText (f : Formatted) : Bool := f.depth == f.formats

/-- The literal text of a formatted string up to a quote or a brace that ends it. -/
def scanFormattedText (f : Formatted) : Nat → List Char → Option (List Char × List Char)
  | 0, text => some ([], text)
  | fuel + 1, text =>
    match dropLead? f.quote text with
    | some _ => some ([], text)
    | none =>
      let more (head : List Char) (rest : List Char) :=
        (scanFormattedText f fuel rest).map fun (body, rest) => (head ++ body, rest)
      match text with
      | '{' :: '{' :: rest =>
        if f.formats == 0 then more ['{', '{'] rest else some ([], text)
      | '}' :: '}' :: rest =>
        if f.formats == 0 then more ['}', '}'] rest else some ([], text)
      | '\\' :: 'N' :: '{' :: rest =>
        if f.raw then more ['\\', 'N'] ('{' :: rest)
        else
          let (name, rest) := rest.span fun c => c != '}' && !isLineEndChar c
          match rest with
          | '}' :: rest => more ('\\' :: 'N' :: '{' :: name ++ ['}']) rest
          | _ => none
      | '\\' :: c :: rest =>
        if c == '{' || c == '}' then more ['\\'] (c :: rest) else more ['\\', c] rest
      | c :: rest =>
        if c == '{' then some ([], text)
        else if c == '}' then (if f.formats == 0 then none else some ([], text))
        else if isLineEndChar c && f.quote.length == 1 then none
        else more [c] rest
      | [] => none

/-! ## Operators and brackets -/

def longOperators : List String :=
  ["**=", "//=", ">>=", "<<=", "...", "!=", "->", ":=", "<=", ">=", "==", "**", "//", ">>", "<<",
   "+=", "-=", "*=", "/=", "%=", "&=", "|=", "^=", "@=", "<>"]

def shortOperators : List Char := "()[]\x7b\x7d:,;.=+-*/|&<>%~^@!".toList

def scanOperator (text : List Char) : Option (String × List Char) :=
  match longOperators.find? fun op => (dropLead? op.toList text).isSome with
  | some op => some (op, text.drop op.length)
  | none =>
    match text with
    | c :: rest => if shortOperators.contains c then some (String.singleton c, rest) else none
    | [] => none

def closerOf : Char → Option Char
  | '(' => some ')'
  | '[' => some ']'
  | '{' => some '}'
  | _ => none

def isCloser (c : Char) : Bool := c == ')' || c == ']' || c == '}'

/-! ## Tokens of one statement line -/

/-- Reading state inside a line: the closing brackets awaited and the formatted strings open. -/
structure LineState where
  brackets : List Char := []
  formatted : List Formatted := []
deriving Repr, DecidableEq, Inhabited

def LineState.openBracket (state : LineState) (closer : Char) : LineState :=
  { brackets := closer :: state.brackets
    formatted := match state.formatted with
      | f :: rest => { f with depth := f.depth + 1 } :: rest
      | [] => [] }

def LineState.closeBracket (state : LineState) (closer : Char) : Option LineState :=
  match state.brackets with
  | expected :: brackets =>
    if expected ≠ closer then none
    else
      match state.formatted with
      | f :: rest =>
        if f.depth == 0 then none
        else
          let depth := f.depth - 1
          some ⟨brackets, { f with depth := depth, formats := min f.formats depth } :: rest⟩
      | [] => some ⟨brackets, []⟩
  | [] => none

/-- A colon that stands directly in a field of a formatted string begins its format. -/
def LineState.beginFormat? (state : LineState) : Option LineState :=
  match state.formatted with
  | f :: rest =>
    if f.depth == f.formats + 1 then
      some { state with formatted := { f with formats := f.formats + 1 } :: rest }
    else none
  | [] => none

/-- The format that a colon at the head of a text begins, and the text after the colon. -/
def LineState.formatColon? (state : LineState) : List Char → Option (LineState × List Char)
  | ':' :: rest => state.beginFormat?.map fun state => (state, rest)
  | _ => none

/-- The visible token at the head of a text outside formatted text, and the state after it. -/
def scanWord (state : LineState) (text : List Char) :
    Option (WordKind × String × LineState × List Char) := do
  match text with
  | [] => none
  | c :: rest =>
    if c.isAlpha || c == '_' || 128 ≤ c.toNat then
      let (name, after) := text.span fun c => c.isAlphanum || c == '_' || 128 ≤ c.toNat
      match (splitQuote after).filter fun _ => stringMarks.contains (String.ofList name).toLower with
      | some (quote, body) =>
        if isFormattedMark name then
          let state := { state with formatted := ⟨quote, isRawMark name, 0, 0⟩ :: state.formatted }
          return (.formattedOpen, String.ofList (name ++ quote), state, body)
        else
          let (body, after) ← scanString quote (body.length + 1) body
          return (.string, String.ofList (name ++ quote ++ body), state, after)
      | none =>
        if Text.isIdentifier name then return (.name, String.ofList name, state, after) else none
    else if c.isDigit || (c == '.' && (rest.head?.map Char.isDigit).getD false) then
      let (number, after) ← scanNumber text
      return (.number, String.ofList number, state, after)
    else
      match splitQuote text with
      | some (quote, body) =>
        let (body, after) ← scanString quote (body.length + 1) body
        return (.string, String.ofList (quote ++ body), state, after)
      | none =>
        if let some (state, rest) := state.formatColon? text then
          return (.operator, ":", state, rest)
        let (op, after) ← scanOperator text
        match op.toList with
        | [c] =>
          match closerOf c with
          | some closer => return (.operator, op, state.openBracket closer, after)
          | none =>
            if isCloser c then
              let state ← state.closeBracket c
              return (.operator, op, state, after)
            else if c == '!' && state.formatted.isEmpty then none
            else return (.operator, op, state, after)
        | _ => return (.operator, op, state, after)

/-- One token inside formatted text: a stretch of text, the closing quote or a brace. -/
def scanInText (state : LineState) (f : Formatted) (text : List Char) :
    Option (WordKind × String × LineState × List Char) := do
  let (body, after) ← scanFormattedText f text.length text
  if !body.isEmpty then return (.formattedText, String.ofList body, state, after)
  match dropLead? f.quote text with
  | some rest =>
    if f.depth == 0 then
      let state := { state with formatted := state.formatted.drop 1 }
      return (.formattedClose, String.ofList f.quote, state, rest)
    else none
  | none =>
    match text with
    | '{' :: rest => return (.operator, "\x7b", state.openBracket '}', rest)
    | '}' :: rest =>
      let state ← state.closeBracket '}'
      return (.operator, "\x7d", state, rest)
    | _ => none

/-- The tokens of a statement line, its tail, and the text after it. `block` is the indentation of
the current block, `first` holds at the first token of the line. -/
def scanLine (usual : String) (block : List Char) :
    Nat → LineState → Bool → List Char → Option (List Token × LineTail × List Char)
  | 0, _, _, _ => none
  | fuel + 1, state, first, text =>
    let visible (gap : Gap) (rest : List Char) := do
      let (kind, found, state, rest) ← scanWord state rest
      let (tokens, tail, rest) ← scanLine usual block fuel state false rest
      return (Token.word kind ⟨if first then [] else gap, found⟩ :: tokens, tail, rest)
    match state.formatted.head?.filter Formatted.inText with
    | some f => do
      let (kind, found, state, rest) ← scanInText state f text
      let (tokens, tail, rest) ← scanLine usual block fuel state false rest
      return (.word kind ⟨[], found⟩ :: tokens, tail, rest)
    | none =>
      if state.brackets.isEmpty then
        let (blank, rest) := spanBlank text
        let (comment, after) := spanComment rest
        if rest.isEmpty && endsContinued blank then none
        else if after.isEmpty then some ([], ⟨String.ofList blank, comment, none⟩, [])
        else
          match splitLineEnd after with
          | some (ending, rest) =>
            some ([], ⟨String.ofList blank, comment, toLineEnd usual ending⟩, rest)
          | none => visible (gapOfText usual block false blank) rest
      else
        let (gap, rest) := spanBracketed text.length text
        visible (gapOfText usual block true gap) rest

/-! ## Lines and blocks -/

/-- A block that is open: the columns its lines begin at, with tabs to multiples of eight and with
tabs counted once, and its indentation as text. -/
structure OpenBlock where
  column : Nat
  narrow : Nat
  text : List Char
deriving Repr, DecidableEq, Inhabited

/-- The two columns that a blank reaches. A form feed starts counting anew. -/
def columnsOf (blank : List Char) : Nat × Nat :=
  (blank.takeWhile isBlankChar).foldl
    (fun (column, narrow) c =>
      if c == ' ' then (column + 1, narrow + 1)
      else if c == '\t' then ((column / 8 + 1) * 8, narrow + 1)
      else (0, 0))
    (0, 0)

/-- Closes the blocks that are deeper than the given columns, which must be those of an open block.
The pending empty lines are shared out, innermost block first. -/
def closeBlocks (column narrow : Nat) :
    List OpenBlock → List RawLine → Option (List Token × List OpenBlock × List RawLine)
  | [], pending => if column == 0 && narrow == 0 then some ([], [], pending) else none
  | block :: outer, pending =>
    if block.column ≤ column then
      if block.column == column && block.narrow == narrow then some ([], block :: outer, pending)
      else none
    else do
      let (footer, pending) := splitFooter block.text pending
      let (tokens, blocks, pending) ← closeBlocks column narrow outer pending
      return (.dedent (footer.map (RawLine.toEmptyLine block.text)) :: tokens, blocks, pending)

def blockText (blocks : List OpenBlock) : List Char :=
  (blocks.head?.map OpenBlock.text).getD []

/-- The tokens before the first word of a statement line that begins with `blank`, and the blocks
open in it. -/
def enterLine (blocks : List OpenBlock) (pending : List RawLine) (blank : List Char) :
    Option (List Token × List OpenBlock) :=
  let (column, narrow) := columnsOf blank
  let (outerColumn, outerNarrow) :=
    (blocks.head?.map fun b => (b.column, b.narrow)).getD (0, 0)
  let lineStart (blocks : List OpenBlock) (pending : List RawLine) : Token :=
    .lineStart (pending.map (RawLine.toEmptyLine (blockText blocks)))
  if outerColumn < column then
    if outerNarrow < narrow then
      let text := blank.takeWhile isBlankChar
      let step := (dropLead? (blockText blocks) text).getD text
      let blocks := ⟨column, narrow, text⟩ :: blocks
      some ([.indent (String.ofList step), lineStart blocks pending], blocks)
    else none
  else do
    let (tokens, blocks, pending) ← closeBlocks column narrow blocks pending
    return (tokens ++ [lineStart blocks pending], blocks)

def closeText (blocks : List OpenBlock) (pending : List RawLine) : Option (List Token) := do
  let (tokens, _, pending) ← closeBlocks 0 0 blocks pending
  return tokens ++ [.finish (pending.map (RawLine.toEmptyLine []))]

def scanLines (usual : String) :
    Nat → List OpenBlock → List RawLine → List Char → Option (List Token)
  | 0, blocks, pending, _ => closeText blocks pending
  | fuel + 1, blocks, pending, text =>
    let (blank, rest) := spanBlank text
    let (comment, after) := spanComment rest
    if text.isEmpty then closeText blocks pending
    else if rest.isEmpty && endsContinued blank then none
    else if after.isEmpty then closeText blocks (pending ++ [⟨blank, comment, none⟩])
    else
      match splitLineEnd after with
      | some (ending, rest) =>
        let line : RawLine := ⟨blank, comment, toLineEnd usual ending⟩
        scanLines usual fuel blocks (pending ++ [line]) rest
      | none => do
        let (opening, blocks) ← enterLine blocks pending blank
        let (tokens, tail, rest) ← scanLine usual (blockText blocks) (rest.length + 1) {} true rest
        let more ← scanLines usual fuel blocks [] rest
        return opening ++ tokens ++ .lineEnd tail :: more

/-- The tokens of a text, or nothing when a character, a number, a string, a bracket or an
indentation is out of place. -/
def tokenize? (text : List Char) : Option (List Token) :=
  scanLines (firstLineEnd text) (text.length + 1) [] [] text

end ModelMetadata.Source
