import ModelMetadata.Source.Layout

/-!
Tokens of program text. A word is a visible token together with the gap before it; the other tokens
carry the layout of whole lines: the empty lines above a statement, the tail of a line, the step of
a new block and the empty lines that close a block.
-/
set_option autoImplicit false
namespace ModelMetadata.Source

inductive WordKind where
  /-- An identifier or a keyword. -/
  | name
  | number
  | string
  /-- Prefix and opening quote of a formatted string. -/
  | formattedOpen
  | formattedText
  | formattedClose
  | operator
deriving Repr, DecidableEq, Inhabited

/-- A visible token: the gap before it and its text. -/
structure Word where
  gap : Gap
  text : String
deriving Repr, DecidableEq, Inhabited

inductive Token where
  | word (kind : WordKind) (word : Word)
  /-- A statement or clause begins; the lines stand above it. -/
  | lineStart (above : List EmptyLine)
  | lineEnd (tail : LineTail)
  /-- A block begins, indented by `step` more than the block around it. -/
  | indent (step : String)
  /-- A block ends; the lines still belong to it. -/
  | dedent (footer : List EmptyLine)
  | finish (footer : List EmptyLine)
deriving Repr, DecidableEq, Inhabited

def Word.render (page : Page) (word : Word) : String :=
  Gap.render page word.gap ++ word.text

def Word.renderAll (page : Page) (words : List Word) : String :=
  String.join (words.map (Word.render page))

def Word.flush : List Word → List Word
  | [] => []
  | word :: rest => { word with gap := [] } :: rest

/-- Names that stand for values of their own. -/
def constantNames : List String := ["False", "None", "True"]

/-- Names that no identifier may spell. -/
def reservedNames : List String :=
  ["False", "None", "True", "and", "as", "assert", "async", "await", "break", "class",
   "continue", "def", "del", "elif", "else", "except", "finally", "for", "from", "global", "if",
   "import", "in", "is", "lambda", "nonlocal", "not", "or", "pass", "raise", "return", "try",
   "while", "with", "yield"]

end ModelMetadata.Source
