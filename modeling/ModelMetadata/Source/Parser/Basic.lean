import ModelMetadata.Source.Expr

/-!
Parsers over the token list. A parser reads some tokens and gives a result with the tokens left, or
nothing; alternatives start over from the same tokens. Repetition takes the number of tokens left as
its bound, so every parser ends.
-/
set_option autoImplicit false
namespace ModelMetadata.Source

abbrev Parser (α : Type) := StateT (List Token) Option α

namespace Parser

variable {α β : Type}

/-- Kind and text of the next token when it is a visible one. -/
def peek : Parser (Option (WordKind × String)) := do
  match (← get).head? with
  | some (.word kind word) => return some (kind, word.text)
  | _ => return none

def isMark (kind : WordKind) : Bool := kind == .name || kind == .operator

def isNext (text : String) : Parser Bool := do
  match ← peek with
  | some (kind, found) => return isMark kind && found == text
  | none => return false

/-- Reads one of these keywords or operators when it is next. -/
def oneOf? (texts : List String) : Parser (Option Word) := do
  match ← get with
  | .word kind word :: rest =>
    if isMark kind && texts.contains word.text then
      set rest
      return some word
    else return none
  | _ => return none

/-- Reads this keyword or operator and gives the gap before it, when it is next. -/
def mark? (text : String) : Parser (Option Gap) := do
  return (← oneOf? [text]).map Word.gap

def mark (text : String) : Parser Gap := do
  match ← mark? text with
  | some gap => return gap
  | none => failure

def word (kind : WordKind) : Parser Word := do
  match ← get with
  | .word found word :: rest => if found == kind then set rest; return word else failure
  | _ => failure

def name : Parser Word := do
  let found ← word .name
  if reservedNames.contains found.text then failure else return found

/-- The result of `p`, or nothing and no token read. -/
def attempt (p : Parser α) : Parser (Option α) :=
  (some <$> p) <|> pure none

/-- Reads by `p` from a growing result until it stops. -/
def iterate (p : α → Parser (Option α)) : Nat → α → Parser α
  | 0, a => return a
  | fuel + 1, a => do
    match ← p a with
    | some b => iterate p fuel b
    | none => return a

def iterateFrom (p : α → Parser (Option α)) (a : α) : Parser α := do
  iterate p (← get).length a

/-- Reads by `p` as long as it finds something. -/
def many (p : Parser (Option α)) : Parser (List α) := do
  let found ← iterateFrom (fun found => do return (← p).map (· :: found)) []
  return found.reverse

def wordsOf (tokens : List Token) : List Word :=
  tokens.filterMap fun token =>
    match token with
    | .word _ word => some word
    | _ => none

/-- Runs a parser for its extent alone and gives the visible tokens it reads. -/
def verbatim (p : Parser α) : Parser (List Word) := do
  let before ← get
  let _ ← p
  let after ← get
  return wordsOf (before.take (before.length - after.length))

/-- Members separated by commas up to a closing bracket; a comma may stand after the last one. -/
def commaList (item : Parser (Gap × Item)) (closer : String) : Nat → Parser (List Entry × Gap)
  | 0 => failure
  | fuel + 1 => do
    match ← mark? closer with
    | some gap => return ([], gap)
    | none =>
      let (gap, found) ← item
      match ← mark? "," with
      | some comma =>
        let (rest, close) ← commaList item closer fuel
        return (.mk gap found (some comma) :: rest, close)
      | none =>
        let close ← mark closer
        return ([.mk gap found none], close)

def bracketed (item : Parser (Gap × Item)) (closer : String) : Parser (List Entry × Gap) := do
  commaList item closer ((← get).length + 1)

def bracketedFrom (gap : Gap) (first : Item) (item : Parser (Gap × Item)) (closer : String) :
    Parser (List Entry × Gap) := do
  match ← mark? "," with
  | some comma =>
    let (rest, close) ← bracketed item closer
    return (.mk gap first (some comma) :: rest, close)
  | none => return ([.mk gap first none], ← mark closer)

/-- The members after the first one of a list without brackets. A comma that nothing follows still
belongs to the list. -/
def commaRest (item : Parser (Gap × Item)) : Nat → Gap → Item → Parser (List Entry)
  | 0, _, _ => failure
  | fuel + 1, gap, first => do
    match ← mark? "," with
    | some comma =>
      match ← attempt item with
      | some (nextGap, next) =>
        return .mk gap first (some comma) :: (← commaRest item fuel nextGap next)
      | none => return [.mk gap first (some comma)]
    | none => return [.mk gap first none]

end Parser
end ModelMetadata.Source
