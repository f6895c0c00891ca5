import ModelMetadata.Source.Parser.Basic
import ModelMetadata.Source.Lexer

/-!
The grammar of expressions. A rule gives the expression together with the gap before it. The rules
are plain functions of the rules they fall back on: `grammar` builds every level from one previous
stage of all levels, and a stage is taken only behind a token that has been read, so a parser that is
staged as often as there are tokens is complete.
-/
set_option autoImplicit false
namespace ModelMetadata.Source

abbrev Placed := Gap × Expr

inductive Level where
  | expression
  | disjunction
  | inversion
  | bitOr
  | factor
  | primary
deriving Repr, DecidableEq

abbrev Rules := Level → Parser Placed

namespace Grammar

open ModelMetadata.Source.Parser

/-! ## Targets -/

mutual

def isTarget : Expr → Bool
  | .name text => !constantNames.contains text
  | .attribute .. => true
  | .subscript .. => true
  | .paren _ inner _ => isTarget inner
  | .tuple entries => areTargets entries
  | .list entries _ => areTargets entries
  | .compound [.word star, .expr _ e] => star.text == "*" && isTarget e
  | _ => false

def areTargets : List Entry → Bool
  | [] => true
  | .mk _ item _ :: rest => isTargetItem item && areTargets rest

def isTargetItem : Item → Bool
  | .value e => isTarget e
  | .star stars _ e => stars == "*" && isTarget e
  | _ => false

end

/-- Whether an expression can be annotated: a bare name, attribute or subscript. -/
def isAnnotatable : Expr → Bool
  | .name text => !constantNames.contains text
  | .attribute .. => true
  | .subscript .. => true
  | _ => false

def isSingleTarget : Expr → Bool
  | .paren _ inner _ => isSingleTarget inner
  | e => isAnnotatable e

/-! ## Operators -/

def leftChain (ops : List String) (operand : Parser Placed) : Parser Placed := do
  let (gap, first) ← operand
  let e ← iterateFrom (fun left => do
    match ← oneOf? ops with
    | some op =>
      let (afterOp, right) ← operand
      return some (.binary left op.gap op.text afterOp right)
    | none => return none) first
  return (gap, e)

/-- Operands with a word between each two, all parts of one compound. -/
def wordChain (op : Parser (Option (List Word))) (operand : Parser Placed) : Parser Placed := do
  let (gap, first) ← operand
  let more ← many do
    match ← op with
    | some words =>
      let (afterOp, right) ← operand
      return some (words.map Part.word ++ [.expr afterOp right])
    | none => return none
  if more.isEmpty then return (gap, first)
  else return (gap, .compound (.expr [] first :: more.flatten))

def singleWord (text : String) : Parser (Option (List Word)) := do
  return (← oneOf? [text]).map fun word => [word]

def comparisonOp : Parser (Option (List Word)) := do
  match ← oneOf? ["==", "!=", "<=", ">=", "<", ">", "<>", "in"] with
  | some op => return some [op]
  | none =>
    match ← oneOf? ["is"] with
    | some op => return some (op :: (← oneOf? ["not"]).toList)
    | none =>
      (do let gap ← mark "not"
          let op ← mark "in"
          return some [⟨gap, "not"⟩, ⟨op, "in"⟩]) <|> return none

def named (rules : Rules) : Parser Placed :=
  (do let target ← name
      let walrus ← mark ":="
      let (gap, value) ← rules .expression
      return (target.gap, .compound [.expr [] (.name target.text), .word ⟨walrus, ":="⟩,
        .expr gap value]))
  <|> rules .expression

def isWalrus : Expr → Bool
  | .compound [.expr _ _, .word walrus, .expr _ _] => walrus.text == ":="
  | _ => false

/-- An unpacked value as a list member, or `other`. -/
def starredOr (rules : Rules) (other : Parser Placed) : Parser (Gap × Item) := do
  match ← mark? "*" with
  | some gap =>
    let (inner, e) ← rules .bitOr
    return (gap, .star "*" inner e)
  | none =>
    let (gap, e) ← other
    return (gap, .value e)

def starOrExpression (rules : Rules) : Parser (Gap × Item) := starredOr rules (rules .expression)

def starOrNamed (rules : Rules) : Parser (Gap × Item) := starredOr rules (named rules)

def itemExpr : Item → Expr
  | .value e => e
  | .star stars gap e => .compound [.word ⟨[], stars⟩, .expr gap e]
  | _ => .ellipsis

def starExpressions (rules : Rules) : Parser Placed := do
  let (gap, first) ← starOrExpression rules
  if ← isNext "," then
    let entries ← commaRest (starOrExpression rules) ((← get).length + 1) [] first
    return (gap, .tuple entries)
  else return (gap, itemExpr first)

def yieldExpr (rules : Rules) : Parser Placed := do
  let gap ← mark "yield"
  match ← mark? "from" with
  | some fromGap =>
    let (inner, e) ← rules .expression
    return (gap, .compound [.word ⟨[], "yield"⟩, .word ⟨fromGap, "from"⟩, .expr inner e])
  | none =>
    match ← attempt (starExpressions rules) with
    | some (inner, e) => return (gap, .compound [.word ⟨[], "yield"⟩, .expr inner e])
    | none => return (gap, .compound [.word ⟨[], "yield"⟩])

def yieldOrStars (rules : Rules) : Parser Placed := do
  if ← isNext "yield" then yieldExpr rules else starExpressions rules

/-! ## Targets of loops -/

def targetItem (rules : Rules) : Parser (Gap × Item) := do
  let (gap, item) ← starredOr rules (rules .primary)
  if isTargetItem item then return (gap, item) else failure

/-- The targets of a `for`. -/
def starTargets (rules : Rules) : Parser Placed := do
  let (gap, first) ← targetItem rules
  if ← isNext "," then
    let entries ← commaRest (targetItem rules) ((← get).length + 1) [] first
    return (gap, .tuple entries)
  else return (gap, itemExpr first)

def comprehension (rules : Rules) : Parser (List Part) := do
  let clauses ← many do
    let async ← oneOf? ["async"]
    match ← mark? "for" with
    | none => if async.isSome then failure else return none
    | some gap =>
      let (targetGap, target) ← starTargets rules
      let inGap ← mark "in"
      let (sourceGap, source) ← rules .disjunction
      let conditions ← many do
        match ← mark? "if" with
        | some gap =>
          let (inner, condition) ← rules .disjunction
          return some [Part.word ⟨gap, "if"⟩, .expr inner condition]
        | none => return none
      return some (async.toList.map Part.word ++ [.word ⟨gap, "for"⟩, .expr targetGap target,
        .word ⟨inGap, "in"⟩, .expr sourceGap source] ++ conditions.flatten)
  return clauses.flatten

/-! ## Parameters -/

inductive Parameter where
  | plain
  | defaulted
  | slash
  | star
  | starName
  | doubleStar
deriving Repr, DecidableEq

/-- Whether parameters stand in a permitted order: none without a default after one that has one,
a slash once and not first, a star once and a bare one with a name after it, two stars last. -/
def parametersOrdered (parameters : List Parameter) : Bool :=
  let before := parameters.takeWhile fun p => p != .star && p != .starName && p != .doubleStar
  let rest := parameters.drop before.length
  let names := before.filter (· != .slash)
  let withDefault := names.dropWhile (· == Parameter.plain)
  let afterStar := match rest with
    | .star :: more => if more.head? == some Parameter.plain || more.head? == some Parameter.defaulted then more
        else [.star]
    | .starName :: more => more
    | more => more
  let keywordOnly := afterStar.takeWhile fun p => p == Parameter.plain || p == Parameter.defaulted
  before.head? != some .slash && before.count .slash ≤ 1 && withDefault.all (· == Parameter.defaulted)
    && (afterStar.drop keywordOnly.length == [] || afterStar.drop keywordOnly.length == [.doubleStar])

/-- The annotation of a parameter, if one is permitted and given; behind a single star it may be
unpacked. -/
def typeHint (rules : Rules) (annotated starred : Bool) : Parser Unit := do
  if annotated then
    match ← mark? ":" with
    | some _ =>
      if starred && (← isNext "*") then
        let _ ← mark "*"
        let _ ← rules .bitOr
      else
        let _ ← rules .expression
    | none => return ()

/-- One parameter; `annotated` ones may have an annotation. -/
def parameter (rules : Rules) (annotated : Bool) : Parser Parameter := do
  match ← oneOf? ["/", "*", "**"] with
  | some op =>
    if op.text == "/" then return .slash
    else if op.text == "**" then
      let _ ← name
      typeHint rules annotated false
      return .doubleStar
    else
      match ← attempt name with
      | some _ =>
        typeHint rules annotated true
        return .starName
      | none => return .star
  | none =>
    let _ ← name
    typeHint rules annotated false
    match ← mark? "=" with
    | some _ =>
      let _ ← rules .expression
      return .defaulted
    | none => return .plain

/-- A parameter list up to but not including its closing token. -/
def parameters (rules : Rules) (annotated : Bool) (closer : String) : Parser Unit := do
  let rec loop : Nat → Parser (List Parameter)
    | 0 => failure
    | fuel + 1 => do
      if ← isNext closer then return []
      let first ← parameter rules annotated
      match ← mark? "," with
      | some _ => return first :: (← loop fuel)
      | none => if ← isNext closer then return [first] else failure
  if parametersOrdered (← loop ((← get).length + 1)) then return () else failure

def lambdaExpr (rules : Rules) : Parser Placed := do
  let gap ← mark "lambda"
  let header ← verbatim (parameters rules false ":")
  let colon ← mark ":"
  let (bodyGap, body) ← rules .expression
  return (gap, .lambda (⟨[], "lambda"⟩ :: header ++ [⟨colon, ":"⟩]) bodyGap body)

/-! ## Strings -/

def isComprehensionNext : Parser Bool := do
  return (← isNext "for") || (← isNext "async")

/-- The expression in a field of a formatted string, which may be a bare comprehension. -/
def fieldExpr (rules : Rules) : Parser Placed := do
  let (gap, e) ← yieldOrStars rules
  if ← isComprehensionNext then
    return (gap, .compound (.expr [] e :: (← comprehension rules)))
  else return (gap, e)

/-- The conversion in a field of a formatted string, if there is one. -/
def conversion : Parser (List Word) := do
  match ← oneOf? ["!"] with
  | none => return []
  | some bang =>
    match ← oneOf? ["s", "r", "a"] with
    | some letter => return [bang, letter]
    | none => failure

/-- The format in a field of a formatted string, if there is one; `inner` reads its parts. -/
def format (inner : Parser (List Part)) : Parser (List Part) := do
  match ← oneOf? [":"] with
  | some colon => return .word colon :: (← inner)
  | none => return []

/-- The inside of a formatted string up to its closing quote, or of a format up to the closing
brace of its field. -/
def formattedParts (rules : Rules) : Nat → Parser (List Part)
  | 0 => failure
  | fuel + 1 => do
    match ← peek with
    | some (.formattedText, _) =>
      let text ← word .formattedText
      return .word text :: (← formattedParts rules fuel)
    | some (.operator, "\x7b") =>
      let opening ← mark "\x7b"
      let (gap, e) ← fieldExpr rules
      let equals ← oneOf? ["="]
      let marks ← conversion
      let parts ← format (formattedParts rules fuel)
      let closing ← mark "\x7d"
      return .word ⟨opening, "\x7b"⟩ :: .expr gap e :: (equals.toList ++ marks).map Part.word ++ parts
        ++ .word ⟨closing, "\x7d"⟩ :: (← formattedParts rules fuel)
    | _ => return []

def formattedString (rules : Rules) : Parser Placed := do
  let opening ← word .formattedOpen
  let parts ← formattedParts rules ((← get).length + 1)
  let closing ← word .formattedClose
  return (opening.gap, .compound (.word { opening with gap := [] } :: parts ++ [.word closing]))

def strings (rules : Rules) : Parser Placed := do
  let found ← many do
    match ← peek with
    | some (.string, _) =>
      let token ← word .string
      return some (token.gap, Expr.string token.text)
    | some (.formattedOpen, _) => some <$> formattedString rules
    | _ => return none
  let rec join : Placed → List Placed → Placed
    | last, [] => last
    | (gap, first), next :: rest =>
      let (nextGap, more) := join next rest
      (gap, .adjacent first nextGap more)
  match found with
  | first :: rest => return join first rest
  | [] => failure

/-! ## Brackets -/

def parenthesized (rules : Rules) : Parser Expr := do
  match ← mark? ")" with
  | some gap => return .paren [] (.tuple []) gap
  | none =>
    if ← isNext "yield" then
      let (gap, e) ← yieldExpr rules
      return .paren gap e (← mark ")")
    else
      let (gap, first) ← starOrNamed rules
      if ← isNext "," then
        let entries ← commaRest (starOrNamed rules) ((← get).length + 1) [] first
        return .paren gap (.tuple entries) (← mark ")")
      else
        match first with
        | .value e =>
          let clauses ← comprehension rules
          let close ← mark ")"
          if clauses.isEmpty then return .paren gap e close
          else return .paren gap (.compound (.expr [] e :: clauses)) close
        | _ => failure

def listDisplay (rules : Rules) : Parser Expr := do
  match ← mark? "]" with
  | some close => return .list [] close
  | none =>
    let (gap, first) ← starOrNamed rules
    match first, ← isComprehensionNext with
    | .value e, true =>
      let clauses ← comprehension rules
      let close ← mark "]"
      return .compound (.word ⟨[], "["⟩ :: .expr gap e :: clauses ++ [.word ⟨close, "]"⟩])
    | _, _ =>
      let (entries, close) ← bracketedFrom gap first (starOrNamed rules) "]"
      return .list entries close

def dictItem (rules : Rules) : Parser (Gap × Item) := do
  match ← mark? "**" with
  | some gap =>
    let (inner, e) ← rules .bitOr
    return (gap, .star "**" inner e)
  | none =>
    let (gap, key) ← rules .expression
    let colon ← mark ":"
    let (valueGap, value) ← rules .expression
    return (gap, .pair key colon valueGap value)

/-- A dict or set, by display or comprehension, after its opening brace. -/
def braced (rules : Rules) : Parser Expr := do
  match ← peek with
  | some (.operator, "\x7d") => return .dict [] (← mark "\x7d")
  | some (.operator, "**") =>
    let (entries, close) ← bracketed (dictItem rules) "\x7d"
    return .dict entries close
  | _ =>
    let (gap, first) ← starOrNamed rules
    match first, ← oneOf? [":"] with
    | .value key, some colon =>
      if isWalrus key then failure
      let (valueGap, value) ← rules .expression
      if ← isComprehensionNext then
        let clauses ← comprehension rules
        let close ← mark "\x7d"
        return .compound (.word ⟨[], "\x7b"⟩ :: .expr gap key :: .word colon
          :: .expr valueGap value :: clauses ++ [.word ⟨close, "\x7d"⟩])
      else
        let pair : Item := .pair key colon.gap valueGap value
        let (entries, close) ← bracketedFrom gap pair (dictItem rules) "\x7d"
        return .dict entries close
    | _, some _ => failure
    | .value e, none =>
      if ← isComprehensionNext then
        let clauses ← comprehension rules
        let close ← mark "\x7d"
        return .compound (.word ⟨[], "\x7b"⟩ :: .expr gap e :: clauses
          ++ [.word ⟨close, "\x7d"⟩])
      else
        let (entries, close) ← bracketedFrom gap first (starOrNamed rules) "\x7d"
        return .set entries close
    | _, none =>
      let (entries, close) ← bracketedFrom gap first (starOrNamed rules) "\x7d"
      return .set entries close

/-- How an argument is passed, in the order in which the ways may first appear. -/
def argumentRank : Item → Nat
  | .value _ => 0
  | .star stars _ _ => if stars == "*" then 1 else 3
  | .keyword .. => 2
  | _ => 4

def argumentsOrdered (entries : List Entry) : Bool :=
  let ranks := entries.map fun entry => argumentRank entry.item
  let afterKeyword := ranks.dropWhile (· < 2)
  let afterDouble := ranks.dropWhile (· < 3)
  !afterKeyword.contains 0 && !afterDouble.contains 1

def argument (rules : Rules) : Parser (Gap × Item) := do
  match ← oneOf? ["*", "**"] with
  | some stars =>
    let (inner, e) ← rules .expression
    return (stars.gap, .star stars.text inner e)
  | none =>
    (do let key ← name
        let equals ← mark "="
        let (gap, e) ← rules .expression
        return (key.gap, .keyword key.text equals gap e))
    <|> (do let (gap, e) ← named rules
            return (gap, .value e))

/-- The arguments after an opening parenthesis, up to and with the closing one. -/
def arguments (rules : Rules) : Parser (List Entry × Gap) := do
  let (entries, close) ← bracketed (argument rules) ")"
  if argumentsOrdered entries then return (entries, close) else failure

/-- The arguments of a call, where a comprehension may be the only one. -/
def callArguments (rules : Rules) : Parser (List Entry × Gap) := do
  match ← mark? ")" with
  | some close => return ([], close)
  | none =>
    let (gap, first) ← argument rules
    match first, ← isComprehensionNext with
    | .value e, true =>
      let clauses ← comprehension rules
      let close ← mark ")"
      return ([.mk gap (.value (.compound (.expr [] e :: clauses))) none], close)
    | _, _ =>
      let (entries, close) ← bracketedFrom gap first (argument rules) ")"
      if argumentsOrdered entries then return (entries, close) else failure

/-- The second part of a slice, behind one colon or two. -/
def sliceRest (rules : Rules) : Parser (List Part) := do
  let upper ← attempt (rules .expression)
  let second ← oneOf? [":"]
  let step ← if second.isSome then attempt (rules .expression) else pure none
  let part : Placed → Part := fun (gap, e) => .expr gap e
  return upper.toList.map part ++ second.toList.map Part.word ++ step.toList.map part

def sliceItem (rules : Rules) : Parser (Gap × Item) := do
  match ← mark? ":" with
  | some gap => return (gap, .slice (.word ⟨[], ":"⟩ :: (← sliceRest rules)))
  | none =>
    let (gap, item) ← starOrNamed rules
    match item, ← oneOf? [":"] with
    | .value lower, some colon =>
      return (gap, .slice (.expr [] lower :: .word colon :: (← sliceRest rules)))
    | _, some _ => failure
    | _, none => return (gap, item)

/-! ## Atoms and what follows them -/

def isImaginaryText (text : String) : Bool :=
  text.endsWith "j" || text.endsWith "J"

def isRadixText (text : String) : Bool :=
  match text.toList with
  | '0' :: mark :: _ => "xXoObB".toList.contains mark
  | _ => false

def numberExpr (text : String) : Expr :=
  if isRadixText text then .integer text
  else if isImaginaryText text then .imaginary text
  else if text.toList.any fun c => c == '.' || c == 'e' || c == 'E' then .float text
  else .integer text

def atom (rules : Rules) : Parser Placed := do
  match ← peek with
  | some (.name, text) =>
    let token ← if constantNames.contains text then word .name else name
    return (token.gap, .name token.text)
  | some (.number, _) =>
    let token ← word .number
    return (token.gap, numberExpr token.text)
  | some (.string, _) => strings rules
  | some (.formattedOpen, _) => strings rules
  | some (.operator, "(") =>
    let gap ← mark "("
    return (gap, ← parenthesized rules)
  | some (.operator, "[") =>
    let gap ← mark "["
    return (gap, ← listDisplay rules)
  | some (.operator, "\x7b") =>
    let gap ← mark "\x7b"
    return (gap, ← braced rules)
  | some (.operator, "...") =>
    let gap ← mark "..."
    return (gap, .ellipsis)
  | _ => failure

/-- An attribute, a call or a subscript of what was read before, if one follows. -/
def trailer (rules : Rules) (e : Expr) : Parser (Option Expr) := do
  match ← oneOf? [".", "(", "["] with
  | none => return none
  | some ⟨gap, "."⟩ =>
    let attr ← name
    return some (.attribute e gap attr.gap attr.text)
  | some ⟨gap, "("⟩ =>
    let (entries, close) ← callArguments rules
    return some (.call e gap entries close)
  | some ⟨gap, _⟩ =>
    if ← isNext "]" then failure
    let (entries, close) ← bracketed (sliceItem rules) "]"
    return some (.subscript e gap entries close)

def primary (rules : Rules) : Parser Placed := do
  let (gap, first) ← atom rules
  return (gap, ← iterateFrom (trailer rules) first)

def awaited (rules : Rules) : Parser Placed := do
  match ← mark? "await" with
  | some gap =>
    let (inner, e) ← primary rules
    return (gap, .compound [.word ⟨[], "await"⟩, .expr inner e])
  | none => primary rules

def power (rules : Rules) : Parser Placed := do
  let (gap, base) ← awaited rules
  match ← mark? "**" with
  | some opGap =>
    let (inner, exponent) ← rules .factor
    return (gap, .binary base opGap "**" inner exponent)
  | none => return (gap, base)

def factor (rules : Rules) : Parser Placed := do
  match ← oneOf? ["+", "-", "~"] with
  | some op =>
    let (inner, e) ← rules .factor
    return (op.gap, .unary op.text inner e)
  | none => power rules

def bitOr (rules : Rules) : Parser Placed :=
  let term := leftChain ["*", "/", "//", "%", "@"] (factor rules)
  let sum := leftChain ["+", "-"] term
  let shift := leftChain ["<<", ">>"] sum
  let bitAnd := leftChain ["&"] shift
  let bitXor := leftChain ["^"] bitAnd
  leftChain ["|"] bitXor

def inversion (rules : Rules) : Parser Placed := do
  match ← mark? "not" with
  | some gap =>
    let (inner, e) ← rules .inversion
    return (gap, .unary "not" inner e)
  | none => wordChain comparisonOp (bitOr rules)

def disjunction (rules : Rules) : Parser Placed :=
  wordChain (singleWord "or") (wordChain (singleWord "and") (inversion rules))

def expression (rules : Rules) : Parser Placed := do
  if ← isNext "lambda" then lambdaExpr rules
  else
    let (gap, body) ← disjunction rules
    match ← mark? "if" with
    | some ifGap =>
      let (testGap, test) ← rules .disjunction
      let elseGap ← mark "else"
      let (otherGap, other) ← rules .expression
      return (gap, .compound [.expr [] body, .word ⟨ifGap, "if"⟩, .expr testGap test,
        .word ⟨elseGap, "else"⟩, .expr otherGap other])
    | none => return (gap, body)

def grammar (rules : Rules) : Rules
  | .expression => expression rules
  | .disjunction => disjunction rules
  | .inversion => inversion rules
  | .bitOr => bitOr rules
  | .factor => factor rules
  | .primary => primary rules

def staged : Nat → Rules
  | 0 => fun _ => failure
  | fuel + 1 => grammar (staged fuel)

def rulesFor (tokens : List Token) : Rules := staged (tokens.length + 1)

end Grammar

/-! ## Whole texts -/

inductive SourceError where
  /-- The text does not follow the grammar. -/
  | malformed
  /-- A tree that no text has, such as a string of text beside one of bytes. -/
  | invalid
deriving Repr, DecidableEq

def isBytesText (text : String) : Bool :=
  isBytesMark (text.toList.takeWhile fun c => c != '"' && c != '\'')

/-- Whether text and bytes stand side by side somewhere. `last` tells the kind of the string that
ended just before, and `nested` the kinds of the formatted strings around. -/
def mixesBytes : Option Bool → List Token → Bool
  | _, [] => false
  | last, .word .string word :: rest =>
    let bytes := isBytesText word.text
    last == some (!bytes) || mixesBytes (some bytes) rest
  | last, .word .formattedOpen _ :: rest => last == some true || mixesBytes none rest
  | _, .word .formattedClose _ :: rest => mixesBytes (some false) rest
  | _, _ :: rest => mixesBytes none rest

def parseAll {α : Type} (p : Rules → Parser α) (text : String) : Except SourceError α :=
  match tokenize? text.toList with
  | none => .error .malformed
  | some tokens =>
    match p (Grammar.rulesFor tokens) tokens with
    | some (result, []) => if mixesBytes none tokens then .error .invalid else .ok result
    | _ => .error .malformed

/-- The tokens of a line that is a whole text, around what it says. -/
def soleLine {α : Type} (p : Parser α) : Parser α := do
  match ← get with
  | .lineStart _ :: rest =>
    set rest
    let result ← p
    match ← get with
    | [.lineEnd _, .finish _] =>
      set ([] : List Token)
      return result
    | _ => failure
  | _ => failure

def Expr.parse (text : String) : Except SourceError Expr :=
  parseAll (fun rules => soleLine (Prod.snd <$> Grammar.starExpressions rules)) text

end ModelMetadata.Source
