import ModelMetadata.Source.Parser.Expr
import ModelMetadata.Source.Statement

/-!
The grammar of statements and modules. Small statements are read by the grammar of expressions.
Compound statements are built over a parser for the statements of a block; that parser is staged by
nesting depth, which the number of tokens bounds.
-/
set_option autoImplicit false
namespace ModelMetadata.Source

namespace Grammar

open ModelMetadata.Source.Parser

/-! ## Small statements -/

def dottedName : Parser Placed := do
  let first ← name
  let path ← iterateFrom (fun path => do
    match ← mark? "." with
    | some gap =>
      let attr ← name
      return some (Expr.attribute path gap attr.gap attr.text)
    | none => return none) (.name first.text)
  return (first.gap, path)

def importAlias : Parser (Option (Gap × Gap × String)) := do
  match ← mark? "as" with
  | some gap =>
    let bound ← name
    return some (gap, bound.gap, bound.text)
  | none => return none

/-- Imported names; when they are bracketed a comma may stand after the last one. -/
def importNames (path : Parser Placed) (trailing : Bool) : Nat → Parser (List ImportName)
  | 0 => failure
  | fuel + 1 => do
    let (gap, found) ← path
    let bound ← importAlias
    match ← mark? "," with
    | none => return [⟨gap, found, bound, none⟩]
    | some comma =>
      if trailing && (← isNext ")") then return [⟨gap, found, bound, some comma⟩]
      else return ⟨gap, found, bound, some comma⟩ :: (← importNames path trailing fuel)

def plainName : Parser Placed := do
  let found ← name
  return (found.gap, .name found.text)

def importModules : Parser (Gap × Small) := do
  let gap ← mark "import"
  return (gap, .importModules (← importNames dottedName false ((← get).length + 1)))

def importFrom : Parser (Gap × Small) := do
  let gap ← mark "from"
  let dots ← many (oneOf? [".", "..."])
  let path ← if ← isNext "import" then pure none else some <$> dottedName
  if dots.isEmpty && path.isNone then failure
  let beforeImport ← mark "import"
  let fuel := (← get).length + 1
  match ← oneOf? ["*", "("] with
  | none => return (gap, .importFrom dots path beforeImport (.plain (← importNames plainName false fuel)))
  | some opening =>
    if opening.text == "*" then return (gap, .importFrom dots path beforeImport (.star opening.gap))
    else
      let names ← importNames plainName true fuel
      let close ← mark ")"
      return (gap, .importFrom dots path beforeImport (.bracketed opening.gap names close))

def typeParameter (rules : Rules) : Parser Unit := do
  let _ ← oneOf? ["*", "**"]
  let _ ← name
  if (← mark? ":").isSome then
    let _ ← rules .expression
  if (← mark? "=").isSome then
    let _ ← starOrExpression rules

def typeParameters (rules : Rules) : Parser (List Word) := verbatim do
  if (← mark? "[").isSome then
    let rec loop : Nat → Parser Unit
      | 0 => failure
      | fuel + 1 => do
        typeParameter rules
        if (← mark? ",").isSome then
          if (← mark? "]").isSome then return () else loop fuel
        else
          let _ ← mark "]"
    loop ((← get).length + 1)

def typeAlias (rules : Rules) : Parser (Gap × Small) := do
  let gap ← mark "type"
  let bound ← name
  let parameters ← typeParameters rules
  let equals ← mark "="
  let (valueGap, value) ← rules .expression
  return (gap, .typeAlias bound.gap bound.text parameters equals valueGap value)

def augmentedOps : List String :=
  ["+=", "-=", "*=", "/=", "//=", "%=", "@=", "&=", "|=", "^=", ">>=", "<<=", "**="]

/-- The targets and the value of an assignment whose first target has been read. -/
def assignment (rules : Rules) : Nat → Expr → Parser (List Target × Expr)
  | 0, _ => failure
  | fuel + 1, e => do
    match ← mark? "=" with
    | none => return ([], e)
    | some beforeEq =>
      if !isTarget e then failure
      let (afterEq, next) ← yieldOrStars rules
      let (targets, value) ← assignment rules fuel next
      return (⟨e, beforeEq, afterEq⟩ :: targets, value)

/-- An expression, an annotated target or an assignment of any form. -/
def expressionStatement (rules : Rules) : Parser (Gap × Small) := do
  let (gap, e) ← yieldOrStars rules
  match ← oneOf? (":" :: augmentedOps) with
  | some ⟨before, ":"⟩ =>
    if !isAnnotatable e then failure
    let (afterColon, typeHint) ← rules .expression
    match ← mark? "=" with
    | some beforeEq =>
      let (afterEq, value) ← yieldOrStars rules
      return (gap, .annotated e before afterColon typeHint (some ⟨beforeEq, afterEq, value⟩))
    | none => return (gap, .annotated e before afterColon typeHint none)
  | some op =>
    if !isSingleTarget e then failure
    let (afterOp, value) ← yieldOrStars rules
    return (gap, .augmented e op.gap op.text afterOp value)
  | none =>
    let (targets, value) ← assignment rules ((← get).length + 1) e
    if targets.isEmpty then return (gap, .expr e) else return (gap, .assign targets value)

mutual

def isDeletable : Expr → Bool
  | .name text => !constantNames.contains text
  | .attribute .. => true
  | .subscript .. => true
  | .paren _ inner _ => isDeletable inner
  | .tuple entries => areDeletable entries
  | .list entries _ => areDeletable entries
  | _ => false

def areDeletable : List Entry → Bool
  | [] => true
  | .mk _ item _ :: rest => isDeletableItem item && areDeletable rest

def isDeletableItem : Item → Bool
  | .value e => isDeletable e
  | _ => false

end

def commaNames : Nat → Parser Unit
  | 0 => failure
  | fuel + 1 => do
    let _ ← name
    if (← mark? ",").isSome then commaNames fuel

/-- The statements that are kept word by word, after their keyword. -/
def keywordStatement (rules : Rules) (keyword : String) : Parser Unit := do
  match keyword with
  | "raise" =>
    if (← attempt (rules .expression)).isSome then
      if (← mark? "from").isSome then
        let _ ← rules .expression
  | "del" =>
    let (_, e) ← starExpressions rules
    if !isDeletable e then failure
  | "assert" =>
    let _ ← rules .expression
    if (← mark? ",").isSome then
      let _ ← rules .expression
  | "global" | "nonlocal" => commaNames ((← get).length + 1)
  | _ => return ()

def keywordStatements : List String :=
  ["raise", "pass", "del", "assert", "break", "continue", "global", "nonlocal"]

def small (rules : Rules) : Parser (Gap × Small) := do
  match ← peek with
  | some (.name, "import") => importModules
  | some (.name, "from") => importFrom
  | some (.name, "return") =>
    let gap ← mark "return"
    match ← attempt (starExpressions rules) with
    | some (valueGap, value) => return (gap, .returning valueGap value)
    | none => return (gap, .verbatim [⟨[], "return"⟩])
  | some (.name, "type") => typeAlias rules <|> expressionStatement rules
  | some (.name, keyword) =>
    if keywordStatements.contains keyword then
      let gap ← mark keyword
      let words ← verbatim (keywordStatement rules keyword)
      return (gap, .verbatim (⟨[], keyword⟩ :: words))
    else expressionStatement rules
  | _ => expressionStatement rules

def lineTail? : Parser (Option LineTail) := do
  match ← get with
  | .lineEnd tail :: rest =>
    set rest
    return some tail
  | _ => return none

def lineTail : Parser LineTail := do
  match ← lineTail? with
  | some tail => return tail
  | none => failure

/-- Small statements up to the end of their line. The blank after a last semicolon belongs to the
semicolon. -/
def smallLine (rules : Rules) : Nat → Parser (Gap × SmallLine)
  | 0 => failure
  | fuel + 1 => do
    let (gap, statement) ← small rules
    match ← mark? ";" with
    | none => return (gap, ⟨[⟨statement, none⟩], ← lineTail⟩)
    | some before =>
      match ← lineTail? with
      | some tail =>
        let after := blankPiece tail.blank.toList
        return (gap, ⟨[⟨statement, some (before, after)⟩], { tail with blank := "" }⟩)
      | none =>
        let (after, line) ← smallLine rules fuel
        return (gap, ⟨⟨statement, some (before, after)⟩ :: line.entries, line.tail⟩)

def smallLineHere (rules : Rules) : Parser (Gap × SmallLine) := do
  smallLine rules ((← get).length + 1)

/-! ## Suites and clauses -/

/-- A block of statements read by `inner`, or small statements on the same line. -/
def suite (rules : Rules) (inner : Parser (List Statement)) : Parser Suite := do
  match ← get with
  | .lineEnd tail :: .indent step :: rest =>
    set rest
    let body ← inner
    match body, ← get with
    | _ :: _, .dedent footer :: rest =>
      set rest
      return .block tail (some step) body footer
    | _, _ => failure
  | _ =>
    let (gap, line) ← smallLineHere rules
    return .inline gap line

def lineStart : Parser (List EmptyLine) := do
  match ← get with
  | .lineStart above :: rest =>
    set rest
    return above
  | _ => failure

def isLineNext (texts : List String) : Parser Bool := do
  match ← get with
  | .lineStart _ :: .word .name word :: _ => return texts.contains word.text
  | _ => return false

/-- A clause whose head, up to its colon, is read for its extent alone. -/
def clause (rules : Rules) (inner : Parser (List Statement)) (above : List EmptyLine)
    (head : Parser Unit) : Parser Clause := do
  let words ← verbatim (do head; let _ ← mark ":")
  return .mk above (.verbatim (Word.flush words)) (← suite rules inner)

def testClause (rules : Rules) (inner : Parser (List Statement)) (above : List EmptyLine)
    (keyword : String) : Parser Clause := do
  let _ ← mark keyword
  let (gap, condition) ← named rules
  let colon ← mark ":"
  return .mk above (.test keyword gap condition colon) (← suite rules inner)

def keywordHead (keyword : String) : Parser Unit := do
  let _ ← mark keyword

/-- A clause of the next line when it begins with this keyword. -/
def clauseNext (rules : Rules) (inner : Parser (List Statement)) (keyword : String)
    (head : Parser Unit) : Parser (List Clause) := do
  if ← isLineNext [keyword] then
    let above ← lineStart
    return [← clause rules inner above head]
  else return []

def conditional (rules : Rules) (inner : Parser (List Statement)) (above : List EmptyLine) :
    Parser Statement := do
  let first ← testClause rules inner above "if"
  let others ← many do
    if ← isLineNext ["elif"] then
      let above ← lineStart
      return some (← testClause rules inner above "elif")
    else return none
  return .compound (first :: others ++ (← clauseNext rules inner "else" (keywordHead "else")))

def forHead (rules : Rules) : Parser Unit := do
  let _ ← oneOf? ["async"]
  let _ ← mark "for"
  let _ ← starTargets rules
  let _ ← mark "in"
  let _ ← starExpressions rules

def whileHead (rules : Rules) : Parser Unit := do
  let _ ← mark "while"
  let _ ← named rules

def loopStatement (rules : Rules) (inner : Parser (List Statement)) (above : List EmptyLine)
    (head : Parser Unit) : Parser Statement := do
  let first ← clause rules inner above head
  return .compound (first :: (← clauseNext rules inner "else" (keywordHead "else")))

def exceptHead (rules : Rules) : Parser Unit := do
  let _ ← mark "except"
  let star ← oneOf? ["*"]
  if star.isSome || !(← isNext ":") then
    let _ ← rules .expression
    if (← mark? "as").isSome then
      let _ ← name

def tryStatement (rules : Rules) (inner : Parser (List Statement)) (above : List EmptyLine) :
    Parser Statement := do
  let first ← clause rules inner above (keywordHead "try")
  let handlers ← many do
    if ← isLineNext ["except"] then
      let above ← lineStart
      return some (← clause rules inner above (exceptHead rules))
    else return none
  let otherwise ←
    if handlers.isEmpty then pure []
    else clauseNext rules inner "else" (keywordHead "else")
  let final ← clauseNext rules inner "finally" (keywordHead "finally")
  if handlers.isEmpty && final.isEmpty then failure
  return .compound (first :: handlers ++ otherwise ++ final)

def withItem (rules : Rules) : Parser Unit := do
  let _ ← rules .expression
  if (← mark? "as").isSome then
    let _ ← targetItem rules

/-- Items of a `with`, in parentheses a comma may stand after the last one. -/
def withItems (rules : Rules) (bracketed : Bool) : Nat → Parser Unit
  | 0 => failure
  | fuel + 1 => do
    withItem rules
    if (← mark? ",").isSome then
      if bracketed && (← isNext ")") then return () else withItems rules bracketed fuel

def withHead (rules : Rules) : Parser Unit := do
  let _ ← oneOf? ["async"]
  let _ ← mark "with"
  let fuel := (← get).length + 1
  (do let _ ← mark "("
      withItems rules true fuel
      let _ ← mark ")"
      if ← isNext ":" then return () else failure)
  <|> withItems rules false fuel

/-! ## Patterns -/

/-- Members of a pattern, separated by commas, up to and with a closing bracket. -/
def patternMembers (member : Parser Unit) (closer : String) : Parser Unit := do
  let _ ← many do
    if ← isNext closer then return none
    member
    if (← mark? ",").isSome then return some ()
    else if ← isNext closer then return some ()
    else failure
  let _ ← mark closer

/-- A member of a sequence: a starred name, or a pattern. -/
def sequencePattern (whole : Parser Unit) : Parser Unit := do
  if (← mark? "*").isSome then
    let _ ← name
  else whole

def numberPattern : Parser Unit := do
  let _ ← oneOf? ["-"]
  let _ ← word .number
  if (← oneOf? ["+", "-"]).isSome then
    let _ ← word .number

def valuePattern (rules : Rules) : Parser Unit := do
  match ← peek with
  | some (.string, _) | some (.formattedOpen, _) =>
    let _ ← strings rules
  | some (.name, text) =>
    if constantNames.contains text then
      let _ ← word .name
    else
      let _ ← dottedName
  | _ => numberPattern

/-- A member of a mapping: the rest, or a key and a pattern. -/
def mappingPattern (rules : Rules) (whole : Parser Unit) : Parser Unit := do
  if (← mark? "**").isSome then
    let _ ← name
  else
    valuePattern rules
    let _ ← mark ":"
    whole

/-- An argument of a class: a pattern, with a keyword before it or none. -/
def argumentPattern (whole : Parser Unit) : Parser Unit :=
  (do let _ ← name
      let _ ← mark "="
      whole) <|> whole

/-- A pattern without `as` and alternatives; the members in it are patterns again. -/
def closedPattern (rules : Rules) (whole : Parser Unit) : Parser Unit := do
  match ← oneOf? ["(", "[", "\x7b"] with
  | some ⟨_, "("⟩ => patternMembers (sequencePattern whole) ")"
  | some ⟨_, "["⟩ => patternMembers (sequencePattern whole) "]"
  | some _ => patternMembers (mappingPattern rules whole) "\x7d"
  | none =>
    valuePattern rules
    if (← mark? "(").isSome then patternMembers (argumentPattern whole) ")"

/-- Patterns of a `case`, read for their extent. -/
def pattern (rules : Rules) : Nat → Parser Unit
  | 0 => failure
  | fuel + 1 => do
    closedPattern rules (pattern rules fuel)
    let _ ← many do
      if (← mark? "|").isSome then
        closedPattern rules (pattern rules fuel)
        return some ()
      else return none
    if (← mark? "as").isSome then
      let _ ← name

def caseHead (rules : Rules) : Parser Unit := do
  let _ ← mark "case"
  let fuel := (← get).length + 1
  sequencePattern (pattern rules fuel)
  let _ ← many do
    if (← mark? ",").isSome then
      if (← isNext ":") || (← isNext "if") then return some ()
      else
        sequencePattern (pattern rules fuel)
        return some ()
    else return none
  if (← mark? "if").isSome then
    let _ ← named rules

def matchStatement (rules : Rules) (inner : Parser (List Statement)) (above : List EmptyLine) :
    Parser Statement := do
  let words ← verbatim do
    let _ ← mark "match"
    let _ ← commaRestHead
    let _ ← mark ":"
  match ← get with
  | .lineEnd tail :: .indent step :: rest =>
    set rest
    let cases ← many do
      if ← isLineNext ["case"] then
        let above ← lineStart
        return some (Statement.compound [← clause rules inner above (caseHead rules)])
      else return none
    match cases, ← get with
    | _ :: _, .dedent footer :: rest =>
      set rest
      return .compound [.mk above (.verbatim (Word.flush words)) (.block tail (some step) cases footer)]
    | _, _ => failure
  | _ => failure
where
  /-- The subject: one named expression or several values. -/
  commaRestHead : Parser Unit := do
    let (gap, first) ← starOrNamed rules
    if ← isNext "," then
      let _ ← commaRest (starOrNamed rules) ((← get).length + 1) gap first
    else
      match first with
      | .value _ => return ()
      | _ => failure

/-! ## Definitions -/

def functionDef (rules : Rules) (inner : Parser (List Statement)) (preamble : Preamble) :
    Parser Statement := do
  let keywords ← verbatim do
    let _ ← oneOf? ["async"]
    let _ ← mark "def"
  let bound ← name
  let signature ← verbatim do
    let _ ← typeParameters rules
    let _ ← mark "("
    parameters rules true ")"
    let _ ← mark ")"
    if (← mark? "->").isSome then
      let _ ← rules .expression
    let _ ← mark ":"
  let head : FunctionHead :=
    ⟨preamble, Word.flush keywords, bound.gap, bound.text, signature⟩
  return .functionDef head (← suite rules inner)

/-- In front of keywords and doubly starred arguments stand all the others. -/
def basesFirst (entries : List Entry) : Bool :=
  let ranks := entries.map fun entry => argumentRank entry.item
  (ranks.dropWhile (· < 2)).all (2 ≤ ·)

def classDef (rules : Rules) (inner : Parser (List Statement)) (preamble : Preamble) :
    Parser Statement := do
  let _ ← mark "class"
  let bound ← name
  let parameters ← typeParameters rules
  let bases ← match ← mark? "(" with
    | some gap =>
      let (entries, close) ← arguments rules
      if basesFirst entries then pure (some ⟨gap, entries, close⟩) else failure
    | none => pure none
  let colon ← mark ":"
  return .classDef ⟨preamble, bound.gap, bound.text, parameters, bases, colon⟩ (← suite rules inner)

def decorator (rules : Rules) (above : List EmptyLine) : Parser Decorator := do
  let _ ← mark "@"
  let (gap, value) ← named rules
  return ⟨above, gap, value, ← lineTail⟩

/-- The decorators of a definition. The lines above the first one stand above the definition. -/
def decorators (rules : Rules) : Nat → List EmptyLine → Parser (List Decorator × List EmptyLine)
  | 0, _ => failure
  | fuel + 1, above => do
    if ← isNext "@" then
      let first ← decorator rules above
      let (rest, between) ← decorators rules fuel (← lineStart)
      return (first :: rest, between)
    else return ([], above)

def decorated (rules : Rules) (inner : Parser (List Statement)) (above : List EmptyLine) :
    Parser Statement := do
  let (found, between) ← decorators rules ((← get).length + 1) []
  let preamble : Preamble := ⟨above, found, between⟩
  if ← isNext "class" then classDef rules inner preamble else functionDef rules inner preamble

/-! ## Statements and modules -/

def statement? (rules : Rules) (inner : Parser (List Statement)) : Parser (Option Statement) := do
  match ← get with
  | .lineStart above :: rest =>
    set rest
    let simple : Parser Statement := do
      let (_, line) ← smallLineHere rules
      return .line above line
    match ← peek with
    | some (.operator, "@") => some <$> decorated rules inner above
    | some (.name, "class") => some <$> classDef rules inner { above }
    | some (.name, "def") => some <$> functionDef rules inner { above }
    | some (.name, "async") =>
      some <$> (functionDef rules inner { above }
        <|> loopStatement rules inner above (forHead rules)
        <|> (do return .compound [← clause rules inner above (withHead rules)]))
    | some (.name, "if") => some <$> conditional rules inner above
    | some (.name, "for") => some <$> loopStatement rules inner above (forHead rules)
    | some (.name, "while") => some <$> loopStatement rules inner above (whileHead rules)
    | some (.name, "try") => some <$> tryStatement rules inner above
    | some (.name, "with") =>
      some <$> (do return .compound [← clause rules inner above (withHead rules)])
    | some (.name, "match") => some <$> (matchStatement rules inner above <|> simple)
    | _ => some <$> simple
  | _ => return none

/-- The statements of a block, with blocks nested in it as deep as the bound. -/
def statements (rules : Rules) : Nat → Parser (List Statement)
  | 0 => failure
  | depth + 1 => many (statement? rules (statements rules depth))

def moduleBody (rules : Rules) : Parser (List Statement × List EmptyLine) := do
  let body ← statements rules ((← get).length + 1)
  match ← get with
  | [.finish footer] =>
    set ([] : List Token)
    return (body, footer)
  | _ => failure

end Grammar

def firstStep : List Token → Option String
  | [] => none
  | .indent step :: _ => some step
  | _ :: rest => firstStep rest

/-- Whether a text ends with a line feed that is not continued. -/
def endsClosed (text : List Char) : Bool :=
  match text.reverse with
  | '\n' :: '\r' :: '\\' :: _ => false
  | '\n' :: '\\' :: _ => false
  | '\n' :: _ => true
  | _ => false

/-- The lines after the last statement, without those up to the last indented one that stands before
the first comment at the margin. -/
def closingLines (lines : List EmptyLine) : List EmptyLine :=
  let upTo := lines.takeWhile fun line => !line.blank.isEmpty || line.comment.isNone
  let margin := (upTo.reverse.takeWhile fun line => line.blank.isEmpty).length
  if upTo.length == margin then lines else lines.drop (upTo.length - margin)

/-- Reads a text that is a module. A byte order mark is not part of it. -/
def Module.parse (text : String) : Except SourceError Module := do
  let chars := match text.toList with
    | '\ufeff' :: rest => rest
    | all => all
  let text := String.ofList chars
  let (body, footer) ← parseAll Grammar.moduleBody text
  let step := ((tokenize? chars).bind firstStep).getD "    "
  let footer := if body.isEmpty then footer else closingLines footer
  return ⟨body, footer, step, firstLineEnd chars, endsClosed chars⟩

end ModelMetadata.Source
