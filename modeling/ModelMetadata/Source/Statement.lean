import ModelMetadata.Source.Expr

/-!
Statements as written. A small statement is one of those that can share a line; a statement is such a
line, a class, a function, or a compound of clauses, each with a suite of its own. What no description
depends on (the parameters of a function, the items of a loop) is kept word by word.
-/
set_option autoImplicit false
namespace ModelMetadata.Source

/-- A name in an import: the dotted path, the name it is bound to, and a comma after it. -/
structure ImportName where
  before : Gap
  path : Expr
  /-- The gaps around the keyword, and the bound name. -/
  boundAs : Option (Gap × Gap × String)
  comma : Option Gap
deriving Inhabited

inductive ImportNames where
  | star (gap : Gap)
  | plain (names : List ImportName)
  | bracketed (beforeOpen : Gap) (names : List ImportName) (beforeClose : Gap)

/-- A target of an assignment and the gaps around its equals sign. -/
structure Target where
  target : Expr
  beforeEq : Gap
  afterEq : Gap
deriving Inhabited

/-- The value of an annotated target and the gaps around its equals sign. -/
structure Assigned where
  beforeEq : Gap
  afterEq : Gap
  value : Expr
deriving Inhabited

inductive Small where
  | expr (value : Expr)
  | assign (targets : List Target) (value : Expr)
  | annotated (target : Expr) (beforeColon afterColon : Gap) (typeHint : Expr)
      (assigned : Option Assigned)
  | augmented (target : Expr) (beforeOp : Gap) (op : String) (afterOp : Gap) (value : Expr)
  | importModules (names : List ImportName)
  /-- `dots` are the leading dots of a relative import. -/
  | importFrom (dots : List Word) (path : Option (Gap × Expr)) (beforeImport : Gap)
      (names : ImportNames)
  | typeAlias (afterType : Gap) (name : String) (parameters : List Word) (beforeEq afterEq : Gap)
      (value : Expr)
  | returning (gap : Gap) (value : Expr)
  | verbatim (words : List Word)

instance : Inhabited Small := ⟨.verbatim []⟩

/-- A small statement and, when a semicolon follows, the gaps around it. -/
structure SmallEntry where
  statement : Small
  semicolon : Option (Gap × Gap)
deriving Inhabited

/-- The small statements of a line and what ends the line. -/
structure SmallLine where
  entries : List SmallEntry
  tail : LineTail
deriving Inhabited

structure Decorator where
  above : List EmptyLine
  gap : Gap
  value : Expr
  tail : LineTail
deriving Inhabited

/-- Lines and decorators before the keyword of a definition; `between` stands after decorators. -/
structure Preamble where
  above : List EmptyLine := []
  decorators : List Decorator := []
  between : List EmptyLine := []
deriving Inhabited

structure BaseList where
  beforeOpen : Gap
  entries : List Entry
  beforeClose : Gap
deriving Inhabited

structure ClassHead where
  preamble : Preamble
  afterClass : Gap
  name : String
  parameters : List Word
  bases : Option BaseList
  beforeColon : Gap
deriving Inhabited

/-- The words before the name of a function, its name, and the words from its parameters to the
colon. -/
structure FunctionHead where
  preamble : Preamble
  keywords : List Word
  beforeName : Gap
  name : String
  signature : List Word
deriving Inhabited

inductive ClauseHead where
  /-- The test of a conditional, behind `if` or `elif`. -/
  | test (keyword : String) (gap : Gap) (condition : Expr) (beforeColon : Gap)
  /-- Any other clause, up to its colon. -/
  | verbatim (words : List Word)

instance : Inhabited ClauseHead := ⟨.verbatim []⟩

mutual

inductive Statement where
  | line (above : List EmptyLine) (line : SmallLine)
  | classDef (head : ClassHead) (body : Suite)
  | functionDef (head : FunctionHead) (body : Suite)
  /-- A statement of one or more clauses. The cases of a `match` are compounds of one clause in its
  suite. -/
  | compound (clauses : List Clause)

inductive Clause where
  | mk (above : List EmptyLine) (head : ClauseHead) (body : Suite)

inductive Suite where
  /-- `step` is `none` for the indentation that a block of the module adds by default. -/
  | block (tail : LineTail) (step : Option String) (body : List Statement)
      (footer : List EmptyLine)
  | inline (gap : Gap) (line : SmallLine)

end

instance : Inhabited Statement := ⟨.compound []⟩
instance : Inhabited Suite := ⟨.block {} none [] []⟩
instance : Inhabited Clause := ⟨.mk [] default default⟩

/-- A module: its statements, the lines after the last one, and how it is laid out by default. -/
structure Module where
  body : List Statement
  footer : List EmptyLine := []
  step : String := "    "
  lineEnd : String := "\n"
  /-- Whether the text ends with a line end. -/
  closed : Bool := true
deriving Inhabited

/-! ## Printing -/

def ImportName.render (page : Page) (name : ImportName) : String :=
  Gap.render page name.before ++ name.path.render page
    ++ (match name.boundAs with
        | some (beforeAs, afterAs, bound) =>
          Gap.render page beforeAs ++ "as" ++ Gap.render page afterAs ++ bound
        | none => "")
    ++ Gap.renderComma page name.comma

def ImportName.renderAll (page : Page) (names : List ImportName) : String :=
  String.join (names.map (ImportName.render page))

def ImportNames.render (page : Page) : ImportNames → String
  | .star gap => Gap.render page gap ++ "*"
  | .plain names => ImportName.renderAll page names
  | .bracketed beforeOpen names beforeClose =>
    Gap.render page beforeOpen ++ "(" ++ ImportName.renderAll page names
      ++ Gap.render page beforeClose ++ ")"

def Target.render (page : Page) (target : Target) : String :=
  target.target.render page ++ Gap.render page target.beforeEq ++ "="
    ++ Gap.render page target.afterEq

def Assigned.render (page : Page) (assigned : Assigned) : String :=
  Gap.render page assigned.beforeEq ++ "=" ++ Gap.render page assigned.afterEq
    ++ assigned.value.render page

def Small.render (page : Page) : Small → String
  | .expr value => value.render page
  | .assign targets value =>
    String.join (targets.map (Target.render page)) ++ value.render page
  | .annotated target beforeColon afterColon typeHint assigned =>
    target.render page ++ Gap.render page beforeColon ++ ":" ++ Gap.render page afterColon
      ++ typeHint.render page ++ ((assigned.map (Assigned.render page)).getD "")
  | .augmented target beforeOp op afterOp value =>
    target.render page ++ Gap.render page beforeOp ++ op ++ Gap.render page afterOp
      ++ value.render page
  | .importModules names => "import" ++ ImportName.renderAll page names
  | .importFrom dots path beforeImport names =>
    "from" ++ Word.renderAll page dots
      ++ (match path with
          | some (gap, path) => Gap.render page gap ++ path.render page
          | none => "")
      ++ Gap.render page beforeImport ++ "import" ++ names.render page
  | .typeAlias afterType name parameters beforeEq afterEq value =>
    "type" ++ Gap.render page afterType ++ name ++ Word.renderAll page parameters
      ++ Gap.render page beforeEq ++ "=" ++ Gap.render page afterEq ++ value.render page
  | .returning gap value => "return" ++ Gap.render page gap ++ value.render page
  | .verbatim words => Word.renderAll page words

def SmallEntry.render (page : Page) (entry : SmallEntry) : String :=
  entry.statement.render page
    ++ (match entry.semicolon with
        | some (before, after) => Gap.render page before ++ ";" ++ Gap.render page after
        | none => "")

def SmallLine.render (page : Page) (line : SmallLine) : String :=
  String.join (line.entries.map (SmallEntry.render page)) ++ line.tail.render page

def Decorator.render (page : Page) (decorator : Decorator) : String :=
  EmptyLine.renderAll page decorator.above ++ page.indent ++ "@" ++ Gap.render page decorator.gap
    ++ decorator.value.render page ++ decorator.tail.render page

def Preamble.render (page : Page) (preamble : Preamble) : String :=
  EmptyLine.renderAll page preamble.above
    ++ String.join (preamble.decorators.map (Decorator.render page))
    ++ EmptyLine.renderAll page preamble.between

def BaseList.render (page : Page) (bases : BaseList) : String :=
  Gap.render page bases.beforeOpen ++ "(" ++ Entry.renderAll page bases.entries
    ++ Gap.render page bases.beforeClose ++ ")"

def ClassHead.render (page : Page) (head : ClassHead) : String :=
  head.preamble.render page ++ page.indent ++ "class" ++ Gap.render page head.afterClass ++ head.name
    ++ Word.renderAll page head.parameters ++ ((head.bases.map (BaseList.render page)).getD "")
    ++ Gap.render page head.beforeColon ++ ":"

def FunctionHead.render (page : Page) (head : FunctionHead) : String :=
  head.preamble.render page ++ page.indent ++ Word.renderAll page head.keywords
    ++ Gap.render page head.beforeName ++ head.name ++ Word.renderAll page head.signature

def ClauseHead.render (page : Page) : ClauseHead → String
  | .test keyword gap condition beforeColon =>
    keyword ++ Gap.render page gap ++ condition.render page ++ Gap.render page beforeColon ++ ":"
  | .verbatim words => Word.renderAll page words

mutual

def Statement.render (page : Page) : Statement → String
  | .line above line => EmptyLine.renderAll page above ++ page.indent ++ line.render page
  | .classDef head body => head.render page ++ body.render page
  | .functionDef head body => head.render page ++ body.render page
  | .compound clauses => Clause.renderAll page clauses

def Statement.renderAll (page : Page) : List Statement → String
  | [] => ""
  | statement :: rest => statement.render page ++ Statement.renderAll page rest

def Clause.render (page : Page) : Clause → String
  | .mk above head body =>
    EmptyLine.renderAll page above ++ page.indent ++ head.render page ++ body.render page

def Clause.renderAll (page : Page) : List Clause → String
  | [] => ""
  | clause :: rest => clause.render page ++ Clause.renderAll page rest

def Suite.render (page : Page) : Suite → String
  | .block tail step body footer =>
    tail.render page ++ Statement.renderAll (page.deeper step) body
      ++ EmptyLine.renderAll (page.deeper step) footer
  | .inline gap line => Gap.render page gap ++ line.render page

end

def dropLineEnd (text : String) : String :=
  match text.toList.reverse with
  | '\n' :: '\r' :: rest => String.ofList rest.reverse
  | '\n' :: rest => String.ofList rest.reverse
  | '\r' :: rest => String.ofList rest.reverse
  | _ => text

/-- The text of a module. A module whose text was not closed by a line end is printed without its
last one; one that is closed but holds nothing is a single line end. -/
def Module.render (module : Module) : String :=
  let page : Page := ⟨"", module.step, module.lineEnd⟩
  let text := Statement.renderAll page module.body ++ EmptyLine.renderAll page module.footer
  if module.closed then (if text.isEmpty then module.lineEnd else text) else dropLineEnd text

/-! ## Reading -/

/-- The statements of a suite; those of an inline one are a line of their own, whose tail is not
kept. -/
def Suite.statements : Suite → List Statement
  | .block _ _ body _ => body
  | .inline _ line => [.line [] ⟨line.entries, {}⟩]

/-- The arguments of a class before the first keyword or doubly starred one. -/
def ClassHead.positionalBases (head : ClassHead) : List Expr :=
  match head.bases with
  | none => []
  | some bases =>
    (bases.entries.takeWhile fun entry =>
      match entry.item with
      | .value _ => true
      | .star stars _ _ => stars == "*"
      | _ => false).filterMap fun entry => entry.item.argument

end ModelMetadata.Source
