import Mathlib
import ModelMetadata.Source.Statement

/-!
The comments of a module. They stand in the gaps between tokens, above statements, at the ends of lines and
at the ends of blocks. A comment hangs on the statement whose tokens it stands among or above; one behind the
colon of a block, or at the end of the block, hangs on the statement that the block belongs to. The comments
of a tree are listed in the order in which its text shows them.
-/
set_option autoImplicit false
namespace ModelMetadata

open Source

/-! ## Texts in order -/

def OccurInOrder : List String → String → Prop
  | [], _ => True
  | piece :: rest, text => ∃ before after, text = before ++ piece ++ after ∧ OccurInOrder rest after

namespace OccurInOrder

variable {pieces others : List String} {text more : String}

theorem nil (text : String) : OccurInOrder [] text := trivial

theorem behind (h : OccurInOrder pieces text) (before : String) : OccurInOrder pieces (before ++ text) := by
  cases pieces with
  | nil => trivial
  | cons piece rest =>
    obtain ⟨lead, after, rfl, hrest⟩ := h
    exact ⟨before ++ lead, after, by simp only [String.append_assoc], hrest⟩

theorem append (h : OccurInOrder pieces text) (hmore : OccurInOrder others more) :
    OccurInOrder (pieces ++ others) (text ++ more) := by
  induction pieces generalizing text with
  | nil => exact hmore.behind text
  | cons piece rest ih =>
    obtain ⟨before, after, rfl, hrest⟩ := h
    exact ⟨before, after ++ more, by simp only [String.append_assoc], ih hrest⟩

theorem before (h : OccurInOrder pieces text) (after : String) : OccurInOrder pieces (text ++ after) := by
  have hboth := h.append (nil after)
  rwa [List.append_nil] at hboth

theorem single (piece : String) : OccurInOrder [piece] piece :=
  ⟨"", "", by rw [String.empty_append, String.append_empty], trivial⟩

theorem join {α : Type} {piecesOf : α → List String} {textOf : α → String} {xs : List α}
    (h : ∀ x ∈ xs, OccurInOrder (piecesOf x) (textOf x)) :
    OccurInOrder (xs.flatMap piecesOf) (String.join (xs.map textOf)) := by
  induction xs with
  | nil => exact nil _
  | cons x rest ih =>
    obtain ⟨hfirst, hrest⟩ := List.forall_mem_cons.1 h
    rw [List.flatMap_cons, List.map_cons, String.join_cons]
    exact hfirst.append (ih hrest)

theorem optional (piece : Option String) : OccurInOrder piece.toList (piece.getD "") := by
  cases piece with
  | none => exact nil _
  | some piece => exact single piece

theorem option {α : Type} {piecesOf : α → List String} {textOf : α → String}
    (h : ∀ x, OccurInOrder (piecesOf x) (textOf x)) (x? : Option α) :
    OccurInOrder ((x?.map piecesOf).getD []) ((x?.map textOf).getD "") := by
  cases x? with
  | none => exact nil _
  | some x => exact h x

end OccurInOrder

/-! ## Comments between tokens -/

namespace Source

def GapPiece.comments : GapPiece → List String
  | .comment text => [text]
  | _ => []

def Gap.comments (gap : Gap) : List String := gap.flatMap GapPiece.comments

def Gap.commaComments (comma : Option Gap) : List String := (comma.map Gap.comments).getD []

def EmptyLine.comments (lines : List EmptyLine) : List String :=
  lines.flatMap fun line => line.comment.toList

def LineTail.comments (tail : LineTail) : List String := tail.comment.toList

def Word.comments (words : List Word) : List String := words.flatMap fun word => Gap.comments word.gap

mutual

def Expr.comments : Expr → List String
  | .name _ | .integer _ | .float _ | .imaginary _ | .ellipsis | .string _ => []
  | .adjacent first gap rest => first.comments ++ Gap.comments gap ++ rest.comments
  | .attribute owner beforeDot afterDot _ =>
    owner.comments ++ Gap.comments beforeDot ++ Gap.comments afterDot
  | .subscript owner beforeOpen entries beforeClose =>
    owner.comments ++ Gap.comments beforeOpen ++ Entry.comments entries ++ Gap.comments beforeClose
  | .call callee beforeOpen entries beforeClose =>
    callee.comments ++ Gap.comments beforeOpen ++ Entry.comments entries ++ Gap.comments beforeClose
  | .unary _ gap operand => Gap.comments gap ++ operand.comments
  | .binary left beforeOp _ afterOp right =>
    left.comments ++ Gap.comments beforeOp ++ Gap.comments afterOp ++ right.comments
  | .list entries beforeClose => Entry.comments entries ++ Gap.comments beforeClose
  | .set entries beforeClose => Entry.comments entries ++ Gap.comments beforeClose
  | .dict entries beforeClose => Entry.comments entries ++ Gap.comments beforeClose
  | .tuple entries => Entry.comments entries
  | .lambda header gap body => Word.comments header ++ Gap.comments gap ++ body.comments
  | .paren afterOpen inner beforeClose =>
    Gap.comments afterOpen ++ inner.comments ++ Gap.comments beforeClose
  | .compound parts => Part.comments parts

def Entry.comments : List Entry → List String
  | [] => []
  | .mk before item comma :: rest =>
    Gap.comments before ++ item.comments ++ Gap.commaComments comma ++ Entry.comments rest

def Item.comments : Item → List String
  | .value e => e.comments
  | .star _ gap e => Gap.comments gap ++ e.comments
  | .keyword _ beforeEq afterEq e => Gap.comments beforeEq ++ Gap.comments afterEq ++ e.comments
  | .pair key beforeColon afterColon e =>
    key.comments ++ Gap.comments beforeColon ++ Gap.comments afterColon ++ e.comments
  | .slice parts => Part.comments parts

def Part.comments : List Part → List String
  | [] => []
  | .word word :: rest => Gap.comments word.gap ++ Part.comments rest
  | .expr gap e :: rest => Gap.comments gap ++ e.comments ++ Part.comments rest

end

def ImportName.comments (name : ImportName) : List String :=
  Gap.comments name.before ++ name.path.comments
    ++ (name.boundAs.map fun (beforeAs, afterAs, _) =>
      Gap.comments beforeAs ++ Gap.comments afterAs).getD []
    ++ Gap.commaComments name.comma

def ImportNames.comments : ImportNames → List String
  | .star gap => Gap.comments gap
  | .plain names => names.flatMap ImportName.comments
  | .bracketed beforeOpen names beforeClose =>
    Gap.comments beforeOpen ++ names.flatMap ImportName.comments ++ Gap.comments beforeClose

def Target.comments (target : Target) : List String :=
  target.target.comments ++ Gap.comments target.beforeEq ++ Gap.comments target.afterEq

def Assigned.comments (assigned : Assigned) : List String :=
  Gap.comments assigned.beforeEq ++ Gap.comments assigned.afterEq ++ assigned.value.comments

def Small.comments : Small → List String
  | .expr value => value.comments
  | .assign targets value => targets.flatMap Target.comments ++ value.comments
  | .annotated target beforeColon afterColon typeHint assigned =>
    target.comments ++ Gap.comments beforeColon ++ Gap.comments afterColon ++ typeHint.comments
      ++ (assigned.map Assigned.comments).getD []
  | .augmented target beforeOp _ afterOp value =>
    target.comments ++ Gap.comments beforeOp ++ Gap.comments afterOp ++ value.comments
  | .importModules names => names.flatMap ImportName.comments
  | .importFrom dots path beforeImport names =>
    Word.comments dots
      ++ (path.map fun (gap, path) => Gap.comments gap ++ path.comments).getD []
      ++ Gap.comments beforeImport ++ names.comments
  | .typeAlias afterType _ parameters beforeEq afterEq value =>
    Gap.comments afterType ++ Word.comments parameters ++ Gap.comments beforeEq
      ++ Gap.comments afterEq ++ value.comments
  | .returning gap value => Gap.comments gap ++ value.comments
  | .verbatim words => Word.comments words

def SmallEntry.comments (entry : SmallEntry) : List String :=
  entry.statement.comments
    ++ (entry.semicolon.map fun (before, after) => Gap.comments before ++ Gap.comments after).getD []

def Decorator.comments (decorator : Decorator) : List String :=
  EmptyLine.comments decorator.above ++ Gap.comments decorator.gap ++ decorator.value.comments
    ++ decorator.tail.comments

def Preamble.comments (preamble : Preamble) : List String :=
  EmptyLine.comments preamble.above ++ preamble.decorators.flatMap Decorator.comments
    ++ EmptyLine.comments preamble.between

def BaseList.comments (bases : BaseList) : List String :=
  Gap.comments bases.beforeOpen ++ Entry.comments bases.entries ++ Gap.comments bases.beforeClose

def ClassHead.comments (head : ClassHead) : List String :=
  head.preamble.comments ++ Gap.comments head.afterClass ++ Word.comments head.parameters
    ++ (head.bases.map BaseList.comments).getD [] ++ Gap.comments head.beforeColon

def FunctionHead.comments (head : FunctionHead) : List String :=
  head.preamble.comments ++ Word.comments head.keywords ++ Gap.comments head.beforeName
    ++ Word.comments head.signature

def ClauseHead.comments : ClauseHead → List String
  | .test _ gap condition beforeColon =>
    Gap.comments gap ++ condition.comments ++ Gap.comments beforeColon
  | .verbatim words => Word.comments words

end Source

/-! ## Comments in the text between tokens -/

namespace Source

variable (page : Page)

theorem Gap.inOrder (gap : Gap) : OccurInOrder (Gap.comments gap) (Gap.render page gap) := by
  refine .join fun piece _ => ?_
  cases piece with
  | comment text => exact .single text
  | _ => exact .nil _

theorem Gap.inOrder_comma (comma : Option Gap) :
    OccurInOrder (Gap.commaComments comma) (Gap.renderComma page comma) := by
  cases comma with
  | none => exact .nil _
  | some gap => exact (inOrder page gap).before ","

theorem EmptyLine.inOrder (lines : List EmptyLine) :
    OccurInOrder (EmptyLine.comments lines) (EmptyLine.renderAll page lines) :=
  .join fun line _ => ((OccurInOrder.optional line.comment).behind _).before _

theorem LineTail.inOrder (tail : LineTail) : OccurInOrder tail.comments (tail.render page) :=
  ((OccurInOrder.optional tail.comment).behind _).before _

theorem Word.inOrder (words : List Word) :
    OccurInOrder (Word.comments words) (Word.renderAll page words) :=
  .join fun word _ => (Gap.inOrder page word.gap).before _

mutual

theorem Expr.inOrder (e : Expr) : OccurInOrder e.comments (e.render page) := by
  cases e with
  | name | integer | float | imaginary | ellipsis | string => exact .nil _
  | adjacent first gap rest =>
    have hfirst := (Expr.inOrder first).append (Gap.inOrder page gap)
    exact hfirst.append (Expr.inOrder rest)
  | «attribute» owner beforeDot afterDot attr =>
    have hdotted := ((Expr.inOrder owner).append (Gap.inOrder page beforeDot)).before "."
    exact (hdotted.append (Gap.inOrder page afterDot)).before attr
  | subscript owner beforeOpen entries beforeClose =>
    have hopen := ((Expr.inOrder owner).append (Gap.inOrder page beforeOpen)).before "["
    have hentries := hopen.append (Entry.inOrder entries)
    exact (hentries.append (Gap.inOrder page beforeClose)).before "]"
  | call callee beforeOpen entries beforeClose =>
    have hopen := ((Expr.inOrder callee).append (Gap.inOrder page beforeOpen)).before "("
    have hentries := hopen.append (Entry.inOrder entries)
    exact (hentries.append (Gap.inOrder page beforeClose)).before ")"
  | unary op gap operand =>
    have hop := (Gap.inOrder page gap).behind op
    exact hop.append (Expr.inOrder operand)
  | binary left beforeOp op afterOp right =>
    have hleft := ((Expr.inOrder left).append (Gap.inOrder page beforeOp)).before op
    have hop := hleft.append (Gap.inOrder page afterOp)
    exact hop.append (Expr.inOrder right)
  | list entries beforeClose =>
    have hentries := (Entry.inOrder entries).behind "["
    exact (hentries.append (Gap.inOrder page beforeClose)).before "]"
  | set entries beforeClose | dict entries beforeClose =>
    have hentries := (Entry.inOrder entries).behind "\x7b"
    exact (hentries.append (Gap.inOrder page beforeClose)).before "\x7d"
  | tuple entries => exact Entry.inOrder entries
  | lambda header gap body =>
    have hheader := (Word.inOrder page header).append (Gap.inOrder page gap)
    exact hheader.append (Expr.inOrder body)
  | paren afterOpen inner beforeClose =>
    have hopen := (Gap.inOrder page afterOpen).behind "("
    have hinner := hopen.append (Expr.inOrder inner)
    exact (hinner.append (Gap.inOrder page beforeClose)).before ")"
  | compound parts => exact Part.inOrder parts
termination_by structural e

theorem Entry.inOrder (entries : List Entry) :
    OccurInOrder (Entry.comments entries) (Entry.renderAll page entries) := by
  match entries with
  | [] => exact .nil _
  | .mk before item comma :: rest =>
    have hitem := (Gap.inOrder page before).append (Item.inOrder item)
    have hentry := hitem.append (Gap.inOrder_comma page comma)
    exact hentry.append (Entry.inOrder rest)
termination_by structural entries

theorem Item.inOrder (item : Item) : OccurInOrder item.comments (item.render page) := by
  cases item with
  | value e => exact Expr.inOrder e
  | star stars gap e =>
    have hstars := (Gap.inOrder page gap).behind stars
    exact hstars.append (Expr.inOrder e)
  | keyword name beforeEq afterEq e =>
    have hname := ((Gap.inOrder page beforeEq).behind name).before "="
    have heq := hname.append (Gap.inOrder page afterEq)
    exact heq.append (Expr.inOrder e)
  | pair key beforeColon afterColon e =>
    have hkey := ((Expr.inOrder key).append (Gap.inOrder page beforeColon)).before ":"
    have hcolon := hkey.append (Gap.inOrder page afterColon)
    exact hcolon.append (Expr.inOrder e)
  | slice parts => exact Part.inOrder parts
termination_by structural item

theorem Part.inOrder (parts : List Part) :
    OccurInOrder (Part.comments parts) (Part.renderAll page parts) := by
  match parts with
  | [] => exact .nil _
  | .word token :: rest =>
    have htoken := (Gap.inOrder page token.gap).before token.text
    exact htoken.append (Part.inOrder rest)
  | .expr gap e :: rest =>
    have hpart := (Gap.inOrder page gap).append (Expr.inOrder e)
    exact hpart.append (Part.inOrder rest)
termination_by structural parts

end

theorem ImportName.inOrder (name : ImportName) : OccurInOrder name.comments (name.render page) := by
  obtain ⟨before, path, boundAs, comma⟩ := name
  have hpath := (Gap.inOrder page before).append (path.inOrder page)
  cases boundAs with
  | none => exact (hpath.append (.nil "")).append (Gap.inOrder_comma page comma)
  | some bound =>
    obtain ⟨beforeAs, afterAs, bound⟩ := bound
    have has := (Gap.inOrder page beforeAs).before "as"
    have hbound := (has.append (Gap.inOrder page afterAs)).before bound
    exact (hpath.append hbound).append (Gap.inOrder_comma page comma)

theorem ImportName.inOrder_all (names : List ImportName) :
    OccurInOrder (names.flatMap ImportName.comments) (ImportName.renderAll page names) :=
  .join fun name _ => name.inOrder page

theorem ImportNames.inOrder (names : ImportNames) : OccurInOrder names.comments (names.render page) := by
  cases names with
  | star gap => exact (Gap.inOrder page gap).before _
  | plain names => exact ImportName.inOrder_all page names
  | bracketed beforeOpen names beforeClose =>
    have hopen := (Gap.inOrder page beforeOpen).before "("
    have hnames := hopen.append (ImportName.inOrder_all page names)
    exact (hnames.append (Gap.inOrder page beforeClose)).before ")"

theorem Target.inOrder (target : Target) : OccurInOrder target.comments (target.render page) := by
  obtain ⟨target, beforeEq, afterEq⟩ := target
  have htarget := ((target.inOrder page).append (Gap.inOrder page beforeEq)).before "="
  exact htarget.append (Gap.inOrder page afterEq)

theorem Assigned.inOrder (assigned : Assigned) : OccurInOrder assigned.comments (assigned.render page) := by
  obtain ⟨beforeEq, afterEq, value⟩ := assigned
  have heq := ((Gap.inOrder page beforeEq).before "=").append (Gap.inOrder page afterEq)
  exact heq.append (value.inOrder page)

theorem Small.inOrder (small : Small) : OccurInOrder small.comments (small.render page) := by
  cases small with
  | expr value => exact value.inOrder page
  | assign targets value =>
    have htargets := OccurInOrder.join fun target (_ : target ∈ targets) => target.inOrder page
    exact htargets.append (value.inOrder page)
  | annotated target beforeColon afterColon typeHint assigned =>
    have htarget := ((target.inOrder page).append (Gap.inOrder page beforeColon)).before ":"
    have hcolon := htarget.append (Gap.inOrder page afterColon)
    have hhint := hcolon.append (typeHint.inOrder page)
    exact hhint.append (.option (fun assigned => assigned.inOrder page) assigned)
  | augmented target beforeOp op afterOp value =>
    have htarget := ((target.inOrder page).append (Gap.inOrder page beforeOp)).before op
    have hop := htarget.append (Gap.inOrder page afterOp)
    exact hop.append (value.inOrder page)
  | importModules names => exact (ImportName.inOrder_all page names).behind _
  | importFrom dots path beforeImport names =>
    have hdots := (Word.inOrder page dots).behind "from"
    cases path with
    | none =>
      have himport := ((hdots.append (.nil "")).append (Gap.inOrder page beforeImport)).before "import"
      exact himport.append (names.inOrder page)
    | some path =>
      have hpath := hdots.append ((Gap.inOrder page path.1).append (path.2.inOrder page))
      have himport := (hpath.append (Gap.inOrder page beforeImport)).before "import"
      exact himport.append (names.inOrder page)
  | typeAlias afterType name parameters beforeEq afterEq value =>
    have hname := ((Gap.inOrder page afterType).behind "type").before name
    have hparameters := hname.append (Word.inOrder page parameters)
    have heq := (hparameters.append (Gap.inOrder page beforeEq)).before "="
    exact (heq.append (Gap.inOrder page afterEq)).append (value.inOrder page)
  | returning gap value =>
    have hreturn := (Gap.inOrder page gap).behind "return"
    exact hreturn.append (value.inOrder page)
  | verbatim words => exact Word.inOrder page words

theorem SmallEntry.inOrder (entry : SmallEntry) : OccurInOrder entry.comments (entry.render page) := by
  obtain ⟨statement, semicolon⟩ := entry
  cases semicolon with
  | none => exact (statement.inOrder page).append (.nil _)
  | some gaps =>
    have hsemicolon := (Gap.inOrder page gaps.1).before ";"
    exact (statement.inOrder page).append (hsemicolon.append (Gap.inOrder page gaps.2))

theorem SmallLine.inOrder (line : SmallLine) :
    OccurInOrder (line.entries.flatMap SmallEntry.comments ++ line.tail.comments) (line.render page) := by
  have hentries := OccurInOrder.join fun entry (_ : entry ∈ line.entries) => entry.inOrder page
  exact hentries.append (line.tail.inOrder page)

theorem Decorator.inOrder (decorator : Decorator) :
    OccurInOrder decorator.comments (decorator.render page) := by
  obtain ⟨above, gap, value, tail⟩ := decorator
  have hat := ((EmptyLine.inOrder page above).before page.indent).before "@"
  have hvalue := (hat.append (Gap.inOrder page gap)).append (value.inOrder page)
  exact hvalue.append (tail.inOrder page)

theorem Preamble.inOrder (preamble : Preamble) :
    OccurInOrder preamble.comments (preamble.render page) := by
  obtain ⟨above, decorators, between⟩ := preamble
  have hdecorators := OccurInOrder.join fun decorator (_ : decorator ∈ decorators) => decorator.inOrder page
  have habove := (EmptyLine.inOrder page above).append hdecorators
  exact habove.append (EmptyLine.inOrder page between)

theorem BaseList.inOrder (bases : BaseList) : OccurInOrder bases.comments (bases.render page) := by
  obtain ⟨beforeOpen, entries, beforeClose⟩ := bases
  have hopen := (Gap.inOrder page beforeOpen).before "("
  have hentries := hopen.append (Entry.inOrder page entries)
  exact (hentries.append (Gap.inOrder page beforeClose)).before ")"

theorem ClassHead.inOrder (head : ClassHead) : OccurInOrder head.comments (head.render page) := by
  obtain ⟨preamble, afterClass, name, parameters, bases, beforeColon⟩ := head
  have hclass := ((preamble.inOrder page).before page.indent).before "class"
  have hname := (hclass.append (Gap.inOrder page afterClass)).before name
  have hparameters := hname.append (Word.inOrder page parameters)
  have hbases := hparameters.append (.option (fun bases => bases.inOrder page) bases)
  exact (hbases.append (Gap.inOrder page beforeColon)).before ":"

theorem FunctionHead.inOrder (head : FunctionHead) : OccurInOrder head.comments (head.render page) := by
  obtain ⟨preamble, keywords, beforeName, name, signature⟩ := head
  have hkeywords := ((preamble.inOrder page).before page.indent).append (Word.inOrder page keywords)
  have hname := (hkeywords.append (Gap.inOrder page beforeName)).before name
  exact hname.append (Word.inOrder page signature)

theorem ClauseHead.inOrder (head : ClauseHead) : OccurInOrder head.comments (head.render page) := by
  cases head with
  | test keyword gap condition beforeColon =>
    have hcondition := ((Gap.inOrder page gap).behind keyword).append (condition.inOrder page)
    exact (hcondition.append (Gap.inOrder page beforeColon)).before ":"
  | verbatim words => exact Word.inOrder page words

end Source

/-! ## Comments on statements -/

structure Comment where
  position : List Nat
  text : String

namespace Comment

def below (index : Nat) (comment : Comment) : Comment :=
  { comment with position := index :: comment.position }

def on (position : List Nat) (texts : List String) : List Comment := texts.map (⟨position, ·⟩)

def texts (comments : List Comment) : List String := comments.map text

theorem texts_append (comments others : List Comment) :
    texts (comments ++ others) = texts comments ++ texts others := List.map_append

theorem texts_on (position : List Nat) (pieces : List String) : texts (on position pieces) = pieces := by
  rw [texts, on, List.map_map]
  exact List.map_id _

theorem texts_below (index : Nat) (comments : List Comment) :
    texts (comments.map (below index)) = texts comments := List.map_map

end Comment

mutual

def Source.Statement.comments : Statement → List Comment
  | .line above smalls =>
    Comment.on [] (EmptyLine.comments above ++ smalls.entries.flatMap SmallEntry.comments
      ++ smalls.tail.comments)
  | .classDef head body => Comment.on [] head.comments ++ body.comments
  | .functionDef head body => Comment.on [] head.comments ++ body.comments
  | .compound clauses => commentsOfClauses 0 clauses

/-- The comments in a list of statements, the first of which has the number `index`. -/
def commentsOf (index : Nat) : List Statement → List Comment
  | [] => []
  | statement :: rest => statement.comments.map (Comment.below index) ++ commentsOf (index + 1) rest

def commentsOfClauses (index : Nat) : List Clause → List Comment
  | [] => []
  | .mk above head body :: rest =>
    (Comment.on [] (EmptyLine.comments above ++ head.comments) ++ body.comments).map
        (Comment.below index)
      ++ commentsOfClauses (index + 1) rest

def Source.Suite.comments : Suite → List Comment
  | .block tail _ body footer =>
    Comment.on [] tail.comments ++ commentsOf 0 body ++ Comment.on [] (EmptyLine.comments footer)
  | .inline gap smalls =>
    Comment.on [] (Gap.comments gap)
      ++ Comment.on [0] (smalls.entries.flatMap SmallEntry.comments)
      ++ Comment.on [] smalls.tail.comments

end

def Source.Module.comments (source : Module) : List Comment :=
  commentsOf 0 source.body ++ Comment.on [] (EmptyLine.comments source.footer)

/-! ## Comments in the text of a module -/

mutual

theorem Source.Statement.inOrder (page : Page) (statement : Statement) :
    OccurInOrder (Comment.texts statement.comments) (statement.render page) := by
  cases statement with
  | line above smalls =>
    rw [Statement.comments, Comment.texts_on, List.append_assoc]
    have habove := (EmptyLine.inOrder page above).before page.indent
    exact habove.append (smalls.inOrder page)
  | classDef head body =>
    rw [Statement.comments, Comment.texts_append, Comment.texts_on]
    exact (head.inOrder page).append (Source.Suite.inOrder page body)
  | functionDef head body =>
    rw [Statement.comments, Comment.texts_append, Comment.texts_on]
    exact (head.inOrder page).append (Source.Suite.inOrder page body)
  | compound clauses => exact inOrder_clauses page 0 clauses
termination_by structural statement

theorem inOrder_commentsOf (page : Page) (index : Nat) (statements : List Statement) :
    OccurInOrder (Comment.texts (commentsOf index statements)) (Statement.renderAll page statements) := by
  cases statements with
  | nil => exact .nil _
  | cons statement rest =>
    rw [commentsOf, Comment.texts_append, Comment.texts_below]
    exact (Source.Statement.inOrder page statement).append (inOrder_commentsOf page (index + 1) rest)
termination_by structural statements

theorem inOrder_clauses (page : Page) (index : Nat) (clauses : List Clause) :
    OccurInOrder (Comment.texts (commentsOfClauses index clauses)) (Clause.renderAll page clauses) := by
  match clauses with
  | [] => exact .nil _
  | .mk above head body :: rest =>
    rw [commentsOfClauses, Comment.texts_append, Comment.texts_below, Comment.texts_append,
      Comment.texts_on]
    have habove := (EmptyLine.inOrder page above).before page.indent
    have hclause := (habove.append (head.inOrder page)).append (Source.Suite.inOrder page body)
    exact hclause.append (inOrder_clauses page (index + 1) rest)
termination_by structural clauses

theorem Source.Suite.inOrder (page : Page) (body : Suite) :
    OccurInOrder (Comment.texts body.comments) (body.render page) := by
  cases body with
  | block tail step statements footer =>
    simp only [Suite.comments, Comment.texts_append, Comment.texts_on]
    have hbody := (tail.inOrder page).append (inOrder_commentsOf (page.deeper step) 0 statements)
    exact hbody.append (EmptyLine.inOrder (page.deeper step) footer)
  | «inline» gap smalls =>
    simp only [Suite.comments, Comment.texts_append, Comment.texts_on, List.append_assoc]
    exact (Gap.inOrder page gap).append (smalls.inOrder page)
termination_by structural body

end

/-- What may stand at the end of a line; nothing, where a text ends without a line end. -/
def lineEndings : List String := ["", "\n", "\r", "\r\n"]

theorem exists_dropLineEnd (text : String) : ∃ ending ∈ lineEndings, text = dropLineEnd text ++ ending := by
  have hback (ending rest : List Char) (h : text.toList.reverse = ending.reverse ++ rest) :
      text = String.ofList rest.reverse ++ String.ofList ending := by
    apply String.toList_injective
    rw [String.toList_append, String.toList_ofList, String.toList_ofList, ← List.reverse_reverse text.toList,
      h, List.reverse_append, List.reverse_reverse]
  unfold dropLineEnd
  split
  · rename_i rest h
    exact ⟨"\r\n", by decide, hback ['\r', '\n'] rest h⟩
  · rename_i rest _ h
    exact ⟨"\n", by decide, hback ['\n'] rest h⟩
  · rename_i rest h
    exact ⟨"\r", by decide, hback ['\r'] rest h⟩
  · exact ⟨"", by decide, String.append_empty.symm⟩

/-- The comments of a module stand in its text in their order. Where no line end is at the end of the text,
it can be added. -/
theorem Source.Module.inOrder (source : Module) :
    ∃ ending ∈ lineEndings, OccurInOrder (Comment.texts source.comments) (source.render ++ ending) := by
  have htext (page : Page) : OccurInOrder (Comment.texts source.comments)
      (Statement.renderAll page source.body ++ EmptyLine.renderAll page source.footer) := by
    rw [Module.comments, Comment.texts_append, Comment.texts_on]
    exact (inOrder_commentsOf page 0 source.body).append (EmptyLine.inOrder page source.footer)
  have hwhole := htext ⟨"", source.step, source.lineEnd⟩
  unfold Module.render
  dsimp only
  generalize Statement.renderAll _ source.body ++ EmptyLine.renderAll _ source.footer = text at hwhole ⊢
  split
  · refine ⟨"", by decide, ?_⟩
    rw [String.append_empty]
    split
    · rename_i hempty
      rw [String.isEmpty_iff.1 hempty] at hwhole
      simpa using hwhole.before source.lineEnd
    · exact hwhole
  · obtain ⟨ending, hending, htext⟩ := exists_dropLineEnd text
    exact ⟨ending, hending, htext ▸ hwhole⟩

end ModelMetadata
