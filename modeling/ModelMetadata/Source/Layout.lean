/-!
Layout of program text: what stands between its tokens. Every blank, comment and line end of a text
is kept, so that printing an unchanged tree gives the text back. Two things are kept abstractly
because a tree may be printed in another place than it was read from: an indentation that equals
the one of the enclosing block, and a line end that equals the usual one of the module.
-/
set_option autoImplicit false
namespace ModelMetadata.Source

/-- A line end as written, or `none` for the usual line end of the module being printed. -/
abbrev LineEnd := Option String

inductive GapPiece where
  | blank (text : String)
  | comment (text : String)
  | lineEnd (ending : LineEnd)
  /-- The indentation of the block in which the text is printed. -/
  | indent
deriving Repr, DecidableEq, Inhabited

abbrev Gap := List GapPiece

structure EmptyLine where
  /-- Whether the line begins with the indentation of its block. -/
  indented : Bool := true
  blank : String := ""
  comment : Option String := none
  ending : LineEnd := none
deriving Repr, DecidableEq, Inhabited

structure LineTail where
  blank : String := ""
  comment : Option String := none
  ending : LineEnd := none
deriving Repr, DecidableEq, Inhabited

/-- Where text is printed: the indentation of the current block, the indentation that a block adds
by default, and the usual line end. -/
structure Page where
  indent : String := ""
  step : String := "    "
  lineEnd : String := "\n"
deriving Repr, DecidableEq, Inhabited

/-- The page of a block one level deeper; `none` adds the default indentation. -/
def Page.deeper (page : Page) (step : Option String) : Page :=
  { page with indent := page.indent ++ step.getD page.step }

def LineEnd.render (page : Page) (ending : LineEnd) : String :=
  ending.getD page.lineEnd

def GapPiece.render (page : Page) : GapPiece → String
  | .blank text => text
  | .comment text => text
  | .lineEnd ending => LineEnd.render page ending
  | .indent => page.indent

def Gap.render (page : Page) (gap : Gap) : String :=
  String.join (gap.map (GapPiece.render page))

def Gap.space : Gap := [.blank " "]

def EmptyLine.render (page : Page) (line : EmptyLine) : String :=
  (if line.indented then page.indent else "") ++ line.blank ++ line.comment.getD ""
    ++ LineEnd.render page line.ending

def EmptyLine.renderAll (page : Page) (lines : List EmptyLine) : String :=
  String.join (lines.map (EmptyLine.render page))

def LineTail.render (page : Page) (tail : LineTail) : String :=
  tail.blank ++ tail.comment.getD "" ++ LineEnd.render page tail.ending

theorem Gap.render_nil (page : Page) : Gap.render page [] = "" := rfl

end ModelMetadata.Source
