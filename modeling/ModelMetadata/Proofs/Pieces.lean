import ModelMetadata.Proofs.Parsing
import ModelMetadata.Source.Parser.Expr

/-!
Expressions as the tokens they are written with. `Expr.pieces` lists the visible tokens of an
expression in their order, with the gap before each; of identifiers, numbers and strings the kind is
known, and of keywords and operators the text alone. Reading an expression is lossless: the tokens
that the grammar takes are the pieces of the expression it gives.
-/
set_option autoImplicit false
namespace ModelMetadata.Source

/-- A visible token, and its kind where an expression determines it. -/
abbrev Piece := Option WordKind × Word

namespace Piece

def mark (gap : Gap) (text : String) : Piece := (none, ⟨gap, text⟩)

def ident (gap : Gap) (text : String) : Piece := (some .name, ⟨gap, text⟩)

def ofComma : Option Gap → List Piece
  | some gap => [mark gap ","]
  | none => []

end Piece

/-- The pieces of a list of words; `gap` stands before the gap of the first one. -/
def Word.pieces (gap : Gap) : List Word → List Piece
  | [] => []
  | word :: rest => .mark (gap ++ word.gap) word.text :: Word.pieces [] rest

mutual

def Expr.pieces (gap : Gap) : Expr → List Piece
  | .name text => [.ident gap text]
  | .integer text | .float text | .imaginary text => [(some .number, ⟨gap, text⟩)]
  | .ellipsis => [.mark gap "..."]
  | .string text => [(some .string, ⟨gap, text⟩)]
  | .adjacent first inner rest => first.pieces gap ++ rest.pieces inner
  | .attribute owner beforeDot afterDot attr =>
    owner.pieces gap ++ [.mark beforeDot ".", .ident afterDot attr]
  | .subscript owner beforeOpen entries beforeClose =>
    owner.pieces gap ++ .mark beforeOpen "[" :: Entry.pieces [] entries ++ [.mark beforeClose "]"]
  | .call callee beforeOpen entries beforeClose =>
    callee.pieces gap ++ .mark beforeOpen "(" :: Entry.pieces [] entries ++ [.mark beforeClose ")"]
  | .unary op inner operand => .mark gap op :: operand.pieces inner
  | .binary left beforeOp op afterOp right =>
    left.pieces gap ++ .mark beforeOp op :: right.pieces afterOp
  | .list entries beforeClose => .mark gap "[" :: Entry.pieces [] entries ++ [.mark beforeClose "]"]
  | .set entries beforeClose =>
    .mark gap "\x7b" :: Entry.pieces [] entries ++ [.mark beforeClose "\x7d"]
  | .dict entries beforeClose =>
    .mark gap "\x7b" :: Entry.pieces [] entries ++ [.mark beforeClose "\x7d"]
  | .tuple entries => Entry.pieces gap entries
  | .lambda header inner body => Word.pieces gap header ++ body.pieces inner
  | .paren afterOpen inner beforeClose =>
    .mark gap "(" :: inner.pieces afterOpen ++ [.mark beforeClose ")"]
  | .compound parts => Part.pieces gap parts

/-- The tokens of entries; `gap` stands before the gap of the first one. -/
def Entry.pieces (gap : Gap) : List Entry → List Piece
  | [] => []
  | .mk before item comma :: rest =>
    item.pieces (gap ++ before) ++ Piece.ofComma comma ++ Entry.pieces [] rest

def Item.pieces (gap : Gap) : Item → List Piece
  | .value e => e.pieces gap
  | .star stars inner e => .mark gap stars :: e.pieces inner
  | .keyword name beforeEq afterEq e => .ident gap name :: .mark beforeEq "=" :: e.pieces afterEq
  | .pair key beforeColon afterColon e =>
    key.pieces gap ++ .mark beforeColon ":" :: e.pieces afterColon
  | .slice parts => Part.pieces gap parts

def Part.pieces (gap : Gap) : List Part → List Piece
  | [] => []
  | .word word :: rest => .mark (gap ++ word.gap) word.text :: Part.pieces [] rest
  | .expr inner e :: rest => e.pieces (gap ++ inner) ++ Part.pieces [] rest

end

attribute [local simp] Expr.pieces Entry.pieces Item.pieces Part.pieces

/-! ## Tokens that spell pieces -/

/-- A token is a piece when it is visible, has its gap and text, and has its kind if one is known. -/
inductive Fits : Token → Piece → Prop
  | unknown (kind : WordKind) (word : Word) : Fits (.word kind word) (none, word)
  | known (kind : WordKind) (word : Word) : Fits (.word kind word) (some kind, word)

def Spells (pieces : List Piece) (taken : List Token) : Prop := List.Forall₂ Fits taken pieces

namespace Spells

theorem nil : Spells [] [] := List.Forall₂.nil

theorem append {xs ys : List Piece} {ts us : List Token} (hx : Spells xs ts) (hy : Spells ys us) :
    Spells (xs ++ ys) (ts ++ us) := List.rel_append hx hy

theorem flatten {α : Type} {pieces : α → List Piece} {found : List α} {takens : List (List Token)}
    (h : List.Forall₂ (fun a taken => Spells (pieces a) taken) found takens) :
    Spells (found.map pieces).flatten takens.flatten := by
  induction h with
  | nil => exact nil
  | cons hfirst _ ih => exact hfirst.append ih

theorem wordsOf_eq {pieces : List Piece} {taken : List Token} (h : Spells pieces taken) :
    Parser.wordsOf taken = pieces.map Prod.snd := by
  induction h with
  | nil => rfl
  | cons hfits _ ih => cases hfits <;> simpa [Parser.wordsOf] using ih

end Spells

theorem Word.pieces_eq_map (words : List Word) :
    Word.pieces [] words = words.map fun word => .mark word.gap word.text := by
  induction words with
  | nil => rfl
  | cons word rest ih => simp [Word.pieces, ih]

theorem Part.pieces_append (parts more : List Part) :
    Part.pieces [] (parts ++ more) = Part.pieces [] parts ++ Part.pieces [] more := by
  induction parts with
  | nil => simp
  | cons part rest ih => cases part <;> simp [ih]

theorem Part.pieces_map_word (words : List Word) :
    Part.pieces [] (words.map .word) = words.map fun word => .mark word.gap word.text := by
  induction words with
  | nil => simp
  | cons word rest ih => simp [ih]

theorem Part.pieces_flatten (parts : List (List Part)) :
    Part.pieces [] parts.flatten = (parts.map (Part.pieces [])).flatten := by
  induction parts with
  | nil => simp
  | cons first rest ih => simp [Part.pieces_append, ih]

namespace Parser

/-! ## Single tokens and lists -/

theorem spells_mark (text : String) :
    Yields (mark text) fun gap taken => Spells [.mark gap text] taken := by
  refine (yields_mark text).mono fun gap taken h => ?_
  obtain ⟨kind, rfl⟩ := h
  exact .cons (.unknown ..) .nil

theorem spells_mark? (text : String) :
    Yields (mark? text) fun found taken =>
      match found with
      | some gap => Spells [.mark gap text] taken
      | none => taken = [] := by
  refine (yields_mark? text).mono fun found taken h => ?_
  cases found with
  | none => exact h
  | some gap =>
    obtain ⟨kind, rfl⟩ := h
    exact .cons (.unknown ..) .nil

theorem spells_oneOf? (texts : List String) :
    Yields (oneOf? texts) fun found taken =>
      match found with
      | some word => word.text ∈ texts ∧ Spells [.mark word.gap word.text] taken
      | none => taken = [] := by
  refine (yields_oneOf? texts).mono fun found taken h => ?_
  cases found with
  | none => exact h
  | some word =>
    obtain ⟨htext, kind, rfl⟩ := h
    exact ⟨htext, .cons (.unknown ..) .nil⟩

theorem spells_word (kind : WordKind) :
    Yields (word kind) fun found taken => Spells [(some kind, found)] taken := by
  refine (yields_word kind).mono fun found taken h => ?_
  subst h
  exact .cons (.known ..) .nil

theorem spells_wordMark (kind : WordKind) :
    Yields (word kind) fun found taken => Spells [.mark found.gap found.text] taken := by
  refine (yields_word kind).mono fun found taken h => ?_
  subst h
  exact .cons (.unknown ..) .nil

theorem spells_name :
    Yields name fun found taken => Spells [.ident found.gap found.text] taken := by
  refine yields_name.mono fun found taken h => ?_
  obtain ⟨-, rfl⟩ := h
  exact .cons (.known ..) .nil

@[simp] def SpellsItem (found : Gap × Item) (taken : List Token) : Prop :=
  Spells (found.2.pieces found.1) taken

section
variable {item : Parser (Gap × Item)} (hitem : Yields item SpellsItem)
include hitem

theorem spells_commaList (closer : String) :
    ∀ fuel, Yields (commaList item closer fuel) fun found taken =>
      Spells (Entry.pieces [] found.1 ++ [.mark found.2 closer]) taken := by
  intro fuel
  induction fuel with
  | zero => exact Yields.failure
  | succ fuel ih =>
    refine (spells_mark? closer).bind fun closing taken hclosing => ?_
    cases closing with
    | some gap => exact Yields.pure (by simpa using hclosing)
    | none =>
      subst hclosing
      refine hitem.bind fun ⟨gap, found⟩ first hfirst => ?_
      refine (spells_mark? ",").bind fun comma second hsecond => ?_
      cases comma with
      | some comma =>
        refine ih.bind fun ⟨rest, close⟩ third hthird => Yields.pure ?_
        simpa [Piece.ofComma] using hfirst.append (hsecond.append hthird)
      | none =>
        subst hsecond
        refine (spells_mark closer).bind fun close third hthird => Yields.pure ?_
        simpa [Piece.ofComma] using hfirst.append hthird

theorem spells_bracketed (closer : String) :
    Yields (bracketed item closer) fun found taken =>
      Spells (Entry.pieces [] found.1 ++ [.mark found.2 closer]) taken :=
  Yields.get fun tokens => spells_commaList hitem closer (tokens.length + 1)

theorem spells_bracketedFrom (closer : String) {gap : Gap} {first : Item} {before : List Token}
    (hfirst : Spells (first.pieces gap) before) :
    Yields (bracketedFrom gap first item closer) fun found taken =>
      Spells (Entry.pieces [] found.1 ++ [.mark found.2 closer]) (before ++ taken) := by
  refine (spells_mark? ",").bind fun comma second hsecond => ?_
  cases comma with
  | some comma =>
    refine (spells_bracketed hitem closer).bind fun ⟨rest, close⟩ third hthird => Yields.pure ?_
    simpa [Piece.ofComma] using hfirst.append (hsecond.append hthird)
  | none =>
    subst hsecond
    refine (spells_mark closer).bind fun close third hthird => Yields.pure ?_
    simpa [Piece.ofComma] using hfirst.append hthird

theorem spells_commaRest :
    ∀ (fuel : Nat) (lead gap : Gap) (first : Item) (before : List Token),
      Spells (first.pieces (lead ++ gap)) before →
      Yields (commaRest item fuel gap first) fun entries taken =>
        Spells (Entry.pieces lead entries) (before ++ taken) := by
  intro fuel
  induction fuel with
  | zero => intro lead gap first before _; exact Yields.failure
  | succ fuel ih =>
    intro lead gap first before hfirst
    refine (spells_mark? ",").bind fun comma second hsecond => ?_
    cases comma with
    | none =>
      subst hsecond
      exact Yields.pure (by simpa [Piece.ofComma] using hfirst)
    | some comma =>
      refine hitem.attempt.bind fun found third hthird => ?_
      cases found with
      | none =>
        subst hthird
        exact Yields.pure (by simpa [Piece.ofComma] using hfirst.append hsecond)
      | some found =>
        obtain ⟨nextGap, next⟩ := found
        refine (ih [] nextGap next third hthird).bind fun rest fourth hfourth => Yields.pure ?_
        simpa [Piece.ofComma] using hfirst.append (hsecond.append hfourth)

end

end Parser

namespace Grammar

open ModelMetadata.Source.Parser

@[simp] def SpellsPlaced (placed : Placed) (taken : List Token) : Prop :=
  Spells (placed.2.pieces placed.1) taken

/-! ## Operators -/

theorem spells_leftChain (ops : List String) {operand : Parser Placed}
    (h : Yields operand SpellsPlaced) : Yields (leftChain ops operand) SpellsPlaced := by
  refine h.bind fun ⟨gap, first⟩ before hfirst => ?_
  refine Yields.bind (P := fun e taken => Spells (e.pieces gap) (before ++ taken)) ?_
    fun e taken he => Yields.pure (by simpa using he)
  refine Yields.iterateFrom (by simpa using hfirst) fun left middle hleft => ?_
  refine (spells_oneOf? ops).bind fun op second hsecond => ?_
  cases op with
  | none =>
    subst hsecond
    exact Yields.pure rfl
  | some op =>
    refine h.bind fun ⟨afterOp, right⟩ third hthird => Yields.pure ?_
    simpa using hleft.append (hsecond.2.append hthird)

theorem spells_wordChain {op : Parser (Option (List Word))} {operand : Parser Placed}
    (hop : Yields op fun found taken =>
      match found with
      | some words => Spells (words.map fun word => .mark word.gap word.text) taken
      | none => taken = [])
    (h : Yields operand SpellsPlaced) : Yields (wordChain op operand) SpellsPlaced := by
  refine h.bind fun ⟨gap, first⟩ before hfirst => ?_
  refine Yields.bind (Yields.many (P := fun parts taken => Spells (Part.pieces [] parts) taken) ?_)
    fun more taken hmore => ?_
  · refine hop.bind fun words second hsecond => ?_
    cases words with
    | none =>
      subst hsecond
      exact Yields.pure rfl
    | some words =>
      refine h.bind fun ⟨afterOp, right⟩ third hthird => Yields.pure ?_
      simpa [Part.pieces_append, Part.pieces_map_word] using hsecond.append hthird
  · obtain ⟨takens, hall, rfl⟩ := hmore
    have hflat := Spells.flatten hall
    rw [← Part.pieces_flatten] at hflat
    split
    · rename_i hempty
      rw [List.isEmpty_iff] at hempty
      subst hempty
      cases hall
      exact Yields.pure (by simpa using hfirst)
    · exact Yields.pure (by simpa [SpellsPlaced] using hfirst.append hflat)

theorem spells_singleWord (text : String) :
    Yields (singleWord text) fun found taken =>
      match found with
      | some words => Spells (words.map fun word => .mark word.gap word.text) taken
      | none => taken = [] := by
  refine (spells_oneOf? [text]).map fun found taken h => ?_
  cases found with
  | none => exact h
  | some word => exact h.2

theorem spells_comparisonOp :
    Yields comparisonOp fun found taken =>
      match found with
      | some words => Spells (words.map fun word => .mark word.gap word.text) taken
      | none => taken = [] := by
  refine (spells_oneOf? _).bind fun op first hfirst => ?_
  cases op with
  | some op => exact Yields.pure (by simpa using hfirst.2)
  | none =>
    subst hfirst
    refine (spells_oneOf? _).bind fun is second hsecond => ?_
    cases is with
    | some op =>
      refine (spells_oneOf? _).bind fun no third hthird => Yields.pure ?_
      cases no with
      | none =>
        subst hthird
        simpa using hsecond.2
      | some no => simpa using hsecond.2.append hthird.2
    | none =>
      subst hsecond
      refine Yields.orElse ?_ (Yields.pure rfl)
      refine (spells_mark "not").bind fun gap third hthird => ?_
      refine (spells_mark "in").bind fun op fourth hfourth => Yields.pure ?_
      simpa using hthird.append hfourth

/-! ## Rules over spelled rules -/

def SpelledRules (rules : Rules) : Prop := ∀ level, Yields (rules level) SpellsPlaced

def Visible (taken : List Token) : Prop := ∃ pieces, Spells pieces taken

@[simp] def SpellsMember (found : Gap × Item) (taken : List Token) : Prop :=
  SpellsItem found taken ∧ SpellsPlaced (found.1, itemExpr found.2) taken

section
variable {rules : Rules} (h : SpelledRules rules)
include h

theorem spells_named : Yields (named rules) SpellsPlaced := by
  refine Yields.orElse ?_ (h _)
  refine spells_name.bind fun target first hfirst => ?_
  refine (spells_mark ":=").bind fun walrus second hsecond => ?_
  refine (h _).bind fun ⟨gap, value⟩ third hthird => Yields.pure ?_
  simpa using hfirst.append (hsecond.append hthird)

theorem spells_starredOr {other : Parser Placed} (hother : Yields other SpellsPlaced) :
    Yields (starredOr rules other) SpellsMember := by
  refine (spells_mark? "*").bind fun star first hfirst => ?_
  cases star with
  | some gap =>
    refine (h _).bind fun ⟨inner, e⟩ second hsecond => Yields.pure ?_
    simpa [itemExpr] using hfirst.append hsecond
  | none =>
    subst hfirst
    refine hother.bind fun ⟨gap, e⟩ second hsecond => Yields.pure ?_
    simpa [itemExpr] using hsecond

theorem spells_starOrExpression : Yields (starOrExpression rules) SpellsMember :=
  spells_starredOr h (h _)

theorem spells_starOrNamed : Yields (starOrNamed rules) SpellsMember :=
  spells_starredOr h (spells_named h)

omit h in
/-- Members up to the last one, or the only one by itself. -/
theorem spells_tupleOr {item : Parser (Gap × Item)} (hitem : Yields item SpellsMember) :
    Yields (do
      let (gap, first) ← item
      if ← isNext "," then
        let entries ← commaRest item ((← get).length + 1) [] first
        return (gap, .tuple entries)
      else return (gap, itemExpr first)) SpellsPlaced := by
  refine hitem.bind fun ⟨gap, first⟩ before hfirst => ?_
  refine (yields_isNext ",").bind fun isComma none hnone => ?_
  subst hnone
  split
  · refine Yields.get fun tokens => ?_
    have hrest := spells_commaRest (hitem.mono fun _ _ hm => hm.1) (tokens.length + 1) gap [] first
      before (by simpa using hfirst.1)
    refine hrest.bind fun entries taken hentries => Yields.pure ?_
    simpa using hentries
  · exact Yields.pure (by simpa using hfirst.2)

theorem spells_starExpressions : Yields (starExpressions rules) SpellsPlaced :=
  spells_tupleOr (spells_starOrExpression h)

theorem spells_yieldExpr : Yields (yieldExpr rules) SpellsPlaced := by
  refine (spells_mark "yield").bind fun gap first hfirst => ?_
  refine (spells_mark? "from").bind fun source second hsecond => ?_
  cases source with
  | some source =>
    refine (h _).bind fun ⟨inner, e⟩ third hthird => Yields.pure ?_
    simpa using hfirst.append (hsecond.append hthird)
  | none =>
    subst hsecond
    refine (spells_starExpressions h).attempt.bind fun found third hthird => ?_
    cases found with
    | some found =>
      obtain ⟨inner, e⟩ := found
      refine Yields.pure ?_
      simpa using hfirst.append hthird
    | none =>
      subst hthird
      exact Yields.pure (by simpa using hfirst)

theorem spells_yieldOrStars : Yields (yieldOrStars rules) SpellsPlaced := by
  refine (yields_isNext "yield").bind fun isYield none hnone => ?_
  subst hnone
  split
  · exact spells_yieldExpr h
  · exact spells_starExpressions h

/-! ## Comprehensions -/

theorem spells_targetItem : Yields (targetItem rules) SpellsMember := by
  refine (spells_starredOr h (h _)).bind fun ⟨gap, item⟩ first hfirst => ?_
  dsimp only
  split
  · exact Yields.pure (by simpa using hfirst)
  · exact Yields.failure

theorem spells_starTargets : Yields (starTargets rules) SpellsPlaced :=
  spells_tupleOr (spells_targetItem h)

omit h in
theorem yields_isComprehensionNext : Yields isComprehensionNext fun _ taken => taken = [] := by
  refine (yields_isNext "for").bind fun isFor first hfirst => ?_
  refine (yields_isNext "async").bind fun isAsync second hsecond => Yields.pure ?_
  simp [hfirst, hsecond]

theorem spells_conditions :
    Yields (many do
      match ← mark? "if" with
      | some gap =>
        let (inner, condition) ← rules .disjunction
        return some [Part.word ⟨gap, "if"⟩, .expr inner condition]
      | none => return none) fun found taken => Spells (Part.pieces [] found.flatten) taken := by
  refine (Yields.many (P := fun parts taken => Spells (Part.pieces [] parts) taken) ?_).mono
    fun found taken hfound => ?_
  · refine (spells_mark? "if").bind fun found first hfirst => ?_
    cases found with
    | none =>
      subst hfirst
      exact Yields.pure rfl
    | some gap =>
      refine (h _).bind fun ⟨inner, condition⟩ second hsecond => Yields.pure ?_
      simpa using hfirst.append hsecond
  · obtain ⟨takens, hall, rfl⟩ := hfound
    rw [Part.pieces_flatten]
    exact Spells.flatten hall

theorem spells_comprehension :
    Yields (comprehension rules) fun parts taken => Spells (Part.pieces [] parts) taken := by
  refine Yields.bind (Yields.many (P := fun parts taken => Spells (Part.pieces [] parts) taken) ?_)
    fun clauses taken hclauses => ?_
  · refine (spells_oneOf? _).bind fun async first hfirst => ?_
    refine (spells_mark? "for").bind fun found second hsecond => ?_
    cases found with
    | none =>
      subst hsecond
      cases async with
      | some async => exact Yields.failure
      | none =>
        subst hfirst
        exact Yields.pure rfl
    | some gap =>
      refine (spells_starTargets h).bind fun ⟨targetGap, target⟩ third hthird => ?_
      refine (spells_mark "in").bind fun inGap fourth hfourth => ?_
      refine (h _).bind fun ⟨sourceGap, source⟩ fifth hfifth => ?_
      refine (spells_conditions h).bind fun conditions sixth hsixth => Yields.pure ?_
      have htail := hsecond.append (hthird.append (hfourth.append (hfifth.append hsixth)))
      cases async with
      | none =>
        subst hfirst
        simpa using htail
      | some async => simpa using hfirst.2.append htail
  · obtain ⟨takens, hall, rfl⟩ := hclauses
    refine Yields.pure ?_
    rw [Part.pieces_flatten]
    simpa using Spells.flatten hall

/-! ## Parameters -/

omit h in
theorem Visible.append {ts us : List Token} (ht : Visible ts) (hu : Visible us) :
    Visible (ts ++ us) := by
  obtain ⟨xs, hx⟩ := ht
  obtain ⟨ys, hy⟩ := hu
  exact ⟨xs ++ ys, hx.append hy⟩

theorem visible_rule (level : Level) : Yields (rules level) fun _ taken => Visible taken :=
  (h level).mono fun _ _ hplaced => ⟨_, hplaced⟩

omit h in
theorem Visible.nil : Visible [] := ⟨[], .nil⟩

theorem visible_typeHint (annotated starred : Bool) :
    Yields (typeHint rules annotated starred) fun _ taken => Visible taken := by
  unfold typeHint
  split
  · refine (spells_mark? ":").bind fun colon first hfirst => ?_
    cases colon with
    | none =>
      subst hfirst
      exact Yields.pure .nil
    | some colon =>
      refine (yields_isNext "*").bind fun isStar none hnone => ?_
      subst hnone
      split
      · refine (spells_mark "*").bind fun star second hsecond => ?_
        refine (visible_rule h _).bind fun e third hthird => Yields.pure ?_
        simpa using Visible.append ⟨_, hfirst⟩ (.append ⟨_, hsecond⟩ hthird)
      · refine (visible_rule h _).bind fun e second hsecond => Yields.pure ?_
        simpa using Visible.append ⟨_, hfirst⟩ hsecond
  · exact Yields.pure .nil

theorem visible_parameter (annotated : Bool) :
    Yields (parameter rules annotated) fun _ taken => Visible taken := by
  refine (spells_oneOf? _).bind fun op first hfirst => ?_
  cases op with
  | some op =>
    have hop : Visible first := ⟨_, hfirst.2⟩
    dsimp only
    split
    · exact Yields.pure (by simpa using hop)
    · split
      · refine spells_name.bind fun bound second hsecond => ?_
        refine (visible_typeHint h _ _).bind fun _ third hthird => Yields.pure ?_
        simpa using hop.append (.append ⟨_, hsecond⟩ hthird)
      · refine spells_name.attempt.bind fun bound second hsecond => ?_
        cases bound with
        | none =>
          subst hsecond
          exact Yields.pure (by simpa using hop)
        | some bound =>
          refine (visible_typeHint h _ _).bind fun _ third hthird => Yields.pure ?_
          simpa using hop.append (.append ⟨_, hsecond⟩ hthird)
  | none =>
    subst hfirst
    refine spells_name.bind fun bound second hsecond => ?_
    refine (visible_typeHint h _ _).bind fun _ third hthird => ?_
    have hbound : Visible (second ++ third) := .append ⟨_, hsecond⟩ hthird
    refine (spells_mark? "=").bind fun equals fourth hfourth => ?_
    cases equals with
    | none =>
      subst hfourth
      exact Yields.pure (by simpa using hbound)
    | some equals =>
      refine (visible_rule h _).bind fun e fifth hfifth => Yields.pure ?_
      simpa using hbound.append (.append ⟨_, hfourth⟩ hfifth)

theorem visible_parameters (annotated : Bool) (closer : String) :
    Yields (parameters rules annotated closer) fun _ taken => Visible taken := by
  have hloop : ∀ fuel, Yields (parameters.loop rules annotated closer fuel)
      fun _ taken => Visible taken := by
    intro fuel
    induction fuel with
    | zero => exact Yields.failure
    | succ fuel ih =>
      refine (yields_isNext closer).bind fun isClosed none hnone => ?_
      subst hnone
      split
      · exact Yields.pure .nil
      · refine (visible_parameter h annotated).bind fun parameter first hfirst => ?_
        refine (spells_mark? ",").bind fun comma second hsecond => ?_
        cases comma with
        | some comma =>
          refine ih.bind fun rest third hthird => Yields.pure ?_
          simpa using hfirst.append (.append ⟨_, hsecond⟩ hthird)
        | none =>
          subst hsecond
          refine (yields_isNext closer).bind fun isClosed none hnone => ?_
          subst hnone
          split
          · exact Yields.pure (by simpa using hfirst)
          · exact Yields.failure
  refine Yields.get fun tokens => (hloop _).bind fun found taken hfound => ?_
  split
  · exact Yields.pure (by simpa using hfound)
  · exact Yields.failure

omit h in
theorem Visible.spells_words {taken : List Token} (ht : Visible taken) :
    Spells (Word.pieces [] (wordsOf taken)) taken := by
  obtain ⟨pieces, hpieces⟩ := ht
  rw [Word.pieces_eq_map]
  induction hpieces with
  | nil => exact .nil
  | cons hfits _ ih => cases hfits <;> exact .cons (.unknown ..) ih

omit h in
/-- Words that a parser reads for their extent alone. -/
theorem spells_verbatim {α : Type} {p : Parser α} (hp : Yields p fun _ taken => Visible taken) :
    Yields (verbatim p) fun words taken => Spells (Word.pieces [] words) taken := by
  refine hp.verbatim.mono fun words taken hwords => ?_
  obtain ⟨rfl, _, hvisible⟩ := hwords
  exact hvisible.spells_words

theorem spells_lambdaExpr : Yields (lambdaExpr rules) SpellsPlaced := by
  refine (spells_mark "lambda").bind fun gap first hfirst => ?_
  refine (spells_verbatim (visible_parameters h _ _)).bind fun header second hsecond => ?_
  refine (spells_mark ":").bind fun colon third hthird => ?_
  refine (h _).bind fun ⟨bodyGap, body⟩ fourth hfourth => Yields.pure ?_
  rw [Word.pieces_eq_map] at hsecond
  simpa [Word.pieces, Word.pieces_eq_map] using
    hfirst.append (hsecond.append (hthird.append hfourth))

/-! ## Strings -/

theorem spells_fieldExpr : Yields (fieldExpr rules) SpellsPlaced := by
  refine (spells_yieldOrStars h).bind fun ⟨gap, e⟩ first hfirst => ?_
  refine yields_isComprehensionNext.bind fun isNext none hnone => ?_
  subst hnone
  split
  · refine (spells_comprehension h).bind fun clauses second hsecond => Yields.pure ?_
    simpa using hfirst.append hsecond
  · exact Yields.pure (by simpa using hfirst)

omit h in
/-- Marks that may be missing. -/
theorem spells_optional {found : Option Word} {taken : List Token} {texts : List String}
    (hfound : match found with
      | some word => word.text ∈ texts ∧ Spells [.mark word.gap word.text] taken
      | none => taken = []) :
    Spells (Part.pieces [] (found.toList.map .word)) taken := by
  cases found with
  | none => exact hfound ▸ .nil
  | some word => simpa using hfound.2

omit h in
theorem spells_conversion :
    Yields conversion fun words taken => Spells (Part.pieces [] (words.map .word)) taken := by
  refine (spells_oneOf? _).bind fun bang first hfirst => ?_
  cases bang with
  | none =>
    subst hfirst
    exact Yields.pure .nil
  | some bang =>
    refine (spells_oneOf? _).bind fun letter second hsecond => ?_
    cases letter with
    | none => exact Yields.failure
    | some letter =>
      exact Yields.pure (by simpa using hfirst.2.append hsecond.2)

omit h in
theorem spells_format {inner : Parser (List Part)}
    (hinner : Yields inner fun parts taken => Spells (Part.pieces [] parts) taken) :
    Yields (format inner) fun parts taken => Spells (Part.pieces [] parts) taken := by
  refine (spells_oneOf? _).bind fun colon first hfirst => ?_
  cases colon with
  | none =>
    subst hfirst
    exact Yields.pure .nil
  | some colon =>
    refine hinner.bind fun parts second hsecond => Yields.pure ?_
    simpa using hfirst.2.append hsecond

theorem spells_formattedParts :
    ∀ fuel, Yields (formattedParts rules fuel) fun parts taken =>
      Spells (Part.pieces [] parts) taken := by
  intro fuel
  induction fuel with
  | zero => exact Yields.failure
  | succ fuel ih =>
    refine yields_peek.bind fun found none hnone => ?_
    subst hnone
    split
    · refine (spells_wordMark _).bind fun text first hfirst => ?_
      refine ih.bind fun rest second hsecond => Yields.pure ?_
      simpa using hfirst.append hsecond
    · refine (spells_mark _).bind fun opening first hfirst => ?_
      refine (spells_fieldExpr h).bind fun ⟨gap, e⟩ second hsecond => ?_
      refine (spells_oneOf? _).bind fun equals third hthird => ?_
      refine spells_conversion.bind fun marks fourth hfourth => ?_
      refine (spells_format ih).bind fun parts fifth hfifth => ?_
      refine (spells_mark _).bind fun closing sixth hsixth => ?_
      refine ih.bind fun rest seventh hseventh => Yields.pure ?_
      simpa [Part.pieces_append] using hfirst.append (hsecond.append
        ((spells_optional hthird).append (hfourth.append (hfifth.append
          (hsixth.append hseventh)))))
    · exact Yields.pure .nil

theorem spells_formattedString : Yields (formattedString rules) SpellsPlaced := by
  refine (spells_wordMark _).bind fun opening first hfirst => ?_
  refine Yields.get fun tokens => ?_
  refine (spells_formattedParts h _).bind fun parts second hsecond => ?_
  refine (spells_wordMark _).bind fun closing third hthird => Yields.pure ?_
  simpa [Part.pieces_append] using
    hfirst.append (hsecond.append hthird)

omit h in
theorem spells_join : ∀ (rest : List Placed) (first : Placed) (before : List Token)
    (takens : List (List Token)), SpellsPlaced first before →
      List.Forall₂ SpellsPlaced rest takens →
      SpellsPlaced (strings.join first rest) (before ++ takens.flatten) := by
  intro rest
  induction rest with
  | nil =>
    intro first before takens hfirst hrest
    cases hrest
    simpa [strings.join] using hfirst
  | cons next rest ih =>
    intro first before takens hfirst hrest
    cases hrest with
    | @cons _ taken _ takens hnext hrest =>
      have hmore := ih next taken takens hnext hrest
      simpa [strings.join] using hfirst.append hmore

theorem spells_strings : Yields (strings rules) SpellsPlaced := by
  refine Yields.bind (Yields.many (P := SpellsPlaced) ?_) fun found taken hfound => ?_
  · refine yields_peek.bind fun found none hnone => ?_
    subst hnone
    split
    · refine (spells_word _).bind fun token first hfirst => Yields.pure ?_
      simpa using hfirst
    · exact (spells_formattedString h).map fun _ _ hplaced => by simpa using hplaced
    · exact Yields.pure rfl
  · obtain ⟨takens, hall, rfl⟩ := hfound
    cases hall with
    | nil => exact Yields.failure
    | cons hfirst hrest =>
      exact Yields.pure (by simpa using spells_join _ _ _ _ hfirst hrest)

/-! ## Brackets -/

def SpellsBehind (opening : String) (e : Expr) (taken : List Token) : Prop :=
  ∃ pieces, (∀ gap, e.pieces gap = .mark gap opening :: pieces) ∧ Spells pieces taken

theorem spells_parenthesized : Yields (parenthesized rules) (SpellsBehind "(") := by
  refine (spells_mark? ")").bind fun close first hfirst => ?_
  cases close with
  | some close =>
    exact Yields.pure ⟨[.mark close ")"], by simp,
      by simpa using hfirst⟩
  | none =>
    subst hfirst
    refine (yields_isNext "yield").bind fun isYield none hnone => ?_
    subst hnone
    split
    · refine (spells_yieldExpr h).bind fun ⟨inner, e⟩ second hsecond => ?_
      refine (spells_mark ")").bind fun close third hthird => Yields.pure ?_
      exact ⟨e.pieces inner ++ [.mark close ")"], by simp,
        by simpa using hsecond.append hthird⟩
    · refine (spells_starOrNamed h).bind fun ⟨inner, first⟩ second hsecond => ?_
      refine (yields_isNext ",").bind fun isComma none hnone => ?_
      subst hnone
      split
      · refine Yields.get fun tokens => ?_
        have hrest := spells_commaRest ((spells_starOrNamed h).mono fun _ _ hm => hm.1)
          (tokens.length + 1) inner [] first second (by simpa using hsecond.1)
        refine hrest.bind fun entries third hthird => ?_
        refine (spells_mark ")").bind fun close fourth hfourth => Yields.pure ?_
        exact ⟨Entry.pieces inner entries ++ [.mark close ")"], by simp,
          by simpa using hthird.append hfourth⟩
      · split
        · rename_i e
          refine (spells_comprehension h).bind fun clauses third hthird => ?_
          refine (spells_mark ")").bind fun close fourth hfourth => ?_
          have he : Spells (e.pieces inner) second := by simpa using hsecond.1
          split
          · rename_i hempty
            rw [List.isEmpty_iff] at hempty
            subst hempty
            cases hthird
            exact Yields.pure ⟨e.pieces inner ++ [.mark close ")"], by simp,
              by simpa using he.append hfourth⟩
          · exact Yields.pure ⟨e.pieces inner ++ Part.pieces [] clauses ++ [.mark close ")"],
              by simp,
              by simpa using he.append (hthird.append hfourth)⟩
        · exact Yields.failure

theorem spells_listDisplay : Yields (listDisplay rules) (SpellsBehind "[") := by
  refine (spells_mark? "]").bind fun close first hfirst => ?_
  cases close with
  | some close =>
    exact Yields.pure ⟨[.mark close "]"], by simp,
      by simpa using hfirst⟩
  | none =>
    subst hfirst
    refine (spells_starOrNamed h).bind fun ⟨inner, first⟩ second hsecond => ?_
    refine yields_isComprehensionNext.bind fun isNext none hnone => ?_
    subst hnone
    dsimp only
    split
    · rename_i e
      refine (spells_comprehension h).bind fun clauses third hthird => ?_
      refine (spells_mark "]").bind fun close fourth hfourth => Yields.pure ?_
      have he : Spells (e.pieces inner) second := by simpa using hsecond.1
      exact ⟨e.pieces inner ++ Part.pieces [] clauses ++ [.mark close "]"],
        by simp [Part.pieces_append],
        by simpa using he.append (hthird.append hfourth)⟩
    · refine (spells_bracketedFrom ((spells_starOrNamed h).mono fun _ _ hm => hm.1) "]"
        hsecond.1).bind fun ⟨entries, close⟩ third hthird => Yields.pure ?_
      exact ⟨Entry.pieces [] entries ++ [.mark close "]"], by simp,
        by simpa using hthird⟩

theorem spells_dictItem : Yields (dictItem rules) SpellsItem := by
  refine (spells_mark? "**").bind fun stars first hfirst => ?_
  cases stars with
  | some gap =>
    refine (h _).bind fun ⟨inner, e⟩ second hsecond => Yields.pure ?_
    simpa using hfirst.append hsecond
  | none =>
    subst hfirst
    refine (h _).bind fun ⟨gap, key⟩ second hsecond => ?_
    refine (spells_mark ":").bind fun colon third hthird => ?_
    refine (h _).bind fun ⟨valueGap, value⟩ fourth hfourth => Yields.pure ?_
    simpa using hsecond.append (hthird.append hfourth)

omit h in
/-- Entries up to the closing brace of a dict or a set. -/
theorem spells_bracedFrom (build : List Entry → Gap → Expr) {item : Parser (Gap × Item)}
    (hitem : Yields item SpellsItem) {gap : Gap} {first : Item} {before : List Token}
    (hfirst : Spells (first.pieces gap) before)
    (hbuild : ∀ entries close inner, (build entries close).pieces inner =
      .mark inner "\x7b" :: (Entry.pieces [] entries ++ [.mark close "\x7d"])) :
    Yields (do
      let (entries, close) ← bracketedFrom gap first item "\x7d"
      return build entries close) fun e taken => SpellsBehind "\x7b" e (before ++ taken) := by
  refine (spells_bracketedFrom hitem "\x7d" hfirst).bind fun ⟨entries, close⟩ taken htaken =>
    Yields.pure ?_
  exact ⟨Entry.pieces [] entries ++ [.mark close "\x7d"], fun inner => hbuild entries close inner,
    by simpa using htaken⟩

theorem spells_braced : Yields (braced rules) (SpellsBehind "\x7b") := by
  refine yields_peek.bind fun found none hnone => ?_
  subst hnone
  split
  · refine (spells_mark _).bind fun close first hfirst => Yields.pure ?_
    exact ⟨[.mark close "\x7d"], by simp, by simpa using hfirst⟩
  · refine (spells_bracketed (spells_dictItem h) _).bind fun ⟨entries, close⟩ first hfirst =>
      Yields.pure ?_
    exact ⟨Entry.pieces [] entries ++ [.mark close "\x7d"], by simp,
      by simpa using hfirst⟩
  · refine (spells_starOrNamed h).bind fun ⟨gap, first⟩ second hsecond => ?_
    refine (spells_oneOf? _).bind fun colon third hthird => ?_
    dsimp only
    split
    · rename_i key colon
      have hkey : Spells (key.pieces gap) second := by simpa using hsecond.1
      split
      · exact Yields.failure
      refine (h _).bind fun ⟨valueGap, value⟩ fourth hfourth => ?_
      refine yields_isComprehensionNext.bind fun isNext none hnone => ?_
      subst hnone
      dsimp only
      have hcolon : colon.text = ":" := by simpa using hthird.1
      have hpair := hkey.append (hthird.2.append hfourth)
      split
      · refine (spells_comprehension h).bind fun clauses fifth hfifth => ?_
        refine (spells_mark _).bind fun close sixth hsixth => Yields.pure ?_
        refine ⟨key.pieces gap ++ .mark colon.gap colon.text :: value.pieces valueGap
          ++ Part.pieces [] clauses ++ [.mark close "\x7d"],
          by simp [Part.pieces_append], ?_⟩
        simpa using hpair.append (hfifth.append hsixth)
      · have hfirst : Spells (Item.pieces gap (.pair key colon.gap valueGap value))
            (second ++ (third ++ fourth)) := by
          simpa [hcolon] using hpair
        refine (spells_bracedFrom .dict (spells_dictItem h) hfirst
          (by simp)).mono fun e taken he => ?_
        simpa using he
    · exact Yields.failure
    · rename_i e
      have he : Spells (e.pieces gap) second := by simpa using hsecond.1
      subst hthird
      refine yields_isComprehensionNext.bind fun isNext none hnone => ?_
      subst hnone
      split
      · refine (spells_comprehension h).bind fun clauses fourth hfourth => ?_
        refine (spells_mark _).bind fun close fifth hfifth => Yields.pure ?_
        refine ⟨e.pieces gap ++ Part.pieces [] clauses ++ [.mark close "\x7d"],
          by simp [Part.pieces_append], ?_⟩
        simpa using he.append (hfourth.append hfifth)
      · refine (spells_bracedFrom .set ((spells_starOrNamed h).mono fun _ _ hm => hm.1) hsecond.1
          (by simp)).mono fun e taken he => ?_
        simpa using he
    · subst hthird
      refine (spells_bracedFrom .set ((spells_starOrNamed h).mono fun _ _ hm => hm.1) hsecond.1
        (by simp)).mono fun e taken he => ?_
      simpa using he

theorem spells_argument : Yields (argument rules) SpellsItem := by
  refine (spells_oneOf? _).bind fun stars first hfirst => ?_
  cases stars with
  | some stars =>
    refine (h _).bind fun ⟨inner, e⟩ second hsecond => Yields.pure ?_
    simpa using hfirst.2.append hsecond
  | none =>
    subst hfirst
    refine Yields.orElse ?_ ?_
    · refine spells_name.bind fun key second hsecond => ?_
      refine (spells_mark "=").bind fun equals third hthird => ?_
      refine (h _).bind fun ⟨gap, e⟩ fourth hfourth => Yields.pure ?_
      simpa using hsecond.append (hthird.append hfourth)
    · refine (spells_named h).bind fun ⟨gap, e⟩ second hsecond => Yields.pure ?_
      simpa using hsecond

def SpellsClosed (closer : String) (found : List Entry × Gap) (taken : List Token) : Prop :=
  Spells (Entry.pieces [] found.1 ++ [.mark found.2 closer]) taken

theorem spells_arguments : Yields (arguments rules) (SpellsClosed ")") := by
  refine (spells_bracketed (spells_argument h) ")").bind fun ⟨entries, close⟩ first hfirst => ?_
  dsimp only
  split
  · exact Yields.pure (by simpa [SpellsClosed] using hfirst)
  · exact Yields.failure

theorem spells_callArguments : Yields (callArguments rules) (SpellsClosed ")") := by
  refine (spells_mark? ")").bind fun close first hfirst => ?_
  cases close with
  | some close => exact Yields.pure (by simpa [SpellsClosed] using hfirst)
  | none =>
    subst hfirst
    refine (spells_argument h).bind fun ⟨gap, first⟩ second hsecond => ?_
    refine yields_isComprehensionNext.bind fun isNext none hnone => ?_
    subst hnone
    dsimp only
    split
    · rename_i e
      refine (spells_comprehension h).bind fun clauses third hthird => ?_
      refine (spells_mark ")").bind fun close fourth hfourth => Yields.pure ?_
      have he : Spells (e.pieces gap) second := by simpa using hsecond
      simpa [SpellsClosed, Piece.ofComma]
        using he.append (hthird.append hfourth)
    · refine (spells_bracketedFrom (spells_argument h) ")" hsecond).bind
        fun ⟨entries, close⟩ third hthird => ?_
      dsimp only
      split
      · exact Yields.pure (by simpa [SpellsClosed] using hthird)
      · exact Yields.failure

theorem spells_attempt (level : Level) :
    Yields (attempt (rules level)) fun found taken =>
      Spells (Part.pieces [] (found.toList.map fun (gap, e) => .expr gap e)) taken := by
  refine (h level).attempt.mono fun found taken hfound => ?_
  cases found with
  | none => exact hfound ▸ .nil
  | some placed => simpa using hfound

theorem spells_sliceRest :
    Yields (sliceRest rules) fun parts taken => Spells (Part.pieces [] parts) taken := by
  refine (spells_attempt h _).bind fun upper first hfirst => ?_
  refine (spells_oneOf? _).bind fun second second' hsecond => ?_
  have hcolon := spells_optional hsecond
  have htail {step : Option Placed} {third : List Token}
      (hthird : Spells (Part.pieces [] (step.toList.map fun (gap, e) => .expr gap e)) third) :
      Spells (Part.pieces [] (upper.toList.map (fun (gap, e) => .expr gap e)
        ++ second.toList.map .word ++ step.toList.map fun (gap, e) => .expr gap e))
        (first ++ (second' ++ third)) := by
    simpa [Part.pieces_append] using hfirst.append (hcolon.append hthird)
  split
  · refine (spells_attempt h _).bind fun step third hthird => Yields.pure ?_
    simpa using htail hthird
  · exact Yields.bind (Yields.pure (P := fun step taken => step = none ∧ taken = []) ⟨rfl, rfl⟩)
      fun step third hthird => by
        obtain ⟨rfl, rfl⟩ := hthird
        exact Yields.pure (by simpa using @htail none [] .nil)

theorem spells_sliceItem : Yields (sliceItem rules) SpellsItem := by
  refine (spells_mark? ":").bind fun colon first hfirst => ?_
  cases colon with
  | some gap =>
    refine (spells_sliceRest h).bind fun parts second hsecond => Yields.pure ?_
    simpa using hfirst.append hsecond
  | none =>
    subst hfirst
    refine (spells_starOrNamed h).bind fun ⟨gap, item⟩ second hsecond => ?_
    refine (spells_oneOf? _).bind fun colon third hthird => ?_
    split
    · rename_i lower colon
      have hlower : Spells (lower.pieces gap) second := by simpa using hsecond.1
      refine (spells_sliceRest h).bind fun parts fourth hfourth => Yields.pure ?_
      simpa using hlower.append (hthird.2.append hfourth)
    · exact Yields.failure
    · subst hthird
      exact Yields.pure (by simpa using hsecond.1)

/-! ## Atoms and what follows them -/

omit h in
theorem pieces_numberExpr (gap : Gap) (text : String) :
    (numberExpr text).pieces gap = [(some .number, ⟨gap, text⟩)] := by
  unfold numberExpr
  split
  · simp
  · split
    · simp
    · split <;> simp

omit h in
/-- A bracketed expression behind its opening bracket. -/
theorem spells_opened {opening : String} {inner : Parser Expr}
    (hinner : Yields inner (SpellsBehind opening)) :
    Yields (do
      let gap ← mark opening
      return (gap, ← inner)) SpellsPlaced := by
  refine (spells_mark opening).bind fun gap first hfirst => ?_
  refine hinner.bind fun e second hsecond => Yields.pure ?_
  obtain ⟨pieces, hpieces, hspells⟩ := hsecond
  simpa [hpieces] using hfirst.append hspells

theorem spells_atom : Yields (atom rules) SpellsPlaced := by
  refine yields_peek.bind fun found none hnone => ?_
  subst hnone
  split
  · have hfinish {p : Parser Word}
        (hp : Yields p fun token taken => Spells [.ident token.gap token.text] taken) :
        Yields (do
          let token ← p
          return (token.gap, Expr.name token.text)) SpellsPlaced :=
      hp.bind fun token taken htoken => Yields.pure (by simpa using htoken)
    dsimp only
    split
    · exact hfinish (spells_word .name)
    · exact hfinish spells_name
  · refine (spells_word _).bind fun token first hfirst => Yields.pure ?_
    simpa [pieces_numberExpr] using hfirst
  · exact spells_strings h
  · exact spells_strings h
  · exact spells_opened (spells_parenthesized h)
  · exact spells_opened (spells_listDisplay h)
  · exact spells_opened (spells_braced h)
  · refine (spells_mark _).bind fun gap first hfirst => Yields.pure ?_
    simpa using hfirst
  · exact Yields.failure

theorem spells_trailer {gap : Gap} {e : Expr} {before : List Token}
    (he : Spells (e.pieces gap) before) :
    Yields (trailer rules e) fun found taken =>
      match found with
      | some e => Spells (e.pieces gap) (before ++ taken)
      | none => taken = [] := by
  refine (spells_oneOf? _).bind fun op first hfirst => ?_
  split
  · subst hfirst
    exact Yields.pure rfl
  · refine spells_name.bind fun attr second hsecond => Yields.pure ?_
    simpa using he.append (hfirst.2.append hsecond)
  · refine (spells_callArguments h).bind fun ⟨entries, close⟩ second hsecond => Yields.pure ?_
    simpa using he.append (hfirst.2.append hsecond)
  · rename_i opening text hdot hparen
    have hopening : text = "[" := by
      have := hfirst.1
      simp only [List.mem_cons, List.not_mem_nil, or_false] at this
      rcases this with rfl | rfl | rfl
      · exact absurd rfl hdot
      · exact absurd rfl hparen
      · rfl
    subst hopening
    refine (yields_isNext "]").bind fun isClosed none hnone => ?_
    subst hnone
    split
    · exact Yields.failure
    · refine (spells_bracketed (spells_sliceItem h) "]").bind fun ⟨entries, close⟩ second hsecond =>
        Yields.pure ?_
      simpa using he.append (hfirst.2.append hsecond)

theorem spells_primary : Yields (primary rules) SpellsPlaced := by
  refine (spells_atom h).bind fun ⟨gap, first⟩ before hbefore => ?_
  refine Yields.bind (P := fun e taken => Spells (e.pieces gap) (before ++ taken)) ?_
    fun e taken he => Yields.pure (by simpa using he)
  refine Yields.iterateFrom (by simpa using hbefore) fun e middle he => ?_
  refine (spells_trailer h he).mono fun found taken hfound => ?_
  cases found with
  | none => exact hfound
  | some e => simpa using hfound

theorem spells_awaited : Yields (awaited rules) SpellsPlaced := by
  refine (spells_mark? "await").bind fun await first hfirst => ?_
  cases await with
  | none =>
    subst hfirst
    exact spells_primary h
  | some gap =>
    refine (spells_primary h).bind fun ⟨inner, e⟩ second hsecond => Yields.pure ?_
    simpa using hfirst.append hsecond

theorem spells_power : Yields (power rules) SpellsPlaced := by
  refine (spells_awaited h).bind fun ⟨gap, base⟩ first hfirst => ?_
  refine (spells_mark? "**").bind fun op second hsecond => ?_
  cases op with
  | none =>
    subst hsecond
    exact Yields.pure (by simpa using hfirst)
  | some op =>
    refine (h _).bind fun ⟨inner, exponent⟩ third hthird => Yields.pure ?_
    simpa using hfirst.append (hsecond.append hthird)

theorem spells_factor : Yields (factor rules) SpellsPlaced := by
  refine (spells_oneOf? _).bind fun op first hfirst => ?_
  cases op with
  | none =>
    subst hfirst
    exact spells_power h
  | some op =>
    refine (h _).bind fun ⟨inner, e⟩ second hsecond => Yields.pure ?_
    simpa using hfirst.2.append hsecond

theorem spells_bitOr : Yields (bitOr rules) SpellsPlaced :=
  spells_leftChain _ (spells_leftChain _ (spells_leftChain _ (spells_leftChain _
    (spells_leftChain _ (spells_leftChain _ (spells_factor h))))))

theorem spells_inversion : Yields (inversion rules) SpellsPlaced := by
  refine (spells_mark? "not").bind fun no first hfirst => ?_
  cases no with
  | none =>
    subst hfirst
    exact spells_wordChain spells_comparisonOp (spells_bitOr h)
  | some gap =>
    refine (h _).bind fun ⟨inner, e⟩ second hsecond => Yields.pure ?_
    simpa using hfirst.append hsecond

theorem spells_disjunction : Yields (disjunction rules) SpellsPlaced :=
  spells_wordChain (spells_singleWord _) (spells_wordChain (spells_singleWord _) (spells_inversion h))

theorem spells_expression : Yields (expression rules) SpellsPlaced := by
  refine (yields_isNext "lambda").bind fun isLambda none hnone => ?_
  subst hnone
  split
  · exact spells_lambdaExpr h
  · refine (spells_disjunction h).bind fun ⟨gap, body⟩ first hfirst => ?_
    refine (spells_mark? "if").bind fun found second hsecond => ?_
    cases found with
    | none =>
      subst hsecond
      exact Yields.pure (by simpa using hfirst)
    | some ifGap =>
      refine (h _).bind fun ⟨testGap, test⟩ third hthird => ?_
      refine (spells_mark "else").bind fun elseGap fourth hfourth => ?_
      refine (h _).bind fun ⟨otherGap, other⟩ fifth hfifth => Yields.pure ?_
      simpa using
        hfirst.append (hsecond.append (hthird.append (hfourth.append hfifth)))

theorem spelled_grammar : SpelledRules (grammar rules) := by
  intro level
  cases level with
  | expression => exact spells_expression h
  | disjunction => exact spells_disjunction h
  | inversion => exact spells_inversion h
  | bitOr => exact spells_bitOr h
  | factor => exact spells_factor h
  | primary => exact spells_primary h

end

/-- Every stage of the grammar is lossless. -/
theorem spelled_staged : ∀ fuel, SpelledRules (staged fuel) := by
  intro fuel
  induction fuel with
  | zero => exact fun _ => Yields.failure
  | succ fuel ih => exact spelled_grammar ih

theorem spelled_rulesFor (tokens : List Token) : SpelledRules (rulesFor tokens) :=
  spelled_staged _

end Grammar
end ModelMetadata.Source
