import ModelMetadata.Proofs.Statements

/-!
Names in blocks of statements. Clauses, definitions and the statements of a block are followed by what
they keep, as small statements are; the heads of clauses and the patterns of cases are read for their
extent alone. In the end the names of a module that was read are identifiers.
-/
set_option autoImplicit false
namespace ModelMetadata

open Source Parser

namespace Source.Grammar

/-! ## Suites and clauses -/

theorem keeps_lineStart : Keeps lineStart fun _ => True := by
  refine .get fun tokens htokens => ?_
  split
  · rename_i above rest
    exact .step (.set (htokens.suffix [.lineStart above])) fun _ => .pure trivial
  · exact .failure

theorem keeps_isLineNext (texts : List String) : Keeps (isLineNext texts) fun _ => True := by
  refine .get fun tokens _ => ?_
  split <;> exact .pure trivial

theorem keeps_keywordHead (keyword : String) : Keeps (keywordHead keyword) fun _ => True :=
  (keeps_mark keyword).step fun _ => .pure trivial

theorem keeps_commaRest {item : Parser (Gap × Item)} (hitem : Keeps item fun _ => True) (fuel : Nat)
    (gap : Gap) (first : Item) : Keeps (commaRest item fuel gap first) fun _ => True := by
  induction fuel generalizing gap first with
  | zero => exact .failure
  | succ fuel ih =>
    refine (keeps_mark? ",").step fun comma => ?_
    cases comma with
    | none => exact .pure trivial
    | some comma =>
      refine hitem.attempt_any.step fun next => ?_
      cases next with
      | none => exact .pure trivial
      | some next => exact (ih _ _).step fun _ => .pure trivial

section

variable {rules : Rules} (h : SpelledRules rules)
include h

theorem keeps_named : Keeps (named rules) fun placed => placed.2.WellNamed :=
  keeps_placed (spells_named h)

theorem keeps_targetItem : Keeps (targetItem rules) fun _ => True :=
  .ofYields_any (spells_targetItem h)

theorem keeps_forHead : Keeps (forHead rules) fun _ => True := by
  refine (keeps_oneOf? _).step fun async => (keeps_mark "for").step fun gap => ?_
  refine (keeps_placed (spells_starTargets h)).step fun target => (keeps_mark "in").step fun gap => ?_
  exact (keeps_starExpressions h).step fun source => .pure trivial

theorem keeps_whileHead : Keeps (whileHead rules) fun _ => True :=
  (keeps_mark "while").step fun _ => (keeps_named h).step fun _ => .pure trivial

theorem keeps_exceptHead : Keeps (exceptHead rules) fun _ => True := by
  refine (keeps_mark "except").step fun gap => (keeps_oneOf? _).step fun star => ?_
  refine (keeps_isNext ":").step fun isBare => .ite ?_ (.pure trivial)
  refine (keeps_rule h _).step fun caught => (keeps_mark? "as").step fun bound => ?_
  exact .ite (keeps_name.step fun _ => .pure trivial) (.pure trivial)

theorem keeps_withItem : Keeps (withItem rules) fun _ => True := by
  refine (keeps_rule h _).step fun value => (keeps_mark? "as").step fun bound => ?_
  exact .ite ((keeps_targetItem h).step fun _ => .pure trivial) (.pure trivial)

theorem keeps_withItems (bracketed : Bool) (fuel : Nat) :
    Keeps (withItems rules bracketed fuel) fun _ => True := by
  induction fuel with
  | zero => exact .failure
  | succ fuel ih =>
    refine (keeps_withItem h).step fun _ => (keeps_mark? ",").step fun comma => .ite ?_ (.pure trivial)
    exact (keeps_isNext ")").step fun isClosed => .ite (.pure trivial) ih

theorem keeps_withHead : Keeps (withHead rules) fun _ => True := by
  refine (keeps_oneOf? _).step fun async => (keeps_mark "with").step fun gap => ?_
  refine .get fun tokens _ => .orElse ?_ (keeps_withItems h _ _)
  refine (keeps_mark "(").step fun gap => (keeps_withItems h _ _).step fun _ => ?_
  refine (keeps_mark ")").step fun close => (keeps_isNext ":").step fun isLast => ?_
  exact .ite (.pure trivial) .failure

/-! ## Patterns -/

omit h in
theorem keeps_patternMembers {member : Parser Unit} (hmember : Keeps member fun _ => True)
    (closer : String) : Keeps (patternMembers member closer) fun _ => True := by
  refine .step (.many_any ?_) fun found => (keeps_mark closer).step fun _ => .pure trivial
  refine (keeps_isNext closer).step fun isClosed => .ite (.pure trivial) ?_
  refine hmember.step fun _ => (keeps_mark? ",").step fun comma => .ite (.pure trivial) ?_
  exact (keeps_isNext closer).step fun isClosed => .ite (.pure trivial) .failure

omit h in
theorem keeps_sequencePattern {whole : Parser Unit} (hwhole : Keeps whole fun _ => True) :
    Keeps (sequencePattern whole) fun _ => True :=
  (keeps_mark? "*").step fun _ => .ite (keeps_name.step fun _ => .pure trivial) hwhole

omit h in
theorem keeps_numberPattern : Keeps numberPattern fun _ => True := by
  refine (keeps_oneOf? _).step fun sign => (keeps_word .number).step fun number => ?_
  refine (keeps_oneOf? _).step fun op => .ite ?_ (.pure trivial)
  exact (keeps_word .number).step fun imaginary => .pure trivial

theorem keeps_valuePattern : Keeps (valuePattern rules) fun _ => True := by
  have hstrings : Keeps (do let _ ← strings rules : Parser Unit) fun _ => True :=
    (keeps_placed (spells_strings h)).step fun _ => .pure trivial
  refine .step (.ofYields_any yields_peek) fun next => ?_
  split
  · exact hstrings
  · exact hstrings
  · refine .ite ((keeps_word .name).step fun _ => .pure trivial) ?_
    exact keeps_dottedName.step fun _ => .pure trivial
  · exact keeps_numberPattern

theorem keeps_mappingPattern {whole : Parser Unit} (hwhole : Keeps whole fun _ => True) :
    Keeps (mappingPattern rules whole) fun _ => True := by
  refine (keeps_mark? "**").step fun stars => .ite (keeps_name.step fun _ => .pure trivial) ?_
  exact (keeps_valuePattern h).step fun key => (keeps_mark ":").step fun colon => hwhole

omit h in
theorem keeps_argumentPattern {whole : Parser Unit} (hwhole : Keeps whole fun _ => True) :
    Keeps (argumentPattern whole) fun _ => True :=
  .orElse (keeps_name.step fun _ => (keeps_mark "=").step fun _ => hwhole) hwhole

theorem keeps_closedPattern {whole : Parser Unit} (hwhole : Keeps whole fun _ => True) :
    Keeps (closedPattern rules whole) fun _ => True := by
  refine (keeps_oneOf? _).step fun opening => ?_
  split
  · exact keeps_patternMembers (keeps_sequencePattern hwhole) _
  · exact keeps_patternMembers (keeps_sequencePattern hwhole) _
  · exact keeps_patternMembers (keeps_mappingPattern h hwhole) _
  · refine (keeps_valuePattern h).step fun value => (keeps_mark? "(").step fun opening => ?_
    exact .ite (keeps_patternMembers (keeps_argumentPattern hwhole) _) (.pure trivial)

theorem keeps_pattern (fuel : Nat) : Keeps (pattern rules fuel) fun _ => True := by
  induction fuel with
  | zero => exact .failure
  | succ fuel ih =>
    have hclosed := keeps_closedPattern h ih
    refine hclosed.step fun _ => .step (.many_any ?_) fun alternatives => ?_
    · exact (keeps_mark? "|").step fun bar =>
        .ite (hclosed.step fun _ => .pure trivial) (.pure trivial)
    · exact (keeps_mark? "as").step fun bound =>
        .ite (keeps_name.step fun _ => .pure trivial) (.pure trivial)

theorem keeps_caseHead : Keeps (caseHead rules) fun _ => True := by
  refine (keeps_mark "case").step fun gap => .get fun tokens _ => ?_
  have hitem := keeps_sequencePattern (keeps_pattern h (tokens.length + 1))
  refine hitem.step fun _ => .step (.many_any ?_) fun more => ?_
  · refine (keeps_mark? ",").step fun comma => .ite ?_ (.pure trivial)
    refine (keeps_isNext ":").step fun isClosed => (keeps_isNext "if").step fun isGuarded => ?_
    exact .ite (.pure trivial) (hitem.step fun _ => .pure trivial)
  · exact (keeps_mark? "if").step fun guard =>
      .ite ((keeps_named h).step fun _ => .pure trivial) (.pure trivial)

/-! ## Compound statements -/

variable {inner : Parser (List Statement)} (hinner : Keeps inner Statement.AllNamed)
include hinner

theorem keeps_suite : Keeps (suite rules inner) Suite.WellNamed := by
  refine .get fun tokens htokens => ?_
  split
  · rename_i tail step rest
    refine .step (.set (htokens.suffix [.lineEnd tail, .indent step])) fun _ => ?_
    refine hinner.bind fun body hbody => .get fun tokens htokens => ?_
    split
    · rename_i footer rest
      refine .step (.set (htokens.suffix [.dedent footer])) fun _ => ?_
      exact .pure hbody
    · exact .failure
  · exact (keeps_smallLineHere h).bind fun line hline => .pure hline

theorem keeps_clause (above : List EmptyLine) {head : Parser Unit} (hhead : Keeps head fun _ => True) :
    Keeps (clause rules inner above head) fun found => Clause.AllNamed [found] := by
  have hwords : Keeps (verbatim do head; let _ ← mark ":") fun _ => True :=
    .verbatim (P := fun _ => True) (hhead.step fun _ => (keeps_mark ":").step fun _ => .pure trivial)
  refine hwords.step fun words => (keeps_suite h hinner).bind fun body hbody => ?_
  exact .pure ⟨hbody, trivial⟩

theorem keeps_testClause (above : List EmptyLine) (keyword : String) :
    Keeps (testClause rules inner above keyword) fun found => Clause.AllNamed [found] := by
  refine (keeps_mark keyword).step fun _ => (keeps_named h).step fun condition => ?_
  refine (keeps_mark ":").step fun colon => (keeps_suite h hinner).bind fun body hbody => ?_
  exact .pure ⟨hbody, trivial⟩

theorem keeps_clauseNext (keyword : String) {head : Parser Unit}
    (hhead : Keeps head fun _ => True) :
    Keeps (clauseNext rules inner keyword head) Clause.AllNamed := by
  refine (keeps_isLineNext _).step fun isNext => .ite ?_ (.pure trivial)
  refine keeps_lineStart.step fun above => (keeps_clause h hinner above hhead).bind fun found hfound => ?_
  exact .pure hfound

theorem keeps_conditional (above : List EmptyLine) :
    Keeps (conditional rules inner above) Statement.WellNamed := by
  refine (keeps_testClause h hinner above "if").bind fun clause hclause => ?_
  refine .bind (.many (Q := fun found => Clause.AllNamed [found]) ?_) fun others hothers => ?_
  · refine (keeps_isLineNext _).step fun isNext => .ite ?_ (.pure nofun)
    refine keeps_lineStart.step fun above => (keeps_testClause h hinner above _).bind fun found hfound => ?_
    exact .pure fun _ heq => Option.some.inj heq ▸ hfound
  · refine (keeps_clauseNext h hinner "else" (keeps_keywordHead _)).bind fun last hlast => .pure ?_
    exact Clause.allNamed_append (Clause.allNamed_of_mem (List.forall_mem_cons.2 ⟨hclause, hothers⟩))
      hlast

theorem keeps_loopStatement (above : List EmptyLine) {head : Parser Unit}
    (hhead : Keeps head fun _ => True) :
    Keeps (loopStatement rules inner above head) Statement.WellNamed := by
  refine (keeps_clause h hinner above hhead).bind fun clause hclause => ?_
  refine (keeps_clauseNext h hinner "else" (keeps_keywordHead _)).bind fun last hlast => .pure ?_
  exact Clause.allNamed_append hclause hlast

theorem keeps_tryStatement (above : List EmptyLine) :
    Keeps (tryStatement rules inner above) Statement.WellNamed := by
  refine (keeps_clause h hinner above (keeps_keywordHead "try")).bind fun clause hclause => ?_
  refine .bind (.many (Q := fun found => Clause.AllNamed [found]) ?_) fun handlers hhandlers => ?_
  · refine (keeps_isLineNext _).step fun isNext => .ite ?_ (.pure nofun)
    refine keeps_lineStart.step fun above => ?_
    exact (keeps_clause h hinner above (keeps_exceptHead h)).bind fun found hfound =>
      .pure fun _ heq => Option.some.inj heq ▸ hfound
  have hfirst := Clause.allNamed_of_mem (List.forall_mem_cons.2 ⟨hclause, hhandlers⟩)
  dsimp only
  refine .ite (.bind (.pure (Q := Clause.AllNamed) trivial) ?_)
    (.bind (keeps_clauseNext h hinner "else" (keeps_keywordHead _)) ?_)
  all_goals
    intro otherwise hotherwise
    refine (keeps_clauseNext h hinner "finally" (keeps_keywordHead _)).bind fun last hlast => ?_
    exact .ite .stop
      (.pure (Clause.allNamed_append (Clause.allNamed_append hfirst hotherwise) hlast))

theorem keeps_matchStatement (above : List EmptyLine) :
    Keeps (matchStatement rules inner above) Statement.WellNamed := by
  have hsubject : Keeps (matchStatement.commaRestHead rules) fun _ => True := by
    refine .step (.ofYields_any (spells_starOrNamed h)) fun first => ?_
    refine (keeps_isNext ",").step fun isTuple => .ite (.get fun tokens _ => ?_) ?_
    · refine .step (keeps_commaRest ?_ _ _ _) fun _ => .pure trivial
      exact .ofYields_any (spells_starOrNamed h)
    · split
      · exact .pure trivial
      · exact .failure
  refine .step (.verbatim (P := fun _ => True) ((keeps_mark "match").step fun _ =>
    hsubject.step fun _ => (keeps_mark ":").step fun _ => .pure trivial)) fun words => ?_
  refine .get fun tokens htokens => ?_
  split
  · rename_i tail step rest
    refine .step (.set (htokens.suffix [.lineEnd tail, .indent step])) fun _ => ?_
    refine .bind (.many (Q := Statement.WellNamed) ?_) fun cases hcases => ?_
    · refine (keeps_isLineNext _).step fun isNext => .ite ?_ (.pure nofun)
      refine keeps_lineStart.step fun above => ?_
      exact (keeps_clause h hinner above (keeps_caseHead h)).bind fun found hfound =>
        .pure fun _ heq => Option.some.inj heq ▸ hfound
    refine .get fun tokens htokens => ?_
    split
    · rename_i footer rest
      refine .step (.set (htokens.suffix [.dedent footer])) fun _ => ?_
      exact .pure ⟨Statement.allNamed_of_mem hcases, trivial⟩
    · exact .failure
  · exact .failure

/-! ## Definitions -/

theorem keeps_functionDef (preamble : Preamble) :
    Keeps (functionDef rules inner preamble) Statement.WellNamed := by
  have hsignature : Keeps (verbatim do
      let _ ← typeParameters rules
      let _ ← mark "("
      parameters rules true ")"
      let _ ← mark ")"
      if (← mark? "->").isSome then
        let _ ← rules .expression
      let _ ← mark ":") fun _ => True := by
    refine .verbatim (P := fun _ => True) ((keeps_typeParameters h).step fun _ => ?_)
    refine (keeps_mark "(").step fun _ => .step (.ofYields_any (visible_parameters h _ _)) fun _ => ?_
    refine (keeps_mark ")").step fun _ => (keeps_mark? "->").step fun arrow => ?_
    have hcolon : Keeps (do let _ ← mark ":" : Parser Unit) fun _ => True :=
      (keeps_mark ":").step fun _ => .pure trivial
    exact .ite ((keeps_rule h _).step fun _ => hcolon) hcolon
  refine .step (.verbatim (P := fun _ => True) ((keeps_oneOf? _).step fun _ =>
    (keeps_mark "def").step fun _ => .pure trivial)) fun keywords => ?_
  refine keeps_name.step fun bound => hsignature.step fun signature => ?_
  exact (keeps_suite h hinner).bind fun body hbody => .pure hbody

theorem keeps_classDef (preamble : Preamble) :
    Keeps (classDef rules inner preamble) Statement.WellNamed := by
  refine (keeps_mark "class").step fun _ => keeps_name.bind fun bound hbound => ?_
  refine (keeps_typeParameters h).step fun parameters => (keeps_mark? "(").step fun opening => ?_
  have hrest (bases : Option BaseList) : Keeps (do
      let colon ← mark ":"
      return Statement.classDef ⟨preamble, bound.gap, bound.text, parameters, bases, colon⟩
        (← suite rules inner)) Statement.WellNamed :=
    (keeps_mark ":").step fun colon => (keeps_suite h hinner).bind fun body hbody => .pure ⟨hbound, hbody⟩
  cases opening with
  | none => exact hrest none
  | some gap =>
    refine .step (.ofYields_any (spells_arguments h)) fun found => .ite ?_ .stop
    exact hrest _

omit hinner in
theorem keeps_decorator (above : List EmptyLine) : Keeps (decorator rules above) fun _ => True :=
  (keeps_mark "@").step fun _ => (keeps_named h).step fun _ => keeps_lineTail.step fun _ =>
    .pure trivial

omit hinner in
theorem keeps_decorators (fuel : Nat) (above : List EmptyLine) :
    Keeps (decorators rules fuel above) fun _ => True := by
  induction fuel generalizing above with
  | zero => exact .failure
  | succ fuel ih =>
    refine (keeps_isNext "@").step fun isNext => .ite ?_ (.pure trivial)
    refine (keeps_decorator h above).step fun decorator => keeps_lineStart.step fun above => ?_
    exact (ih above).step fun rest => .pure trivial

theorem keeps_decorated (above : List EmptyLine) :
    Keeps (decorated rules inner above) Statement.WellNamed := by
  refine .get fun tokens _ => (keeps_decorators h _ _).step fun found => ?_
  refine (keeps_isNext "class").step fun isClass => ?_
  exact .ite (keeps_classDef h hinner _) (keeps_functionDef h hinner _)

/-! ## Blocks -/

theorem keeps_statement? :
    Keeps (statement? rules inner) fun found => ∀ a, found = some a → a.WellNamed := by
  refine .get fun tokens htokens => ?_
  split
  · rename_i above rest
    refine .step (.set (htokens.suffix [.lineStart above])) fun _ => ?_
    have hfound {p : Parser Statement} (hp : Keeps p Statement.WellNamed) :
        Keeps (some <$> p) fun found => ∀ a, found = some a → a.WellNamed :=
      hp.map fun _ ha _ heq => Option.some.inj heq ▸ ha
    have hsimple : Keeps (do
        let line ← smallLineHere rules
        return Statement.line above line.2) Statement.WellNamed :=
      (keeps_smallLineHere h).bind fun line hline => .pure hline
    have hwith : Keeps (do
        return Statement.compound [← clause rules inner above (withHead rules)])
        Statement.WellNamed :=
      (keeps_clause h hinner above (keeps_withHead h)).bind fun clause hclause => .pure hclause
    have hfor := keeps_loopStatement h hinner above (keeps_forHead h)
    refine .step (.ofYields_any yields_peek) fun next => ?_
    split
    · exact hfound (keeps_decorated h hinner above)
    · exact hfound (keeps_classDef h hinner _)
    · exact hfound (keeps_functionDef h hinner _)
    · exact hfound (.orElse (keeps_functionDef h hinner _) (.orElse hfor hwith))
    · exact hfound (keeps_conditional h hinner above)
    · exact hfound hfor
    · exact hfound (keeps_loopStatement h hinner above (keeps_whileHead h))
    · exact hfound (keeps_tryStatement h hinner above)
    · exact hfound hwith
    · exact hfound (.orElse (keeps_matchStatement h hinner above) hsimple)
    · exact hfound hsimple
  · exact .pure (by simp)

omit hinner in
theorem keeps_statements (depth : Nat) : Keeps (statements rules depth) Statement.AllNamed := by
  induction depth with
  | zero => exact .failure
  | succ depth ih =>
    exact (Keeps.many (keeps_statement? h ih)).mono fun found hfound =>
      Statement.allNamed_of_mem hfound

omit hinner in
theorem keeps_moduleBody : Keeps (moduleBody rules) fun found => Statement.AllNamed found.1 := by
  refine .get fun tokens _ => (keeps_statements h _).bind fun body hbody => .get fun tokens _ => ?_
  split
  · exact .step (.set (by simp [NamedTokens])) fun _ => .pure hbody
  · exact .failure

end

end Source.Grammar

/-! ## Modules -/

/-- The names of a module that was read are identifiers. -/
theorem Source.Module.allNamed_of_parse {text : String} {source : Module}
    (h : Module.parse text = .ok source) : Statement.AllNamed source.body := by
  obtain ⟨⟨body, footer⟩, hread, h⟩ := bind_eq_ok.1 h
  cases h
  obtain ⟨tokens, htokens, hrun⟩ := parseAll_tokens hread
  have hnames : NamedTokens tokens := (tokenize?_areTokens htokens).identifiers
  exact (Grammar.keeps_moduleBody (Grammar.spelled_rulesFor tokens) _ _ _ hnames hrun).1

end ModelMetadata
