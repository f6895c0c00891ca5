import ModelMetadata.Proofs.Naming
import ModelMetadata.Source.Parser.Statement
import ModelMetadata.Symbols

/-!
Names in modules that were read. The grammar takes names from the tokens of a text, and those are
identifiers; so every class of a module that was read is named by an identifier, what is imported is
named by identifiers, and annotations and values hold no other names. A parser of statements is followed
by what it keeps: from tokens whose names are identifiers it gives such a result and leaves such tokens.
-/
set_option autoImplicit false
namespace ModelMetadata

open Source Parser

namespace Source

/-! ## Parsers that keep names -/

def NamedTokens (tokens : List Token) : Prop :=
  ∀ word, Token.word .name word ∈ tokens → Text.isIdentifier word.text.toList = true

theorem NamedTokens.suffix (taken : List Token) {rest : List Token}
    (h : NamedTokens (taken ++ rest)) : NamedTokens rest :=
  fun word hword => h word (List.mem_append_right taken hword)

/-- From tokens whose names are identifiers, a parser gives results as `Q` says and leaves such
tokens. -/
def Keeps {α : Type} (p : Parser α) (Q : α → Prop) : Prop :=
  ∀ tokens a rest, NamedTokens tokens → p tokens = some (a, rest) → Q a ∧ NamedTokens rest

namespace Keeps

variable {α β : Type} {p q : Parser α} {P Q : α → Prop} {R : β → Prop}

theorem pure {a : α} (h : Q a) : Keeps (Pure.pure a) Q := by
  intro tokens b rest htokens hrun
  cases hrun
  exact ⟨h, htokens⟩

theorem failure : Keeps (Alternative.failure : Parser α) Q := by
  intro tokens a rest htokens h
  cases h

theorem bind {k : α → Parser β} (hp : Keeps p P) (hk : ∀ a, P a → Keeps (k a) R) :
    Keeps (p >>= k) R := by
  intro tokens b rest htokens h
  obtain ⟨⟨a, middle⟩, hrun, hmore⟩ := Option.bind_eq_some_iff.1 h
  obtain ⟨ha, hmiddle⟩ := hp tokens a middle htokens hrun
  exact hk a ha middle b rest hmiddle hmore

/-- A step of whose result nothing needs to be known. -/
theorem step {k : α → Parser β} (hp : Keeps p P) (hk : ∀ a, Keeps (k a) R) : Keeps (p >>= k) R :=
  bind hp fun a _ => hk a

theorem mono (hp : Keeps p P) (h : ∀ a, P a → Q a) : Keeps p Q :=
  fun tokens a rest htokens hrun => (hp tokens a rest htokens hrun).imp_left (h a)

theorem stop {k : α → Parser β} : Keeps (Alternative.failure >>= k) R :=
  bind (P := fun _ => False) failure nofun

theorem any (hp : Keeps p P) : Keeps p fun _ => True := hp.mono fun _ _ => trivial

theorem map {f : α → β} (hp : Keeps p P) (h : ∀ a, P a → R (f a)) : Keeps (f <$> p) R :=
  bind hp fun a ha => pure (h a ha)

theorem ofYields {P : α → List Token → Prop} (hp : Yields p P)
    (h : ∀ a taken, NamedTokens taken → P a taken → Q a) : Keeps p Q := by
  intro tokens a rest htokens hrun
  obtain ⟨taken, rfl, ha⟩ := hp tokens a rest hrun
  refine ⟨h a taken (fun word hword => ?_) ha, htokens.suffix taken⟩
  exact htokens word (List.mem_append_left rest hword)

theorem ofYields_any {P : α → List Token → Prop} (hp : Yields p P) : Keeps p fun _ => True :=
  ofYields hp fun _ _ _ _ => trivial

theorem orElse (hp : Keeps p Q) (hq : Keeps q Q) : Keeps (p <|> q) Q := by
  intro tokens a rest htokens h
  have hcases : (p tokens <|> q tokens) = some (a, rest) := h
  cases hrun : p tokens with
  | none => exact hq tokens a rest htokens (by simpa [hrun] using hcases)
  | some found => exact hp tokens a rest htokens (by simpa [hrun] using hcases)

theorem ite {condition : Prop} [Decidable condition] (hp : Keeps p Q) (hq : Keeps q Q) :
    Keeps (if condition then p else q) Q := by
  split
  · exact hp
  · exact hq

theorem get {k : List Token → Parser β} (hk : ∀ tokens, NamedTokens tokens → Keeps (k tokens) R) :
    Keeps (MonadState.get >>= k) R :=
  fun tokens b rest htokens h => hk tokens htokens tokens b rest htokens h

theorem set {tokens : List Token} (h : NamedTokens tokens) :
    Keeps (MonadStateOf.set tokens : Parser PUnit) fun _ => True := by
  intro _ a rest _ hrun
  cases hrun
  exact ⟨trivial, h⟩

theorem attempt (hp : Keeps p Q) : Keeps (attempt p) fun found => ∀ a, found = some a → Q a :=
  orElse (hp.map fun _ ha _ hb => Option.some.inj hb ▸ ha) (pure nofun)

theorem iterate {p : α → Parser (Option α)} (hp : ∀ a, Q a → Keeps (p a) fun next =>
    ∀ b, next = some b → Q b) (fuel : Nat) {a : α} (ha : Q a) : Keeps (Parser.iterate p fuel a) Q := by
  induction fuel generalizing a with
  | zero => exact pure ha
  | succ fuel ih =>
    refine (hp a ha).bind fun next hnext => ?_
    cases next with
    | none => exact pure ha
    | some b => exact ih (hnext b rfl)

theorem iterateFrom {p : α → Parser (Option α)} (hp : ∀ a, Q a → Keeps (p a) fun next =>
    ∀ b, next = some b → Q b) {a : α} (ha : Q a) : Keeps (Parser.iterateFrom p a) Q :=
  get fun tokens _ => iterate hp tokens.length ha

theorem many {p : Parser (Option α)} (hp : Keeps p fun next => ∀ a, next = some a → Q a) :
    Keeps (Parser.many p) fun found => ∀ a ∈ found, Q a := by
  refine bind (P := fun found => ∀ a ∈ found, Q a)
    (iterateFrom (fun found hfound => hp.bind fun next hnext => pure fun more hmore => ?_) (by simp))
    fun found hfound => pure (by simpa using hfound)
  obtain ⟨a, rfl, rfl⟩ := Option.map_eq_some_iff.1 hmore
  exact List.forall_mem_cons.2 ⟨hnext a rfl, hfound⟩

theorem iterateFrom_any {p : α → Parser (Option α)} (hp : ∀ a, Keeps (p a) fun _ => True) {a : α} :
    Keeps (Parser.iterateFrom p a) fun _ => True :=
  iterateFrom (fun a _ => (hp a).mono fun _ _ _ _ => trivial) trivial

theorem many_any {p : Parser (Option α)} (hp : Keeps p fun _ => True) :
    Keeps (Parser.many p) fun _ => True :=
  (many (Q := fun _ => True) (hp.mono fun _ _ _ _ => trivial)).any

theorem attempt_any (hp : Keeps p P) : Keeps (Parser.attempt p) fun _ => True := hp.attempt.any

theorem verbatim (hp : Keeps p P) : Keeps (verbatim p) fun _ => True :=
  get fun _ _ => hp.bind fun _ _ => get fun _ _ => pure trivial

end Keeps

/-! ## Tokens -/

theorem keeps_isNext (text : String) : Keeps (isNext text) fun _ => True :=
  .ofYields_any (yields_isNext text)

theorem keeps_oneOf? (texts : List String) : Keeps (oneOf? texts) fun _ => True :=
  .ofYields_any (yields_oneOf? texts)

theorem keeps_mark? (text : String) : Keeps (mark? text) fun _ => True :=
  .ofYields_any (yields_mark? text)

theorem keeps_mark (text : String) : Keeps (mark text) fun _ => True :=
  .ofYields_any (yields_mark text)

theorem keeps_word (kind : WordKind) : Keeps (word kind) fun _ => True :=
  .ofYields_any (yields_word kind)

theorem keeps_name : Keeps name fun found => Text.isIdentifier found.text.toList = true :=
  .ofYields yields_name fun found taken htaken h => htaken found (by simp [h.2])

/-! ## What is known of statements -/

def Small.WellNamed : Small → Prop
  | .assign _ value => value.WellNamed
  | .annotated _ _ _ typeHint assigned =>
    typeHint.WellNamed ∧ ∀ given, assigned = some given → given.value.WellNamed
  | .importFrom _ _ _ names =>
    ∀ name ∈ ModuleSymbols.importedNames names, IsDottedName name.path.dottedName
  | .typeAlias _ _ _ _ _ value => value.WellNamed
  | _ => True

def SmallLine.WellNamed (line : SmallLine) : Prop :=
  ∀ entry ∈ line.entries, entry.statement.WellNamed

mutual

def Statement.WellNamed : Statement → Prop
  | .line _ line => line.WellNamed
  | .classDef head body => Text.isIdentifier head.name.toList = true ∧ body.WellNamed
  | .functionDef _ body => body.WellNamed
  | .compound clauses => Clause.AllNamed clauses

def Statement.AllNamed : List Statement → Prop
  | [] => True
  | statement :: rest => statement.WellNamed ∧ Statement.AllNamed rest

def Clause.AllNamed : List Clause → Prop
  | [] => True
  | .mk _ _ body :: rest => body.WellNamed ∧ Clause.AllNamed rest

def Suite.WellNamed : Suite → Prop
  | .block _ _ body _ => Statement.AllNamed body
  | .inline _ line => line.WellNamed

end

theorem Statement.allNamed_of_mem {statements : List Statement}
    (h : ∀ statement ∈ statements, statement.WellNamed) : Statement.AllNamed statements := by
  induction statements with
  | nil => exact trivial
  | cons statement rest ih =>
    obtain ⟨hfirst, hrest⟩ := List.forall_mem_cons.1 h
    exact ⟨hfirst, ih hrest⟩

theorem Clause.allNamed_append {clauses more : List Clause} (h : Clause.AllNamed clauses)
    (hmore : Clause.AllNamed more) : Clause.AllNamed (clauses ++ more) := by
  induction clauses with
  | nil => exact hmore
  | cons clause rest ih =>
    obtain ⟨above, head, body⟩ := clause
    exact ⟨h.1, ih h.2⟩

theorem Clause.allNamed_of_mem {clauses : List Clause}
    (h : ∀ clause ∈ clauses, Clause.AllNamed [clause]) : Clause.AllNamed clauses := by
  induction clauses with
  | nil => exact trivial
  | cons clause rest ih =>
    obtain ⟨hfirst, hrest⟩ := List.forall_mem_cons.1 h
    exact Clause.allNamed_append hfirst (ih hrest)

end Source

namespace Source.Grammar

/-! ## Imports -/

theorem keeps_dottedName : Keeps dottedName fun _ => True := by
  refine keeps_name.step fun bound => .step (.iterateFrom_any fun path => ?_) fun _ => .pure trivial
  refine (keeps_mark? ".").step fun dot => ?_
  cases dot with
  | none => exact .pure trivial
  | some gap => exact keeps_name.step fun _ => .pure trivial

theorem keeps_importAlias : Keeps importAlias fun _ => True := by
  refine (keeps_mark? "as").step fun found => ?_
  cases found with
  | none => exact .pure trivial
  | some gap => exact keeps_name.step fun _ => .pure trivial

theorem keeps_importNames {P : Expr → Prop} {path : Parser Placed}
    (hpath : Keeps path fun placed => P placed.2) (trailing : Bool) (fuel : Nat) :
    Keeps (importNames path trailing fuel) fun names => ∀ name ∈ names, P name.path := by
  induction fuel with
  | zero => exact .failure
  | succ fuel ih =>
    refine hpath.bind fun found hfound => keeps_importAlias.step fun bound => ?_
    refine (keeps_mark? ",").step fun comma => ?_
    cases comma with
    | none => exact .pure (by simpa using hfound)
    | some comma =>
      refine (keeps_isNext ")").step fun isClosed => .ite (.pure (by simpa using hfound)) ?_
      exact ih.bind fun rest hrest => .pure (List.forall_mem_cons.2 ⟨hfound, hrest⟩)

theorem keeps_plainName : Keeps plainName fun placed => IsDottedName placed.2.dottedName :=
  keeps_name.bind fun _ hfound => .pure (.ofIdentifier hfound)

theorem keeps_importModules : Keeps importModules fun placed => placed.2.WellNamed := by
  refine (keeps_mark "import").step fun gap => .get fun tokens _ => ?_
  exact (keeps_importNames (P := fun _ => True) keeps_dottedName false _).step fun names =>
    .pure trivial

theorem keeps_importFrom : Keeps importFrom fun placed => placed.2.WellNamed := by
  refine (keeps_mark "from").step fun gap => .step (.many_any (keeps_oneOf? _)) fun dots => ?_
  refine (keeps_isNext "import").step fun isImport => ?_
  have hnames := keeps_importNames (P := fun e => IsDottedName e.dottedName) keeps_plainName
  dsimp only
  refine .ite (.step (P := fun _ => True) (.pure trivial) ?_)
    (.step (keeps_dottedName.map (R := fun _ => True) fun _ _ => trivial) ?_)
  all_goals
    intro path
    refine .ite .stop ((keeps_mark "import").step fun beforeImport => .get fun tokens _ => ?_)
    refine (keeps_oneOf? _).step fun opening => ?_
    cases opening with
    | none => exact (hnames _ _).bind fun names hnames => .pure hnames
    | some opening =>
      refine .ite (.pure nofun) ((hnames _ _).bind fun names hnames => ?_)
      exact (keeps_mark ")").step fun close => .pure hnames

/-! ## Small statements -/

theorem keeps_placed {p : Parser Placed} (hp : Yields p SpellsPlaced) :
    Keeps p fun placed => placed.2.WellNamed :=
  .ofYields hp fun placed _ htaken hspells => ⟨placed.1, .of_spells hspells htaken⟩

section

variable {rules : Rules} (h : SpelledRules rules)
include h

theorem keeps_rule (level : Level) : Keeps (rules level) fun placed => placed.2.WellNamed :=
  keeps_placed (h level)

theorem keeps_starExpressions : Keeps (starExpressions rules) fun placed => placed.2.WellNamed :=
  keeps_placed (spells_starExpressions h)

theorem keeps_yieldOrStars : Keeps (yieldOrStars rules) fun placed => placed.2.WellNamed :=
  keeps_placed (spells_yieldOrStars h)

theorem keeps_typeParameter : Keeps (typeParameter rules) fun _ => True := by
  have hdefault : Keeps (do
      if (← mark? "=").isSome then
        let _ ← starOrExpression rules : Parser Unit) fun _ => True :=
    (keeps_mark? "=").step fun equals => .ite
      (.step (.ofYields_any (spells_starOrExpression h)) fun _ => .pure trivial) (.pure trivial)
  refine (keeps_oneOf? _).step fun stars => keeps_name.step fun bound => ?_
  refine (keeps_mark? ":").step fun colon => .ite ?_ hdefault
  exact (keeps_rule h _).step fun _ => hdefault

theorem keeps_typeParameters : Keeps (typeParameters rules) fun _ => True := by
  have hloop (fuel : Nat) : Keeps (typeParameters.loop rules fuel) fun _ => True := by
    induction fuel with
    | zero => exact .failure
    | succ fuel ih =>
      refine (keeps_typeParameter h).step fun _ => (keeps_mark? ",").step fun comma => .ite ?_ ?_
      · exact (keeps_mark? "]").step fun close => .ite (.pure trivial) ih
      · exact (keeps_mark "]").step fun close => .pure trivial
  refine .verbatim (P := fun _ => True) ((keeps_mark? "[").step fun opening => .ite ?_ (.pure trivial))
  exact .get fun tokens _ => hloop _

theorem keeps_typeAlias : Keeps (typeAlias rules) fun placed => placed.2.WellNamed := by
  refine (keeps_mark "type").step fun gap => keeps_name.step fun bound => ?_
  refine (keeps_typeParameters h).step fun parameters => (keeps_mark "=").step fun equals => ?_
  exact (keeps_rule h _).bind fun value hvalue => .pure hvalue

theorem keeps_assignment (fuel : Nat) {e : Expr} (he : e.WellNamed) :
    Keeps (assignment rules fuel e) fun found => found.2.WellNamed := by
  induction fuel generalizing e with
  | zero => exact .failure
  | succ fuel ih =>
    refine (keeps_mark? "=").step fun equals => ?_
    cases equals with
    | none => exact .pure he
    | some equals =>
      refine .ite .stop ((keeps_yieldOrStars h).bind fun next hnext => ?_)
      exact (ih hnext).bind fun found hfound => .pure hfound

theorem keeps_expressionStatement :
    Keeps (expressionStatement rules) fun placed => placed.2.WellNamed := by
  refine (keeps_yieldOrStars h).bind fun found hfound => ?_
  refine (keeps_oneOf? _).step fun op => ?_
  dsimp only
  split
  · refine .ite .stop ((keeps_rule h _).bind fun typeHint hhint => ?_)
    refine (keeps_mark? "=").step fun equals => ?_
    cases equals with
    | none => exact .pure ⟨hhint, nofun⟩
    | some equals =>
      refine (keeps_yieldOrStars h).bind fun value hvalue => .pure ⟨hhint, fun given hgiven => ?_⟩
      exact Option.some.inj hgiven ▸ hvalue
  · exact .ite .stop ((keeps_yieldOrStars h).step fun value => .pure trivial)
  · refine .get fun tokens _ => (keeps_assignment h _ hfound).bind fun value hvalue => ?_
    exact .ite (.pure trivial) (.pure hvalue)

omit h in
theorem keeps_commaNames (fuel : Nat) : Keeps (commaNames fuel) fun _ => True := by
  induction fuel with
  | zero => exact .failure
  | succ fuel ih =>
    refine keeps_name.step fun bound => (keeps_mark? ",").step fun comma => ?_
    exact .ite ih (.pure trivial)

theorem keeps_keywordStatement (keyword : String) :
    Keeps (keywordStatement rules keyword) fun _ => True := by
  unfold keywordStatement
  split
  · refine (keeps_rule h _).attempt_any.step fun raised => .ite ?_ (.pure trivial)
    refine (keeps_mark? "from").step fun gap => .ite ?_ (.pure trivial)
    exact (keeps_rule h _).step fun _ => .pure trivial
  · refine (keeps_starExpressions h).step fun found => ?_
    exact .ite .failure (.pure trivial)
  · refine (keeps_rule h _).step fun _ => (keeps_mark? ",").step fun comma => ?_
    exact .ite ((keeps_rule h _).step fun _ => .pure trivial) (.pure trivial)
  · exact .get fun tokens _ => keeps_commaNames _
  · exact .get fun tokens _ => keeps_commaNames _
  · exact .pure trivial

theorem keeps_small : Keeps (small rules) fun placed => placed.2.WellNamed := by
  refine .step (.ofYields_any yields_peek) fun next => ?_
  split
  · exact keeps_importModules
  · exact keeps_importFrom
  · refine (keeps_mark "return").step fun gap => ?_
    refine (keeps_starExpressions h).attempt_any.step fun value => ?_
    cases value with
    | none => exact .pure trivial
    | some value => exact .pure trivial
  · exact (keeps_typeAlias h).orElse (keeps_expressionStatement h)
  · refine .ite ?_ (keeps_expressionStatement h)
    refine (keeps_mark _).step fun gap => (keeps_keywordStatement h _).verbatim.step fun words => ?_
    exact .pure trivial
  · exact keeps_expressionStatement h

omit h in
theorem keeps_lineTail? : Keeps lineTail? fun _ => True := by
  refine .get fun tokens htokens => ?_
  split
  · rename_i tail rest
    exact .step (.set (htokens.suffix [.lineEnd tail])) fun _ => .pure trivial
  · exact .pure trivial

omit h in
theorem keeps_lineTail : Keeps lineTail fun _ => True := by
  refine keeps_lineTail?.step fun tail => ?_
  cases tail with
  | none => exact .failure
  | some tail => exact .pure trivial

theorem keeps_smallLine (fuel : Nat) :
    Keeps (smallLine rules fuel) fun placed => placed.2.WellNamed := by
  induction fuel with
  | zero => exact .failure
  | succ fuel ih =>
    refine (keeps_small h).bind fun found hfound => (keeps_mark? ";").step fun semicolon => ?_
    cases semicolon with
    | none => exact keeps_lineTail.step fun tail => .pure (List.forall_mem_singleton.2 hfound)
    | some before =>
      refine keeps_lineTail?.step fun tail => ?_
      cases tail with
      | some tail => exact .pure (List.forall_mem_singleton.2 hfound)
      | none => exact ih.bind fun line hline => .pure (List.forall_mem_cons.2 ⟨hfound, hline⟩)

theorem keeps_smallLineHere : Keeps (smallLineHere rules) fun placed => placed.2.WellNamed :=
  .get fun _ _ => keeps_smallLine h _

end

end Source.Grammar
end ModelMetadata
