import ModelMetadata.Proofs.Dotting
import ModelMetadata.Proofs.FreeNames
import ModelMetadata.Proofs.Lexing
import ModelMetadata.Proofs.Reading
import ModelMetadata.Reference

/-!
References to types of imported modules. Where metadata is collected, a type is referred to by a text:
the table of imported modules under the name of a module, and the name of the type behind it. The text
is read back as an expression that reads the table and nothing else.
-/
set_option autoImplicit false
namespace ModelMetadata

open Source Parser Grammar

/-! ## Tokens -/

def memberTokens (pieces : List String) : List Token :=
  pieces.flatMap fun piece => [.word .operator ⟨[], "."⟩, .word .name ⟨[], piece⟩]

def referenceTokens (origin : String) (pieces : List String) : List Token :=
  [.word .name ⟨[], importsBinding⟩, .word .operator ⟨[], "["⟩,
    .word .string ⟨[], Text.quote origin⟩, .word .operator ⟨[], "]"⟩] ++ memberTokens pieces

def memberText (pieces : List String) : List Char := pieces.flatMap fun piece => '.' :: piece.toList

theorem memberText_head {pieces : List String} : ∀ c ∈ (memberText pieces).head?, c = '.' := by
  cases pieces <;> simp [memberText]

section

variable {usual : String} {block : List Char} {fuel : Nat} {pieces : List String}
  (hpieces : ∀ piece ∈ pieces, Text.isIdentifier piece.toList = true)
include hpieces

theorem scanLine_members (hfuel : 2 * pieces.length < fuel) :
    scanLine usual block fuel {} false (memberText pieces)
      = some (memberTokens pieces, ⟨"", none, none⟩, []) := by
  induction pieces generalizing fuel with
  | nil =>
    obtain ⟨fuel, rfl⟩ := Nat.exists_eq_add_of_lt hfuel
    exact scanLine_nil false rfl rfl
  | cons piece rest ih =>
    obtain ⟨hpiece, hrest⟩ := List.forall_mem_cons.1 hpieces
    obtain ⟨fuel, rfl⟩ := Nat.exists_eq_add_of_lt hfuel
    have htail : scanLine usual block (2 * rest.length + fuel + 1) {} false (memberText rest) = _ :=
      ih hrest (by omega)
    have hname : scanWord {} (piece.toList ++ memberText rest)
        = some (.name, piece, {}, memberText rest) :=
      scanWord_name hpiece fun d hd => by
        rw [memberText_head d hd]
        decide
    have hmember := scanLine_word false (flush_of_isIdentifier hpiece _) rfl hname htail
    have hdot : scanWord {} ('.' :: (piece.toList ++ memberText rest))
        = some (.operator, ".", {}, piece.toList ++ memberText rest) := by
      obtain ⟨c, more, hchars⟩ := List.exists_cons_of_ne_nil (Text.ne_nil_of_isIdentifier hpiece)
      rw [hchars] at hpiece ⊢
      exact scanWord_dot (Bool.and_eq_true_iff.1 hpiece).1 (more ++ memberText rest)
    have hline := scanLine_word false (.cons (by decide) _) rfl hdot hmember
    rw [show 2 * (piece :: rest).length + fuel + 1 = 2 * rest.length + fuel + 1 + 1 + 1 by
      rw [List.length_cons]; omega]
    exact hline

def referenceChars (origin : String) (pieces : List String) : List Char :=
  importsBinding.toList ++ '[' :: ((Text.quote origin).toList ++ ']' :: memberText pieces)

theorem scanLine_reference (origin : String) (hfuel : 2 * pieces.length + 4 < fuel) :
    scanLine usual block fuel {} true (referenceChars origin pieces)
      = some (referenceTokens origin pieces, ⟨"", none, none⟩, []) := by
  obtain ⟨fuel, rfl⟩ := Nat.exists_eq_add_of_lt hfuel
  have htail : scanLine usual block (2 * pieces.length + fuel + 1) {} false (memberText pieces) = _ :=
    scanLine_members hpieces (by omega)
  have hclose : scanWord { brackets := [']'] } (']' :: memberText pieces)
      = some (.operator, "]", {}, memberText pieces) := scanWord_close (.inr rfl) _
  have hstring : scanWord { brackets := [']'] } ((Text.quote origin).toList ++ ']' :: memberText pieces)
      = some (.string, Text.quote origin, { brackets := [']'] }, ']' :: memberText pieces) :=
    scanWord_quote origin (by simp)
  have hopen : scanWord {} ('[' :: ((Text.quote origin).toList ++ ']' :: memberText pieces))
      = some (.operator, "[", { brackets := [']'] },
        (Text.quote origin).toList ++ ']' :: memberText pieces) :=
    scanWord_open (.inr rfl) rfl _ rfl
  have htable : Text.isIdentifier importsBinding.toList = true := by decide
  have hname : scanWord {} (referenceChars origin pieces)
      = some (.name, importsBinding, {},
        '[' :: ((Text.quote origin).toList ++ ']' :: memberText pieces)) :=
    scanWord_name htable (by simp; decide)
  have hline := scanLine_word true (flush_of_isIdentifier htable _) rfl hname
    (scanLine_word false (.cons (by decide) _) rfl hopen
      (scanLine_word false (flush_quote origin _) rfl hstring
        (scanLine_word false (.cons (by decide) _) rfl hclose htail)))
  rw [show 2 * pieces.length + 4 + fuel + 1 = 2 * pieces.length + fuel + 1 + 1 + 1 + 1 + 1 by omega]
  exact hline

theorem length_memberText : 2 * pieces.length ≤ (memberText pieces).length := by
  induction pieces with
  | nil => simp
  | cons piece rest ih =>
    obtain ⟨hpiece, hrest⟩ := List.forall_mem_cons.1 hpieces
    have hpos := List.length_pos_iff.2 (Text.ne_nil_of_isIdentifier hpiece)
    have hlength := ih hrest
    simp only [memberText, List.flatMap_cons, List.length_append, List.length_cons] at hlength ⊢
    omega

theorem tokenize?_reference (origin : String) :
    tokenize? (referenceChars origin pieces)
      = some (.lineStart [] :: (referenceTokens origin pieces
        ++ [.lineEnd ⟨"", none, none⟩, .finish []])) := by
  have hflush : Flush (referenceChars origin pieces) := flush_of_isIdentifier (by decide) _
  have hlength : 2 * pieces.length + 4 < (referenceChars origin pieces).length + 1 := by
    have htable : importsBinding.toList.length = 1 := by decide
    have hmembers := length_memberText hpieces
    simp only [referenceChars, toList_quote, List.length_append, List.length_cons, htable]
    omega
  exact tokenize?_line hflush (scanLine_reference hpieces origin hlength)

end

/-! ## Parsing -/

namespace Source.Parser

variable {α β : Type}

/-- Whatever a parser reads from some tokens is as `Q` says, and `rest` is what it leaves. -/
def ReadsTo (p : Parser α) (tokens : List Token) (Q : α → Prop) (rest : List Token) : Prop :=
  ∀ a left, p tokens = some (a, left) → Q a ∧ left = rest

namespace ReadsTo

variable {p q : Parser α} {k : α → Parser β} {tokens middle rest : List Token} {P Q : α → Prop}
  {R : β → Prop}

theorem pure {a : α} (h : Q a) : ReadsTo (Pure.pure a) tokens Q tokens := by
  rintro b left hrun
  cases hrun
  exact ⟨h, rfl⟩

theorem of_eq {a : α} (hrun : p tokens = some (a, rest)) (h : Q a) : ReadsTo p tokens Q rest := by
  intro b left hb
  rw [hrun] at hb
  cases hb
  exact ⟨h, rfl⟩

theorem bind (hp : ReadsTo p tokens P middle) (hk : ∀ a, P a → ReadsTo (k a) middle R rest) :
    ReadsTo (p >>= k) tokens R rest := by
  intro b left h
  obtain ⟨⟨a, next⟩, hrun, hmore⟩ := Option.bind_eq_some_iff.1 h
  obtain ⟨ha, rfl⟩ := hp a next hrun
  exact hk a ha b left hmore

/-- A first step whose result is known. -/
theorem step {a : α} (hrun : p tokens = some (a, middle)) (hk : ReadsTo (k a) middle R rest) :
    ReadsTo (p >>= k) tokens R rest :=
  bind (of_eq (Q := (· = a)) hrun rfl) fun _ ha => ha ▸ hk

theorem second (hp : p tokens = none) (hq : ReadsTo q tokens Q rest) :
    ReadsTo (p <|> q) tokens Q rest := by
  intro a left h
  have hcases : (p tokens <|> q tokens) = some (a, left) := h
  exact hq a left (by simpa [hp] using hcases)

end ReadsTo

theorem bind_eq_none {p : Parser α} {k : α → Parser β} {tokens : List Token} (h : p tokens = none) :
    (p >>= k) tokens = none := by
  change (p tokens).bind _ = none
  rw [h]
  rfl

def Only (text : String) (tokens : List Token) : Prop :=
  ∀ kind word rest, tokens = .word kind word :: rest → isMark kind = true → word.text = text

namespace Only

variable {text : String} {tokens : List Token}

theorem oneOf? (h : Only text tokens) {texts : List String} (htexts : text ∉ texts) :
    Parser.oneOf? texts tokens = some (none, tokens) := by
  by_cases hword : ∃ kind word rest, tokens = .word kind word :: rest
  · obtain ⟨kind, word, rest, rfl⟩ := hword
    rw [oneOf?_word, if_neg]
    intro hmark
    obtain ⟨hkind, hcontains⟩ := Bool.and_eq_true_iff.1 hmark
    rw [h kind word rest rfl hkind] at hcontains
    exact htexts (List.contains_iff_mem.1 hcontains)
  · exact oneOf?_other texts fun kind word rest heq => hword ⟨kind, word, rest, heq⟩

theorem mark? (h : Only text tokens) {other : String} (hother : text ≠ other) :
    Parser.mark? other tokens = some (none, tokens) := by
  have hnone : Parser.oneOf? [other] tokens = some (none, tokens) := h.oneOf? (by simpa using hother)
  change (Parser.oneOf? [other] tokens).bind _ = _
  rw [hnone]
  rfl

theorem isNext (h : Only text tokens) {other : String} (hother : text ≠ other) :
    Parser.isNext other tokens = some (false, tokens) := by
  cases tokens with
  | nil => rfl
  | cons token rest =>
    cases token with
    | word kind word =>
      change some (isMark kind && word.text == other, Token.word kind word :: rest) = _
      cases hkind : isMark kind with
      | false => rfl
      | true =>
        rw [h kind word rest rfl hkind]
        simp [hother]
    | _ => rfl

end Only

theorem iterateFrom_none {p : α → Parser (Option α)} {a : α} {tokens : List Token}
    (h : p a tokens = some (none, tokens)) : iterateFrom p a tokens = some (a, tokens) := by
  change iterate p tokens.length a tokens = _
  cases tokens with
  | nil => rfl
  | cons token rest =>
    change (p a (token :: rest)).bind _ = _
    rw [h]
    rfl

theorem many_none {p : Parser (Option α)} {tokens : List Token}
    (h : p tokens = some (none, tokens)) : many p tokens = some ([], tokens) := by
  have hstep : (fun found : List α => do return (← p).map (· :: found) : List α → Parser _) []
      tokens = some (none, tokens) := by
    change (p tokens).bind _ = _
    rw [h]
    rfl
  change (iterateFrom _ [] tokens).bind _ = _
  rw [iterateFrom_none hstep]
  rfl

end Source.Parser

/-! ## Operands -/

section Levels

variable {rules : Rules} {tokens rest : List Token} {Q : Placed → Prop}

theorem reads_leftChain {ops : List String} {operand : Parser Placed} (hops : "]" ∉ ops)
    (hrest : Only "]" rest) (h : ReadsTo operand tokens Q rest) :
    ReadsTo (leftChain ops operand) tokens Q rest := by
  refine h.bind fun placed hplaced => .step (iterateFrom_none ?_) (.pure hplaced)
  change (Parser.oneOf? ops rest).bind _ = _
  rw [hrest.oneOf? hops]
  rfl

theorem reads_wordChain {op : Parser (Option (List Word))} {operand : Parser Placed}
    (hop : op rest = some (none, rest)) (h : ReadsTo operand tokens Q rest) :
    ReadsTo (wordChain op operand) tokens Q rest := by
  refine h.bind fun placed hplaced => .step (many_none ?_) (.pure hplaced)
  change (op rest).bind _ = _
  rw [hop]
  rfl

theorem singleWord_none {text : String} (hrest : Only "]" rest) (htext : "]" ≠ text) :
    singleWord text rest = some (none, rest) := by
  change (Parser.oneOf? [text] rest).bind _ = _
  rw [hrest.oneOf? (by simpa using htext)]
  rfl

theorem comparisonOp_none (hrest : Only "]" rest) : comparisonOp rest = some (none, rest) := by
  have hnot : (do
      let gap ← mark "not"
      let op ← mark "in"
      return some [⟨gap, "not"⟩, ⟨op, "in"⟩] : Parser (Option (List Word))) rest = none := by
    change ((Parser.mark? "not" rest).bind _).bind _ = _
    rw [hrest.mark? (by decide)]
    rfl
  change (Parser.oneOf? _ rest).bind _ = _
  rw [hrest.oneOf? (by decide)]
  change (Parser.oneOf? ["is"] rest).bind _ = _
  rw [hrest.oneOf? (by decide)]
  change (_ <|> some (none, rest)) = _
  rw [hnot]
  rfl

/-- An operand that no operator stands before or behind is a whole expression. -/
theorem reads_expression (htokens : Only importsBinding tokens) (hrest : Only "]" rest)
    (h : ReadsTo (primary rules) tokens Q rest) : ReadsTo (expression rules) tokens Q rest := by
  have hawaited : ReadsTo (awaited rules) tokens Q rest := .step (htokens.mark? (by decide)) h
  have hpower : ReadsTo (power rules) tokens Q rest :=
    hawaited.bind fun _ hplaced => .step (hrest.mark? (by decide)) (.pure hplaced)
  have hfactor : ReadsTo (factor rules) tokens Q rest := .step (htokens.oneOf? (by decide)) hpower
  have hbitOr : ReadsTo (bitOr rules) tokens Q rest :=
    reads_leftChain (by decide) hrest <| reads_leftChain (by decide) hrest <|
      reads_leftChain (by decide) hrest <| reads_leftChain (by decide) hrest <|
      reads_leftChain (by decide) hrest <| reads_leftChain (by decide) hrest hfactor
  have hinversion : ReadsTo (inversion rules) tokens Q rest :=
    .step (htokens.mark? (by decide)) (reads_wordChain (comparisonOp_none hrest) hbitOr)
  have hdisjunction : ReadsTo (disjunction rules) tokens Q rest :=
    reads_wordChain (singleWord_none hrest (by decide))
      (reads_wordChain (singleWord_none hrest (by decide)) hinversion)
  refine .step (htokens.isNext (by decide)) (hdisjunction.bind fun _ hplaced => ?_)
  exact .step (hrest.mark? (by decide)) (.pure hplaced)

end Levels

/-! ## Subscripts and members -/

theorem only_name (gap : Gap) (text : String) (rest : List Token) :
    Only text (.word .name ⟨gap, text⟩ :: rest) := by
  intro kind word tail heq _
  cases heq
  rfl

theorem only_operator (gap : Gap) (text : String) (rest : List Token) :
    Only text (.word .operator ⟨gap, text⟩ :: rest) := by
  intro kind word tail heq _
  cases heq
  rfl

theorem only_string (text : String) (word : Word) (rest : List Token) :
    Only text (.word .string word :: rest) := by
  intro kind found tail heq hmark
  cases heq
  cases hmark

theorem only_lineEnd (text : String) (tail : LineTail) (rest : List Token) :
    Only text (.lineEnd tail :: rest) := by
  intro kind word more heq
  cases heq

/-- What reads nothing but the table of imported modules. -/
def Source.Expr.ReadsTable (e : Expr) : Prop := e.ReadsOnly (· = importsBinding)

section

variable {rules : Rules} {tokens rest : List Token}

theorem trailer_none {e : Expr} (hrest : Only "]" rest) :
    trailer rules e rest = some (none, rest) := by
  change (Parser.oneOf? [".", "(", "["] rest).bind _ = _
  rw [hrest.oneOf? (by decide)]
  rfl

/-- A string that closes a subscript reads nothing. -/
theorem reads_string (word : Word) (gap : Gap) :
    ReadsTo (primary rules) (.word .string word :: .word .operator ⟨gap, "]"⟩ :: rest)
      (fun placed => placed.2.ReadsTable) (.word .operator ⟨gap, "]"⟩ :: rest) := by
  have hatom : atom rules (.word .string word :: .word .operator ⟨gap, "]"⟩ :: rest)
      = some ((word.gap, .string word.text), .word .operator ⟨gap, "]"⟩ :: rest) := rfl
  refine .step hatom (.step (iterateFrom_none (trailer_none (only_operator gap "]" rest))) ?_)
  exact .pure (Expr.ReadsOnly.of_parts nofun nofun nofun)

theorem reads_sliceItem {level : Nat} (word : Word) (gap : Gap) :
    ReadsTo (sliceItem (staged (level + 1)))
      (.word .string word :: .word .operator ⟨gap, "]"⟩ :: rest)
      (fun found => ∀ e ∈ found.2.exprs, e.ReadsTable) (.word .operator ⟨gap, "]"⟩ :: rest) := by
  have hfirst := only_string importsBinding word (.word .operator ⟨gap, "]"⟩ :: rest)
  have hlast := only_operator gap "]" rest
  have hstring : ReadsTo (primary (staged level))
      (.word .string word :: .word .operator ⟨gap, "]"⟩ :: rest)
      (fun placed => placed.2.ReadsTable) (.word .operator ⟨gap, "]"⟩ :: rest) :=
    reads_string word gap
  have hexpression := reads_expression hfirst hlast hstring
  have hnamed : ReadsTo (named (staged (level + 1)))
      (.word .string word :: .word .operator ⟨gap, "]"⟩ :: rest)
      (fun placed => placed.2.ReadsTable) (.word .operator ⟨gap, "]"⟩ :: rest) :=
    .second (bind_eq_none rfl) hexpression
  have hmember : ReadsTo (starOrNamed (staged (level + 1)))
      (.word .string word :: .word .operator ⟨gap, "]"⟩ :: rest)
      (fun found => ∃ e, found.2 = .value e ∧ e.ReadsTable)
      (.word .operator ⟨gap, "]"⟩ :: rest) :=
    .step (hfirst.mark? (by decide)) (hnamed.bind fun placed hplaced => .pure ⟨placed.2, rfl, hplaced⟩)
  refine .step (hfirst.mark? (by decide)) (hmember.bind fun found hfound => ?_)
  obtain ⟨before, item⟩ := found
  obtain ⟨e, rfl, he⟩ := hfound
  exact .step (hlast.oneOf? (by decide)) (.pure (List.forall_mem_singleton.2 he))

theorem reads_indices {level : Nat} (word : Word) (gap : Gap) :
    ReadsTo (bracketed (sliceItem (staged (level + 1))) "]")
      (.word .string word :: .word .operator ⟨gap, "]"⟩ :: rest)
      (fun found => ∀ e ∈ Entry.exprs found.1, e.ReadsTable) rest := by
  have hfirst := only_string importsBinding word (.word .operator ⟨gap, "]"⟩ :: rest)
  have hlast := only_operator gap "]" rest
  have hclose : mark "]" (.word .operator ⟨gap, "]"⟩ :: rest) = some (gap, rest) := rfl
  refine .step rfl (.step (hfirst.mark? (by decide)) ?_)
  refine (reads_sliceItem word gap).bind fun found hfound => ?_
  refine .step (hlast.mark? (by decide)) (.step hclose (.pure ?_))
  simpa [Entry.exprs, Entry.item] using hfound

theorem reads_subscript {level : Nat} {e : Expr} (he : e.ReadsTable) (word : Word) (gap gap' : Gap) :
    ReadsTo (trailer (staged (level + 1)) e)
      (.word .operator ⟨gap, "["⟩ :: .word .string word :: .word .operator ⟨gap', "]"⟩ :: rest)
      (fun next => ∃ e', next = some e' ∧ e'.ReadsTable) rest := by
  have hopen : Parser.oneOf? [".", "(", "["]
      (.word .operator ⟨gap, "["⟩ :: .word .string word :: .word .operator ⟨gap', "]"⟩ :: rest)
      = some (some ⟨gap, "["⟩, .word .string word :: .word .operator ⟨gap', "]"⟩ :: rest) := rfl
  have hfirst := only_string importsBinding word (.word .operator ⟨gap', "]"⟩ :: rest)
  refine .step hopen (.step (hfirst.isNext (by decide)) ?_)
  refine (reads_indices word gap').bind fun found hfound => .pure ⟨_, rfl, ?_⟩
  exact Expr.ReadsOnly.of_parts nofun nofun (List.forall_mem_cons.2 ⟨he, hfound⟩)

theorem reads_member {e : Expr} (he : e.ReadsTable) (gap gap' : Gap) (text : String) :
    ReadsTo (trailer rules e) (.word .operator ⟨gap, "."⟩ :: .word .name ⟨gap', text⟩ :: rest)
      (fun next => ∃ e', next = some e' ∧ e'.ReadsTable) rest := by
  have hopen : Parser.oneOf? [".", "(", "["]
      (.word .operator ⟨gap, "."⟩ :: .word .name ⟨gap', text⟩ :: rest)
      = some (some ⟨gap, "."⟩, .word .name ⟨gap', text⟩ :: rest) := rfl
  have hname : ReadsTo name (.word .name ⟨gap', text⟩ :: rest) (fun _ => True) rest := by
    refine .step rfl ?_
    split
    · exact fun a left h => nomatch h
    · exact .pure trivial
  refine .step hopen (hname.bind fun attr _ => .pure ⟨_, rfl, ?_⟩)
  exact Expr.ReadsOnly.of_parts nofun nofun (List.forall_mem_singleton.2 he)

theorem reads_members {pieces : List String} {fuel : Nat} (hfuel : pieces.length ≤ fuel) {e : Expr}
    (he : e.ReadsTable) (hrest : Only "]" rest) :
    ReadsTo (iterate (trailer rules) fuel e) (memberTokens pieces ++ rest) Expr.ReadsTable rest := by
  induction pieces generalizing fuel e with
  | nil =>
    cases fuel with
    | zero => exact .pure he
    | succ fuel => exact .step (trailer_none hrest) (.pure he)
  | cons piece pieces ih =>
    obtain ⟨fuel, rfl⟩ : ∃ n, fuel = n + 1 := ⟨fuel - 1, by simp at hfuel; omega⟩
    refine (reads_member he [] [] piece).bind fun next hnext => ?_
    obtain ⟨e', rfl, he'⟩ := hnext
    exact ih (by simpa using hfuel) he'

theorem reads_reference {level : Nat} (origin : String) (pieces : List String)
    (hrest : Only "]" rest) :
    ReadsTo (primary (staged (level + 1))) (referenceTokens origin pieces ++ rest)
      (fun placed => placed.2.ReadsTable) rest := by
  have hatom : atom (staged (level + 1)) (referenceTokens origin pieces ++ rest)
      = some (([], .name importsBinding), (referenceTokens origin pieces ++ rest).tail) := rfl
  have htable : (Expr.name importsBinding).ReadsTable := Expr.ReadsOnly.ofName rfl
  refine .step hatom ?_
  have hmembers : ReadsTo (iterateFrom (trailer (staged (level + 1))) (.name importsBinding))
      (referenceTokens origin pieces ++ rest).tail Expr.ReadsTable rest := by
    intro e left h
    have hrun : iterate (trailer (staged (level + 1)))
        (((memberTokens pieces ++ rest).length + 2) + 1) (.name importsBinding)
        (referenceTokens origin pieces ++ rest).tail = some (e, left) := h
    refine (reads_subscript htable _ _ _).bind (fun next hnext => ?_) e left hrun
    obtain ⟨e', rfl, he'⟩ := hnext
    refine reads_members ?_ he' hrest
    simp [memberTokens]
    omega
  exact hmembers.bind fun e he => .pure he

end

/-! ## Whole references -/

theorem reads_starExpressions {level : Nat} {tokens rest : List Token} {Q : Expr → Prop}
    (htokens : Only importsBinding tokens) (hrest : Only "]" rest)
    (h : ReadsTo (primary (staged level)) tokens (fun placed => Q placed.2) rest) :
    ReadsTo (starExpressions (staged (level + 1))) tokens (fun placed => Q placed.2) rest := by
  have hmember : ReadsTo (starOrExpression (staged (level + 1))) tokens
      (fun found => ∃ e, found.2 = .value e ∧ Q e) rest := by
    refine .step (htokens.mark? (by decide)) ?_
    exact (reads_expression htokens hrest h).bind fun placed hplaced => .pure ⟨placed.2, rfl, hplaced⟩
  refine hmember.bind fun found hfound => ?_
  obtain ⟨gap, item⟩ := found
  obtain ⟨e, rfl, he⟩ := hfound
  exact .step (hrest.isNext (by decide)) (.pure he)

theorem readsTable_of_parse {origin : String} {pieces : List String}
    (hpieces : ∀ piece ∈ pieces, Text.isIdentifier piece.toList = true) {e : Expr}
    (h : Expr.parse (String.ofList (referenceChars origin pieces)) = .ok e) : e.ReadsTable := by
  obtain ⟨tokens, htokens, hrun⟩ := parseAll_tokens h
  rw [String.toList_ofList, tokenize?_reference hpieces] at htokens
  obtain rfl := Option.some.inj htokens
  obtain ⟨above, inside, tail, footer, htokens, hline⟩ := soleLine_tokens hrun
  obtain ⟨-, rfl⟩ := List.cons.inj htokens
  obtain ⟨⟨placed, left⟩, hread, hplaced⟩ := Option.bind_eq_some_iff.1 hline
  cases hplaced
  have hrest : Only "]" [.lineEnd ⟨"", none, none⟩, .finish []] := only_lineEnd "]" _ _
  have hfirst : Only importsBinding (referenceTokens origin pieces
      ++ [.lineEnd ⟨"", none, none⟩, .finish []]) := only_name [] importsBinding _
  exact (reads_starExpressions hfirst hrest (reads_reference origin pieces hrest) _ _ hread).1

theorem toList_joinDots {pieces : List String} (hne : pieces ≠ []) :
    '.' :: (joinDots pieces).toList = memberText pieces := by
  induction pieces with
  | nil => exact absurd rfl hne
  | cons piece rest ih =>
    cases rest with
    | nil => simp [joinDots, memberText]
    | cons next rest =>
      have hrest := ih (List.cons_ne_nil next rest)
      simp only [memberText, List.flatMap_cons, joinDots_cons, String.toList_append] at hrest ⊢
      rw [← hrest]
      simp

/-- The reference to a type with a dotted name reads the table of imported modules. -/
theorem readsTable_of_referenceText {t : NamedType} (hname : IsDottedName t.name) {e : Expr}
    (h : readExpr (t.referenceText true) = .ok e) : e.ReadsTable := by
  obtain ⟨pieces, hne, hpieces, hjoin⟩ := hname
  have htext : t.referenceText true = String.ofList (referenceChars t.origin pieces) := by
    have hchars : (t.referenceText true).toList = referenceChars t.origin pieces := by
      simp [NamedType.referenceText, referenceChars, hjoin, ← toList_joinDots hne]
    rw [← hchars, String.ofList_toList]
  unfold readExpr at h
  rw [htext] at h
  cases hparse : Expr.parse (String.ofList (referenceChars t.origin pieces)) with
  | error fault =>
    rw [hparse] at h
    cases h
  | ok found =>
    rw [hparse] at h
    obtain rfl := Except.ok.inj h
    exact readsTable_of_parse hpieces hparse

/-- Whatever is read from the text of a reference in the collected module begins with the table. -/
theorem begins_of_referenceText {t : NamedType} {e : Expr} (h : readExpr (t.referenceText true) = .ok e) :
    ∃ gap kind? rest, e.pieces gap = (kind?, ⟨[], importsBinding⟩) :: rest := by
  obtain ⟨after, htext⟩ : ∃ after,
      (t.referenceText true).toList = importsBinding.toList ++ '[' :: after := by
    simp [NamedType.referenceText]
  have hflush : Flush (importsBinding.toList ++ '[' :: after) := flush_of_isIdentifier (by decide) _
  have hword : scanWord {} (importsBinding.toList ++ '[' :: after)
      = some (.name, importsBinding, {}, '[' :: after) :=
    scanWord_name (by decide) (by simp [isNameChar])
  unfold readExpr at h
  cases hparse : Expr.parse (t.referenceText true) with
  | error fault =>
    rw [hparse] at h
    cases h
  | ok found =>
    rw [hparse] at h
    obtain rfl := Except.ok.inj h
    obtain ⟨above, gap, taken, tail, footer, htokens, hspells⟩ := Expr.parse_spells hparse
    rw [htext] at htokens
    obtain ⟨more, hmore⟩ := tokenize?_begins hflush hword htokens
    obtain ⟨-, hmore⟩ := List.cons.inj hmore
    cases taken with
    | nil => cases hmore
    | cons token rest =>
      obtain ⟨rfl, -⟩ := List.cons.inj hmore
      refine ⟨gap, ?_⟩
      generalize found.pieces gap = pieces at hspells ⊢
      cases hspells with
      | cons hfits _ => cases hfits <;> exact ⟨_, _, rfl⟩

end ModelMetadata
