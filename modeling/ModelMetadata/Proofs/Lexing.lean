import Mathlib
import ModelMetadata.Proofs.Dotting
import ModelMetadata.Source.Lexer
import ModelMetadata.Text.Quoted

/-!
Words without gaps. A text that is written as identifiers, dots, square brackets and texts in double
quotes, one right behind the other, is read back as the words it was written with.
-/
set_option autoImplicit false
namespace ModelMetadata.Source

/-! ## Words of a line -/

/-- A text that begins with a word. -/
structure Flush (text : List Char) : Prop where
  blank : spanBlank text = ([], text)
  comment : spanComment text = (none, text)
  lineEnd : splitLineEnd text = none
  ne_nil : text ≠ []

theorem Flush.cons {c : Char} (h : c ∉ ['\\', '#', ' ', '\t', '\x0c', '\n', '\r'])
    (rest : List Char) : Flush (c :: rest) := by
  simp only [List.mem_cons, List.not_mem_nil, or_false, not_or] at h
  obtain ⟨hslash, hhash, hspace, htab, hfeed, hline, hreturn⟩ := h
  refine ⟨?_, ?_, ?_, List.cons_ne_nil c rest⟩
  · unfold spanBlank
    split
    · rename_i heq
      exact absurd (List.cons.inj heq).1 hslash
    · rename_i heq
      exact absurd (List.cons.inj heq).1 hslash
    · rename_i heq
      cases heq
      simp [isBlankChar, hspace, htab, hfeed]
    · contradiction
  · unfold spanComment
    split
    · rename_i heq
      exact absurd (List.cons.inj heq).1 hhash
    · rfl
  · unfold splitLineEnd
    split <;> simp_all

variable {usual : String} {block : List Char} {fuel : Nat} {state next : LineState}
  {text rest after : List Char} {kind : WordKind} {found : String} {tokens : List Token}
  {tail : LineTail}

/-- A word at the head of a line, and what is read behind it. -/
theorem scanLine_word (first : Bool) (hflush : Flush text) (hformatted : state.formatted = [])
    (hword : scanWord state text = some (kind, found, next, rest))
    (hmore : scanLine usual block fuel next false rest = some (tokens, tail, after)) :
    scanLine usual block (fuel + 1) state first text
      = some (.word kind ⟨[], found⟩ :: tokens, tail, after) := by
  have hgap (bracketed : Bool) : gapOfText usual block bracketed [] = [] := by
    cases bracketed <;> rfl
  have hbracketed : spanBracketed text.length text = ([], text) := by
    obtain ⟨c, more, rfl⟩ := List.exists_cons_of_ne_nil hflush.ne_nil
    simp [spanBracketed, hflush.blank, hflush.comment, hflush.lineEnd]
  have hempty : text.isEmpty = false := by simpa using hflush.ne_nil
  unfold scanLine
  simp only [hformatted, List.head?_nil, Option.filter_none, hflush.blank, hflush.comment,
    hflush.lineEnd, hbracketed, hempty, hgap, hword, Bool.false_and, Bool.false_eq_true, if_false]
  cases state.brackets.isEmpty <;> cases first <;> simp [hmore]

theorem scanLine_nil (first : Bool) (hformatted : state.formatted = [])
    (hbrackets : state.brackets = []) :
    scanLine usual block (fuel + 1) state first [] = some ([], ⟨"", none, none⟩, []) := by
  simp [scanLine, hformatted, hbrackets, spanBlank, spanComment, endsContinued]

/-! ## Identifiers -/

def isNameChar (c : Char) : Bool := c.isAlphanum || c == '_' || 128 ≤ c.toNat

theorem isNameStart_of_isIdentifierStart {c : Char} (h : Text.isIdentifierStart c = true) :
    (c.isAlpha || c == '_' || decide (128 ≤ c.toNat)) = true := by
  unfold Text.isIdentifierStart at h
  split at h
  · simp only [h, Bool.true_or]
  · rename_i hlarge
    simp only [Nat.le_of_not_lt hlarge, decide_true, Bool.or_true]

theorem isNameChar_of_isIdentifierPart {c : Char} (h : Text.isIdentifierPart c = true) :
    isNameChar c = true := by
  unfold Text.isIdentifierPart Text.isIdentifierStart at h
  unfold isNameChar
  split at h
  · simp only [Bool.or_eq_true] at h
    obtain (h | h) | h := h <;> simp [Char.isAlphanum, h]
  · rename_i hlarge
    simp only [Nat.le_of_not_lt hlarge, decide_true, Bool.or_true]

theorem not_isDigit_of_isIdentifierStart {c : Char} (h : Text.isIdentifierStart c = true) :
    c.isDigit = false := by
  by_contra hdigit
  simp only [Bool.not_eq_false, Char.isDigit, Bool.and_eq_true, decide_eq_true_eq, ge_iff_le,
    UInt32.le_iff_toNat_le] at hdigit
  have hrange : 48 ≤ c.toNat ∧ c.toNat ≤ 57 := hdigit
  unfold Text.isIdentifierStart at h
  rw [if_pos (by omega)] at h
  simp only [Char.isAlpha, Char.isUpper, Char.isLower, Bool.or_eq_true, Bool.and_eq_true,
    decide_eq_true_eq, beq_iff_eq, ge_iff_le, UInt32.le_iff_toNat_le] at h
  obtain (⟨hlow, -⟩ | ⟨hlow, -⟩) | rfl := h
  · have hlow : 65 ≤ c.toNat := hlow
    omega
  · have hlow : 97 ≤ c.toNat := hlow
    omega
  · exact absurd hrange.2 (by decide)

theorem flush_of_isIdentifier {name : List Char} (h : Text.isIdentifier name = true)
    (rest : List Char) : Flush (name ++ rest) := by
  obtain ⟨c, name, rfl⟩ := List.exists_cons_of_ne_nil (Text.ne_nil_of_isIdentifier h)
  refine .cons (fun hmem => ?_) (name ++ rest)
  have hpart := Text.isIdentifierPart_of_mem h List.mem_cons_self
  have hall : ['\\', '#', ' ', '\t', '\x0c', '\n', '\r'].all (fun c => !Text.isIdentifierPart c) = true := by
    decide
  have hother := List.all_eq_true.1 hall c hmem
  rw [hpart] at hother
  cases hother

theorem span_name {name rest : List Char} (hname : ∀ c ∈ name, isNameChar c = true)
    (hrest : ∀ c ∈ rest.head?, isNameChar c = false) :
    (name ++ rest).span isNameChar = (name, rest) := by
  rw [List.span_eq_takeWhile_dropWhile, List.takeWhile_append_of_pos hname,
    List.dropWhile_append_of_pos hname]
  cases rest with
  | nil => simp
  | cons c rest => simp [hrest c (by simp)]

/-- An identifier that no character of a name and no quote follows. -/
theorem scanWord_name {name : String} {rest : List Char}
    (h : Text.isIdentifier name.toList = true)
    (hrest : ∀ c ∈ rest.head?, isNameChar c = false ∧ c ≠ '"' ∧ c ≠ '\'') :
    scanWord state (name.toList ++ rest) = some (.name, name, state, rest) := by
  have hname (c : Char) (hc : c ∈ name.toList) : isNameChar c = true :=
    isNameChar_of_isIdentifierPart (Text.isIdentifierPart_of_mem h hc)
  have hspan : (name.toList ++ rest).span
      (fun c => c.isAlphanum || c == '_' || decide (128 ≤ c.toNat)) = (name.toList, rest) :=
    span_name hname fun c hc => (hrest c hc).1
  have hquote : splitQuote rest = none := by
    unfold splitQuote
    split <;> simp_all
  obtain ⟨c, more, hchars⟩ := List.exists_cons_of_ne_nil (Text.ne_nil_of_isIdentifier h)
  have htext : String.ofList (c :: more) = name := by rw [← hchars, String.ofList_toList]
  rw [hchars] at h hspan ⊢
  have hstart := isNameStart_of_isIdentifierStart (Bool.and_eq_true_iff.1 h).1
  unfold scanWord
  simp only [List.cons_append] at hspan ⊢
  simp only [hstart, if_true, hspan, hquote, Option.filter_none, h, htext]
  rfl

/-! ## Marks -/

theorem scanOperator_short {c : Char} {rest : List Char}
    (hlong : ∀ op ∈ longOperators, dropLead? op.toList (c :: rest) = none)
    (hshort : shortOperators.contains c = true) :
    scanOperator (c :: rest) = some (String.singleton c, rest) := by
  have hnone : longOperators.find? (fun op => (dropLead? op.toList (c :: rest)).isSome) = none :=
    List.find?_eq_none.2 fun op hop => by simp [hlong op hop]
  simp only [scanOperator, hnone, hshort, if_true]

theorem dropLead?_eq_none {lead : List Char} {c : Char} (rest : List Char) (hne : lead ≠ [])
    (h : lead.head? ≠ some c) : dropLead? lead (c :: rest) = none := by
  obtain ⟨d, more, rfl⟩ := List.exists_cons_of_ne_nil hne
  exact if_neg fun heq => h (congrArg some heq)

/-- A short operator that begins nothing else. -/
theorem scanWord_operator {c : Char} {rest : List Char}
    (hname : (c.isAlpha || c == '_' || decide (128 ≤ c.toNat)) = false)
    (hnumber : (c.isDigit || (c == '.' && (rest.head?.map Char.isDigit).getD false)) = false)
    (hquote : splitQuote (c :: rest) = none) (hcolon : c ≠ ':')
    (hoperator : scanOperator (c :: rest) = some (String.singleton c, rest)) :
    scanWord state (c :: rest) = (do
      match closerOf c with
      | some closer => return (.operator, String.singleton c, state.openBracket closer, rest)
      | none =>
        if isCloser c then
          let state ← state.closeBracket c
          return (.operator, String.singleton c, state, rest)
        else if c == '!' && state.formatted.isEmpty then none
        else return (.operator, String.singleton c, state, rest)) := by
  have hformat : state.formatColon? (c :: rest) = none := by
    unfold LineState.formatColon?
    split
    · rename_i heq
      exact absurd (List.cons.inj heq).1 hcolon
    · rfl
  unfold scanWord
  cases hcloser : closerOf c <;>
    simp only [hname, hnumber, Bool.false_eq_true, if_false, hquote, hformat, hoperator, hcloser,
      Option.bind_eq_bind, Option.bind_some, String.toList_singleton]

theorem scanWord_dot {c : Char} (hc : Text.isIdentifierStart c = true) (rest : List Char) :
    scanWord state ('.' :: c :: rest) = some (.operator, ".", state, c :: rest) := by
  have hne : c ≠ '.' := by
    rintro rfl
    exact absurd hc (by decide)
  have hlong : ∀ op ∈ longOperators, dropLead? op.toList ('.' :: c :: rest) = none := by
    simp [longOperators, dropLead?, Ne.symm hne]
  refine (scanWord_operator (by decide) ?_ (by simp [splitQuote]) (by decide)
    (scanOperator_short hlong (by decide))).trans rfl
  simp [not_isDigit_of_isIdentifierStart hc]

/-- A bracket begins no longer operator. -/
theorem scanOperator_bracket {c : Char} (hc : c ∈ ['(', ')', '[', ']']) (rest : List Char) :
    scanOperator (c :: rest) = some (String.singleton c, rest) := by
  have hlong : ∀ op ∈ longOperators, op.toList ≠ []
      ∧ op.toList.head? ∉ ['(', ')', '[', ']'].map some := by decide
  have hshort : shortOperators.contains c = true := by
    simp only [List.mem_cons, List.not_mem_nil, or_false] at hc
    rcases hc with rfl | rfl | rfl | rfl <;> decide
  refine scanOperator_short (fun op hop => ?_) hshort
  refine dropLead?_eq_none rest (hlong op hop).1 fun hhead => (hlong op hop).2 ?_
  rw [hhead]
  exact List.mem_map_of_mem hc

theorem scanWord_open {c closer : Char} (hc : c = '(' ∨ c = '[') (hcloser : closerOf c = some closer)
    (rest : List Char) (hformatted : state.formatted = []) :
    scanWord state (c :: rest)
      = some (.operator, String.singleton c, { brackets := closer :: state.brackets }, rest) := by
  obtain rfl | rfl := hc
  all_goals
    refine (scanWord_operator (by decide) (by simp) (by simp [splitQuote]) (by decide)
      (scanOperator_bracket (by decide) rest)).trans ?_
    simp only [hcloser, LineState.openBracket, hformatted]
    rfl

theorem scanWord_close {c : Char} (hc : c = ')' ∨ c = ']') (rest : List Char)
    {brackets : List Char} :
    scanWord { brackets := c :: brackets } (c :: rest)
      = some (.operator, String.singleton c, { brackets }, rest) := by
  obtain rfl | rfl := hc
  all_goals
    refine (scanWord_operator (by decide) (by simp) (by simp [splitQuote]) (by decide)
      (scanOperator_bracket (by decide) rest)).trans ?_
    simp only [closerOf, isCloser, LineState.closeBracket]
    rfl

/-! ## Texts in double quotes -/

def isPlain (c : Char) : Bool := c != '"' && c != '\\' && c != '\x00' && !isLineEndChar c

def IsPlainText (text : String) : Prop := ∀ c ∈ text.toList, isPlain c = true

instance (text : String) : Decidable (IsPlainText text) := List.decidableBAll _ text.toList

/-- What a character is written as: a backslash with a mark and perhaps digits, or itself. -/
theorem escapeChar_eq (c : Char) :
    (∃ d digits, Text.escapeChar c = '\\' :: d :: digits ∧ 32 ≤ d.toNat
        ∧ ∀ digit ∈ digits, isPlain digit = true)
      ∨ (Text.escapeChar c = [c] ∧ isPlain c = true) := by
  have hmark {d : Char} (hd : 32 ≤ d.toNat) :
      ∃ d' digits, ['\\', d] = '\\' :: d' :: digits ∧ 32 ≤ d'.toNat
        ∧ ∀ digit ∈ digits, isPlain digit = true := ⟨d, [], rfl, hd, by simp⟩
  unfold Text.escapeChar
  split
  · exact .inl (hmark (by decide))
  rename_i hquote
  split
  · exact .inl (hmark (by decide))
  rename_i hslash
  split
  · exact .inl (hmark (by decide))
  rename_i hline
  split
  · exact .inl (hmark (by decide))
  rename_i hreturn
  split
  · exact .inl (hmark (by decide))
  split
  · exact .inl (hmark (by decide))
  split
  · exact .inl (hmark (by decide))
  split
  · have hdigit : ∀ d < 16, isPlain (Text.hexDigit d) = true := by decide
    refine .inl ⟨'u', _, rfl, by decide, fun d hd => ?_⟩
    obtain ⟨i, -, rfl⟩ := List.mem_map.1 hd
    exact hdigit _ (Nat.mod_lt _ (by decide))
  · rename_i hcontrol
    have hnul : c ≠ '\x00' := by
      rintro rfl
      exact hcontrol (by decide)
    exact .inr ⟨rfl, by simp_all [isPlain, isLineEndChar]⟩

theorem scanString_mono {quote body : List Char} {fuel fuel' : Nat}
    (h : scanString quote fuel text = some (body, rest)) (hle : fuel ≤ fuel') :
    scanString quote fuel' text = some (body, rest) := by
  induction fuel generalizing fuel' text body rest with
  | zero => cases h
  | succ fuel ih =>
    obtain ⟨fuel', rfl⟩ := Nat.exists_eq_add_of_le' (Nat.le_trans (Nat.le_add_left 1 fuel) hle)
    have hmore {more : List Char} {f : List Char × List Char → List Char × List Char}
        (h : (scanString quote fuel more).map f = some (body, rest)) :
        (scanString quote fuel' more).map f = some (body, rest) := by
      obtain ⟨found, hfound, heq⟩ := Option.map_eq_some_iff.1 h
      rw [ih hfound (by omega), Option.map_some, heq]
    unfold scanString at h ⊢
    cases hquote : dropLead? quote text with
    | some after =>
      rw [hquote] at h
      exact h
    | none =>
      rw [hquote] at h
      dsimp only at h ⊢
      split at h
      · exact hmore h
      · exact hmore h
      · split at h
        · cases h
        · rename_i hopen
          rw [if_neg hopen]
          exact hmore h
      · cases h

section

variable {body : List Char} (h : scanString ['"'] fuel text = some (body, rest))
include h

theorem scanString_plain {c : Char} (hc : isPlain c = true) :
    scanString ['"'] (fuel + 1) (c :: text) = some (c :: body, rest) := by
  simp only [isPlain, Bool.and_eq_true, bne_iff_ne, Bool.not_eq_true'] at hc
  obtain ⟨⟨⟨hquote, hslash⟩, -⟩, hend⟩ := hc
  unfold scanString
  rw [dropLead?_eq_none text (by simp) (by simpa using Ne.symm hquote)]
  dsimp only
  split
  · rename_i heq
    exact absurd (List.cons.inj heq).1 hslash
  · rename_i heq
    exact absurd (List.cons.inj heq).1 hslash
  · rename_i heq
    cases heq
    simp [hend, h]
  · contradiction

theorem scanString_plains {chars : List Char} (hchars : ∀ c ∈ chars, isPlain c = true) :
    scanString ['"'] (fuel + chars.length) (chars ++ text) = some (chars ++ body, rest) := by
  induction chars with
  | nil => exact h
  | cons c chars ih =>
    obtain ⟨hc, hchars⟩ := List.forall_mem_cons.1 hchars
    exact scanString_plain (ih hchars) hc

theorem scanString_escape {c : Char} (hc : c ≠ '\r') :
    scanString ['"'] (fuel + 1) ('\\' :: c :: text) = some ('\\' :: c :: body, rest) := by
  unfold scanString
  rw [dropLead?_eq_none (c :: text) (by simp) (by simp)]
  dsimp only
  split
  · rename_i heq
    exact absurd (List.cons.inj (List.cons.inj heq).2).1 hc
  · rename_i heq
    cases heq
    rw [h, Option.map_some]
  · rename_i hno heq
    cases heq
    exact (hno c text rfl rfl).elim
  · contradiction

/-- The written form of a character is read as a whole. -/
theorem scanString_escapeChar (c : Char) :
    scanString ['"'] (fuel + (Text.escapeChar c).length) (Text.escapeChar c ++ text)
      = some (Text.escapeChar c ++ body, rest) := by
  obtain ⟨d, digits, heq, hd, hdigits⟩ | ⟨heq, hplain⟩ := escapeChar_eq c
  · have hreturn : d ≠ '\r' := by
      rintro rfl
      exact absurd hd (by decide)
    rw [heq]
    exact scanString_mono (scanString_escape (scanString_plains h hdigits) hreturn)
      (by simp only [List.length_cons]; omega)
  · rw [heq]
    exact scanString_plain h hplain

end

theorem scanString_quoted (quoted rest : List Char) :
    scanString ['"'] ((quoted.flatMap Text.escapeChar).length + 1)
        (quoted.flatMap Text.escapeChar ++ '"' :: rest)
      = some (quoted.flatMap Text.escapeChar ++ ['"'], rest) := by
  induction quoted with
  | nil => simp [scanString, dropLead?]
  | cons c quoted ih =>
    have hmore := scanString_escapeChar ih c
    simp only [List.flatMap_cons, List.append_assoc] at hmore ⊢
    exact scanString_mono hmore (by simp; omega)

theorem splitQuote_single {d : Char} {more : List Char} (h : d ≠ '"' ∨ more.head? ≠ some '"') :
    splitQuote ('"' :: d :: more) = some (['"'], d :: more) := by
  unfold splitQuote
  split
  · rename_i heq
    cases heq
    simp at h
  · rename_i heq
    cases heq
  · rename_i heq
    cases heq
    rfl
  · rename_i heq
    cases heq
  · rename_i hno _
    exact (hno _ rfl).elim

theorem toList_quote (quoted : String) (rest : List Char) :
    (Text.quote quoted).toList ++ rest
      = '"' :: (quoted.toList.flatMap Text.escapeChar ++ '"' :: rest) := by
  simp [Text.quote]

theorem flush_quote (quoted : String) (rest : List Char) :
    Flush ((Text.quote quoted).toList ++ rest) := by
  rw [toList_quote]
  exact .cons (by decide) _

/-- A text in double quotes, up to where its characters end. -/
theorem scanWord_string {body : List Char} (hquote : splitQuote ('"' :: text) = some (['"'], text))
    (hscan : scanString ['"'] (text.length + 1) text = some (body, rest)) :
    scanWord state ('"' :: text) = some (.string, String.ofList ('"' :: body), state, rest) := by
  unfold scanWord
  simp only [show ('"'.isAlpha || '"' == '_' || decide (128 ≤ '"'.toNat)) = false from by decide,
    Bool.false_eq_true, if_false, show '"'.isDigit = false from by decide,
    show ('"' == '.') = false from by decide, Bool.false_and, Bool.or_false, hquote, hscan]
  simp

/-- The opening quote of a written text is a single one. -/
theorem splitQuote_flatMap_escapeChar (quoted : List Char) {rest : List Char}
    (hrest : rest.head? ≠ some '"') :
    splitQuote ('"' :: (quoted.flatMap Text.escapeChar ++ '"' :: rest))
      = some (['"'], quoted.flatMap Text.escapeChar ++ '"' :: rest) := by
  cases quoted with
  | nil => exact splitQuote_single (.inr hrest)
  | cons c quoted =>
    rw [List.flatMap_cons]
    rcases escapeChar_eq c with ⟨d, digits, heq, -, -⟩ | ⟨heq, hplain⟩
    · rw [heq]
      exact splitQuote_single (.inl (by decide))
    · rw [heq]
      exact splitQuote_single (.inl fun hquote => by simp [isPlain, hquote] at hplain)

/-- The written form of a text, which no quote follows. -/
theorem scanWord_quote (quoted : String) {rest : List Char} (hrest : rest.head? ≠ some '"') :
    scanWord state ((Text.quote quoted).toList ++ rest)
      = some (.string, Text.quote quoted, state, rest) := by
  have hquote := splitQuote_flatMap_escapeChar quoted.toList hrest
  have hscan := scanString_mono (scanString_quoted quoted.toList rest)
    (show _ ≤ (quoted.toList.flatMap Text.escapeChar ++ '"' :: rest).length + 1 by simp)
  rw [toList_quote, scanWord_string hquote hscan]
  simp [Text.quote]

theorem splitQuote_plain {chars rest : List Char} (hplain : ∀ c ∈ chars, isPlain c = true)
    (hrest : rest.head? ≠ some '"') :
    splitQuote ('"' :: (chars ++ '"' :: rest)) = some (['"'], chars ++ '"' :: rest) := by
  cases chars with
  | nil => exact splitQuote_single (.inr hrest)
  | cons c chars =>
    have hc := hplain c List.mem_cons_self
    exact splitQuote_single (.inl fun heq => by simp [isPlain, heq] at hc)

/-- A text of plain characters between quotes, which no quote follows. -/
theorem scanWord_plain {name : String} (hplain : IsPlainText name)
    {rest : List Char} (hrest : rest.head? ≠ some '"') :
    scanWord state ('"' :: (name.toList ++ '"' :: rest))
      = some (.string, "\"" ++ name ++ "\"", state, rest) := by
  have hquote := splitQuote_plain hplain hrest
  have hclosed : scanString ['"'] 1 ('"' :: rest) = some (['"'], rest) := by
    simp [scanString, dropLead?]
  have hscan := scanString_mono (scanString_plains hclosed hplain)
    (show 1 + name.toList.length ≤ (name.toList ++ '"' :: rest).length + 1 by simp; omega)
  rw [scanWord_string hquote hscan]
  simp only [Option.some.injEq, Prod.mk.injEq, true_and, and_true]
  apply String.toList_inj.1
  simp

/-! ## Texts of one line -/

/-- The tokens of a text that is one line. -/
theorem tokenize?_line (hflush : Flush text)
    (hline : scanLine (firstLineEnd text) [] (text.length + 1) {} true text
      = some (tokens, tail, [])) :
    tokenize? text = some (.lineStart [] :: (tokens ++ [.lineEnd tail, .finish []])) := by
  have hempty : text.isEmpty = false := by simpa using hflush.ne_nil
  have hopening : enterLine [] [] [] = some ([.lineStart []], []) := rfl
  obtain ⟨fuel, hfuel⟩ := Nat.exists_eq_add_of_lt (List.length_pos_iff.2 hflush.ne_nil)
  have hend : scanLines (firstLineEnd text) text.length [] [] [] = some [.finish []] := by
    rw [hfuel]
    rfl
  unfold tokenize? scanLines
  simp only [hflush.blank, hflush.comment, hflush.lineEnd, hempty, Bool.false_and,
    Bool.false_eq_true, if_false, hopening, Option.bind_eq_bind, Option.bind_some]
  change (scanLine _ [] _ _ _ _).bind _ = _
  rw [hline]
  simp [hend]

/-- What is read of a line that begins with a word begins with it. -/
theorem scanLine_begins (first : Bool) (hflush : Flush text) (hformatted : state.formatted = [])
    (hbrackets : state.brackets = []) (hword : scanWord state text = some (kind, found, next, rest))
    (h : scanLine usual block (fuel + 1) state first text = some (tokens, tail, after)) :
    ∃ more, tokens = .word kind ⟨[], found⟩ :: more := by
  have hempty : text.isEmpty = false := by simpa using hflush.ne_nil
  have hgap : gapOfText usual block false [] = [] := rfl
  unfold scanLine at h
  simp only [hformatted, hbrackets, List.head?_nil, Option.filter_none, List.isEmpty_nil, hflush.blank,
    hflush.comment, hflush.lineEnd, hempty, hgap, hword, Bool.false_and, Bool.false_eq_true, if_true,
    if_false, ite_self] at h
  obtain ⟨word, hfound, h⟩ := Option.bind_eq_some_iff.1 h
  obtain ⟨⟨more, tail, left⟩, -, heq⟩ := Option.bind_eq_some_iff.1 h
  cases hfound
  cases heq
  exact ⟨more, rfl⟩

/-- The tokens of a text that begins with a word begin with it. -/
theorem tokenize?_begins (hflush : Flush text)
    (hword : scanWord {} text = some (kind, found, next, rest)) (h : tokenize? text = some tokens) :
    ∃ more, tokens = .lineStart [] :: .word kind ⟨[], found⟩ :: more := by
  have hempty : text.isEmpty = false := by simpa using hflush.ne_nil
  have hopening : enterLine [] [] [] = some ([.lineStart []], []) := rfl
  unfold tokenize? scanLines at h
  simp only [hflush.blank, hflush.comment, hflush.lineEnd, hempty, Bool.false_and,
    Bool.false_eq_true, if_false, hopening, Option.bind_eq_bind, Option.bind_some] at h
  obtain ⟨⟨inside, tail, left⟩, hline, h⟩ := Option.bind_eq_some_iff.1 h
  obtain ⟨more, -, heq⟩ := Option.bind_eq_some_iff.1 h
  cases heq
  obtain ⟨others, rfl⟩ := scanLine_begins true hflush rfl rfl hword hline
  exact ⟨_, rfl⟩

end ModelMetadata.Source
