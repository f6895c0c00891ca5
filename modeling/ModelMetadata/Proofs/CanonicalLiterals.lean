import ModelMetadata.Literal
import ModelMetadata.Proofs.Lexing

/-!
Canonical literals. The literal that is written for a truth value, an integer or a text is read back
from its text as the same literal, and stands for the value it was written for. So every literal of a
value has one canonical form, whatever its own spelling, and the canonical form is left as it is.
-/
set_option autoImplicit false
namespace ModelMetadata

open Source Parser

/-! ## Escapes -/

namespace Text

theorem hexValue?_hexDigit : ∀ digit < 16, hexValue? (hexDigit digit) = some digit := by decide

theorem hexText_succ (count n : Nat) :
    hexText (count + 1) n = hexDigit (n / 16 ^ count % 16) :: hexText count n := by
  simp [hexText, List.range_succ]

/-- Digits are read up to the number of them, whatever follows. -/
theorem hexRun_hexText (count value n : Nat) (rest : List Char) :
    hexRun count value (hexText count n ++ rest)
      = some (value * 16 ^ count + n % 16 ^ count, rest) := by
  induction count generalizing value with
  | zero => simp [hexText, hexRun, Nat.mod_one]
  | succ count ih =>
    have hdigit := hexValue?_hexDigit (n / 16 ^ count % 16) (Nat.mod_lt _ (by decide))
    have hsplit : n % 16 ^ (count + 1) = n / 16 ^ count % 16 * 16 ^ count + n % 16 ^ count := by
      rw [Nat.pow_succ, Nat.mod_mul]
      ring
    rw [hexText_succ, List.cons_append]
    unfold hexRun
    rw [hdigit]
    dsimp only
    rw [ih, hsplit, Nat.pow_succ]
    congr 2
    ring

theorem codePoint?_toNat (c : Char) : codePoint? c.toNat = some c := by
  unfold codePoint?
  rw [dif_pos (show c.toNat.isValidChar from c.valid)]
  rfl

theorem mapM_codePoint?_toNat (text : List Char) : text.mapM (codePoint? ∘ Char.toNat) = some text := by
  induction text with
  | nil => rfl
  | cons c rest ih =>
    rw [List.mapM_cons, Function.comp_apply, codePoint?_toNat, ih]
    rfl

theorem unescape_cons {fuel : Nat} {text : List Char} {codes : List Nat} {c : Char} (hc : c ≠ '\\')
    (h : unescape fuel text = some codes) :
    unescape (fuel + 1) (c :: text) = some (c.toNat :: codes) := by
  unfold unescape
  split
  · contradiction
  · contradiction
  · rename_i heq
    exact absurd (List.cons.inj heq).1 hc
  · rename_i hfuel heq
    cases heq
    cases hfuel
    rw [h, Option.map_some]

/-- What a character is written as is read as that character. -/
theorem unescape_escapeChar {fuel : Nat} {text : List Char} {codes : List Nat} (c : Char)
    (h : unescape fuel text = some codes) :
    unescape (fuel + 1) (escapeChar c ++ text) = some (c.toNat :: codes) := by
  have hmark {mark : Char} (hmark : simpleEscape? mark = some c) :
      unescape (fuel + 1) (['\\', mark] ++ text) = some (c.toNat :: codes) := by
    simp [unescape, hmark, h]
  unfold escapeChar
  split_ifs with hquote hslash hline hreturn htab hback hfeed hcontrol
  · exact hmark (by rw [beq_iff_eq.1 hquote]; rfl)
  · exact hmark (by rw [beq_iff_eq.1 hslash]; rfl)
  · exact hmark (by rw [beq_iff_eq.1 hline]; rfl)
  · exact hmark (by rw [beq_iff_eq.1 hreturn]; rfl)
  · exact hmark (by rw [beq_iff_eq.1 htab]; rfl)
  · exact hmark (by rw [beq_iff_eq.1 hback]; rfl)
  · exact hmark (by rw [beq_iff_eq.1 hfeed]; rfl)
  · have hrun : hexRun 4 0 (hexText 4 c.toNat ++ text) = some (c.toNat, text) := by
      rw [hexRun_hexText, Nat.mod_eq_of_lt (by omega)]
      simp
    have hcode : ¬ lastCode < c.toNat := by
      unfold lastCode
      omega
    simp [unescape, simpleEscape?, isOctal, hrun, hcode, h]
  · exact unescape_cons (by simpa using hslash) h

theorem unescape_flatMap_escapeChar (quoted : List Char) {fuel : Nat} (h : quoted.length ≤ fuel) :
    unescape fuel (quoted.flatMap escapeChar) = some (quoted.map Char.toNat) := by
  induction quoted generalizing fuel with
  | nil => cases fuel <;> rfl
  | cons c quoted ih =>
    obtain ⟨fuel, rfl⟩ := Nat.exists_eq_add_of_le' (Nat.le_trans (Nat.le_add_left 1 _) h)
    exact unescape_escapeChar c (ih (by simpa using h))

end Text
/-! ## Texts -/

theorem plainLineEnds_of_not_mem {text : List Char} (h : '\r' ∉ text) : plainLineEnds text = text := by
  induction text with
  | nil => rfl
  | cons c rest ih =>
    obtain ⟨hreturn, hrest⟩ := not_or.1 (mt List.mem_cons.2 h)
    unfold plainLineEnds
    split
    · rename_i heq
      exact absurd (List.cons.inj heq).1.symm hreturn
    · rename_i heq
      exact absurd (List.cons.inj heq).1.symm hreturn
    · rename_i heq
      cases heq
      rw [ih hrest]
    · contradiction

/-- A literal between double quotes stands for what is between them, read without its escapes. -/
theorem readString_between {chars value : List Char}
    (hquote : splitQuote ('"' :: (chars ++ ['"'])) = some (['"'], chars ++ ['"']))
    (hreturn : '\r' ∉ chars) (hnul : '\x00' ∉ chars)
    (hvalue : Text.unescape (chars.length + 1) chars = some (value.map Char.toNat)) :
    readString (String.ofList ('"' :: (chars ++ ['"']))) = .ok (.text (String.ofList value)) := by
  have hparts : stringParts ('"' :: (chars ++ ['"'])) = ([], chars) := by
    simp [stringParts, hquote]
  have hclean : hasNul (String.ofList ('"' :: (chars ++ ['"']))) = false := by simp [hasNul, hnul]
  unfold readString
  rw [hclean, String.toList_ofList, hparts]
  simp [readBody, isBytesMark, isRawMark, plainLineEnds_of_not_mem hreturn, hvalue,
    Text.mapM_codePoint?_toNat]

/-- No control character stands for itself in a written text. -/
theorem not_mem_flatMap_escapeChar {c : Char} (hcontrol : c.toNat < 32) (hplain : isPlain c = false)
    (quoted : List Char) : c ∉ quoted.flatMap Text.escapeChar := by
  rw [List.mem_flatMap]
  rintro ⟨written, -, hmem⟩
  rcases escapeChar_eq written with ⟨d, digits, heq, hd, hdigits⟩ | ⟨heq, hself⟩
  · rw [heq, List.mem_cons, List.mem_cons] at hmem
    rcases hmem with rfl | rfl | hmem
    · exact absurd hcontrol (by decide)
    · omega
    · rw [hdigits c hmem] at hplain
      cases hplain
  · rw [heq, List.mem_singleton] at hmem
    rw [hmem, hself] at hplain
    cases hplain

theorem length_le_flatMap_escapeChar (quoted : List Char) :
    quoted.length ≤ (quoted.flatMap Text.escapeChar).length := by
  induction quoted with
  | nil => exact Nat.le_refl _
  | cons c quoted ih =>
    have hpos : 0 < (Text.escapeChar c).length := by
      rcases escapeChar_eq c with ⟨d, digits, heq, -, -⟩ | ⟨heq, -⟩ <;> simp [heq]
    simp only [List.flatMap_cons, List.length_append, List.length_cons]
    omega

/-- The written form of a text stands for the text. -/
theorem readString_quote (text : String) : readString (Text.quote text) = .ok (.text text) := by
  have hlength := length_le_flatMap_escapeChar text.toList
  have hread := readString_between (splitQuote_flatMap_escapeChar text.toList (by simp))
    (not_mem_flatMap_escapeChar (by decide) (by decide) text.toList)
    (not_mem_flatMap_escapeChar (by decide) (by decide) text.toList)
    (Text.unescape_flatMap_escapeChar text.toList (Nat.le_succ_of_le hlength))
  rwa [String.ofList_toList] at hread

theorem literalValue_textLiteral (text : String) :
    literalValue (textLiteral text) = .ok (some (.text text)) := by
  simp only [textLiteral, literalValue, stringValue, stringLiteral, readString_quote]
  rfl

/-! ## Decimal digits -/

theorem hexValue?_of_isDigit {c : Char} (h : c.isDigit = true) :
    Text.hexValue? c = some (c.toNat - '0'.toNat) := by
  have hrange : ('0' ≤ c && c ≤ '9') = true := by
    simpa [Char.isDigit, Char.le_def] using h
  simp only [Text.hexValue?, hrange, if_true]

theorem isDigit_of_mem {n : Nat} {c : Char} (h : c ∈ Nat.toDigits 10 n) : c.isDigit = true :=
  Nat.isDigit_of_mem_toDigits (by decide) (by decide) h

theorem digitsValue_toDigits (n : Nat) : digitsValue 10 (Nat.toDigits 10 n) = n := by
  have hsame : digitsValue 10 (Nat.toDigits 10 n) = Nat.ofDigitChars 10 (Nat.toDigits 10 n) 0 := by
    rw [Nat.ofDigitChars_eq_foldl]
    refine List.foldl_ext _ _ _ fun value c hc => ?_
    rw [hexValue?_of_isDigit (isDigit_of_mem hc), Option.getD_some, Nat.mul_comm]
  rw [hsame, Nat.ofDigitChars_ten_toDigits]

/-- Only zero is written with a zero in front. -/
theorem eq_zero_of_head? {n : Nat} (h : (Nat.toDigits 10 n).head? = some '0') : n = 0 := by
  induction n using Nat.strongRecOn with
  | ind n ih =>
    rw [Nat.toDigits_eq_if (by decide)] at h
    split at h
    · rename_i hsmall
      interval_cases n <;> first | rfl | exact absurd h (by decide)
    · rename_i hlarge
      have hne : Nat.toDigits 10 (n / 10) ≠ [] := Nat.toDigits_ne_nil
      rw [List.head?_append_of_ne_nil _ hne] at h
      have := ih (n / 10) (by omega) h
      omega

theorem pow_le_iff_length {count n : Nat} (hcount : 0 < count) :
    Nat.pow 10 count ≤ n ↔ count < (Nat.toDigits 10 n).length := by
  rw [← Nat.not_le, Nat.length_toDigits_le_iff (by decide) hcount, Nat.not_lt]
  rfl

theorem isOverlong_eq_false_iff {value : Int} :
    isOverlong value = false ↔ (Nat.toDigits 10 value.natAbs).length ≤ digitLimit := by
  rw [isOverlong, decide_eq_false_iff_not, pow_le_iff_length (by decide), Nat.not_lt]

/-- Decimal digits are no digits to another base, and none of them is left out. -/
theorem integerValue_toString {n : Nat} (h : (Nat.toDigits 10 n).length ≤ digitLimit) :
    integerValue (toString n) = .ok n := by
  have hall : (Nat.toDigits 10 n).filter (· != '_') = Nat.toDigits 10 n := by
    refine List.filter_eq_self.2 fun c hc => ?_
    have : c ≠ '_' := fun heq => Nat.underscore_not_in_toDigits (heq ▸ hc)
    simpa using this
  unfold integerValue
  rw [Nat.toString_eq_ofList_toDigits, String.toList_ofList, hall]
  split
  · rename_i mark digits heq
    have hzero : n = 0 := eq_zero_of_head? (by rw [heq]; rfl)
    rw [hzero, Nat.toDigits_zero] at heq
    cases heq
  · rw [if_neg (Nat.not_lt.2 h), digitsValue_toDigits]

/-! ## Numbers as tokens -/

section

variable {digits : List Char} (hdigits : ∀ c ∈ digits, c.isDigit = true)
include hdigits

theorem spanDigits_eq_self : spanDigits Char.isDigit digits = (digits, []) := by
  induction digits with
  | nil => rfl
  | cons c rest ih =>
    obtain ⟨hc, hrest⟩ := List.forall_mem_cons.1 hdigits
    unfold spanDigits
    split
    · rename_i heq
      rw [(List.cons.inj heq).1] at hc
      exact absurd hc (by decide)
    · rename_i heq
      cases heq
      rw [if_pos hc, ih hrest]
    · contradiction

variable (hne : digits ≠ [])
include hne

theorem scanDigits_eq_self : scanDigits Char.isDigit digits = some (digits, []) := by
  obtain ⟨c, rest, rfl⟩ := List.exists_cons_of_ne_nil hne
  unfold scanDigits
  dsimp only
  rw [if_pos (hdigits c List.mem_cons_self), spanDigits_eq_self hdigits]

/-- Decimal digits without a needless zero in front are one number. -/
theorem scanDecimal_digits (hzero : digits.head? = some '0' → digits = ['0']) :
    scanDecimal digits = some (digits, []) := by
  have hwhole : scanWhole digits = some (digits, []) := by
    unfold scanWhole
    split
    · exact absurd (hdigits '.' List.mem_cons_self) (by decide)
    · exact scanDigits_eq_self hdigits hne
  have hleading : (digits.head? == some '0' && digits.any fun c => c != '0' && c != '_') = false := by
    by_cases hhead : digits.head? = some '0'
    · rw [hzero hhead]
      rfl
    · simp [hhead]
  unfold scanDecimal
  rw [hwhole]
  change (if (true && _) = true then none else some (digits ++ [] ++ [] ++ [], [])) = _
  rw [hleading]
  simp

theorem scanWord_digits (hzero : digits.head? = some '0' → digits = ['0']) (state : LineState) :
    scanWord state digits = some (.number, String.ofList digits, state, []) := by
  have hnumber : scanNumber digits = some (digits, []) := by
    unfold scanNumber
    split
    · rename_i mark rest
      exact absurd (hzero rfl) (by simp)
    · exact scanDecimal_digits hdigits hne hzero
  obtain ⟨c, rest, rfl⟩ := List.exists_cons_of_ne_nil hne
  have hc := hdigits c List.mem_cons_self
  have hstart : (c.isAlpha || c == '_' || decide (128 ≤ c.toNat)) = false := by
    have hlow : c.toNat ≤ '9'.toNat := (Char.isDigit_iff_toNat.1 hc).2
    have hsmall : c.toNat < 128 := Nat.lt_of_le_of_lt hlow (by decide)
    have hname : Text.isIdentifierStart c = false := by
      by_contra hstart
      simp [not_isDigit_of_isIdentifierStart (Bool.eq_true_of_not_eq_false hstart)] at hc
    rw [Text.isIdentifierStart, if_pos hsmall] at hname
    simp [hname, hsmall]
  unfold scanWord
  simp only [hstart, hc, Bool.true_or, Bool.false_eq_true, if_false, if_true, hnumber]
  rfl

end

/-! ## Lines of one literal -/

def lineTokens (words : List Token) : List Token :=
  .lineStart [] :: (words ++ [.lineEnd ⟨"", none, none⟩, .finish []])

theorem tokenize?_word {text : List Char} {kind : WordKind} {found : String} (hflush : Flush text)
    (hword : scanWord {} text = some (kind, found, {}, [])) :
    tokenize? text = some (lineTokens [.word kind ⟨[], found⟩]) := by
  obtain ⟨fuel, hfuel⟩ := Nat.exists_eq_add_of_lt (List.length_pos_iff.2 hflush.ne_nil)
  refine tokenize?_line hflush (scanLine_word true hflush rfl hword ?_)
  rw [hfuel]
  exact scanLine_nil false rfl rfl

theorem parse_of_line {text : String} {words : List Token} {e : Expr}
    (htokens : tokenize? text.toList = some (lineTokens words))
    (hread : soleLine (Prod.snd <$> Grammar.starExpressions (Grammar.rulesFor (lineTokens words)))
      (lineTokens words) = some (e, []))
    (hmixes : mixesBytes none (lineTokens words) = false) : Expr.parse text = .ok e := by
  unfold Expr.parse parseAll
  rw [htokens]
  dsimp only
  rw [hread, hmixes]
  rfl

theorem parse_boolLiteral (value : Bool) :
    Expr.parse (boolLiteral value).text = .ok (boolLiteral value) := by
  cases value with
  | false => cbv
  | true => cbv

theorem parse_textLiteral (text : String) :
    Expr.parse (textLiteral text).text = .ok (textLiteral text) := by
  have hword : scanWord {} ((Text.quote text).toList ++ []) = some (.string, Text.quote text, {}, []) :=
    scanWord_quote text (by simp)
  have hflush := flush_quote text []
  rw [List.append_nil] at hword hflush
  exact parse_of_line (tokenize?_word hflush hword) rfl rfl

section

variable (n : Nat)

theorem scanWord_toString (state : LineState) :
    scanWord state (toString n).toList = some (.number, toString n, state, []) := by
  have hzero : (Nat.toDigits 10 n).head? = some '0' → Nat.toDigits 10 n = ['0'] := by
    intro hhead
    rw [eq_zero_of_head? hhead, Nat.toDigits_zero]
  rw [Nat.toString_eq_ofList_toDigits, String.toList_ofList]
  exact scanWord_digits (fun c hc => isDigit_of_mem hc) Nat.toDigits_ne_nil hzero state

theorem exists_digit : ∃ c rest, (toString n).toList = c :: rest ∧ c.isDigit = true := by
  obtain ⟨c, rest, hcons⟩ := List.exists_cons_of_ne_nil (Nat.toDigits_ne_nil (n := n) (b := 10))
  refine ⟨c, rest, ?_, isDigit_of_mem (n := n) (hcons ▸ List.mem_cons_self)⟩
  rw [Nat.toString_eq_ofList_toDigits, String.toList_ofList, hcons]

theorem flush_toString : Flush (toString n).toList := by
  obtain ⟨c, rest, hcons, hdigit⟩ := exists_digit n
  rw [hcons]
  refine .cons (fun hmem => ?_) rest
  have hall : ['\\', '#', ' ', '\t', '\x0c', '\n', '\r'].all (fun c => !c.isDigit) = true := by decide
  simpa [hdigit] using List.all_eq_true.1 hall c hmem

/-- Decimal digits are an integer literal. -/
theorem numberExpr_toString : Grammar.numberExpr (toString n) = .integer (toString n) := by
  have hdigit {c : Char} (hc : c ∈ (toString n).toList) : c.isDigit = true := by
    rw [Nat.toString_eq_ofList_toDigits, String.toList_ofList] at hc
    exact isDigit_of_mem hc
  have hradix : Grammar.isRadixText (toString n) = false := by
    unfold Grammar.isRadixText
    split
    · rename_i mark rest heq
      rw [Nat.toString_eq_ofList_toDigits, String.toList_ofList] at heq
      have hzero : n = 0 := eq_zero_of_head? (by rw [heq]; rfl)
      rw [hzero, Nat.toDigits_zero] at heq
      cases heq
    · rfl
  have hends {mark : String} {c : Char} (hmark : mark.toList = [c]) (hc : c.isDigit = false) :
      (toString n).endsWith mark = false := by
    by_contra hends
    have hsuffix := String.Slice.endsWith_string_iff.1 (Bool.eq_true_of_not_eq_false hends)
    rw [hmark, String.copy_toSlice] at hsuffix
    have hdigit := hdigit (hsuffix.subset (List.mem_singleton_self c))
    rw [hc] at hdigit
    cases hdigit
  have himaginary : Grammar.isImaginaryText (toString n) = false := by
    rw [Grammar.isImaginaryText, hends rfl (by decide), hends rfl (by decide)]
    rfl
  have hfloat : ((toString n).toList.any fun c => c == '.' || c == 'e' || c == 'E') = false := by
    refine List.any_eq_false.2 fun c hc hmark => ?_
    have hdigit := hdigit hc
    simp only [Bool.or_eq_true, beq_iff_eq] at hmark
    rcases hmark with (rfl | rfl) | rfl <;> exact absurd hdigit (by decide)
  rw [Grammar.numberExpr, hradix, himaginary, hfloat]
  rfl

theorem parse_natural : Expr.parse (toString n) = .ok (.integer (toString n)) := by
  rw [← numberExpr_toString]
  exact parse_of_line (tokenize?_word (flush_toString n) (scanWord_toString n {})) rfl rfl

theorem parse_negative :
    Expr.parse (Expr.unary "-" [] (.integer (toString n))).text
      = .ok (.unary "-" [] (.integer (toString n))) := by
  have htext : (Expr.unary "-" [] (.integer (toString n))).text.toList = '-' :: (toString n).toList := by
    simp [Expr.text, Expr.render, Gap.render_nil]
  have hminus : scanWord {} ('-' :: (toString n).toList)
      = some (.operator, "-", {}, (toString n).toList) := by
    obtain ⟨c, rest, hcons, hdigit⟩ := exists_digit n
    rw [hcons]
    have hnext : c ≠ '>' ∧ c ≠ '=' := by
      constructor <;> rintro rfl <;> exact absurd hdigit (by decide)
    have hlong : ∀ op ∈ longOperators, dropLead? op.toList ('-' :: c :: rest) = none := by
      simp [longOperators, dropLead?, Ne.symm hnext.1, Ne.symm hnext.2]
    exact (scanWord_operator (by decide) (by simp) (by simp [splitQuote]) (by decide)
      (scanOperator_short hlong (by decide))).trans rfl
  have htokens : tokenize? ('-' :: (toString n).toList)
      = some (lineTokens [.word .operator ⟨[], "-"⟩, .word .number ⟨[], toString n⟩]) := by
    refine tokenize?_line (.cons (by decide) _) (scanLine_word true (.cons (by decide) _) rfl hminus ?_)
    obtain ⟨c, rest, hcons, -⟩ := exists_digit n
    refine scanLine_word false (flush_toString n) rfl (scanWord_toString n {}) ?_
    rw [hcons]
    exact scanLine_nil false rfl rfl
  rw [← numberExpr_toString]
  rw [← numberExpr_toString] at htext
  exact parse_of_line (htext ▸ htokens) rfl rfl

end

/-! ## Canonical literals -/

/-- The primitives that are written exactly: truth values, texts, and integers that have no more digits
than are ever written. -/
def Primitive.IsExact : Primitive → Prop
  | .int value => (Nat.toDigits 10 value.natAbs).length ≤ digitLimit
  | .float _ => False
  | _ => True

theorem literalValue_boolLiteral (value : Bool) :
    literalValue (boolLiteral value) = .ok (some (.bool value)) := by
  cases value <;> rfl

theorem literalValue_natural {n : Nat} (h : (Nat.toDigits 10 n).length ≤ digitLimit) :
    literalValue (.integer (toString n)) = .ok (some (.int n)) := by
  rw [literalValue, integerValue_toString h]
  rfl

theorem literalValue_negative {n : Nat} (h : (Nat.toDigits 10 n).length ≤ digitLimit) :
    literalValue (.unary "-" [] (.integer (toString n))) = .ok (some (.int (-n))) := by
  rw [literalValue, literalValue_natural h]
  rfl

/-- The canonical literal of an exact primitive is read back as it is and stands for the primitive. -/
theorem exists_literal {p : Primitive} (h : p.IsExact) :
    ∃ e, p.literal = .ok e ∧ Expr.parse e.text = .ok e ∧ literalValue e = .ok (some p) := by
  cases p with
  | bool value => exact ⟨_, rfl, parse_boolLiteral value, literalValue_boolLiteral value⟩
  | text value => exact ⟨_, rfl, parse_textLiteral value, literalValue_textLiteral value⟩
  | float value => exact h.elim
  | int value =>
    have hliteral : (Primitive.int value).literal
        = .ok (negated (value < 0) (.integer (toString value.natAbs))) := by
      rw [Primitive.literal, isOverlong_eq_false_iff.2 h]
      rfl
    refine ⟨_, hliteral, ?_⟩
    by_cases hsign : value < 0
    · simp only [hsign, decide_true, negated, if_true]
      have hvalue := literalValue_negative h
      rw [show -(value.natAbs : Int) = value by omega] at hvalue
      exact ⟨parse_negative _, hvalue⟩
    · simp only [hsign, decide_false, negated, Bool.false_eq_true, if_false]
      have hvalue := literalValue_natural h
      rw [show (value.natAbs : Int) = value by omega] at hvalue
      exact ⟨parse_natural _, hvalue⟩

/-- Every truth value, text and integer that is not overlong has a canonical literal. Its text is read as
just this literal, which stands for the value, and whatever literal stands for the value, the canonical
one included, is re-created as it. -/
theorem literal_read_back {p : Primitive} (h : p.IsExact) :
    ∃ e, p.literal = .ok e ∧ Expr.parse e.text = .ok e ∧ literalValue e = .ok (some p)
      ∧ canonicalLiteral e = .ok (some e)
      ∧ ∀ other, literalValue other = .ok (some p) → canonicalLiteral other = .ok (some e) := by
  obtain ⟨e, hliteral, hparse, hvalue⟩ := exists_literal h
  have hrecreated (other : Expr) (hother : literalValue other = .ok (some p)) :
      canonicalLiteral other = .ok (some e) := by
    unfold canonicalLiteral
    rw [hother]
    change some <$> p.literal = _
    rw [hliteral]
    rfl
  exact ⟨e, hliteral, hparse, hvalue, hrecreated e hvalue, hrecreated⟩

/-- An escape by the name of a character. -/
example : literalValue (.string "'\\N\x7bdollar sign\x7d'") = .ok (some (.text "$")) := by
  decide +kernel

/-- A text of quotes, backslashes, controls, line ends of every kind and characters beyond the first
plane. -/
theorem literal_read_back_of_controls :
    ∃ e, (Primitive.text "'\"\"\"\\\x00\n\r\t\x0c\x1f\x7f\u2028😀").literal = .ok e
      ∧ Expr.parse e.text = .ok e
      ∧ literalValue e = .ok (some (.text "'\"\"\"\\\x00\n\r\t\x0c\x1f\x7f\u2028😀"))
      ∧ canonicalLiteral e = .ok (some e)
      ∧ ∀ other, literalValue other = .ok (some (.text "'\"\"\"\\\x00\n\r\t\x0c\x1f\x7f\u2028😀")) →
        canonicalLiteral other = .ok (some e) :=
  literal_read_back trivial

end ModelMetadata
