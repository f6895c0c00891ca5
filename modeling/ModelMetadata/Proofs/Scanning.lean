import Mathlib
import ModelMetadata.Source.Lexer
import ModelMetadata.Source.Parser.Basic
import ModelMetadata.Source.Weight

/-!
What the lexer reads. A scanner that succeeds splits its text: what it found, followed by what it
left, is the text it was given. The words of a text therefore stand side by side in it, and
together they are no longer than the text; a word of the kind of names is an identifier.
-/
set_option autoImplicit false
namespace ModelMetadata.Source

/-! ## Blanks, comments and line ends -/

theorem span_append (p : Char → Bool) (text : List Char) :
    (text.span p).1 ++ (text.span p).2 = text := by
  rw [List.span_eq_takeWhile_dropWhile]
  exact List.takeWhile_append_dropWhile

theorem span_split {p : Char → Bool} {text found rest : List Char}
    (h : text.span p = (found, rest)) : found ++ rest = text := by
  simpa only [h] using span_append p text

theorem spanBlank_split {text blank rest : List Char} (h : spanBlank text = (blank, rest)) :
    blank ++ rest = text := by
  fun_induction spanBlank text generalizing blank rest <;> grind

theorem spanComment_split {text rest : List Char} {comment : Option String}
    (h : spanComment text = (comment, rest)) :
    (comment.map String.toList).getD [] ++ rest = text := by
  unfold spanComment at h
  split at h
  · split at h
    rename_i found after hspan
    cases h
    simpa using span_split hspan
  · cases h
    rfl

theorem splitLineEnd_split {text rest : List Char} {ending : String}
    (h : splitLineEnd text = some (ending, rest)) : ending.toList ++ rest = text := by
  unfold splitLineEnd at h
  split at h <;> cases h <;> rfl

theorem dropLead?_split {lead text rest : List Char} (h : dropLead? lead text = some rest) :
    lead ++ rest = text := by
  fun_induction dropLead? lead text with
  | case1 text => simpa using h.symm
  | case2 c lead text ih => simp [ih h]
  | case3 => cases h
  | case4 => cases h

theorem spanBracketed_split {fuel : Nat} {text gap rest : List Char}
    (h : spanBracketed fuel text = (gap, rest)) : gap ++ rest = text := by
  induction fuel generalizing text gap rest with
  | zero => cases h; rfl
  | succ fuel ih =>
    cases hblank : spanBlank text with
    | mk blank afterBlank =>
    cases hcomment : spanComment afterBlank with
    | mk comment afterComment =>
    simp only [spanBracketed, hblank, hcomment] at h
    rw [← spanBlank_split hblank, ← spanComment_split hcomment]
    split at h
    · rename_i ending afterEnd hend
      cases hmore : spanBracketed fuel afterEnd with
      | mk more afterMore =>
      simp only [hmore] at h
      cases h
      simp [← splitLineEnd_split hend, ← ih hmore]
    · cases h
      simp

/-! ## Numbers -/

theorem spanDigits_split {isDigit : Char → Bool} {text found rest : List Char}
    (h : spanDigits isDigit text = (found, rest)) : found ++ rest = text := by
  fun_induction spanDigits isDigit text generalizing found rest <;> grind

theorem scanDigits_split {isDigit : Char → Bool} {text found rest : List Char}
    (h : scanDigits isDigit text = some (found, rest)) : found ++ rest = text := by
  unfold scanDigits at h
  split at h
  · split at h
    · split at h
      · cases h
      · exact spanDigits_split (Option.some.inj h)
    · cases h
  · cases h

theorem scanRadix_split {isDigit : Char → Bool} {text found rest : List Char}
    (h : scanRadix isDigit text = some (found, rest)) : found ++ rest = text := by
  unfold scanRadix at h
  split at h
  rename_i lead tail hlead
  have htext : lead ++ tail = text := by
    split at hlead <;> cases hlead <;> rfl
  split at h
  · rename_i digits after hdigits
    split at h
    · cases h
    · cases h
      rw [List.append_assoc, scanDigits_split hdigits, htext]
  · cases h

theorem scanFraction_split {text found rest : List Char}
    (h : scanFraction text = some (found, rest)) : found ++ rest = text := by
  unfold scanFraction at h
  split at h
  · split at h
    · exact scanDigits_split h
    · cases h
      rfl
  · cases h
    rfl

theorem scanExponent_split {text found rest : List Char}
    (h : scanExponent text = some (found, rest)) : found ++ rest = text := by
  unfold scanExponent at h
  split at h
  · split at h
    · obtain ⟨⟨digits, after⟩, hdigits, hpair⟩ := Option.map_eq_some_iff.1 h
      cases hpair
      simp [scanDigits_split hdigits]
    · split at h
      · obtain ⟨⟨digits, after⟩, hdigits, hpair⟩ := Option.map_eq_some_iff.1 h
        cases hpair
        simp [scanDigits_split hdigits]
      · cases h
        rfl
  · split at h <;> cases h <;> rfl
  · cases h
    rfl

theorem scanImaginary_split {text found rest : List Char}
    (h : scanImaginary text = (found, rest)) : found ++ rest = text := by
  unfold scanImaginary at h
  split at h
  · split at h <;> cases h <;> rfl
  · cases h
    rfl

theorem scanWhole_split {text found rest : List Char}
    (h : scanWhole text = some (found, rest)) : found ++ rest = text := by
  unfold scanWhole at h
  split at h
  · cases h
    rfl
  · exact scanDigits_split h

theorem scanPoint_split {text found rest : List Char}
    (h : scanPoint text = some (found, rest)) : found ++ rest = text := by
  unfold scanPoint at h
  split at h
  · obtain ⟨⟨digits, after⟩, hdigits, hpair⟩ := Option.map_eq_some_iff.1 h
    cases hpair
    simp [scanFraction_split hdigits]
  · cases h
    rfl

theorem scanDecimal_split {text found rest : List Char}
    (h : scanDecimal text = some (found, rest)) : found ++ rest = text := by
  unfold scanDecimal at h
  obtain ⟨⟨whole, afterWhole⟩, hwhole, h⟩ := Option.bind_eq_some_iff.1 h
  obtain ⟨⟨fraction, afterFraction⟩, hfraction, h⟩ := Option.bind_eq_some_iff.1 h
  obtain ⟨⟨exponent, afterExponent⟩, hexponent, h⟩ := Option.bind_eq_some_iff.1 h
  cases himaginary : scanImaginary afterExponent with
  | mk imaginary afterImaginary =>
  simp only [himaginary] at h
  split at h
  · cases h
  · cases h
    simp [scanImaginary_split himaginary, scanExponent_split hexponent,
      scanPoint_split hfraction, scanWhole_split hwhole]

theorem scanNumber_split {text found rest : List Char}
    (h : scanNumber text = some (found, rest)) : found ++ rest = text := by
  unfold scanNumber at h
  split at h
  · rename_i mark after
    have hbased {isDigit : Char → Bool} (hradix : (scanRadix isDigit after).map
        (fun digits => ('0' :: mark :: digits.1, digits.2)) = some (found, rest)) :
        found ++ rest = '0' :: mark :: after := by
      obtain ⟨⟨digits, after⟩, hdigits, hpair⟩ := Option.map_eq_some_iff.1 hradix
      cases hpair
      simp [scanRadix_split hdigits]
    dsimp only at h
    split at h
    · exact hbased h
    · split at h
      · exact hbased h
      · split at h
        · exact hbased h
        · exact scanDecimal_split h
  · exact scanDecimal_split h

/-! ## Strings -/

theorem splitQuote_split {text quote rest : List Char} (h : splitQuote text = some (quote, rest)) :
    quote ++ rest = text := by
  unfold splitQuote at h
  split at h <;> cases h <;> rfl

theorem scanString_split {quote : List Char} {fuel : Nat} {text found rest : List Char}
    (h : scanString quote fuel text = some (found, rest)) : found ++ rest = text := by
  induction fuel generalizing text found rest with
  | zero => cases h
  | succ fuel ih =>
    have hmore {head body : List Char} (hbody : (scanString quote fuel body).map
        (fun more => (head ++ more.1, more.2)) = some (found, rest)) :
        found ++ rest = head ++ body := by
      obtain ⟨⟨more, after⟩, hmore, hpair⟩ := Option.map_eq_some_iff.1 hbody
      cases hpair
      rw [List.append_assoc, ih hmore]
    unfold scanString at h
    split at h
    · rename_i after hquote
      cases h
      exact dropLead?_split hquote
    · split at h
      · exact @hmore ['\\', '\r', '\n'] _ h
      · exact @hmore ['\\', _] _ h
      · split at h
        · cases h
        · exact @hmore [_] _ h
      · cases h

theorem scanFormattedText_split {f : Formatted} {fuel : Nat} {text found rest : List Char}
    (h : scanFormattedText f fuel text = some (found, rest)) : found ++ rest = text := by
  induction fuel generalizing text found rest with
  | zero => cases h; rfl
  | succ fuel ih =>
    have hmore {head body : List Char} (hbody : (scanFormattedText f fuel body).map
        (fun more => (head ++ more.1, more.2)) = some (found, rest)) :
        found ++ rest = head ++ body := by
      obtain ⟨⟨more, after⟩, hmore, hpair⟩ := Option.map_eq_some_iff.1 hbody
      cases hpair
      rw [List.append_assoc, ih hmore]
    have hstop {body : List Char} (hnone : some (([] : List Char), body) = some (found, rest)) :
        found ++ rest = body := by
      cases hnone
      rfl
    unfold scanFormattedText at h
    split at h
    · exact hstop h
    · dsimp only at h
      split at h
      · split at h
        · exact hmore h
        · exact hstop h
      · split at h
        · exact hmore h
        · exact hstop h
      · rename_i after _
        split at h
        · exact hmore h
        · split at h
          · rename_i tail htail
            rw [← span_append (fun c => c != '}' && !isLineEndChar c) after, htail]
            simpa using hmore h
          · cases h
      · split at h
        · exact hmore h
        · exact hmore h
      · split at h
        · exact hstop h
        · split at h
          · split at h
            · cases h
            · exact hstop h
          · split at h
            · cases h
            · exact hmore h
      · cases h

/-! ## Tokens -/

theorem scanOperator_split {text rest : List Char} {found : String}
    (h : scanOperator text = some (found, rest)) : found.toList ++ rest = text := by
  unfold scanOperator at h
  split at h
  · rename_i op hop
    cases h
    have hlead := List.find?_some hop
    obtain ⟨after, hafter⟩ := Option.isSome_iff_exists.1 hlead
    have hsplit := dropLead?_split hafter
    rw [← hsplit, List.drop_left' String.length_toList]
  · split at h
    · split at h
      · cases h
        simp
      · cases h
    · cases h

theorem LineState.formatColon?_split {state next : LineState} {text rest : List Char}
    (h : state.formatColon? text = some (next, rest)) : ":".toList ++ rest = text := by
  unfold formatColon? at h
  split at h
  · obtain ⟨_, _, hpair⟩ := Option.map_eq_some_iff.1 h
    cases hpair
    rfl
  · cases h

structure IsWordOf (kind : WordKind) (found : String) (rest text : List Char) : Prop where
  split : found.toList ++ rest = text
  isIdentifier : kind = .name → Text.isIdentifier found.toList = true

theorem scanWord_isWord {state next : LineState} {text rest' : List Char} {kind : WordKind}
    {found : String} (h : scanWord state text = some (kind, found, next, rest')) :
    IsWordOf kind found rest' text := by
  unfold scanWord at h
  split at h
  · cases h
  · rename_i c rest
    split at h
    · split at h
      rename_i name after hspan
      split at h
      · rename_i quote body hquote
        have hbody := splitQuote_split (Option.filter_eq_some_iff.1 hquote).1
        split at h
        · cases h
          refine ⟨?_, by simp⟩
          simp [hbody, span_split hspan]
        · obtain ⟨⟨string, afterString⟩, hstring, h⟩ := Option.bind_eq_some_iff.1 h
          cases h
          refine ⟨?_, by simp⟩
          simp [scanString_split hstring, hbody, span_split hspan]
      · split at h
        · rename_i hidentifier
          cases h
          exact ⟨by simpa using span_split hspan, fun _ => by simpa using hidentifier⟩
        · cases h
    · split at h
      · obtain ⟨⟨number, afterNumber⟩, hnumber, h⟩ := Option.bind_eq_some_iff.1 h
        cases h
        exact ⟨by simpa using scanNumber_split hnumber, by simp⟩
      · split at h
        · rename_i quote body hquote
          obtain ⟨⟨string, afterString⟩, hstring, h⟩ := Option.bind_eq_some_iff.1 h
          cases h
          refine ⟨?_, by simp⟩
          simp [scanString_split hstring, splitQuote_split hquote]
        · split at h
          · rename_i hcolon
            cases h
            exact ⟨LineState.formatColon?_split hcolon, by simp⟩
          · obtain ⟨⟨op, after⟩, hop, h⟩ := Option.bind_eq_some_iff.1 h
            have hoperator : IsWordOf .operator op after (c :: rest) :=
              ⟨scanOperator_split hop, by simp⟩
            have hfound {next' : LineState} (hpure : some (WordKind.operator, op, next', after)
                = some (kind, found, next, rest')) : IsWordOf kind found rest' (c :: rest) := by
              cases hpure
              exact hoperator
            dsimp only at h
            split at h
            · split at h
              · exact hfound h
              · split at h
                · obtain ⟨closed, _, h⟩ := Option.bind_eq_some_iff.1 h
                  exact hfound h
                · split at h
                  · cases h
                  · exact hfound h
            · exact hfound h

theorem scanInText_isWord {state next : LineState} {f : Formatted} {text rest : List Char}
    {kind : WordKind} {found : String} (h : scanInText state f text = some (kind, found, next, rest)) :
    IsWordOf kind found rest text := by
  unfold scanInText at h
  obtain ⟨⟨body, after⟩, hbody, h⟩ := Option.bind_eq_some_iff.1 h
  dsimp only at h
  split at h
  · cases h
    exact ⟨by simpa using scanFormattedText_split hbody, by simp⟩
  · split at h
    · rename_i hquote
      split at h
      · cases h
        exact ⟨by simpa using dropLead?_split hquote, by simp⟩
      · cases h
    · split at h
      · cases h
        exact ⟨rfl, by simp⟩
      · obtain ⟨closed, _, h⟩ := Option.bind_eq_some_iff.1 h
        cases h
        exact ⟨rfl, by simp⟩
      · cases h

/-! ## Lines -/

def wordsWeight (tokens : List Token) : Nat := Word.weightAll (Parser.wordsOf tokens)

@[simp] theorem wordsWeight_nil : wordsWeight [] = 0 := rfl

@[simp] theorem wordsWeight_word (kind : WordKind) (word : Word) (tokens : List Token) :
    wordsWeight (.word kind word :: tokens) = word.weight + wordsWeight tokens := rfl

@[simp] theorem wordsWeight_append (tokens more : List Token) :
    wordsWeight (tokens ++ more) = wordsWeight tokens + wordsWeight more := by
  simp [wordsWeight, Parser.wordsOf]

structure AreTokensOf (tokens : List Token) (rest text : List Char) : Prop where
  weight : wordsWeight tokens + rest.length ≤ text.length
  identifiers : ∀ word, Token.word .name word ∈ tokens → Text.isIdentifier word.text.toList = true

namespace AreTokensOf

variable {tokens more : List Token} {rest middle text : List Char}

theorem layout (hlayout : ∀ kind word, Token.word kind word ∉ tokens)
    (hrest : rest.length ≤ text.length) : AreTokensOf tokens rest text := by
  have hwords : Parser.wordsOf tokens = [] := by
    refine List.filterMap_eq_nil_iff.2 fun token htoken => ?_
    cases token with
    | word kind word => exact absurd htoken (hlayout kind word)
    | _ => rfl
  exact ⟨by simpa [wordsWeight, hwords, Word.weightAll] using hrest, fun word hword => absurd hword (hlayout _ _)⟩

theorem cons {kind : WordKind} {gap : Gap} {found : String} {before : List Char}
    (hword : IsWordOf kind found middle before) (hbefore : before.length ≤ text.length)
    (htokens : AreTokensOf tokens rest middle) :
    AreTokensOf (.word kind ⟨gap, found⟩ :: tokens) rest text := by
  constructor
  · have hlength := congrArg List.length hword.split
    have := htokens.weight
    simp only [List.length_append, String.length_toList] at hlength
    simp only [wordsWeight_word, Word.weight]
    omega
  · intro word hmem
    rcases List.mem_cons.1 hmem with hhead | htail
    · cases hhead
      exact hword.isIdentifier rfl
    · exact htokens.identifiers word htail

theorem append (htokens : AreTokensOf tokens middle text) (hmore : AreTokensOf more rest middle) :
    AreTokensOf (tokens ++ more) rest text := by
  constructor
  · have := htokens.weight
    have := hmore.weight
    rw [wordsWeight_append]
    omega
  · intro word hmem
    rcases List.mem_append.1 hmem with hleft | hright
    · exact htokens.identifiers word hleft
    · exact hmore.identifiers word hright

end AreTokensOf

theorem length_le_of_append {before rest text : List Char} (h : before ++ rest = text) :
    rest.length ≤ text.length := by
  rw [← h, List.length_append]
  exact Nat.le_add_left ..

theorem scanLine_areTokens {usual : String} {block : List Char} {fuel : Nat} {state : LineState}
    {first : Bool} {text rest : List Char} {tokens : List Token} {tail : LineTail}
    (h : scanLine usual block fuel state first text = some (tokens, tail, rest)) :
    AreTokensOf tokens rest text := by
  induction fuel generalizing state first text rest tokens tail with
  | zero => cases h
  | succ fuel ih =>
    have hvisible {gap : Gap} {before : List Char} (hbefore : before.length ≤ text.length)
        (hrun : (do
          let word ← scanWord state before
          let line ← scanLine usual block fuel word.2.2.1 false word.2.2.2
          return (Token.word word.1 ⟨if first then [] else gap, word.2.1⟩ :: line.1, line.2))
            = some (tokens, tail, rest)) : AreTokensOf tokens rest text := by
      obtain ⟨⟨kind, found, next, after⟩, hword, hrun⟩ := Option.bind_eq_some_iff.1 hrun
      obtain ⟨⟨more, tail', rest'⟩, hmore, hrun⟩ := Option.bind_eq_some_iff.1 hrun
      cases hrun
      exact .cons (scanWord_isWord hword) hbefore (ih hmore)
    unfold scanLine at h
    dsimp only at h
    split at h
    · obtain ⟨⟨kind, found, next, after⟩, hword, h⟩ := Option.bind_eq_some_iff.1 h
      obtain ⟨⟨more, tail', rest'⟩, hmore, h⟩ := Option.bind_eq_some_iff.1 h
      cases h
      exact .cons (scanInText_isWord hword) (Nat.le_refl _) (ih hmore)
    · split at h
      · have hblank := length_le_of_append (spanBlank_split (Prod.eta (spanBlank text)).symm)
        have hcomment := length_le_of_append
          (spanComment_split (Prod.eta (spanComment (spanBlank text).2)).symm)
        split at h
        · cases h
        · split at h
          · cases h
            exact .layout (by simp) (by simp)
          · split at h
            · rename_i ending after hend
              cases h
              have hafter := length_le_of_append (splitLineEnd_split hend)
              exact .layout (by simp) (by omega)
            · exact hvisible hblank h
      · exact hvisible
          (length_le_of_append (spanBracketed_split (Prod.eta (spanBracketed _ text)).symm)) h

/-! ## Blocks -/

theorem closeBlocks_layout {column narrow : Nat} {blocks left : List OpenBlock}
    {pending after : List RawLine} {tokens : List Token}
    (h : closeBlocks column narrow blocks pending = some (tokens, left, after)) :
    ∀ kind word, Token.word kind word ∉ tokens := by
  induction blocks generalizing pending tokens left after with
  | nil =>
    unfold closeBlocks at h
    split at h <;> cases h
    simp
  | cons block outer ih =>
    unfold closeBlocks at h
    split at h
    · split at h <;> cases h
      simp
    · obtain ⟨⟨more, left', after'⟩, hmore, h⟩ := Option.bind_eq_some_iff.1 h
      cases h
      intro kind word
      simpa using ih hmore kind word

theorem closeText_areTokens {blocks : List OpenBlock} {pending : List RawLine}
    {tokens : List Token} (h : closeText blocks pending = some tokens) (text : List Char) :
    AreTokensOf tokens [] text := by
  obtain ⟨⟨closing, left, after⟩, hclosing, h⟩ := Option.bind_eq_some_iff.1 h
  cases h
  refine .layout (fun kind word => ?_) (Nat.zero_le _)
  simpa using closeBlocks_layout hclosing kind word

theorem enterLine_layout {blocks inside : List OpenBlock} {pending : List RawLine}
    {blank : List Char} {tokens : List Token}
    (h : enterLine blocks pending blank = some (tokens, inside)) :
    ∀ kind word, Token.word kind word ∉ tokens := by
  unfold enterLine at h
  dsimp only at h
  split at h
  · split at h <;> cases h
    simp
  · obtain ⟨⟨closing, left, after⟩, hclosing, h⟩ := Option.bind_eq_some_iff.1 h
    cases h
    intro kind word
    simpa using closeBlocks_layout hclosing kind word

theorem scanLines_areTokens {usual : String} {fuel : Nat} {blocks : List OpenBlock}
    {pending : List RawLine} {text : List Char} {tokens : List Token}
    (h : scanLines usual fuel blocks pending text = some tokens) : AreTokensOf tokens [] text := by
  induction fuel generalizing blocks pending text tokens with
  | zero => exact closeText_areTokens h text
  | succ fuel ih =>
    have hrest : (spanComment (spanBlank text).2).2.length ≤ (spanBlank text).2.length :=
      length_le_of_append (spanComment_split rfl)
    have hblank : (spanBlank text).2.length ≤ text.length :=
      length_le_of_append (spanBlank_split rfl)
    unfold scanLines at h
    dsimp only at h
    split at h
    · exact closeText_areTokens h text
    · split at h
      · cases h
      · split at h
        · exact closeText_areTokens h text
        · split at h
          · rename_i ending after hend
            have htokens := ih h
            have hafter := length_le_of_append (splitLineEnd_split hend)
            have := htokens.weight
            exact ⟨by omega, htokens.identifiers⟩
          · obtain ⟨⟨opening, inside⟩, hopening, h⟩ := Option.bind_eq_some_iff.1 h
            obtain ⟨⟨line, tail, after⟩, hline, h⟩ := Option.bind_eq_some_iff.1 h
            obtain ⟨more, hmore, h⟩ := Option.bind_eq_some_iff.1 h
            cases h
            have hopens : AreTokensOf opening (spanBlank text).2 text :=
              .layout (enterLine_layout hopening) hblank
            have hends : AreTokensOf [.lineEnd tail] after after :=
              .layout (by simp) (Nat.le_refl _)
            have hlines := ih hmore
            simpa using hopens.append ((scanLine_areTokens hline).append (hends.append hlines))

/-- The tokens of a text: together they are no longer than it, and its names are identifiers. -/
theorem tokenize?_areTokens {text : List Char} {tokens : List Token}
    (h : tokenize? text = some tokens) : AreTokensOf tokens [] text :=
  scanLines_areTokens h

end ModelMetadata.Source
