import ModelMetadata.Proofs.Pieces
import ModelMetadata.Proofs.Scanning

/-!
Expressions read from whole texts. The tokens of such an expression are those of its text, so the
expression weighs no more than the text is long, and the names in it are identifiers.
-/
set_option autoImplicit false
namespace ModelMetadata.Source

open Source.Parser

/-! ## The weight of pieces -/

theorem length_marks :
    ",".length = 1 ∧ ".".length = 1 ∧ ":".length = 1 ∧ "=".length = 1 ∧ "...".length = 3
      ∧ "(".length = 1 ∧ ")".length = 1 ∧ "[".length = 1 ∧ "]".length = 1
      ∧ "\x7b".length = 1 ∧ "\x7d".length = 1 := by
  decide

def piecesWeight (pieces : List Piece) : Nat := Word.weightAll (pieces.map Prod.snd)

@[simp] theorem piecesWeight_nil : piecesWeight [] = 0 := rfl

@[simp] theorem piecesWeight_cons (piece : Piece) (pieces : List Piece) :
    piecesWeight (piece :: pieces) = piece.2.weight + piecesWeight pieces := rfl

@[simp] theorem piecesWeight_append (pieces more : List Piece) :
    piecesWeight (pieces ++ more) = piecesWeight pieces + piecesWeight more := by
  simp [piecesWeight]

@[simp] theorem Piece.mark_word (gap : Gap) (text : String) :
    (Piece.mark gap text).2 = ⟨gap, text⟩ := rfl

@[simp] theorem Piece.ident_word (gap : Gap) (text : String) :
    (Piece.ident gap text).2 = ⟨gap, text⟩ := rfl

@[simp] theorem piecesWeight_ofComma (comma : Option Gap) :
    piecesWeight (Piece.ofComma comma) = if comma.isSome then 1 else 0 := by
  cases comma <;> simp [Piece.ofComma, Word.weight, length_marks]

@[simp] theorem piecesWeight_words (gap : Gap) (words : List Word) :
    piecesWeight (Word.pieces gap words) = Word.weightAll words := by
  induction words generalizing gap with
  | nil => rfl
  | cons word rest ih => simp [Word.pieces, ih, Word.weight, Word.weightAll]

mutual

theorem Expr.piecesWeight_eq (gap : Gap) (e : Expr) : piecesWeight (e.pieces gap) = e.weight := by
  cases e <;>
    simp [Expr.pieces, Expr.weight, Word.weight, length_marks, Expr.piecesWeight_eq,
      Entry.piecesWeight_eq, Part.piecesWeight_eq] <;>
    omega

theorem Entry.piecesWeight_eq (gap : Gap) (entries : List Entry) :
    piecesWeight (Entry.pieces gap entries) = Entry.weightAll entries := by
  cases entries with
  | nil => simp [Entry.pieces, Entry.weightAll]
  | cons entry rest =>
    obtain ⟨before, item, comma⟩ := entry
    simp only [Entry.pieces, Entry.weightAll, piecesWeight_append, piecesWeight_ofComma,
      Item.piecesWeight_eq, Entry.piecesWeight_eq]

theorem Item.piecesWeight_eq (gap : Gap) (item : Item) :
    piecesWeight (item.pieces gap) = item.weight := by
  cases item <;>
    simp [Item.pieces, Item.weight, Word.weight, length_marks, Expr.piecesWeight_eq,
      Part.piecesWeight_eq] <;>
    omega

theorem Part.piecesWeight_eq (gap : Gap) (parts : List Part) :
    piecesWeight (Part.pieces gap parts) = Part.weightAll parts := by
  cases parts with
  | nil => simp [Part.pieces, Part.weightAll]
  | cons part rest =>
    cases part <;>
      simp [Part.pieces, Part.weightAll, Word.weight, Expr.piecesWeight_eq, Part.piecesWeight_eq]

end

theorem Spells.wordsWeight_eq {pieces : List Piece} {taken : List Token} (h : Spells pieces taken) :
    wordsWeight taken = piecesWeight pieces := by
  simp [wordsWeight, piecesWeight, h.wordsOf_eq]

/-! ## Whole texts -/

theorem parseAll_tokens {α : Type} {p : Rules → Parser α} {text : String} {result : α}
    (h : parseAll p text = .ok result) :
    ∃ tokens, tokenize? text.toList = some tokens
      ∧ p (Grammar.rulesFor tokens) tokens = some (result, []) := by
  unfold parseAll at h
  split at h
  · cases h
  · rename_i tokens htokens
    split at h
    · rename_i found hrun
      split at h
      · cases h
      · cases h
        exact ⟨tokens, htokens, hrun⟩
    · cases h

theorem soleLine_tokens {α : Type} {p : Parser α} {tokens : List Token} {result : α}
    (h : soleLine p tokens = some (result, [])) :
    ∃ above inside tail footer, tokens = .lineStart above :: inside
      ∧ p inside = some (result, [.lineEnd tail, .finish footer]) := by
  cases tokens with
  | nil => cases h
  | cons token inside =>
    cases token with
    | lineStart above =>
      obtain ⟨⟨found, left⟩, hrun, hend⟩ := Option.bind_eq_some_iff.1
        (show (p inside).bind _ = some (result, []) from h)
      rcases left with _ | ⟨last, _ | ⟨finish, _ | ⟨next, rest⟩⟩⟩
      · cases hend
      · cases last <;> cases hend
      · cases last <;> cases finish <;> cases hend
        exact ⟨above, inside, _, _, rfl, hrun⟩
      · cases last <;> cases finish <;> cases hend
    | _ => cases h

/-- The tokens of a text that is one expression are a line of the expression's pieces. -/
theorem Expr.parse_spells {text : String} {e : Expr} (h : Expr.parse text = .ok e) :
    ∃ above gap taken tail footer,
      tokenize? text.toList = some (.lineStart above :: (taken ++ [.lineEnd tail, .finish footer]))
        ∧ Spells (e.pieces gap) taken := by
  obtain ⟨tokens, htokens, hrun⟩ := parseAll_tokens h
  obtain ⟨above, inside, tail, footer, rfl, hline⟩ := soleLine_tokens hrun
  have hyields : Yields (Prod.snd <$> Grammar.starExpressions
      (Grammar.rulesFor (.lineStart above :: inside))) fun e taken =>
        ∃ gap, Spells (e.pieces gap) taken :=
    (Grammar.spells_starExpressions (Grammar.spelled_rulesFor _)).map
      fun placed taken hplaced => ⟨placed.1, hplaced⟩
  obtain ⟨taken, rfl, gap, hspells⟩ := hyields _ _ _ hline
  exact ⟨above, gap, taken, tail, footer, htokens, hspells⟩

/-- A text is at least as long as the expression it is read as. -/
theorem Expr.weight_le_of_parse {text : String} {e : Expr} (h : Expr.parse text = .ok e) :
    e.weight ≤ text.length := by
  obtain ⟨above, gap, taken, tail, footer, htokens, hspells⟩ := Expr.parse_spells h
  have hweight := (tokenize?_areTokens htokens).weight
  have hlayout : wordsWeight (.lineStart above :: (taken ++ [.lineEnd tail, .finish footer]))
      = wordsWeight taken := by
    simp [wordsWeight, Parser.wordsOf]
  rw [hlayout, hspells.wordsWeight_eq, Expr.piecesWeight_eq] at hweight
  simpa [String.length_toList] using hweight

end ModelMetadata.Source
