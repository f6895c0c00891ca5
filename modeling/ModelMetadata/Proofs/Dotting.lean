import Mathlib
import ModelMetadata.Text.Dotted
import ModelMetadata.Text.Identifier

/-!
Dotted names of identifiers. No identifier holds a dot, so the pieces that are joined are the pieces
that are found again.
-/
set_option autoImplicit false
namespace ModelMetadata

namespace Text

theorem isIdentifierPart_of_mem {text : List Char} (h : isIdentifier text = true) {c : Char}
    (hc : c ∈ text) : isIdentifierPart c = true := by
  cases text with
  | nil => cases hc
  | cons first rest =>
    simp only [isIdentifier, Bool.and_eq_true] at h
    obtain rfl | hc := List.mem_cons.1 hc
    · simp only [isIdentifierPart, h.1, Bool.true_or]
    · exact List.all_eq_true.1 h.2 c hc

theorem not_mem_of_isIdentifier {text : List Char} (h : isIdentifier text = true) {c : Char}
    (hc : isIdentifierPart c = false) : c ∉ text := by
  intro hmem
  have hpart := isIdentifierPart_of_mem h hmem
  rw [hc] at hpart
  cases hpart

theorem ne_nil_of_isIdentifier {text : List Char} (h : isIdentifier text = true) : text ≠ [] := by
  rintro rfl
  cases h

theorem isEmpty_of_isIdentifier {name : String} (h : isIdentifier name.toList = true) :
    name.isEmpty = false := by
  refine Bool.eq_false_iff.2 fun hempty => ?_
  rw [String.isEmpty_iff.1 hempty] at h
  cases h

theorem splitAt_of_not_mem {mark : Char} {text : List Char} (h : mark ∉ text) :
    splitAt mark text = [text] := by
  have hgo (piece : List Char) : splitAt.go mark piece text = [piece.reverse ++ text] := by
    induction text generalizing piece with
    | nil => simp [splitAt.go]
    | cons c rest ih =>
      obtain ⟨hc, hrest⟩ := not_or.1 (mt List.mem_cons.2 h)
      rw [splitAt.go, if_neg (Ne.symm hc), ih hrest]
      simp
  exact hgo []

theorem splitAt_append {mark : Char} {text : List Char} (h : mark ∉ text) (rest : List Char) :
    splitAt mark (text ++ mark :: rest) = text :: splitAt mark rest := by
  have hgo (piece : List Char) : splitAt.go mark piece (text ++ mark :: rest)
      = (piece.reverse ++ text) :: splitAt mark rest := by
    induction text generalizing piece with
    | nil => simp [splitAt.go, splitAt]
    | cons c text ih =>
      obtain ⟨hc, htext⟩ := not_or.1 (mt List.mem_cons.2 h)
      rw [List.cons_append, splitAt.go, if_neg (Ne.symm hc), ih htext]
      simp
  exact hgo []

/-- Pieces that are joined by a mark that none of them holds are found again. -/
theorem splitAt_intercalate {mark : Char} {between : String} (hbetween : between.toList = [mark])
    {pieces : List String} (hne : pieces ≠ []) (h : ∀ piece ∈ pieces, mark ∉ piece.toList) :
    (splitAt mark (between.intercalate pieces).toList).map String.ofList = pieces := by
  induction pieces with
  | nil => exact absurd rfl hne
  | cons piece rest ih =>
    obtain ⟨hpiece, hrest⟩ := List.forall_mem_cons.1 h
    by_cases hlast : rest = []
    · simp [hlast, splitAt_of_not_mem hpiece]
    · have hmore := ih hlast hrest
      have htext : (between.intercalate (piece :: rest)).toList
          = piece.toList ++ mark :: (between.intercalate rest).toList := by
        rw [String.intercalate_cons_of_ne_nil hlast]
        simp [hbetween]
      rw [htext, splitAt_append hpiece, List.map_cons, hmore, String.ofList_toList]

theorem splitAt_ne_nil (mark : Char) (text : List Char) : splitAt mark text ≠ [] := by
  have hgo (piece : List Char) : splitAt.go mark piece text ≠ [] := by
    induction text generalizing piece with
    | nil => exact List.cons_ne_nil _ _
    | cons c rest ih =>
      unfold splitAt.go
      split
      · exact List.cons_ne_nil _ _
      · exact ih _
  exact hgo []

/-! ## Characters of pieces -/

theorem mem_intercalate {between : String} {pieces : List String} {c : Char}
    (h : c ∈ (between.intercalate pieces).toList) :
    c ∈ between.toList ∨ ∃ piece ∈ pieces, c ∈ piece.toList := by
  induction pieces with
  | nil => simp at h
  | cons piece rest ih =>
    by_cases hrest : rest = []
    · subst hrest
      exact .inr ⟨piece, List.mem_cons_self, by simpa using h⟩
    · rw [String.intercalate_cons_of_ne_nil hrest, String.toList_append, String.toList_append,
        List.mem_append, List.mem_append] at h
      rcases h with (h | h) | h
      · exact .inr ⟨piece, List.mem_cons_self, h⟩
      · exact .inl h
      · rcases ih h with hbetween | ⟨other, hother, hc⟩
        · exact .inl hbetween
        · exact .inr ⟨other, List.mem_cons_of_mem piece hother, hc⟩

theorem mem_of_mem_splitAt {mark : Char} {text piece : List Char} (h : piece ∈ splitAt mark text)
    {c : Char} (hc : c ∈ piece) : c ∈ text := by
  have hgo (start text : List Char) (h : piece ∈ splitAt.go mark start text) :
      c ∈ start ∨ c ∈ text := by
    induction text generalizing start with
    | nil =>
      obtain rfl := List.mem_singleton.1 h
      exact .inl (List.mem_reverse.1 hc)
    | cons d rest ih =>
      rw [splitAt.go] at h
      split at h
      · rcases List.mem_cons.1 h with rfl | h
        · exact .inl (List.mem_reverse.1 hc)
        · rcases ih [] h with hnil | hrest
          · cases hnil
          · exact .inr (List.mem_cons_of_mem d hrest)
      · rcases ih (d :: start) h with hstart | hrest
        · rcases List.mem_cons.1 hstart with rfl | hstart
          · exact .inr List.mem_cons_self
          · exact .inl hstart
        · exact .inr (List.mem_cons_of_mem d hrest)
  exact (hgo [] text h).resolve_left List.not_mem_nil

theorem not_mem_of_mem_splitAt {mark : Char} {text piece : List Char} (h : piece ∈ splitAt mark text) :
    mark ∉ piece := by
  have hgo (start text : List Char) (hstart : mark ∉ start) (h : piece ∈ splitAt.go mark start text) :
      mark ∉ piece := by
    induction text generalizing start with
    | nil =>
      obtain rfl := List.mem_singleton.1 h
      simpa using hstart
    | cons c rest ih =>
      rw [splitAt.go] at h
      split at h
      · rcases List.mem_cons.1 h with rfl | h
        · simpa using hstart
        · exact ih [] List.not_mem_nil h
      · rename_i hc
        exact ih (c :: start) (by simp [hstart, Ne.symm hc]) h
  exact hgo [] text List.not_mem_nil h

end Text

/-- A piece of a dotted name holds no dot. -/
theorem dotPieces_of_mem {dotted piece : String} (h : piece ∈ dotPieces dotted) :
    dotPieces piece = [piece] := by
  obtain ⟨chars, hchars, rfl⟩ := List.mem_map.1 h
  simp [dotPieces, Text.splitAt_of_not_mem (Text.not_mem_of_mem_splitAt hchars)]

theorem dotPieces_of_isIdentifier {name : String} (h : Text.isIdentifier name.toList = true) :
    dotPieces name = [name] := by
  have hdot : '.' ∉ name.toList := Text.not_mem_of_isIdentifier h (by decide)
  simp [dotPieces, Text.splitAt_of_not_mem hdot]

theorem joinDots_cons (piece next : String) (rest : List String) :
    joinDots (piece :: next :: rest) = piece ++ "." ++ joinDots (next :: rest) :=
  String.intercalate_cons_cons

theorem joinDots_concat {pieces : List String} (hne : pieces ≠ []) (last : String) :
    joinDots (pieces ++ [last]) = joinDots pieces ++ "." ++ last := by
  induction pieces with
  | nil => exact absurd rfl hne
  | cons piece rest ih =>
    cases rest with
    | nil => exact joinDots_cons piece last []
    | cons next rest =>
      rw [List.cons_append, List.cons_append, joinDots_cons, joinDots_cons, ← List.cons_append,
        ih (List.cons_ne_nil next rest)]
      simp only [String.append_assoc]

/-- A dotted name with further names after it. -/
theorem joinDots_joinDots {pieces : List String} (hne : pieces ≠ []) (rest : List String) :
    joinDots (joinDots pieces :: rest) = joinDots (pieces ++ rest) := by
  induction rest using List.reverseRecOn with
  | nil => simp [joinDots]
  | append_singleton rest last ih =>
    rw [← List.cons_append, joinDots_concat (List.cons_ne_nil _ _), ih, ← List.append_assoc,
      joinDots_concat (by simp [hne])]

/-- Names with a dotted name at their end. -/
theorem joinDots_append_joinDots (pieces : List String) {names : List String} (hne : names ≠ []) :
    joinDots (pieces ++ [joinDots names]) = joinDots (pieces ++ names) := by
  obtain ⟨name, rest, rfl⟩ := List.exists_cons_of_ne_nil hne
  induction pieces with
  | nil => exact String.intercalate_singleton
  | cons piece others ih =>
    cases others with
    | nil =>
      change joinDots [piece, joinDots (name :: rest)] = joinDots (piece :: name :: rest)
      rw [joinDots_cons, joinDots_cons]
      exact congrArg (piece ++ "." ++ ·) ih
    | cons next more =>
      change joinDots (piece :: next :: (more ++ [joinDots (name :: rest)]))
        = joinDots (piece :: next :: (more ++ name :: rest))
      rw [joinDots_cons, joinDots_cons]
      exact congrArg (piece ++ "." ++ ·) ih

theorem dotPieces_joinDots_of_plain {pieces : List String} (hne : pieces ≠ [])
    (h : ∀ piece ∈ pieces, '.' ∉ piece.toList) : dotPieces (joinDots pieces) = pieces :=
  Text.splitAt_intercalate (by decide) hne h

theorem dotPieces_joinDots {pieces : List String} (hne : pieces ≠ [])
    (h : ∀ piece ∈ pieces, Text.isIdentifier piece.toList = true) :
    dotPieces (joinDots pieces) = pieces :=
  dotPieces_joinDots_of_plain hne fun piece hpiece =>
    Text.not_mem_of_isIdentifier (h piece hpiece) (by decide)

theorem isEmpty_joinDots_cons {name : String} (h : name ≠ "") (rest : List String) :
    (joinDots (name :: rest)).isEmpty = false := by
  refine Bool.eq_false_iff.2 fun hempty => h ?_
  have hnone := String.isEmpty_iff.1 hempty
  cases rest with
  | nil => exact String.intercalate_singleton.symm.trans hnone
  | cons next more =>
    rw [joinDots_cons, String.append_eq_empty_iff, String.append_eq_empty_iff] at hnone
    exact hnone.1.1

theorem isEmpty_joinDots {pieces : List String} (hne : pieces ≠ [])
    (h : ∀ piece ∈ pieces, Text.isIdentifier piece.toList = true) : (joinDots pieces).isEmpty = false := by
  obtain ⟨name, rest, rfl⟩ := List.exists_cons_of_ne_nil hne
  refine isEmpty_joinDots_cons (fun hempty => ?_) rest
  have hname := h name List.mem_cons_self
  rw [hempty] at hname
  cases hname

theorem joinDots_dotPieces (dotted : String) : joinDots (dotPieces dotted) = dotted := by
  have hgo (piece text : List Char) :
      (joinDots ((Text.splitAt.go '.' piece text).map String.ofList)).toList = piece.reverse ++ text := by
    induction text generalizing piece with
    | nil => simp [Text.splitAt.go, joinDots]
    | cons c rest ih =>
      unfold Text.splitAt.go
      split
      · rename_i hmark
        have hrest := ih []
        obtain ⟨next, more, hpieces⟩ := List.exists_cons_of_ne_nil (Text.splitAt_ne_nil '.' rest)
        change Text.splitAt.go '.' [] rest = next :: more at hpieces
        rw [hpieces, List.map_cons] at hrest ⊢
        rw [List.map_cons, joinDots_cons]
        simp [hrest, hmark]
      · rw [ih]
        simp
  exact String.toList_injective (hgo [] dotted.toList)

/-- Dotted names are told apart by their pieces. -/
theorem dotPieces_injective {dotted other : String} (h : dotPieces dotted = dotPieces other) :
    dotted = other := by
  rw [← joinDots_dotPieces dotted, h, joinDots_dotPieces]

/-- A dotted name that begins with a name is not empty. -/
theorem isEmpty_of_dotPieces {dotted name : String} {rest : List String} (hname : name.isEmpty = false)
    (h : dotPieces dotted = name :: rest) : dotted.isEmpty = false := by
  refine Bool.eq_false_iff.2 fun hempty => ?_
  rw [String.isEmpty_iff.1 hempty] at h
  obtain rfl : "" = name := (List.cons.inj h).1
  cases hname

/-! ## Dotted names -/

def IsDottedName (name : String) : Prop :=
  ∃ pieces, pieces ≠ [] ∧ (∀ piece ∈ pieces, Text.isIdentifier piece.toList = true)
    ∧ name = joinDots pieces

namespace IsDottedName

theorem ofPieces {pieces : List String} (hne : pieces ≠ [])
    (h : ∀ piece ∈ pieces, Text.isIdentifier piece.toList = true) : IsDottedName (joinDots pieces) :=
  ⟨pieces, hne, h, rfl⟩

theorem ofIdentifier {name : String} (h : Text.isIdentifier name.toList = true) :
    IsDottedName name :=
  ⟨[name], by simp, by simpa using h, rfl⟩

/-- The pieces of a dotted name are identifiers. -/
theorem isIdentifier_of_mem {name piece : String} (h : IsDottedName name)
    (hpiece : piece ∈ dotPieces name) : Text.isIdentifier piece.toList = true := by
  obtain ⟨pieces, hne, hall, rfl⟩ := h
  rw [dotPieces_joinDots hne hall] at hpiece
  exact hall piece hpiece

theorem member {name attr : String} (h : IsDottedName name)
    (hattr : Text.isIdentifier attr.toList = true) : IsDottedName (name ++ "." ++ attr) := by
  obtain ⟨pieces, hne, hall, rfl⟩ := h
  exact ⟨pieces ++ [attr], by simp, by simpa [or_imp, forall_and] using ⟨hall, hattr⟩,
    (joinDots_concat hne attr).symm⟩

end IsDottedName

end ModelMetadata
