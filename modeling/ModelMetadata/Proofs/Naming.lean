import ModelMetadata.Proofs.Dotting
import ModelMetadata.Proofs.FreeNames
import ModelMetadata.Proofs.Reading
import ModelMetadata.Shape

/-!
Names in expressions that were read. Where a text is read, identifiers stand wherever a tree holds a
name; so they do in the parts of the expression, and a dotted name that it spells is one of identifiers.
-/
set_option autoImplicit false
namespace ModelMetadata

open Source

namespace Source

/-! ## Pieces -/

def Named (pieces : List Piece) : Prop :=
  ∀ gap text, Piece.ident gap text ∈ pieces → Text.isIdentifier text.toList = true

namespace Named

variable {pieces more : List Piece} {gap : Gap} {text : String}

@[simp] theorem nil : Named [] := by simp [Named]

@[simp] theorem append : Named (pieces ++ more) ↔ Named pieces ∧ Named more := by
  simp [Named, or_imp, forall_and]

@[simp] theorem mark_cons : Named (.mark gap text :: pieces) ↔ Named pieces := by
  simp [Named, Piece.mark, Piece.ident]

@[simp] theorem ident_cons :
    Named (.ident gap text :: pieces) ↔ Text.isIdentifier text.toList = true ∧ Named pieces := by
  simp only [Named, Piece.ident, List.mem_cons]
  refine ⟨fun h => ⟨h gap text (.inl rfl), fun gap text hmem => h gap text (.inr hmem)⟩, ?_⟩
  rintro ⟨hname, hpieces⟩ gap' text' (heq | hmem)
  · cases heq
    exact hname
  · exact hpieces gap' text' hmem

/-- Pieces are spelled by tokens whose names are identifiers. -/
theorem of_spells {taken : List Token} (h : Spells pieces taken)
    (hnames : ∀ word, Token.word .name word ∈ taken → Text.isIdentifier word.text.toList = true) :
    Named pieces := by
  induction h with
  | nil => exact nil
  | cons hfits _ ih =>
    intro gap text hmem
    obtain heq | hmem := List.mem_cons.1 hmem
    · cases hfits with
      | unknown kind word => cases heq
      | known kind word =>
        cases heq
        exact hnames _ List.mem_cons_self
    · exact ih (fun word hword => hnames word (List.mem_cons_of_mem _ hword)) gap text hmem

end Named

/-! ## Expressions -/

def Expr.WellNamed (e : Expr) : Prop := ∃ gap, Named (e.pieces gap)

theorem Part.wellNamed {parts : List Part} {gap : Gap} (h : Named (Part.pieces gap parts)) :
    ∀ e ∈ Part.exprs parts, e.WellNamed := by
  induction parts generalizing gap with
  | nil => exact fun _ he => nomatch he
  | cons part rest ih =>
    cases part with
    | word word => exact ih (Named.mark_cons.1 h)
    | expr inner e =>
      obtain ⟨he, hrest⟩ := Named.append.1 h
      exact List.forall_mem_cons.2 ⟨⟨_, he⟩, ih hrest⟩

theorem Item.wellNamed {item : Item} {gap : Gap} (h : Named (item.pieces gap)) :
    ∀ e ∈ item.exprs, e.WellNamed := by
  cases item with
  | value e => exact List.forall_mem_singleton.2 ⟨_, h⟩
  | star stars inner e => exact List.forall_mem_singleton.2 ⟨_, Named.mark_cons.1 h⟩
  | keyword name beforeEq afterEq e =>
    exact List.forall_mem_singleton.2 ⟨_, Named.mark_cons.1 (Named.ident_cons.1 h).2⟩
  | pair key beforeColon afterColon e =>
    obtain ⟨hkey, h⟩ := Named.append.1 h
    exact List.forall_mem_cons.2
      ⟨⟨_, hkey⟩, List.forall_mem_singleton.2 ⟨_, Named.mark_cons.1 h⟩⟩
  | slice parts => exact Part.wellNamed h

theorem Entry.wellNamed {entries : List Entry} {gap : Gap} (h : Named (Entry.pieces gap entries)) :
    ∀ e ∈ Entry.exprs entries, e.WellNamed := by
  induction entries generalizing gap with
  | nil => exact fun _ he => nomatch he
  | cons entry rest ih =>
    obtain ⟨before, item, comma⟩ := entry
    simp only [Entry.pieces, Named.append] at h
    rw [Entry.exprs, List.flatMap_cons]
    exact List.forall_mem_append.2 ⟨Item.wellNamed h.1.1, ih h.2⟩

namespace Expr.WellNamed

variable {e : Expr}

theorem name {text : String} (h : Text.isIdentifier text.toList = true) : (Expr.name text).WellNamed :=
  ⟨[], by simpa [Expr.pieces] using h⟩

/-- The parts of a well named expression are well named. -/
theorem part (h : e.WellNamed) : ∀ part ∈ e.parts, part.WellNamed := by
  obtain ⟨gap, h⟩ := h
  cases e <;>
    simp only [Expr.pieces, List.cons_append, Named.mark_cons, Named.append, Named.nil, and_true] at h <;>
    simp only [Expr.parts, List.forall_mem_cons]
  case adjacent => exact ⟨⟨_, h.1⟩, ⟨_, h.2⟩, List.forall_mem_nil _⟩
  case «attribute» => exact ⟨⟨_, h.1⟩, List.forall_mem_nil _⟩
  case subscript => exact ⟨⟨_, h.1⟩, Entry.wellNamed h.2⟩
  case call => exact ⟨⟨_, h.1⟩, Entry.wellNamed h.2⟩
  case unary => exact ⟨⟨_, h⟩, List.forall_mem_nil _⟩
  case binary => exact ⟨⟨_, h.1⟩, ⟨_, h.2⟩, List.forall_mem_nil _⟩
  case list => exact Entry.wellNamed h
  case set => exact Entry.wellNamed h
  case dict => exact Entry.wellNamed h
  case tuple => exact Entry.wellNamed h
  case paren => exact ⟨⟨_, h⟩, List.forall_mem_nil _⟩
  case compound => exact Part.wellNamed h
  all_goals exact List.forall_mem_nil _

/-- What an expression spells is a name of identifiers with dots between them, or nothing. -/
theorem isDottedName (h : e.WellNamed) (hname : e.dottedName ≠ "") : IsDottedName e.dottedName := by
  obtain ⟨gap, h⟩ := h
  fun_induction Expr.dottedName e generalizing gap with
  | case1 text => exact .ofIdentifier (Named.ident_cons.1 h).1
  | case2 owner before after attr base hempty => exact absurd rfl hname
  | case3 owner before after attr base hempty ih =>
    simp only [Expr.pieces, Named.append, Named.mark_cons, Named.ident_cons] at h
    exact (ih (by simpa using hempty) gap h.1).member h.2.1
  | case4 before inner close ih =>
    simp only [Expr.pieces, List.cons_append, Named.mark_cons, Named.append] at h
    exact ih hname _ h.1
  | case5 => exact absurd rfl hname

/-- The names of an expression that is a whole text are identifiers. -/
theorem of_parse {text : String} (h : Expr.parse text = .ok e) : e.WellNamed := by
  obtain ⟨above, gap, taken, tail, footer, htokens, hspells⟩ := Expr.parse_spells h
  refine ⟨gap, .of_spells hspells fun word hword => ?_⟩
  exact (tokenize?_areTokens htokens).identifiers word (by simp [hword])

end Expr.WellNamed

end Source
end ModelMetadata
