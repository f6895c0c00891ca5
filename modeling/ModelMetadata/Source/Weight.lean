import ModelMetadata.Source.Expr

/-!
The weight of an expression: the number of characters of its tokens. Every part of a bracketed or
operated form weighs less than the whole, and what stands inside quotes weighs less than the quoted
text. Both facts bound walks through annotations.
-/
set_option autoImplicit false
namespace ModelMetadata.Source

def Word.weight (word : Word) : Nat := word.text.length

def Word.weightAll : List Word → Nat
  | [] => 0
  | word :: rest => word.weight + Word.weightAll rest

mutual

def Expr.weight : Expr → Nat
  | .name text | .integer text | .float text | .imaginary text | .string text => text.length
  | .ellipsis => 3
  | .adjacent first _ rest => first.weight + rest.weight
  | .attribute owner _ _ attr => owner.weight + attr.length + 1
  | .subscript owner _ entries _ => owner.weight + Entry.weightAll entries + 2
  | .call callee _ entries _ => callee.weight + Entry.weightAll entries + 2
  | .unary op _ operand => op.length + operand.weight
  | .binary left _ op _ right => left.weight + op.length + right.weight
  | .list entries _ | .set entries _ | .dict entries _ => Entry.weightAll entries + 2
  | .tuple entries => Entry.weightAll entries
  | .lambda header _ body => Word.weightAll header + body.weight
  | .paren _ inner _ => inner.weight + 2
  | .compound parts => Part.weightAll parts

def Entry.weightAll : List Entry → Nat
  | [] => 0
  | .mk _ item comma :: rest =>
    item.weight + (if comma.isSome then 1 else 0) + Entry.weightAll rest

def Item.weight : Item → Nat
  | .value e => e.weight
  | .star stars _ e => stars.length + e.weight
  | .keyword name _ _ e => name.length + 1 + e.weight
  | .pair key _ _ e => key.weight + 1 + e.weight
  | .slice parts => Part.weightAll parts

def Part.weightAll : List Part → Nat
  | [] => 0
  | .word word :: rest => word.weight + Part.weightAll rest
  | .expr _ e :: rest => e.weight + Part.weightAll rest

end

@[simp] theorem Word.weightAll_append (words more : List Word) :
    Word.weightAll (words ++ more) = Word.weightAll words + Word.weightAll more := by
  induction words with
  | nil => simp [Word.weightAll]
  | cons word rest ih => simp only [List.cons_append, Word.weightAll, ih]; omega

theorem Item.weight_of_index {item : Item} {e : Expr} (h : item.index? = some e) :
    e.weight ≤ item.weight := by
  cases item <;> simp [Item.index?] at h <;> subst h <;> simp [Item.weight]

theorem Item.weight_of_keyword {item : Item} {name : String} {e : Expr}
    (h : item.keyword? = some (name, e)) : e.weight ≤ item.weight := by
  cases item <;> simp [Item.keyword?] at h
  obtain ⟨rfl, rfl⟩ := h
  simp [Item.weight]

theorem Entry.weight_le_weightAll {entries : List Entry} {entry : Entry} (h : entry ∈ entries) :
    entry.item.weight ≤ Entry.weightAll entries := by
  induction entries with
  | nil => simp at h
  | cons first rest ih =>
    obtain ⟨before, item, comma⟩ := first
    simp only [Entry.weightAll]
    rcases List.mem_cons.1 h with rfl | h
    · simp only [Entry.item]; omega
    · have := ih h
      omega

theorem Entry.weight_le_of_mem_indices {entries : List Entry} {e : Expr}
    (h : e ∈ Entry.indices entries) : e.weight ≤ Entry.weightAll entries := by
  obtain ⟨entry, hm, hi⟩ := List.mem_filterMap.1 h
  exact Nat.le_trans (Item.weight_of_index hi) (Entry.weight_le_weightAll hm)

theorem Entry.weight_le_of_mem_keywords {entries : List Entry} {name : String} {e : Expr}
    (h : (name, e) ∈ Entry.keywords entries) : e.weight ≤ Entry.weightAll entries := by
  obtain ⟨entry, hm, hi⟩ := List.mem_filterMap.1 h
  exact Nat.le_trans (Item.weight_of_keyword hi) (Entry.weight_le_weightAll hm)

theorem Expr.weight_lt_subscript {e owner : Expr} {before close : Gap} {entries : List Entry}
    (h : e ∈ Entry.indices entries) :
    e.weight < (Expr.subscript owner before entries close).weight := by
  have := Entry.weight_le_of_mem_indices h
  simp only [Expr.weight]
  omega

theorem length_bar : "|".length = 1 := rfl

theorem Expr.weight_bare_le (e : Expr) : e.bare.weight ≤ e.weight := by
  fun_induction Expr.bare e with
  | case1 _ inner _ ih => simp only [Expr.weight]; omega
  | case2 => exact Nat.le_refl _

end ModelMetadata.Source
