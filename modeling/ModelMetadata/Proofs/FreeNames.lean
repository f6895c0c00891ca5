import Mathlib
import ModelMetadata.Descriptor.Basic
import ModelMetadata.Source.Parser.Expr

/-!
Free names. An expression is evaluated where it stands, but the names that a function or a comprehension
binds are looked up in a scope of its own; a named expression binds its name in the function around it,
out of any comprehension. What is copied from a class body reads none of the names in the set that it was
checked against, except in the defaults of functions: those are evaluated where the function is written,
but the check passes over them.
-/
set_option autoImplicit false
namespace ModelMetadata

open Source

namespace Source

/-! ## Parameters -/

/-- A parameter: its form, the name that it binds and its default. -/
structure Binder where
  form : Grammar.Parameter
  name : Option String := none
  default : Option Expr := none

namespace Grammar

open ModelMetadata.Source.Parser

def binder (rules : Rules) : Parser Binder := do
  match ← oneOf? ["/", "*", "**"] with
  | some op =>
    if op.text == "/" then return { form := .slash }
    else if op.text == "**" then
      let bound ← name
      return { form := .doubleStar, name := some bound.text }
    else
      match ← attempt name with
      | some bound => return { form := .starName, name := some bound.text }
      | none => return { form := .star }
  | none =>
    let bound ← name
    match ← mark? "=" with
    | some _ =>
      let (_, e) ← rules .expression
      return { form := .defaulted, name := some bound.text, default := some e }
    | none => return { form := .plain, name := some bound.text }

def binders (rules : Rules) (closer : String) : Nat → Parser (List Binder)
  | 0 => failure
  | fuel + 1 => do
    if ← isNext closer then return []
    let first ← binder rules
    match ← mark? "," with
    | some _ => return first :: (← binders rules closer fuel)
    | none => if ← isNext closer then return [first] else failure

/-- A parameter is read as the grammar reads it. -/
theorem form_binder (rules : Rules) : Binder.form <$> binder rules = parameter rules false := by
  unfold binder parameter typeHint
  rw [map_bind]
  refine bind_congr fun op? => ?_
  cases op? with
  | none =>
    simp only [map_bind, Bool.false_eq_true, if_false]
    refine bind_congr fun bound => ?_
    rw [pure_bind]
    refine bind_congr fun equals? => ?_
    cases equals? with
    | none => exact map_pure _ _
    | some equals => simp only [map_bind, map_pure]
  | some op =>
    dsimp only
    split
    · exact map_pure _ _
    split
    · simp only [map_bind, map_pure, Bool.false_eq_true, if_false, pure_bind]
    · rw [map_bind]
      refine bind_congr fun bound? => ?_
      cases bound? with
      | none => exact map_pure _ _
      | some bound => simp only [map_pure, Bool.false_eq_true, if_false, pure_bind]

theorem forms_binders (rules : Rules) (closer : String) (fuel : Nat) :
    List.map Binder.form <$> binders rules closer fuel
      = parameters.loop rules false closer fuel := by
  induction fuel with
  | zero => rfl
  | succ fuel ih =>
    rw [binders, parameters.loop, map_bind]
    refine bind_congr fun atCloser => ?_
    split
    · exact map_pure _ _
    rw [← form_binder, map_bind, bind_map_left]
    refine bind_congr fun first => ?_
    rw [map_bind]
    refine bind_congr fun comma? => ?_
    cases comma? with
    | some comma =>
      dsimp only
      rw [← ih, map_bind, bind_map_left]
      simp only [map_pure, List.map_cons]
    | none =>
      rw [map_bind]
      refine bind_congr fun atCloser => ?_
      split
      · exact map_pure _ _
      · rfl

end Grammar

/-- The parameters in the header of a function, which runs from the keyword to the colon. -/
def binders (header : List Word) : List Binder :=
  let read (rules : Rules) : Parser (List Binder) := do
    let _ ← Parser.mark "("
    let _ ← Parser.mark "lambda"
    let found ← Grammar.binders rules ":" ((← get).length + 1)
    let _ ← Parser.mark ":"
    let _ ← Parser.mark ")"
    return found
  (parseAll (fun rules => soleLine (read rules)) ("(" ++ Word.renderAll {} header ++ ")")).toOption.getD []

def boundBy (header : List Word) : List String := (binders header).filterMap Binder.name

def defaultsOf (header : List Word) : List Expr := (binders header).filterMap Binder.default

/-- `lambda *a, b=c(0):` -/
example : let header : List Word :=
    [⟨[], "lambda"⟩, ⟨Gap.space, "*"⟩, ⟨[], "a"⟩, ⟨[], ","⟩, ⟨Gap.space, "b"⟩, ⟨[], "="⟩, ⟨[], "c"⟩,
      ⟨[], "("⟩, ⟨[], "0"⟩, ⟨[], ")"⟩, ⟨[], ":"⟩]
    (boundBy header, (defaultsOf header).map Expr.text) = (["a", "b"], ["c(0)"]) := by
  cbv

/-! ## Targets -/

mutual

def Expr.targetNames : Expr → List String
  | .name text => [text]
  | .paren _ inner _ => inner.targetNames
  | .tuple entries => Entry.targetNames entries
  | .list entries _ => Entry.targetNames entries
  | _ => []

def Entry.targetNames : List Entry → List String
  | [] => []
  | .mk _ (.value e) _ :: rest => e.targetNames ++ Entry.targetNames rest
  | .mk _ (.star _ _ e) _ :: rest => e.targetNames ++ Entry.targetNames rest
  | _ :: rest => Entry.targetNames rest

end

/-! ## Parts -/

def Part.exprs : List Part → List Expr
  | [] => []
  | .word _ :: rest => Part.exprs rest
  | .expr _ e :: rest => e :: Part.exprs rest

def Item.exprs : Item → List Expr
  | .value e => [e]
  | .star _ _ e => [e]
  | .keyword _ _ _ e => [e]
  | .pair key _ _ e => [key, e]
  | .slice parts => Part.exprs parts

def Entry.exprs (entries : List Entry) : List Expr := entries.flatMap fun entry => entry.item.exprs

theorem Entry.mem_exprs_of_mem_indices {entries : List Entry} {e : Expr}
    (h : e ∈ Entry.indices entries) : e ∈ Entry.exprs entries := by
  obtain ⟨entry, hentry, he⟩ := List.mem_filterMap.1 h
  refine List.mem_flatMap.2 ⟨entry, hentry, ?_⟩
  obtain ⟨before, item, comma⟩ := entry
  cases item <;> cases he <;> exact List.mem_singleton_self _

theorem Entry.mem_exprs_of_mem_positional {entries : List Entry} {e : Expr}
    (h : e ∈ Entry.positional entries) : e ∈ Entry.exprs entries := by
  obtain ⟨entry, hentry, he⟩ := List.mem_filterMap.1 h
  refine List.mem_flatMap.2 ⟨entry, hentry, ?_⟩
  obtain ⟨before, item, comma⟩ := entry
  cases item <;> cases he
  exact List.mem_singleton_self _

theorem Entry.mem_exprs_of_mem_keywords {entries : List Entry} {name : String} {e : Expr}
    (h : (name, e) ∈ Entry.keywords entries) :
    e ∈ Entry.exprs entries := by
  obtain ⟨entry, hentry, he⟩ := List.mem_filterMap.1 h
  refine List.mem_flatMap.2 ⟨entry, hentry, ?_⟩
  obtain ⟨before, item, comma⟩ := entry
  cases item <;> cases he
  exact List.mem_singleton_self _

/-- The expressions that an expression is made of, those of a function aside. -/
def Expr.parts : Expr → List Expr
  | .name _ | .integer _ | .float _ | .imaginary _ | .ellipsis | .string _ => []
  | .adjacent first _ rest => [first, rest]
  | .attribute owner _ _ _ => [owner]
  | .subscript owner _ entries _ => owner :: Entry.exprs entries
  | .call callee _ entries _ => callee :: Entry.exprs entries
  | .unary _ _ operand => [operand]
  | .binary left _ _ _ right => [left, right]
  | .list entries _ => Entry.exprs entries
  | .set entries _ => Entry.exprs entries
  | .dict entries _ => Entry.exprs entries
  | .tuple entries => Entry.exprs entries
  | .lambda _ _ _ => []
  | .paren _ inner _ => [inner]
  | .compound parts => Part.exprs parts

theorem Part.sizeOf_lt_of_mem_exprs {parts : List Part} {e : Expr} (h : e ∈ Part.exprs parts) :
    sizeOf e < sizeOf parts := by
  induction parts with
  | nil => cases h
  | cons part rest ih =>
    cases part with
    | word word =>
      have hrest := ih h
      simp only [List.cons.sizeOf_spec]
      omega
    | expr gap inner =>
      simp only [List.cons.sizeOf_spec, Part.expr.sizeOf_spec]
      obtain rfl | h := List.mem_cons.1 h
      · omega
      · have hrest := ih h
        omega

theorem Item.sizeOf_lt_of_mem_exprs {item : Item} {e : Expr} (h : e ∈ item.exprs) :
    sizeOf e < sizeOf item := by
  cases item with
  | slice parts =>
    have hparts := Part.sizeOf_lt_of_mem_exprs h
    simp only [Item.slice.sizeOf_spec]
    omega
  | _ =>
    simp only [Item.exprs, List.mem_cons, List.not_mem_nil, or_false] at h
    rcases h with rfl | rfl <;> simp +arith

theorem Entry.sizeOf_lt_of_mem_exprs {entries : List Entry} {e : Expr} (h : e ∈ Entry.exprs entries) :
    sizeOf e < sizeOf entries := by
  obtain ⟨entry, hentry, he⟩ := List.mem_flatMap.1 h
  have hlt := List.sizeOf_lt_of_mem hentry
  obtain ⟨before, item, comma⟩ := entry
  have hitem : sizeOf e < sizeOf item := Item.sizeOf_lt_of_mem_exprs he
  simp only [Entry.mk.sizeOf_spec] at hlt
  omega

/-- A part is smaller than the expression. -/
theorem Expr.sizeOf_lt_of_mem_parts {e part : Expr} (h : part ∈ e.parts) : sizeOf part < sizeOf e := by
  cases e <;> simp only [Expr.parts, List.mem_cons, List.not_mem_nil, or_false] at h
  case adjacent => rcases h with rfl | rfl <;> simp +arith
  case «attribute» => subst h; simp +arith
  case subscript =>
    obtain rfl | h := h
    · simp +arith
    · exact Nat.lt_trans (Entry.sizeOf_lt_of_mem_exprs h) (by simp +arith)
  case call =>
    obtain rfl | h := h
    · simp +arith
    · exact Nat.lt_trans (Entry.sizeOf_lt_of_mem_exprs h) (by simp +arith)
  case unary => subst h; simp +arith
  case binary => rcases h with rfl | rfl <;> simp +arith
  case list => exact Nat.lt_trans (Entry.sizeOf_lt_of_mem_exprs h) (by simp +arith)
  case set => exact Nat.lt_trans (Entry.sizeOf_lt_of_mem_exprs h) (by simp +arith)
  case dict => exact Nat.lt_trans (Entry.sizeOf_lt_of_mem_exprs h) (by simp +arith)
  case tuple => exact Nat.lt_trans (Entry.sizeOf_lt_of_mem_exprs h) (by simp +arith)
  case paren => subst h; simp +arith
  case compound => exact Nat.lt_trans (Part.sizeOf_lt_of_mem_exprs h) (by simp +arith)

def Part.walrus? : List Part → Option (String × Expr)
  | [.expr _ (.name target), .word mark, .expr _ value] =>
    if mark.text == ":=" then some (target, value) else none
  | _ => none

def Part.clause? : List Part → Option (Expr × Expr)
  | .word opening :: .expr _ target :: .word middle :: .expr _ source :: _ =>
    if opening.text == "for" && middle.text == "in" then some (target, source) else none
  | _ => none

def Part.clauses : List Part → List (Expr × Expr)
  | [] => []
  | part :: rest => (Part.clause? (part :: rest)).toList ++ Part.clauses rest

/-- The parts that are evaluated in the scope of the expression itself: of a comprehension the source of
its first clause, of a named expression its value. -/
def Expr.openParts : Expr → List Expr
  | .compound parts =>
    match Part.walrus? parts, Part.clauses parts with
    | some (_, value), _ => [value]
    | none, (_, source) :: _ => [source]
    | none, [] => Part.exprs parts
  | e => e.parts

def Part.targetNames (parts : List Part) : List String :=
  (Part.clauses parts).flatMap fun clause => clause.1.targetNames

namespace Expr

/-! ## Scopes -/

/-- A named expression in `e` binds the name in the function that `e` stands in. -/
inductive Assigns (name : String) : Expr → Prop where
  | here {parts : List Part} {value : Expr} (h : Part.walrus? parts = some (name, value)) :
    Assigns name (.compound parts)
  | part {e part : Expr} (hpart : part ∈ e.parts) (h : Assigns name part) : Assigns name e
  | default {header : List Word} {gap : Gap} {body d : Expr} (hdefault : d ∈ defaultsOf header)
    (h : Assigns name d) : Assigns name (.lambda header gap body)

/-- To evaluate `e` is to look the name up in the scope that `e` stands in, as far as nothing in `e` binds
it there. The body of a function is evaluated when the function is called. -/
inductive Reads (name : String) : Expr → Prop where
  | here (h : name ∉ constantNames) : Reads name (.name name)
  | part {e part : Expr} (hpart : part ∈ e.openParts) (h : Reads name part) : Reads name e
  | element {parts : List Part} {part : Expr} (hclauses : Part.clauses parts ≠ [])
    (hpart : part ∈ Part.exprs parts) (hfree : name ∉ Part.targetNames parts) (h : Reads name part) :
    Reads name (.compound parts)
  | default {header : List Word} {gap : Gap} {body d : Expr} (hdefault : d ∈ defaultsOf header)
    (h : Reads name d) : Reads name (.lambda header gap body)
  | body {header : List Word} {gap : Gap} {body : Expr} (hfree : name ∉ boundBy header)
    (hunassigned : ¬ Assigns name body) (h : Reads name body) : Reads name (.lambda header gap body)

/-- The name is free in an expression: it is read and not bound there. -/
def Free (name : String) (e : Expr) : Prop := Reads name e ∧ ¬ Assigns name e

/-- A function in `e` has the default `d`. -/
inductive HasDefault (d : Expr) : Expr → Prop where
  | here {header : List Word} {gap : Gap} {body : Expr} (h : d ∈ defaultsOf header) :
    HasDefault d (.lambda header gap body)
  | part {e part : Expr} (hpart : part ∈ e.parts) (h : HasDefault d part) : HasDefault d e
  | body {header : List Word} {gap : Gap} {body : Expr} (h : HasDefault d body) :
    HasDefault d (.lambda header gap body)

/-! ## Names that are read -/

end Expr

theorem Part.mem_namesRead {name : String} {parts : List Part} :
    name ∈ Part.namesRead parts ↔ ∃ e ∈ Part.exprs parts, name ∈ e.namesRead := by
  induction parts with
  | nil => simp [Part.namesRead, Part.exprs]
  | cons part rest ih => cases part <;> simp [Part.namesRead, Part.exprs, ih]

theorem Item.mem_namesRead {name : String} {item : Item} :
    name ∈ item.namesRead ↔ ∃ e ∈ item.exprs, name ∈ e.namesRead := by
  cases item <;> simp [Item.namesRead, Item.exprs, Part.mem_namesRead]

theorem Entry.mem_namesRead {name : String} {entries : List Entry} :
    name ∈ Entry.namesRead entries ↔ ∃ e ∈ Entry.exprs entries, name ∈ e.namesRead := by
  induction entries with
  | nil => simp [Entry.namesRead, Entry.exprs]
  | cons entry rest ih =>
    obtain ⟨before, item, comma⟩ := entry
    have hexprs : Entry.exprs (.mk before item comma :: rest) = item.exprs ++ Entry.exprs rest := rfl
    rw [Entry.namesRead, List.mem_append, ih, Item.mem_namesRead, hexprs]
    simp only [List.mem_append, or_and_right, exists_or]

namespace Expr

variable {name : String} {e part : Expr}

theorem mem_namesRead_of_part (hpart : part ∈ e.parts) (h : name ∈ part.namesRead) :
    name ∈ e.namesRead := by
  cases e <;> simp only [parts, namesRead, List.mem_cons, List.not_mem_nil, or_false, List.mem_append,
    Entry.mem_namesRead, Part.mem_namesRead] at hpart ⊢
  all_goals grind

theorem mem_exprs_of_walrus? {parts : List Part} {value : Expr}
    (h : Part.walrus? parts = some (name, value)) : value ∈ Part.exprs parts := by
  unfold Part.walrus? at h
  split at h
  · split at h
    · cases h
      simp [Part.exprs]
    · cases h
  · cases h

theorem mem_exprs_of_clause? {parts : List Part} {target source : Expr}
    (h : Part.clause? parts = some (target, source)) : source ∈ Part.exprs parts := by
  unfold Part.clause? at h
  split at h
  · split at h
    · cases h
      simp [Part.exprs]
    · cases h
  · cases h

theorem mem_exprs_of_clauses {parts : List Part} {target source : Expr}
    (h : (target, source) ∈ Part.clauses parts) : source ∈ Part.exprs parts := by
  induction parts with
  | nil => cases h
  | cons part rest ih =>
    obtain h | h := List.mem_append.1 h
    · exact mem_exprs_of_clause? (Option.mem_toList.1 h)
    · have hrest := ih h
      cases part with
      | word => exact hrest
      | expr => exact List.mem_cons_of_mem _ hrest

theorem mem_parts_of_mem_openParts (h : part ∈ e.openParts) : part ∈ e.parts := by
  unfold openParts at h
  split at h
  · rename_i parts
    split at h
    · rename_i hwalrus
      obtain rfl := List.mem_singleton.1 h
      exact mem_exprs_of_walrus? hwalrus
    · rename_i hclauses
      obtain rfl := List.mem_singleton.1 h
      exact mem_exprs_of_clauses (hclauses ▸ List.mem_cons_self)
    · exact h
  · exact h

/-- A name that is read is among those that the check collects, or a default reads it. -/
theorem Reads.collected (h : Reads name e) :
    name ∈ e.namesRead ∨ ∃ d, HasDefault d e ∧ Reads name d ∧ (Assigns name d → Assigns name e) := by
  have hinner {e part : Expr} (hpart : part ∈ e.parts)
      (h : name ∈ part.namesRead
        ∨ ∃ d, HasDefault d part ∧ Reads name d ∧ (Assigns name d → Assigns name part)) :
      name ∈ e.namesRead
        ∨ ∃ d, HasDefault d e ∧ Reads name d ∧ (Assigns name d → Assigns name e) := by
    obtain h | ⟨d, hd, hreads, hassigns⟩ := h
    · exact .inl (mem_namesRead_of_part hpart h)
    · exact .inr ⟨d, .part hpart hd, hreads, fun h => .part hpart (hassigns h)⟩
  induction h with
  | here _ => exact .inl (List.mem_singleton_self name)
  | part hpart _ ih => exact hinner (mem_parts_of_mem_openParts hpart) ih
  | element _ hpart _ _ ih => exact hinner (e := .compound _) hpart ih
  | default hdefault h _ => exact .inr ⟨_, .here hdefault, h, fun h => .default hdefault h⟩
  | body _ hunassigned _ ih =>
    obtain h | ⟨d, hd, hreads, hassigns⟩ := ih
    · exact .inl h
    · -- A name that the default binds is bound in the body, whose names do not leave the function.
      exact .inr ⟨d, .body hd, hreads, fun h => absurd (hassigns h) hunassigned⟩

/-! ## Expressions that read little -/

/-- All names that the check collects from an expression are as `allowed` says, and no function in it has a
default that the check would pass over. -/
structure ReadsOnly (allowed : String → Prop) (e : Expr) : Prop where
  names : ∀ name ∈ e.namesRead, allowed name
  defaultless : ∀ d, ¬ HasDefault d e

theorem mem_namesRead_cases (h : name ∈ e.namesRead) :
    e = .name name ∨ (∃ header gap body, e = .lambda header gap body)
      ∨ ∃ part ∈ e.parts, name ∈ part.namesRead := by
  cases e <;> simp only [parts, namesRead, List.mem_cons, List.not_mem_nil, or_false, List.mem_append,
    Entry.mem_namesRead, Part.mem_namesRead] at h ⊢
  all_goals grind

namespace ReadsOnly

variable {allowed : String → Prop}

theorem reads (h : e.ReadsOnly allowed) (hreads : e.Reads name) : allowed name := by
  rcases hreads.collected with hname | ⟨d, hdefault, -⟩
  · exact h.names name hname
  · exact (h.defaultless d hdefault).elim

theorem imp {allowed' : String → Prop} (h : e.ReadsOnly allowed)
    (himp : ∀ name, allowed name → allowed' name) : e.ReadsOnly allowed' :=
  ⟨fun name hname => himp name (h.names name hname), h.defaultless⟩

/-- What is neither a name nor a function reads what its parts read. -/
theorem of_parts (hname : ∀ text, e ≠ .name text) (hlambda : ∀ header gap body, e ≠ .lambda header gap body)
    (h : ∀ part ∈ e.parts, part.ReadsOnly allowed) : e.ReadsOnly allowed := by
  constructor
  · intro name hmem
    rcases mem_namesRead_cases hmem with heq | ⟨header, gap, body, heq⟩ | ⟨part, hpart, hmem⟩
    · exact absurd heq (hname name)
    · exact absurd heq (hlambda header gap body)
    · exact (h part hpart).names name hmem
  · intro d hdefault
    cases hdefault with
    | here => exact hlambda _ _ _ rfl
    | part hpart hdefault => exact (h _ hpart).defaultless d hdefault
    | body => exact hlambda _ _ _ rfl

theorem ofName {text : String} (h : allowed text) : (Expr.name text).ReadsOnly allowed := by
  constructor
  · intro found hfound
    exact List.mem_singleton.1 hfound ▸ h
  · intro d hdefault
    cases hdefault with
    | part hpart => cases hpart

theorem thunk (h : e.ReadsOnly allowed) : e.thunk.ReadsOnly allowed := by
  have hheader : defaultsOf [⟨[], "lambda"⟩, ⟨[], ":"⟩] = [] := by cbv
  constructor
  · exact h.names
  · intro d hdefault
    cases hdefault with
    | here hd =>
      rw [hheader] at hd
      cases hd
    | part hpart => cases hpart
    | body hdefault => exact h.defaultless d hdefault

end ReadsOnly

end Expr

variable {e : Expr}

theorem Entry.mem_exprs_ofItems {items : List Item} :
    e ∈ Entry.exprs (Entry.ofItems items) ↔ ∃ item ∈ items, e ∈ item.exprs := by
  have hgo (rest : List Item) : ∀ item before, e ∈ Entry.exprs (Entry.ofItems.go item rest before)
      ↔ ∃ item' ∈ item :: rest, e ∈ item'.exprs := by
    induction rest with
    | nil => simp [Entry.ofItems.go, Entry.exprs, Entry.item]
    | cons next rest ih =>
      intro item before
      have hexprs : Entry.exprs (Entry.ofItems.go item (next :: rest) before)
          = item.exprs ++ Entry.exprs (Entry.ofItems.go next rest Gap.space) := rfl
      rw [hexprs, List.mem_append, ih]
      simp only [List.exists_mem_cons_iff]
  cases items with
  | nil => simp [Entry.ofItems, Entry.exprs]
  | cons item rest => exact hgo rest item []

namespace Expr.ReadsOnly

variable {allowed : String → Prop}

theorem ofList {values : List Expr} (h : ∀ value ∈ values, value.ReadsOnly allowed) :
    (Expr.ofList values).ReadsOnly allowed := by
  refine .of_parts nofun nofun fun part hpart => ?_
  obtain ⟨item, hitem, hpart⟩ := Entry.mem_exprs_ofItems.1 hpart
  obtain ⟨value, hvalue, rfl⟩ := List.mem_map.1 hitem
  obtain rfl := List.mem_singleton.1 hpart
  exact h part hvalue

theorem ofPairs {pairs : List (Expr × Expr)}
    (h : ∀ pair ∈ pairs, pair.1.ReadsOnly allowed ∧ pair.2.ReadsOnly allowed) :
    (Expr.ofPairs pairs).ReadsOnly allowed := by
  refine .of_parts nofun nofun fun part hpart => ?_
  obtain ⟨item, hitem, hpart⟩ := Entry.mem_exprs_ofItems.1 hpart
  obtain ⟨pair, hpair, rfl⟩ := List.mem_map.1 hitem
  obtain rfl | hpart := List.mem_cons.1 hpart
  · exact (h pair hpair).1
  · exact List.mem_singleton.1 hpart ▸ (h pair hpair).2

end Expr.ReadsOnly

/-! ## Reading what the program writes -/

namespace Expr

variable {name : String}

theorem Reads.ofPairs {pairs : List (Expr × Expr)} {pair : Expr × Expr} (hpair : pair ∈ pairs)
    (h : Reads name pair.2) : Reads name (Expr.ofPairs pairs) := by
  refine .part (Entry.mem_exprs_ofItems.2 ⟨_, List.mem_map_of_mem hpair, ?_⟩) h
  exact List.mem_cons_of_mem _ (List.mem_singleton_self _)

theorem Reads.thunk (hunassigned : ¬ Assigns name e) (h : Reads name e) : Reads name e.thunk := by
  have hheader : boundBy [⟨[], "lambda"⟩, ⟨[], ":"⟩] = [] := by cbv
  exact .body (by simp [hheader]) hunassigned h

end Expr
end Source

/-- Whatever forms an accepted expression is made of, a name of the set that it was checked against is free
in it only if it is free in the default of one of its functions. -/
theorem free_in_default_of_isCopyable {scope : List String} {e : Expr}
    (h : isCopyable false scope e = .ok true) {name : String} (hscope : name ∈ scope)
    (hfree : Expr.Free name e) : ∃ d, Expr.HasDefault d e ∧ Expr.Free name d := by
  have hcollected : name ∉ e.namesRead := by
    intro hname
    simp only [isCopyable, Bool.false_eq_true, if_false, Except.ok.injEq, Bool.not_eq_true',
      List.any_eq_false] at h
    exact h name hname (List.contains_iff_mem.2 hscope)
  obtain hname | ⟨d, hd, hreads, hassigns⟩ := hfree.1.collected
  · exact absurd hname hcollected
  · exact ⟨d, hd, hreads, fun h => hfree.2 (hassigns h)⟩

namespace Defaulted

def header : List Word := [⟨[], "lambda"⟩, ⟨Gap.space, "y"⟩, ⟨[], "="⟩, ⟨[], "LOW"⟩, ⟨[], ":"⟩]

/-- `lambda y=LOW: y` -/
def function : Expr := .lambda header Gap.space (.name "y")

theorem parse_function : Expr.parse "lambda y=LOW: y" = .ok function := by cbv

theorem binders_header : binders header
    = [{ form := .defaulted, name := some "y", default := some (.name "LOW") }] := by
  cbv

theorem defaultsOf_header : defaultsOf header = [.name "LOW"] := by
  rw [defaultsOf, binders_header]
  rfl

theorem not_assigns_name (bound name : String) : ¬ Expr.Assigns bound (.name name) := by
  intro h
  cases h with
  | part hpart => exact List.not_mem_nil hpart

theorem free_low : Expr.Free "LOW" function := by
  refine ⟨.default (defaultsOf_header ▸ List.mem_singleton_self _) (.here (by decide)), fun h => ?_⟩
  cases h with
  | part hpart => exact List.not_mem_nil hpart
  | default hdefault h =>
    rw [defaultsOf_header] at hdefault
    obtain rfl := List.mem_singleton.1 hdefault
    exact not_assigns_name _ _ h

theorem isCopyable_function : isCopyable false ["LOW"] function = .ok true := by decide

end Defaulted

theorem free_in_default_of_isCopyable_function :
    ∃ d, Expr.HasDefault d Defaulted.function ∧ Expr.Free "LOW" d :=
  free_in_default_of_isCopyable Defaulted.isCopyable_function List.mem_cons_self Defaulted.free_low

/-- The default of a function is evaluated where the function is written, and a name that it reads from
the class body goes unseen. -/
theorem default_reads_class_name :
    Expr.parse "lambda y=LOW: y" = .ok Defaulted.function
      ∧ isCopyable false ["LOW"] Defaulted.function = .ok true
      ∧ Expr.Free "LOW" Defaulted.function :=
  ⟨Defaulted.parse_function, Defaulted.isCopyable_function, Defaulted.free_low⟩

end ModelMetadata
