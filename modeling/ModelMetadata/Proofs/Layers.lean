import ModelMetadata.Proofs.Describing
import ModelMetadata.Proofs.HintForms

/-!
Layers of an annotation. Unwrapping and classifying take off one layer after the other, quotes or a
subscript, and stop at what is neither. What a layer is does not depend on the parentheses around it.
-/
set_option autoImplicit false
namespace ModelMetadata

open Source

namespace Source.Expr

theorem dottedName_bare (e : Expr) : e.bare.dottedName = e.dottedName := by
  fun_induction bare e with
  | case1 _ inner _ ih => exact ih
  | case2 => rfl

theorem callee_bare (e : Expr) : e.bare.callee = e.callee := by
  unfold callee
  rw [bare_bare]

/-- A subscript that has indices: its owner, its first index and the others. -/
def indexing? (e : Expr) : Option (Expr × Expr × List Expr) :=
  match e.bare with
  | .subscript owner _ entries _ =>
    match Entry.indices entries with
    | [] => none
    | first :: rest => some (owner, first, rest)
  | _ => none

theorem indexing?_bare (e : Expr) : e.bare.indexing? = e.indexing? := by
  unfold indexing?
  rw [bare_bare]

theorem isSubscript_bare (e : Expr) : e.bare.isSubscript = e.isSubscript := by
  unfold isSubscript
  rw [bare_bare]

theorem dictEntries?_bare (e : Expr) : e.bare.dictEntries? = e.dictEntries? := by
  unfold dictEntries?
  rw [bare_bare]

theorem callee?_bare (e : Expr) : e.bare.callee? = e.callee? := by
  unfold callee?
  rw [bare_bare]

theorem arguments_bare (e : Expr) : e.bare.arguments = e.arguments := by
  unfold arguments
  rw [bare_bare]

theorem indexing?_of_not_subscript {e : Expr} (h : e.isSubscript = false) : e.indexing? = none := by
  unfold isSubscript at h
  unfold indexing?
  split
  · rename_i hbare
    rw [hbare] at h
    cases h
  · rfl

theorem indexing?_eq (e : Expr) :
    e.indexing? = e.indexed?.map fun (owner, first, rest) => (owner, first.val, rest) := by
  unfold indexed?
  split
  · rename_i hbare
    split
    · rename_i hindices
      simp only [indexing?, hbare, hindices, Option.map_none]
    · rename_i hindices
      simp only [indexing?, hbare, hindices, Option.map_some]
  · rename_i hother
    unfold indexing?
    split
    · rename_i hbare
      exact (hother _ _ _ _ hbare).elim
    · rfl

theorem weight_lt_of_indexing? {e owner first : Expr} {rest : List Expr}
    (hindexing : e.indexing? = some (owner, first, rest)) : first.weight < e.weight := by
  rw [indexing?_eq] at hindexing
  obtain ⟨⟨owner', first', rest'⟩, -, hparts⟩ := Option.map_eq_some_iff.1 hindexing
  cases hparts
  exact first'.property

end Source.Expr

theorem bind_congr_ok {α β : Type} {result : Except Fault α} {f g : α → Except Fault β}
    (h : ∀ a, result = .ok a → f a = g a) : (result >>= f) = result >>= g := by
  cases result with
  | error fault => rfl
  | ok a => exact h a rfl

namespace Oracle

variable {oracle : Oracle}

theorem wrapperName_bare (e : Expr) : oracle.wrapperName e.bare = oracle.wrapperName e := by
  unfold wrapperName specialForm? Expr.lastName
  rw [Expr.dottedName_bare, Expr.callee_bare]

theorem unionParts?_bare (e : Expr) : unionParts? oracle e.bare = unionParts? oracle e := by
  unfold unionParts?
  rw [Expr.bare_bare]

def wraps (oracle : Oracle) (owner : Expr) : Bool :=
  ((oracle.specialForm? owner).map wrapperForms.contains).getD false

/-- The core of an annotation is the core of what its outermost layer wraps. -/
theorem core_eq (e : Expr) : oracle.core e = do
    match ← stringValue e with
    | some text =>
      match ← quotedIn? text with
      | some inner => oracle.core inner
      | none => return e
    | none =>
      match e.indexing? with
      | some (owner, first, _) => if oracle.wraps owner then oracle.core first else return e
      | none => return e := by
  rw [core]
  refine bind_congr_ok fun text? htext => ?_
  cases text? with
  | some text =>
    dsimp only
    rw [quoted?_eq htext, bind_map_left]
    refine bind_congr fun inner? => ?_
    cases inner? <;> rfl
  | none =>
    dsimp only
    rw [Expr.indexing?_eq]
    cases e.indexed? <;> rfl

theorem unwrapFrom_eq (found : Unwrapped) : unwrapFrom oracle found = do
    match ← stringValue found.type with
    | some text =>
      match ← quotedIn? text with
      | some inner => unwrapFrom oracle { found with type := inner }
      | none => return found
    | none =>
      match found.type.indexing? with
      | some (owner, first, metadata) =>
        match found.wrappedBy? (oracle.wrapperName owner) metadata with
        | some layer => unwrapFrom oracle { layer with type := first }
        | none => return found
      | none =>
        if found.type.isSubscript then return found
        else
          return { found with
            classVar := found.classVar || oracle.wrapperName found.type == classVarName } := by
  rw [unwrapFrom]
  refine bind_congr_ok fun text? htext => ?_
  cases text? with
  | some text =>
    dsimp only
    rw [quoted?_eq htext, bind_map_left]
    refine bind_congr fun inner? => ?_
    cases inner? <;> rfl
  | none =>
    dsimp only
    rw [Expr.indexing?_eq]
    cases found.type.indexed? <;> rfl

/-! ## One layer -/

/-- What a wrapper adds does not depend on the type that is left. -/
theorem wrappedBy?_typed (found : Unwrapped) (e : Expr) (wrapper : String) (metadata : List Expr) :
    ({ found with type := e } : Unwrapped).wrappedBy? wrapper metadata
      = (found.wrappedBy? wrapper metadata).map fun layer => { layer with type := e } := by
  simp only [Unwrapped.wrappedBy?, apply_ite (Option.map _), Option.map_some, Option.map_none]

theorem wrappedBy?_metadata {wrapper : String} (h : wrapper ≠ "Annotated") (found : Unwrapped)
    (metadata metadata' : List Expr) :
    found.wrappedBy? wrapper metadata = found.wrappedBy? wrapper metadata' := by
  have hwrapper : (wrapper == "Annotated") = false := beq_eq_false_iff_ne.2 h
  simp only [Unwrapped.wrappedBy?, hwrapper, Bool.false_eq_true, if_false]

variable {e : Expr}

/-- Quotes are a layer of their own. -/
theorem core_quoted {text : String} {inner : Expr} (htext : stringValue e = .ok (some text))
    (hinner : quotedIn? text = .ok (some inner)) : oracle.core e = oracle.core inner := by
  rw [core_eq, htext]
  simp only [hinner, bind, Except.bind]

theorem unwrapFrom_quoted {text : String} {inner : Expr} (htext : stringValue e = .ok (some text))
    (hinner : quotedIn? text = .ok (some inner)) (found : Unwrapped) :
    unwrapFrom oracle { found with type := e } = unwrapFrom oracle { found with type := inner } := by
  rw [unwrapFrom_eq, htext]
  simp only [hinner, bind, Except.bind]

/-- The subscript of a form is a layer if the form wraps its first index. -/
theorem core_indexed {owner first : Expr} {rest : List Expr} (htext : stringValue e = .ok none)
    (hindexing : e.indexing? = some (owner, first, rest)) :
    oracle.core e = if oracle.wraps owner then oracle.core first else .ok e := by
  rw [core_eq, htext]
  change (match e.indexing? with | some (owner, first, _) => _ | none => _) = _
  rw [hindexing]
  rfl

theorem unwrapFrom_indexed {owner first : Expr} {rest : List Expr} (htext : stringValue e = .ok none)
    (hindexing : e.indexing? = some (owner, first, rest)) (found : Unwrapped) :
    unwrapFrom oracle { found with type := e }
      = match found.wrappedBy? (oracle.wrapperName owner) rest with
        | some layer => unwrapFrom oracle { layer with type := first }
        | none => .ok { found with type := e } := by
  rw [unwrapFrom_eq, htext]
  change (match e.indexing? with | some (owner, first, metadata) => _ | none => _) = _
  rw [hindexing]
  dsimp only
  rw [wrappedBy?_typed]
  cases found.wrappedBy? (oracle.wrapperName owner) rest <;> rfl

/-- What is neither quoted nor has an index has no layer. -/
theorem core_unindexed (htext : stringValue e = .ok none) (hindexing : e.indexing? = none) :
    oracle.core e = .ok e := by
  rw [core_eq, htext]
  change (match e.indexing? with | some (owner, first, _) => _ | none => _) = _
  rw [hindexing]
  rfl

theorem core_plain (htext : stringValue e = .ok none) (hsubscript : e.isSubscript = false) :
    oracle.core e = .ok e :=
  core_unindexed htext (Expr.indexing?_of_not_subscript hsubscript)

theorem unwrapFrom_plain (htext : stringValue e = .ok none) (hsubscript : e.isSubscript = false)
    (found : Unwrapped) :
    unwrapFrom oracle { found with type := e }
      = .ok { found with
          type := e
          classVar := found.classVar || oracle.wrapperName e == classVarName } := by
  rw [unwrapFrom_eq, htext]
  change (match e.indexing? with | some (owner, first, metadata) => _ | none => _) = _
  rw [Expr.indexing?_of_not_subscript hsubscript, hsubscript]
  rfl

/-- What is neither a dict display nor a call is a union, or a name for the oracle. -/
theorem coreShape_other (hdict : e.dictEntries? = none) (hcallee : e.callee? = none) :
    oracle.coreShape e
      = .ok (if (unionParts? oracle e).isSome then .union (unionBranches oracle e) else .named e) := by
  unfold coreShape
  rw [hdict, hcallee]
  dsimp only
  split
  · cases ‹_›
  · split <;> rfl

end Oracle
end ModelMetadata
