import ModelMetadata.Proofs.Comparing
import ModelMetadata.Proofs.Lookups

/-!
The forms of an annotation. What an annotation denotes follows from what its parts denote, whatever else
is written in it: parentheses and quotes add nothing, a union is the union of its sides, and a subscript
depends on its form and on its indices. Only the members of a literal type are read as they are written.
-/
set_option autoImplicit false
namespace ModelMetadata

open Source

theorem Source.Expr.bare_bare (e : Expr) : e.bare.bare = e.bare := by
  fun_induction Expr.bare e with
  | case1 _ inner _ ih => exact ih
  | case2 e hparen =>
    cases e with
    | paren => exact (hparen _ _ _ rfl).elim
    | _ => rfl

theorem stringLiteral_bare (e : Expr) : stringLiteral e.bare = stringLiteral e := by
  fun_induction Expr.bare e with
  | case1 _ inner _ ih =>
    rw [ih]
    conv_rhs => unfold stringLiteral
  | case2 => rfl

theorem stringValue_bare (e : Expr) : stringValue e.bare = stringValue e := by
  unfold stringValue
  rw [stringLiteral_bare]

/-- A quotation is one string or several side by side. -/
theorem bare_of_stringValue {q : Expr} {text : String} (htext : stringValue q = .ok (some text)) :
    (∃ token, q.bare = .string token) ∨ ∃ first gap rest, q.bare = .adjacent first gap rest := by
  rw [← stringValue_bare] at htext
  cases hbare : q.bare with
  | string token => exact .inl ⟨token, rfl⟩
  | adjacent first gap rest => exact .inr ⟨first, gap, rest, rfl⟩
  | paren afterOpen inner beforeClose =>
    have hinner := q.bare_bare
    rw [hbare] at hinner
    have hlight := inner.weight_bare_le
    rw [show inner.bare = .paren afterOpen inner beforeClose from hinner, Expr.weight] at hlight
    omega
  | _ =>
    rw [hbare] at htext
    cases htext

/-- A quotation is no ellipsis. -/
theorem bare_ne_ellipsis_of_stringValue {q : Expr} {text : String}
    (htext : stringValue q = .ok (some text)) : q.bare ≠ .ellipsis := by
  obtain ⟨token, hbare⟩ | ⟨first, gap, rest, hbare⟩ := bare_of_stringValue htext
  all_goals
    rw [hbare]
    exact nofun

theorem quotedIn?_of_parse {text : String} {inner : Expr}
    (hparse : Expr.parse (Text.trimmed text) = .ok inner) : quotedIn? text = .ok (some inner) := by
  rw [quotedIn?, hparse]

theorem indices_middle {preceding following : List Entry} {gap : Gap} {comma : Option Gap} {e : Expr} :
    Entry.indices (preceding ++ .mk gap (.value e) comma :: following)
      = Entry.indices preceding ++ e :: Entry.indices following := by
  simp only [Entry.indices, List.filterMap_append]
  rfl

/-- The indices of a subscript in which one index is written otherwise. -/
theorem indices_replaced {P : Expr → Expr → Prop} (hrefl : ∀ e, P e e) {e e' : Expr} (h : P e e') (gap : Gap)
    (comma : Option Gap) (preceding following : List Entry) :
    List.Forall₂ P (Entry.indices (preceding ++ .mk gap (.value e) comma :: following))
      (Entry.indices (preceding ++ .mk gap (.value e') comma :: following)) := by
  have hall (indices : List Expr) : List.Forall₂ P indices indices :=
    List.forall₂_same.2 fun e _ => hrefl e
  rw [indices_middle, indices_middle]
  exact List.rel_append (hall _) (.cons h (hall _))

namespace Oracle

variable {oracle : Oracle} {scope : Scope} {seen : List Key}

theorem resolve_eq_step (e : Expr) :
    reached (oracle.resolve scope seen e) = oracle.stepResolve oracle.answers scope seen e :=
  (stepResolve_eq (adequate_answers oracle _) (Nat.lt_succ_self _)).symm

/-- What is decided by one step from the same answers is the same. -/
theorem resolve_congr {e e' : Expr}
    (h : oracle.stepResolve oracle.answers scope seen e = oracle.stepResolve oracle.answers scope seen e') :
    oracle.resolve scope seen e = oracle.resolve scope seen e' :=
  Option.some.inj ((resolve_eq_step e).trans (h.trans (resolve_eq_step e').symm))

theorem resolve_paren (afterOpen beforeClose : Gap) (e : Expr) :
    oracle.resolve scope seen (.paren afterOpen e beforeClose) = oracle.resolve scope seen e := by
  rw [resolve]

theorem resolve_bare (e : Expr) : oracle.resolve scope seen e.bare = oracle.resolve scope seen e := by
  fun_induction Expr.bare e with
  | case1 _ inner _ ih => rw [ih, resolve_paren]
  | case2 => rfl

/-- A quotation denotes what it quotes. -/
theorem resolve_quoted {q inner : Expr} {text : String} (htext : stringValue q = .ok (some text))
    (hinner : quotedIn? text = .ok (some inner)) :
    oracle.resolve scope seen q = oracle.resolve scope seen inner := by
  induction q using Expr.bare.induct with
  | case1 _ q _ ih =>
    rw [resolve_paren]
    apply ih
    rw [← stringValue_bare] at htext ⊢
    exact htext
  | case2 q hparen =>
    have hother : q.isOther = true := by
      cases q with
      | string token => rfl
      | adjacent first gap rest => rfl
      | paren afterOpen inner beforeClose => exact (hparen _ _ _ rfl).elim
      | _ => cases htext
    have hread : reached (oracle.resolve scope seen q) = _ := resolve_eq_step q
    rw [stepResolve_other hother, stepText_eq htext hinner] at hread
    exact Option.some.inj hread

theorem resolve_bar_congr {left left' right right' : Expr} {beforeOp beforeOp' afterOp afterOp' : Gap}
    (hleft : oracle.resolve scope seen left = oracle.resolve scope seen left')
    (hright : oracle.resolve scope seen right = oracle.resolve scope seen right') :
    oracle.resolve scope seen (.binary left beforeOp "|" afterOp right)
      = oracle.resolve scope seen (.binary left' beforeOp' "|" afterOp' right') := by
  rw [resolve, resolve, hleft, hright]

/-- Two indices that denote the same, and that tell alike whether a tuple is one of any length. -/
structure SameIndex (oracle : Oracle) (scope : Scope) (seen : List Key) (e e' : Expr) : Prop where
  resolve : oracle.resolve scope seen e = oracle.resolve scope seen e'
  ellipsis : e.bare = .ellipsis ↔ e'.bare = .ellipsis

theorem SameIndex.refl (e : Expr) : SameIndex oracle scope seen e e := ⟨rfl, Iff.rfl⟩

theorem SameIndex.of_bare {e e' : Expr}
    (hresolve : oracle.resolve scope seen e.bare = oracle.resolve scope seen e'.bare)
    (hellipsis : e.bare = .ellipsis ↔ e'.bare = .ellipsis) : SameIndex oracle scope seen e e' :=
  ⟨by rwa [resolve_bare, resolve_bare] at hresolve, hellipsis⟩

theorem mapM_resolve_congr {members members' : List Expr}
    (h : List.Forall₂ (SameIndex oracle scope seen) members members') :
    members.mapM (oracle.answers.resolve scope seen) = members'.mapM (oracle.answers.resolve scope seen) := by
  induction h with
  | nil => rfl
  | @cons e e' rest rest' hfirst _ ih =>
    have hfirst : oracle.answers.resolve scope seen e = oracle.answers.resolve scope seen e' :=
      congrArg reached hfirst.resolve
    rw [List.mapM_cons, List.mapM_cons, hfirst, ih]

/-- Whether an ellipsis is all that follows the first index of a tuple. -/
theorem ellipsisRest_iff {rest rest' : List Expr}
    (h : List.Forall₂ (SameIndex oracle scope seen) rest rest') :
    rest.map Expr.bare = [.ellipsis] ↔ rest'.map Expr.bare = [.ellipsis] := by
  cases h with
  | nil => rfl
  | cons hfirst hrest =>
    cases hrest with
    | nil => simpa using hfirst.ellipsis
    | cons _ _ => simp

/-- A subscript depends on its form and on what its indices denote, unless it is a literal type. -/
theorem resolve_subscript_congr {owner : Expr} {before close before' close' : Gap}
    {entries entries' : List Entry}
    (hliteral : (oracle.symbols scope).specialForm? owner.dottedName ≠ some "Literal")
    (h : List.Forall₂ (SameIndex oracle scope seen) (Entry.indices entries) (Entry.indices entries')) :
    oracle.resolve scope seen (.subscript owner before entries close)
      = oracle.resolve scope seen (.subscript owner before' entries' close') := by
  apply resolve_congr
  simp only [stepResolve]
  split
  · rfl
  rename_i special hspecial
  rw [mapM_resolve_congr h]
  generalize Entry.indices entries = indices at h ⊢
  generalize Entry.indices entries' = indices' at h ⊢
  cases h with
  | nil => rfl
  | @cons first first' rest rest' hfirst hrest =>
    have hfirst : oracle.answers.resolve scope seen first = oracle.answers.resolve scope seen first' :=
      congrArg reached hfirst.resolve
    have hspecial : (special == "Literal") = false := by
      refine Bool.eq_false_iff.2 fun heq => hliteral ?_
      rw [hspecial, eq_of_beq heq]
    simp only [hfirst, hspecial, Bool.false_eq_true, if_false]
    split
    · rfl
    split
    · rfl
    split
    · split
      · rename_i hrest'
        rw [(ellipsisRest_iff hrest).1 hrest']
      · rename_i hrest'
        split
        · rename_i hother
          exact (hrest' ((ellipsisRest_iff hrest).2 hother)).elim
        · rfl
    · rfl

theorem resolve_wrapper {owner first : Expr} {before close : Gap} {entries : List Entry}
    {rest : List Expr} {special : String}
    (hspecial : (oracle.symbols scope).specialForm? owner.dottedName = some special)
    (hwrapper : wrapperForms.contains special = true) (hindices : Entry.indices entries = first :: rest) :
    oracle.resolve scope seen (.subscript owner before entries close)
      = oracle.resolve scope seen first := by
  refine Option.some.inj ((resolve_eq_step _).trans ?_)
  simp only [stepResolve, hspecial, hindices, hwrapper, if_true]
  rfl

theorem resolve_optional {owner first : Expr} {before close : Gap} {entries : List Entry}
    {rest : List Expr} (hspecial : (oracle.symbols scope).specialForm? owner.dottedName = some "Optional")
    (hindices : Entry.indices entries = first :: rest) :
    oracle.resolve scope seen (.subscript owner before entries close)
      = (Option.map fun t => ResolvedType.ofMembers [t, .none]) <$> oracle.resolve scope seen first := by
  refine Option.some.inj ((resolve_eq_step _).trans ?_)
  have hwrapper : wrapperForms.contains "Optional" = false := by decide
  have harray : arrayForms.contains "Optional" = false := by decide
  have htuple : tupleForms.contains "Optional" = false := by decide
  have hmapping : mappingForms.contains "Optional" = false := by decide
  simp only [stepResolve, hspecial, hindices, hwrapper, harray, htuple, hmapping, beq_self_eq_true,
    Bool.false_eq_true, if_false, if_true]
  exact reached_map ..

theorem resolve_union {owner : Expr} {before close : Gap} {entries : List Entry}
    (hspecial : (oracle.symbols scope).specialForm? owner.dottedName = some "Union")
    (hne : Entry.indices entries ≠ []) :
    oracle.resolve scope seen (.subscript owner before entries close)
      = (fun found => (found.mapM id).map ResolvedType.ofMembers)
        <$> (Entry.indices entries).mapM (oracle.resolve scope seen) := by
  refine Option.some.inj ((resolve_eq_step _).trans ?_)
  have hwrapper : wrapperForms.contains "Union" = false := by decide
  have harray : arrayForms.contains "Union" = false := by decide
  have htuple : tupleForms.contains "Union" = false := by decide
  have hmapping : mappingForms.contains "Union" = false := by decide
  have hoptional : ("Union" == "Optional") = false := by decide
  have hall : (Entry.indices entries).mapM (oracle.answers.resolve scope seen)
      = reached ((Entry.indices entries).mapM (oracle.resolve scope seen)) :=
    reached_mapM fun _ _ => rfl
  simp only [stepResolve, hspecial, hwrapper, harray, htuple, hmapping, hoptional, hall, beq_self_eq_true,
    Bool.false_eq_true, if_false, if_true]
  split
  · rename_i hnil
    exact absurd hnil hne
  · exact reached_map ..

end Oracle
end ModelMetadata
