import ModelMetadata.Proofs.HintForms

/-!
Subscripts of special forms, and quotations. What a subscript denotes follows from its form and from what
its indices denote, and it denotes a type in no other way: each form is gone through once, in both
directions. What is no name and has no parts denotes what is quoted in it, or nothing.
-/
set_option autoImplicit false
namespace ModelMetadata

open Source

/-! ## Results of several attempts -/

theorem reached_bind_iff {α β : Type} {x : Attempt α} {f : α → Attempt β} {b : β} :
    (x >>= f) = reached (.ok b) ↔ ∃ a, x = reached (.ok a) ∧ f a = reached (.ok b) := by
  refine ⟨reached_bind_eq_ok, ?_⟩
  rintro ⟨a, rfl, h⟩
  exact h

theorem reached_inj {α : Type} {r s : Except Fault α} : reached r = reached s ↔ r = s :=
  ⟨Option.some.inj, congrArg reached⟩

theorem pure_eq_reached {α : Type} {a b : α} : (pure a : Attempt α) = reached (.ok b) ↔ a = b :=
  reached_inj.trans ⟨Except.ok.inj, congrArg Except.ok⟩

/-- What holds of all results holds of what they are results of. -/
theorem forall_of_forall₂ {α β : Type} {R : α → β → Prop} {xs : List α} {ys : List β}
    (h : List.Forall₂ R xs ys) {P : β → Prop} {Q : α → Prop} (hQ : ∀ x y, R x y → P y → Q x)
    (hP : ∀ y ∈ ys, P y) : ∀ x ∈ xs, Q x := by
  induction h with
  | nil => exact nofun
  | cons hfirst _ ih =>
    obtain ⟨hy, hys⟩ := List.forall_mem_cons.1 hP
    exact List.forall_mem_cons.2 ⟨hQ _ _ hfirst hy, ih hys⟩

/-- Members that all have types have them one by one. -/
theorem forall₂_of_mapM {f : Expr → Except Fault (Option ResolvedType)} {members : List Expr}
    {found : List (Option ResolvedType)} {types : List ResolvedType}
    (hfound : members.mapM (fun e => reached (f e)) = reached (.ok found))
    (htypes : found.mapM id = some types) :
    List.Forall₂ (fun e t => f e = .ok (some t)) members types := by
  induction members generalizing found types with
  | nil =>
    obtain rfl := pure_eq_reached.1 hfound
    cases htypes
    exact .nil
  | cons e rest ih =>
    rw [List.mapM_cons] at hfound
    obtain ⟨t?, hfirst, hfound⟩ := reached_bind_iff.1 hfound
    obtain ⟨others, hothers, hfound⟩ := reached_bind_iff.1 hfound
    obtain rfl := pure_eq_reached.1 hfound
    simp only [List.mapM_cons, id, Option.bind_eq_bind, Option.bind_eq_some_iff, Option.pure_def,
      Option.some.injEq] at htypes
    obtain ⟨t, rfl, ts, hts, rfl⟩ := htypes
    exact .cons (reached_inj.1 hfirst) (ih hothers hts)

namespace Oracle

variable {oracle : Oracle} {scope : Scope} {seen : List Key}

/-- The members of a literal type have types just when each of them has its own. -/
theorem foldlM_addLiteral_iff {members : List Expr} {before types : List ResolvedType} :
    members.foldlM (addLiteral oracle.answers scope seen) (some before) = reached (.ok (some types))
      ↔ ∃ more, types = before ++ more
        ∧ List.Forall₂ (fun e t => oracle.resolveLiteral scope seen e = .ok (some t)) members more := by
  induction members generalizing before with
  | nil =>
    rw [List.foldlM_nil, pure_eq_reached]
    constructor
    · intro h
      exact ⟨[], by rw [Option.some.inj h, List.append_nil], .nil⟩
    · rintro ⟨more, rfl, ⟨⟩⟩
      rw [List.append_nil]
  | cons e rest ih =>
    rw [List.foldlM_cons, reached_bind_iff]
    constructor
    · rintro ⟨found?, hfirst, hrest⟩
      obtain ⟨t?, ht, hfound⟩ := reached_bind_iff.1 hfirst
      obtain rfl := pure_eq_reached.1 hfound
      cases t? with
      | none =>
        rw [Option.map_none, foldlM_addLiteral_none] at hrest
        cases hrest
      | some t =>
        obtain ⟨more, rfl, hmore⟩ := ih.1 hrest
        exact ⟨t :: more, (List.append_cons ..).symm, .cons (reached_inj.1 ht) hmore⟩
    · rintro ⟨more, rfl, hmore⟩
      obtain _ | @⟨_, t, _, more, hfirst, hrest⟩ := hmore
      refine ⟨some (before ++ [t]), ?_, ih.2 ⟨more, List.append_cons .., hrest⟩⟩
      exact reached_bind_iff.2 ⟨some t, congrArg reached hfirst, rfl⟩

/-! ## Forms -/

inductive FormDenotes (oracle : Oracle) (scope : Scope) (seen : List Key) (special : String) (first : Expr)
    (rest : List Expr) : ResolvedType → Prop
  | wrapper {t : ResolvedType} (hform : wrapperForms.contains special = true)
    (h : oracle.resolve scope seen first = .ok (some t)) : FormDenotes oracle scope seen special first rest t
  | array {t : ResolvedType} (hform : arrayForms.contains special = true
      ∨ tupleForms.contains special = true ∧ rest.map Expr.bare = [.ellipsis])
    (h : oracle.resolve scope seen first = .ok (some t)) :
    FormDenotes oracle scope seen special first rest (.array t)
  | mapping (hform : mappingForms.contains special = true) :
    FormDenotes oracle scope seen special first rest (.builtin "dict")
  | optional {t : ResolvedType} (hform : special = "Optional")
    (h : oracle.resolve scope seen first = .ok (some t)) :
    FormDenotes oracle scope seen special first rest (.ofMembers [t, .none])
  | union {ts : List ResolvedType} (hform : special = "Union")
    (h : List.Forall₂ (fun e t => oracle.resolve scope seen e = .ok (some t)) (first :: rest) ts) :
    FormDenotes oracle scope seen special first rest (.ofMembers ts)
  | literal {ts : List ResolvedType} (hform : special = "Literal")
    (h : List.Forall₂ (fun e t => oracle.resolveLiteral scope seen e = .ok (some t)) (first :: rest) ts) :
    FormDenotes oracle scope seen special first rest (.ofMembers ts)
  | metatype (hform : special = "type" ∨ special = "Type") :
    FormDenotes oracle scope seen special first rest (.builtin "type")

theorem map_eq_reached {α β : Type} {result : Except Fault (Option α)} {f : α → β} {b : β} :
    (reached result >>= fun found => pure (found.map f)) = reached (.ok (some b))
      ↔ ∃ a, result = .ok (some a) ∧ f a = b := by
  rw [reached_bind_iff]
  constructor
  · rintro ⟨found, hfound, h⟩
    obtain ⟨a, rfl, ha⟩ := Option.map_eq_some_iff.1 (pure_eq_reached.1 h)
    exact ⟨a, reached_inj.1 hfound, ha⟩
  · rintro ⟨a, rfl, rfl⟩
    exact ⟨some a, rfl, rfl⟩

/-- A form that denotes an array wraps no type. -/
theorem not_wrapper_of_array {special : String}
    (h : arrayForms.contains special = true ∨ tupleForms.contains special = true) :
    wrapperForms.contains special = false := by
  have hforms : ∀ form ∈ arrayForms ++ tupleForms, wrapperForms.contains form = false := by decide
  exact hforms special (List.mem_append.2 (h.imp List.contains_iff_mem.1 List.contains_iff_mem.1))

theorem formDenotes_of_resolve {owner first : Expr} {before close : Gap} {entries : List Entry}
    {rest : List Expr} {special : String} {t : ResolvedType}
    (hspecial : (oracle.symbols scope).specialForm? owner.dottedName = some special)
    (hindices : Entry.indices entries = first :: rest)
    (h : oracle.resolve scope seen (.subscript owner before entries close) = .ok (some t)) :
    FormDenotes oracle scope seen special first rest t := by
  rw [← reached_inj, resolve_eq_step] at h
  simp only [stepResolve, hspecial, hindices] at h
  split at h
  · exact .wrapper ‹_› (reached_inj.1 h)
  split at h
  · obtain ⟨t, ht, rfl⟩ := map_eq_reached.1 h
    exact .array (.inl ‹_›) ht
  split at h
  · split at h
    · obtain ⟨t, ht, rfl⟩ := map_eq_reached.1 h
      exact .array (.inr ⟨‹_›, ‹_›⟩) ht
    · cases h
  split at h
  · cases pure_eq_reached.1 h
    exact .mapping ‹_›
  split at h
  · obtain ⟨t, ht, rfl⟩ := map_eq_reached.1 h
    exact .optional (eq_of_beq ‹_›) ht
  split at h
  · obtain ⟨found, hfound, h⟩ := reached_bind_iff.1 h
    obtain ⟨ts, hts, rfl⟩ := Option.map_eq_some_iff.1 (pure_eq_reached.1 h)
    exact .union (eq_of_beq ‹_›) (forall₂_of_mapM hfound hts)
  split at h
  · obtain ⟨found?, hfound, h⟩ := reached_bind_iff.1 h
    obtain ⟨ts, rfl, rfl⟩ := Option.map_eq_some_iff.1 (pure_eq_reached.1 h)
    obtain ⟨more, rfl, hmore⟩ := foldlM_addLiteral_iff.1 hfound
    exact .literal (eq_of_beq ‹_›) hmore
  split at h
  · rename_i hmetatype
    cases pure_eq_reached.1 h
    refine .metatype ?_
    simpa using hmetatype
  · cases h

theorem resolve_array {owner first : Expr} {before close : Gap} {entries : List Entry} {rest : List Expr}
    {special : String} {t : ResolvedType}
    (hspecial : (oracle.symbols scope).specialForm? owner.dottedName = some special)
    (hindices : Entry.indices entries = first :: rest)
    (hform : arrayForms.contains special = true
      ∨ tupleForms.contains special = true ∧ rest.map Expr.bare = [.ellipsis])
    (h : oracle.resolve scope seen first = .ok (some t)) :
    oracle.resolve scope seen (.subscript owner before entries close) = .ok (some (.array t)) := by
  have hfirst : reached (oracle.resolve scope seen first) = reached (.ok (some t)) := congrArg reached h
  have hwrapper := not_wrapper_of_array (hform.imp_right And.left)
  rw [← reached_inj, resolve_eq_step]
  simp only [stepResolve, hspecial, hindices, hwrapper, Bool.false_eq_true, if_false]
  split
  · exact map_eq_reached.2 ⟨t, h, rfl⟩
  · rename_i harray
    obtain ⟨htuple, hrest⟩ := hform.resolve_left harray
    rw [if_pos htuple, hrest]
    exact map_eq_reached.2 ⟨t, h, rfl⟩

theorem resolve_literal {owner first : Expr} {before close : Gap} {entries : List Entry} {rest : List Expr}
    {ts : List ResolvedType}
    (hspecial : (oracle.symbols scope).specialForm? owner.dottedName = some "Literal")
    (hindices : Entry.indices entries = first :: rest)
    (h : List.Forall₂ (fun e t => oracle.resolveLiteral scope seen e = .ok (some t)) (first :: rest) ts) :
    oracle.resolve scope seen (.subscript owner before entries close)
      = .ok (some (ResolvedType.ofMembers ts)) := by
  have hwrapper : wrapperForms.contains "Literal" = false := by decide
  have harray : arrayForms.contains "Literal" = false := by decide
  have htuple : tupleForms.contains "Literal" = false := by decide
  have hmapping : mappingForms.contains "Literal" = false := by decide
  have hoptional : ("Literal" == "Optional") = false := by decide
  have hunion : ("Literal" == "Union") = false := by decide
  rw [← reached_inj, resolve_eq_step]
  simp only [stepResolve, hspecial, hindices, hwrapper, harray, htuple, hmapping, hoptional, hunion,
    beq_self_eq_true, Bool.false_eq_true, if_false, if_true]
  exact reached_bind_iff.2 ⟨some ts, foldlM_addLiteral_iff.2 ⟨ts, rfl, h⟩, rfl⟩

/-- A member of a literal type is `None`, a value, or a member of an enumeration. -/
theorem literal_cases {e : Expr} {t : ResolvedType} (h : oracle.resolveLiteral scope seen e = .ok (some t)) :
    (e.isName "None" = true ∧ t = .none)
    ∨ (∃ value, literalValue e = .ok (some value) ∧ t = .literal value (.builtin value.typeName))
    ∨ ∃ owner member, owner.isEnumeration = true ∧ t = .enumMember owner member := by
  rw [resolveLiteral] at h
  split at h
  · rename_i hname
    cases h
    exact .inl ⟨hname, rfl⟩
  obtain ⟨value?, hvalue, h⟩ := bind_eq_ok.1 h
  cases value? with
  | some value =>
    cases h
    exact .inr (.inl ⟨value, hvalue, rfl⟩)
  | none =>
    dsimp only at h
    split at h
    · cases h
    obtain ⟨found, -, h⟩ := bind_eq_ok.1 h
    split at h
    · split at h
      · rename_i henum
        cases h
        exact .inr (.inr ⟨_, _, henum, rfl⟩)
      · cases h
    · cases h

/-! ## Quotations -/

/-- What is no name and has no parts is read as a quotation: it quotes nothing, or what cannot be read, and
then denotes no type, or it denotes what it quotes. -/
theorem quotation_cases {e : Expr} (hother : e.isOther = true) {t? : Option ResolvedType}
    (h : oracle.resolve scope seen e = .ok t?) : ∃ text?, stringValue e = .ok text?
      ∧ ((text? = none ∧ t? = none) ∨ ∃ text inner?, text? = some text ∧ quotedIn? text = .ok inner?
        ∧ ((inner? = none ∧ t? = none) ∨ ∃ inner, inner? = some inner
          ∧ oracle.resolve scope seen inner = .ok t?)) := by
  rw [← reached_inj, resolve_eq_step, stepResolve_other hother] at h
  obtain ⟨text?, htext, h⟩ := reached_bind_iff.1 h
  refine ⟨text?, reached_inj.1 htext, ?_⟩
  cases text? with
  | none => exact .inl ⟨rfl, (pure_eq_reached.1 h).symm⟩
  | some text =>
    obtain ⟨inner?, hinner, h⟩ := reached_bind_iff.1 h
    refine .inr ⟨text, inner?, rfl, reached_inj.1 hinner, ?_⟩
    cases inner? with
    | none => exact .inl ⟨rfl, (pure_eq_reached.1 h).symm⟩
    | some inner => exact .inr ⟨inner, rfl, reached_inj.1 h⟩

end Oracle
end ModelMetadata
