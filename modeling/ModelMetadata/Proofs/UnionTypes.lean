import ModelMetadata.Proofs.BoundReferences
import ModelMetadata.Proofs.Describing
import ModelMetadata.Proofs.HintForms
import ModelMetadata.Proofs.UnionMembers

/-!
The types of unions. No union that is found has another one as a member, so a union has the members that
its branches have, however it is nested; a branch that is recognised as `None` adds no other. What a union
is called thus follows from the branches that are left.
-/
set_option autoImplicit false
namespace ModelMetadata

open Source

/-! ## Answers are flat -/

theorem isUnion_unspelled (t : ResolvedType) : t.unspelled.isUnion = t.isUnion := by
  cases t <;> rfl

theorem flat_unspelled {t : ResolvedType} (h : t.Flat) : t.unspelled.Flat := by
  cases t with
  | union members =>
    change ∀ t ∈ ResolvedType.unspelledAll members, t.isUnion = false
    rw [ResolvedType.unspelledAll_eq_map]
    exact List.forall_mem_map.2 fun t ht => (isUnion_unspelled t).trans (h t ht)
  | _ => exact ResolvedType.flat_of_not_union rfl

theorem flat_respelled {t : ResolvedType} (h : t.Flat) (spelling : Option String) :
    (Oracle.respelled spelling t).Flat := by
  cases t with
  | named t => exact ResolvedType.flat_of_not_union rfl
  | _ => exact flat_unspelled h

theorem kept_flat : Kept ResolvedType.Flat where
  none := ResolvedType.flat_of_not_union rfl
  named _ _ := ResolvedType.flat_of_not_union rfl
  builtin _ := ResolvedType.flat_of_not_union rfl
  array _ := ResolvedType.flat_of_not_union rfl
  enumMember _ _ := ResolvedType.flat_of_not_union rfl
  ofMembers _ h := ResolvedType.flat_ofMembers h
  literal _ := ResolvedType.flat_of_not_union rfl
  unspelled h := flat_unspelled h
  respelled h spelling := flat_respelled h spelling

namespace Oracle

variable {oracle : Oracle}

theorem typeOf_flat {e : Expr} {t : ResolvedType} (h : oracle.typeOf e = .ok (some t)) : t.Flat :=
  kept_flat.typeOf h

/-! ## What a union denotes -/

def typesOf (oracle : Oracle) (es : List Expr) : Except Fault (Option (List ResolvedType)) :=
  (fun found => found.mapM id) <$> es.mapM oracle.typeOf

theorem typesOf_cons (e : Expr) (es : List Expr) : oracle.typesOf (e :: es) = do
    let t? ← oracle.typeOf e
    let ts? ← oracle.typesOf es
    return t?.bind fun t => ts?.map fun ts => t :: ts := by
  simp only [typesOf, List.mapM_cons, map_eq_pure_bind, bind_assoc, pure_bind]
  refine bind_congr fun t? => bind_congr fun found => ?_
  cases t? <;> cases List.mapM id found <;> rfl

theorem typesOf_append (es es' : List Expr) : oracle.typesOf (es ++ es') = do
    let ts? ← oracle.typesOf es
    let ts'? ← oracle.typesOf es'
    return ts?.bind fun ts => ts'?.map fun ts' => ts ++ ts' := by
  induction es with
  | nil =>
    have hnil : oracle.typesOf [] = .ok (some []) := rfl
    rw [List.nil_append, hnil]
    cases oracle.typesOf es' with
    | error fault => rfl
    | ok ts? => cases ts? <;> rfl
  | cons e es ih =>
    rw [List.cons_append, typesOf_cons, typesOf_cons, ih]
    cases oracle.typeOf e with
    | error fault => rfl
    | ok t? =>
      cases oracle.typesOf es with
      | error fault => rfl
      | ok ts? =>
        cases oracle.typesOf es' with
        | error fault => rfl
        | ok ts'? => cases t? <;> cases ts? <;> cases ts'? <;> rfl

/-- A union denotes the union of its parts, and of `None` where that is implied. -/
theorem typeOf_parts {e : Expr} {parts : List Expr} {implied : Bool}
    (h : unionParts? oracle e = some (parts, implied)) :
    oracle.typeOf e = (Option.map fun ts =>
        ResolvedType.ofMembers (ts ++ if implied then [.none] else [])) <$> oracle.typesOf parts := by
  have hpair (left right : Expr) : oracle.typesOf [left, right] = do
      let s? ← oracle.typeOf left
      let t? ← oracle.typeOf right
      return s?.bind fun s => t?.map fun t => [s, t] := by
    simp only [typesOf_cons]
    cases oracle.typeOf left with
    | error fault => rfl
    | ok s? =>
      cases oracle.typeOf right with
      | error fault => rfl
      | ok t? => cases s? <;> cases t? <;> rfl
  unfold typeOf
  rw [← resolve_bare]
  unfold unionParts? at h
  split at h
  · rename_i left _ _ right hbare
    cases h
    rw [hbare, resolve, hpair]
    unfold typeOf
    cases oracle.resolve .host [] left with
    | error fault => rfl
    | ok s? =>
      cases oracle.resolve .host [] right with
      | error fault => rfl
      | ok t? => cases s? <;> cases t? <;> rfl
  · rename_i owner before entries close hbare
    rw [hbare]
    dsimp only at h
    split at h
    · rename_i hspecial
      have hspecial : (oracle.symbols .host).specialForm? owner.dottedName = some "Optional" := hspecial
      split at h
      · rename_i hlength
        obtain ⟨inner, hinner⟩ := List.length_eq_one_iff.1 (eq_of_beq hlength)
        cases h
        rw [resolve_optional hspecial hinner, hinner, typesOf_cons]
        unfold typeOf
        cases oracle.resolve .host [] inner with
        | error fault => rfl
        | ok t? => cases t? <;> rfl
      · cases h
    · rename_i hspecial
      have hspecial : (oracle.symbols .host).specialForm? owner.dottedName = some "Union" := hspecial
      split at h
      · cases h
      · rename_i hne
        cases h
        rw [resolve_union hspecial (by simpa using hne)]
        unfold typesOf typeOf
        cases (Entry.indices entries).mapM (oracle.resolve .host []) with
        | error fault => rfl
        | ok found =>
          cases hfound : found.mapM id <;> simp [Functor.map, Except.map, hfound]
    · cases h
  · cases h

theorem typeOf_none : oracle.typeOf (.name "None") = .ok (some .none) := by rw [typeOf, resolve]

theorem typesOf_implied (implied : Bool) : oracle.typesOf (if implied then [impliedNone] else [])
    = .ok (some (if implied then [.none] else [])) := by
  cases implied with
  | false => rfl
  | true =>
    rw [if_pos rfl, typesOf_cons, impliedNone, typeOf_none]
    rfl

structure SameMembers (t : ResolvedType) (ts : List ResolvedType) : Prop where
  flat : t.Flat
  distinct : ResolvedType.distinct t.branches = ResolvedType.distinct (ts.flatMap ResolvedType.branches)

/-- The parts of a union have together the members that the branches of all parts have. -/
theorem typesOf_flatMap {es : List Expr}
    (h : ∀ e ∈ es, Outcomes (Option.Rel SameMembers) (oracle.typeOf e)
      (oracle.typesOf (unionBranches oracle e))) :
    Outcomes (Option.Rel fun ts ts' => (∀ t ∈ ts, t.Flat)
        ∧ ResolvedType.distinct (ts.flatMap ResolvedType.branches)
          = ResolvedType.distinct (ts'.flatMap ResolvedType.branches))
      (oracle.typesOf es) (oracle.typesOf (es.flatMap (unionBranches oracle))) := by
  induction es with
  | nil => exact .ok (.some ⟨by simp, rfl⟩)
  | cons e es ih =>
    rw [typesOf_cons, List.flatMap_cons, typesOf_append]
    refine (h e List.mem_cons_self).bind fun t? ts? hfirst => ?_
    refine (ih fun e he => h e (List.mem_cons_of_mem _ he)).bind fun others? others'? hothers => .ok ?_
    refine rel_bind hfirst fun t ts ht => rel_map hothers fun others others' hrest => ?_
    refine ⟨List.forall_mem_cons.2 ⟨ht.flat, hrest.1⟩, ?_⟩
    rw [List.flatMap_cons, List.flatMap_append]
    exact ResolvedType.distinct_append_congr ht.distinct hrest.2

/-- A union has the members that its branches have. -/
theorem typeOf_branches (e : Expr) : Outcomes (Option.Rel SameMembers) (oracle.typeOf e)
    (oracle.typesOf (unionBranches oracle e)) := by
  induction hn : e.weight using Nat.strongRecOn generalizing e with
  | ind n ih =>
    subst hn
    cases hparts : unionParts? oracle e with
    | none =>
      rw [unionBranches_eq, hparts]
      dsimp only
      rw [typesOf_cons]
      cases htype : oracle.typeOf e with
      | error fault => exact .fault fault
      | ok t? =>
        cases t? with
        | none => exact .ok .none
        | some t => exact .ok (.some ⟨typeOf_flat htype, by simp⟩)
    | some found =>
      obtain ⟨parts, implied⟩ := found
      have hall := typesOf_flatMap fun part hpart =>
        ih part.weight (weight_lt_of_unionParts hparts hpart) part rfl
      rw [unionBranches_eq, hparts, typeOf_parts hparts, map_eq_pure_bind]
      dsimp only
      rw [typesOf_append, typesOf_implied]
      refine hall.bind fun ts? ts'? hts => .ok ?_
      cases hts with
      | none => exact .none
      | @some ts ts' hts =>
        have hflat : ∀ t ∈ ts ++ (if implied then [.none] else []), t.Flat := by
          refine List.forall_mem_append.2 ⟨hts.1, ?_⟩
          intro t ht
          cases implied with
          | false => cases ht
          | true =>
            obtain rfl := List.mem_singleton.1 ht
            exact ResolvedType.flat_of_not_union rfl
        refine .some ⟨ResolvedType.flat_ofMembers hflat, ?_⟩
        rw [ResolvedType.distinct_ofMembers hflat, List.flatMap_append, List.flatMap_append]
        exact ResolvedType.distinct_append_congr hts.2 rfl

/-! ## Null branches -/

theorem parse_none : Expr.parse (Text.trimmed "None") = .ok (.name "None") := by cbv

theorem typeOf_bare_call {callee : Expr} {before close : Gap} {argument : Entry}
    (hcallee : oracle.specialForm? callee = some "type")
    (hnone : (argument.item.argument.map fun e => e.isName "None").getD false = true) :
    oracle.typeOf (.call callee before [argument] close) = .ok (some .none) := by
  have hspecial : (oracle.symbols .host).specialForm? callee.dottedName = some "type" := hcallee
  rw [typeOf, resolve.eq_def]
  simp only [hspecial, hnone, beq_self_eq_true, Bool.and_self, if_true]

/-- What is recognised as `None` denotes it. -/
theorem typeOf_of_isNull {e : Expr} (h : oracle.isNullBranch e = .ok true) :
    oracle.typeOf e = .ok (some .none) := by
  unfold isNullBranch at h
  split at h
  · rename_i hname
    unfold Expr.isName at hname
    rw [typeOf, ← resolve_bare]
    split at hname
    · rename_i text hbare
      rw [hbare, eq_of_beq hname]
      exact typeOf_none
    · cases hname
  cases htext : stringValue e with
  | error fault =>
    rw [htext] at h
    cases h
  | ok text? =>
    rw [htext] at h
    change (if text? == some "None" then _ else _) = _ at h
    split at h
    · rename_i hnone
      rw [eq_of_beq hnone] at htext
      rw [typeOf, resolve_quoted htext (quotedIn?_of_parse parse_none)]
      exact typeOf_none
    · split at h
      · rename_i argument hcallee harguments
        have hnone := Except.ok.inj h
        rw [typeOf, ← resolve_bare]
        unfold Expr.callee? at hcallee
        split at hcallee
        · rename_i callee before entries close hbare
          rw [Expr.arguments, hbare] at harguments
          dsimp only at harguments
          rw [hbare, harguments]
          exact typeOf_bare_call hcallee hnone
        · cases hcallee
      · cases h

/-- The members of some types besides `None`. -/
def membersOf (ts : List ResolvedType) : List ResolvedType :=
  (ts.flatMap ResolvedType.branches).filter fun t => !t.isNone

/-- The branches recognised as `None` add no other member. -/
theorem typesOf_nonNull {branches kept : List Expr} (h : oracle.nonNull branches = .ok kept) :
    Outcomes (Option.Rel fun ts us => membersOf ts = membersOf us)
      (oracle.typesOf branches) (oracle.typesOf kept) := by
  induction branches generalizing kept with
  | nil =>
    cases h
    exact .ok (.some rfl)
  | cons branch rest ih =>
    obtain ⟨isNull, hnull, h⟩ := bind_eq_ok.1 h
    obtain ⟨others, hothers, h⟩ := bind_eq_ok.1 h
    obtain rfl := Except.ok.inj h
    have hrest := ih hothers
    rw [typesOf_cons]
    cases isNull with
    | true =>
      rw [typeOf_of_isNull hnull, if_pos rfl, ← bind_pure (oracle.typesOf others)]
      refine hrest.bind fun ts? us? hts => .ok ?_
      cases hts with
      | none => exact .none
      | some hts => exact .some hts
    | false =>
      rw [if_neg Bool.false_ne_true, typesOf_cons]
      cases oracle.typeOf branch with
      | error fault => exact .fault fault
      | ok t? =>
        refine hrest.bind fun ts? us? hts => .ok ?_
        cases t? with
        | none => exact .none
        | some t =>
          refine rel_map hts fun ts us hts => ?_
          unfold membersOf at hts ⊢
          rw [List.flatMap_cons, List.flatMap_cons, List.filter_append, List.filter_append, hts]

theorem typeOf_of_indexed? {e owner first : Expr} {hlt : first.weight < e.weight} {metadata : List Expr}
    (hindexed : e.indexed? = some (owner, ⟨first, hlt⟩, metadata))
    (hwrapper : ((oracle.specialForm? owner).map wrapperForms.contains).getD false = true) :
    oracle.typeOf first = oracle.typeOf e := by
  obtain ⟨special, hspecial, hwrapper⟩ : ∃ special, oracle.specialForm? owner = some special
      ∧ wrapperForms.contains special = true := by
    cases hspecial : oracle.specialForm? owner with
    | none =>
      rw [hspecial] at hwrapper
      cases hwrapper
    | some special =>
      rw [hspecial] at hwrapper
      exact ⟨special, rfl, hwrapper⟩
  have hspecial : (oracle.symbols .host).specialForm? owner.dottedName = some special := hspecial
  unfold Expr.indexed? at hindexed
  split at hindexed
  · rename_i hbare
    split at hindexed
    · cases hindexed
    · rename_i hindices
      cases hindexed
      unfold typeOf
      rw [← resolve_bare e, hbare, resolve_wrapper hspecial hwrapper hindices]
  · cases hindexed

/-- Quotes and wrappers add nothing to the type of an annotation. -/
theorem typeOf_core {e core : Expr} (h : oracle.core e = .ok core) : oracle.typeOf core = oracle.typeOf e := by
  induction hn : e.weight using Nat.strongRecOn generalizing e with
  | ind n ih =>
    subst hn
    rw [Oracle.core] at h
    obtain ⟨text?, htext, h⟩ := bind_eq_ok.1 h
    cases text? with
    | some text =>
      obtain ⟨inner?, hinner, h⟩ := bind_eq_ok.1 h
      cases inner? with
      | none => rw [Except.ok.inj h]
      | some inner =>
        have hquoted : quotedIn? text = .ok (some inner.val) := by rw [quoted?_eq htext, hinner]; rfl
        rw [ih _ inner.property h rfl, typeOf, typeOf, resolve_quoted htext hquoted]
    | none =>
      dsimp only at h
      split at h
      · rename_i owner first hlt metadata hindexed
        split at h
        · rename_i hwrapper
          rw [ih _ hlt h rfl, typeOf_of_indexed? hindexed hwrapper]
        · rw [Except.ok.inj h]
      · rw [Except.ok.inj h]

/-- A union is called by the members that its branches besides `None` have. -/
theorem reference_of_branches {e : Expr} {kept : List Expr}
    (hkept : oracle.nonNull (unionBranches oracle e) = .ok kept) :
    Outcomes (Option.Rel fun t us =>
        t.reference = ResolvedType.called (ResolvedType.distinct (membersOf us)))
      (oracle.typeOf e) (oracle.typesOf kept) := by
  have hbranches : Outcomes (Option.Rel SameMembers) (oracle.typeOf e)
    (oracle.typesOf (unionBranches oracle e)) := typeOf_branches e
  have hnull := typesOf_nonNull hkept
  generalize oracle.typesOf (unionBranches oracle e) = types at hbranches hnull
  generalize oracle.typesOf kept = others at hnull
  generalize oracle.typeOf e = found at hbranches
  cases hbranches with
  | fault fault =>
    cases hnull with
    | fault => exact .fault fault
  | ok hmembers =>
    cases hnull with
    | ok hnull =>
      cases hmembers with
      | none =>
        cases hnull with
        | none => exact .ok .none
      | some hmembers =>
        cases hnull with
        | some hnull =>
          refine .ok (.some ?_)
          rw [ResolvedType.reference_eq_called hmembers.flat, ResolvedType.rest_congr hmembers.distinct,
            ← hnull]
          rfl

/-- A union of one branch besides `None` is called as the branch is. -/
theorem reference_of_branch {e branch : Expr}
    (hkept : oracle.nonNull (unionBranches oracle e) = .ok [branch]) :
    Outcomes (Option.Rel fun t s => t.reference = s.reference) (oracle.typeOf e)
      (oracle.typeOf branch) := by
  have hmembers := reference_of_branches hkept
  rw [typesOf_cons] at hmembers
  generalize oracle.typeOf e = found at hmembers
  cases htype : oracle.typeOf branch with
  | error fault =>
    rw [htype] at hmembers
    cases hmembers
    exact .fault fault
  | ok s? =>
    rw [htype] at hmembers
    cases s? with
    | none =>
      cases hmembers with
      | ok hrel =>
        cases hrel
        exact .ok .none
    | some s =>
      cases hmembers with
      | ok hrel =>
        cases hrel with
        | some ht =>
          have hone : membersOf [s] = s.branches.filter fun t => !t.isNone := by simp [membersOf]
          refine .ok (.some (ht.trans ?_))
          rw [ResolvedType.reference_eq_called (typeOf_flat htype), ResolvedType.rest, ← hone]
          rfl

end Oracle
end ModelMetadata
