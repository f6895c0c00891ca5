import ModelMetadata.Proofs.Inquiries
import ModelMetadata.Proofs.Layers
import ModelMetadata.Proofs.NormalTypes
import ModelMetadata.Proofs.SubscriptForms

/-!
Branches that are `None`. A branch of a union is recognised as `None` by how it is written, and it denotes
`None` by what the oracle makes of it. There are more ways to write `None` than the ones recognised: other
quotations of it, literal types of it, and unions and wrappers of such. Where no alias is followed, these are
all the ways to write it.
-/
set_option autoImplicit false
namespace ModelMetadata

open Source

namespace Oracle

variable {oracle : Oracle}

/-! ## Aliases -/

/-- To answer something, an alias is followed: a name in it stands for an alias, in its own module or where
it is imported from. The bases of classes are not looked at. -/
inductive FollowsAlias (oracle : Oracle) : Inquiry → Prop
  | name {scope scope' : Scope} {dotted : String} {value : Expr}
    (h : oracle.Asks (.name scope dotted) (.hint scope' value)) : FollowsAlias oracle (.name scope dotted)
  | provided {origin name : String} {scope : Scope} {value : Expr}
    (h : oracle.Asks (.provided origin name) (.hint scope value)) :
    FollowsAlias oracle (.provided origin name)
  | later {inquiry later : Inquiry} (hbases : ∀ scope className, inquiry ≠ .bases scope className)
    (hasks : oracle.Asks inquiry later) (h : FollowsAlias oracle later) : FollowsAlias oracle inquiry

theorem bareSpecial_ne_none (special : String) : bareSpecial special ≠ some .none := by
  obtain h | ⟨name, -, h⟩ := bareSpecial_builtin special
  all_goals
    rw [h]
    exact nofun

theorem respelled_eq_none {spelling : Option String} {t : ResolvedType}
    (h : respelled spelling t = .none) : t = .none := by
  cases t <;> first | rfl | cases h

theorem unspelled_eq_none {t : ResolvedType} (h : t.unspelled = .none) : t = .none := by
  cases t <;> first | rfl | cases h

/-- A name that a module provides is `None` only as an alias. -/
theorem followsAlias_of_provided {seen : List Key} {origin name : String} {spelling : Option String}
    (hnames : ∀ seen', oracle.unseen seen' < oracle.unseen seen → ∀ scope dotted,
      oracle.resolveName scope seen' dotted = .ok (some .none) → oracle.FollowsAlias (.name scope dotted))
    (h : oracle.resolveExternal seen origin name spelling = .ok (some .none)) :
    oracle.FollowsAlias (.provided origin name) := by
  rw [← reached_inj, resolveExternal_eq_step] at h
  simp only [stepExternal] at h
  split at h
  · exact (bareSpecial_ne_none _ (Except.ok.inj (reached_inj.1 h))).elim
  rename_i htyping
  split at h
  · split at h <;> cases h
  rename_i hbuiltins
  split at h
  · cases h
  rename_i henumeration
  have hordinary : Ordinary origin name :=
    ⟨Bool.eq_false_iff.2 htyping, Bool.eq_false_iff.2 hbuiltins, Bool.eq_false_iff.2 henumeration⟩
  split at h
  · cases h
  rename_i external htable
  split at h
  · cases h
  rename_i hseen
  split at h
  · obtain ⟨isEnum, -, h⟩ := reached_bind_iff.1 h
    cases h
  rename_i hclass
  split at h
  · rename_i value halias
    exact .provided (.providedAlias hordinary htable hclass halias)
  rename_i halias
  split at h
  · rename_i binding himport
    obtain ⟨t, ht, hnone⟩ := map_eq_reached.1 h
    rw [respelled_eq_none hnone] at ht
    have hlater := unseen_lt (outerKey_mem_of_import htable himport) (Bool.eq_false_iff.2 hseen)
    exact .later (by rintro _ _ ⟨⟩) (.passedOn hordinary htable hclass halias himport)
      (hnames _ hlater _ _ ht)
  · cases h

/-- A name is `None` only as an alias. -/
theorem followsAlias_of_name {scope : Scope} {seen : List Key} {dotted : String}
    (h : oracle.resolveName scope seen dotted = .ok (some .none)) :
    oracle.FollowsAlias (.name scope dotted) := by
  induction hn : oracle.unseen seen using Nat.strongRecOn generalizing scope seen dotted with
  | ind n ih =>
    subst hn
    rw [← reached_inj, resolveName_eq_step] at h
    simp only [stepName] at h
    split at h
    · cases h
    split at h
    · cases h
    rename_i head rest hpieces
    split at h
    · split at h
      · obtain ⟨isEnum, -, h⟩ := reached_bind_iff.1 h
        cases h
      · cases h
    rename_i hclass
    split at h
    · rename_i value halias
      exact .name (.ofAlias hpieces hclass halias)
    rename_i halias
    split at h
    · rename_i binding himport
      split at h
      · rename_i origin name htarget
        refine .later (by rintro _ _ ⟨⟩) (.ofImport hpieces hclass halias himport htarget) ?_
        exact followsAlias_of_provided (fun seen' hlt scope dotted h => ih _ hlt h rfl) (reached_inj.1 h)
      · cases h
    · split at h <;> cases h

theorem followsAlias_of_dotted {scope : Scope} {seen : List Key} {dotted : String}
    (h : oracle.resolveDotted scope seen dotted = .ok (some .none)) :
    oracle.FollowsAlias (.dotted scope dotted) := by
  rw [resolveDotted] at h
  split at h
  · exact (bareSpecial_ne_none _ (Except.ok.inj h)).elim
  · rename_i hplain
    exact .later (by rintro _ _ ⟨⟩) (.plain hplain) (followsAlias_of_name h)

theorem FollowsAlias.of_bare {scope : Scope} {e : Expr} (h : oracle.FollowsAlias (.hint scope e.bare)) :
    oracle.FollowsAlias (.hint scope e) := by
  induction e using Expr.bare.induct with
  | case1 _ inner _ ih =>
    rw [Expr.bare] at h
    exact .later (by rintro _ _ ⟨⟩) .inner (ih h)
  | case2 e hparen =>
    rw [Expr.bare] at h
    · exact h
    · exact hparen

end Oracle

/-! ## Types that are `None` -/

namespace ResolvedType

theorem eq_none_of_same {t : ResolvedType} (h : t.same .none = true) : t = .none := by
  cases t <;> first | rfl | cases h

/-- A union has a member besides `None`. -/
theorem eq_none_of_branches {t : ResolvedType} (h : t.Normal ApartAsSpelled)
    (hbranches : ∀ branch ∈ t.branches, branch = .none) : t = .none := by
  cases h with
  | @union members hlength _ hapart _ =>
    obtain ⟨spelled, hspelled, hmembers⟩ := hapart
    have hnone : ∀ t ∈ spelled, t = .none := by
      intro t ht
      obtain rfl | rfl := hmembers
      · exact hbranches t ht
      · rw [branches, unspelledAll_eq_map] at hbranches
        exact Oracle.unspelled_eq_none (hbranches _ (List.mem_map_of_mem ht))
    have hlength : 2 ≤ spelled.length := by
      obtain rfl | rfl := hmembers
      · exact hlength
      · rwa [unspelledAll_eq_map, List.length_map] at hlength
    obtain _ | ⟨s, _ | ⟨t, others⟩⟩ := spelled
    · cases hlength
    · exact absurd hlength (Nat.not_succ_le_self 1)
    · have hother := (List.pairwise_cons.1 hspelled).1 t List.mem_cons_self
      rw [hnone s List.mem_cons_self, hnone t (List.mem_cons_of_mem _ List.mem_cons_self)] at hother
      cases hother
  | _ => exact hbranches _ List.mem_cons_self

/-- A union is `None` only if all its parts have no other member. -/
theorem branches_of_ofMembers {ts : List ResolvedType} (hflat : ∀ t ∈ ts, t.Flat)
    (h : ofMembers ts = .none) : ∀ t ∈ ts, ∀ branch ∈ t.branches, branch = .none := by
  have hkept : distinct (ts.flatMap branches) = [.none] := by
    rw [← branches_ofMembers hflat, h]
    rfl
  intro t ht branch hbranch
  have hcovered := any_foldl_keep (t := branch) [] (.inl (List.mem_flatMap.2 ⟨t, ht, hbranch⟩))
  rw [← distinct_eq, hkept] at hcovered
  exact eq_none_of_same (by simpa using hcovered)

theorem foldl_keep_const {α : Type} (t : ResolvedType) (xs : List α) :
    (xs.map fun _ => t).foldl keep [t] = [t] := by
  induction xs with
  | nil => rfl
  | cons x xs ih =>
    have hkeep : keep [t] t = [t] := by simp [keep, same_refl]
    rw [List.map_cons, List.foldl_cons, hkeep, ih]

/-- The union of one type, however often it is named. -/
theorem ofMembers_const {α : Type} {t : ResolvedType} (ht : t.isUnion = false) {xs : List α}
    (hne : xs ≠ []) : ofMembers (xs.map fun _ => t) = t := by
  have hbranches : (xs.map fun _ => t).flatMap branches = xs.map fun _ => t :=
    flatMap_branches_of_not_union (List.forall_mem_map.2 fun _ _ => ht)
  cases xs with
  | nil => exact (hne rfl).elim
  | cons x xs =>
    have hkept : distinct (t :: xs.map fun _ => t) = [t] := foldl_keep_const t xs
    rw [ofMembers, hbranches, List.map_cons, hkept]

end ResolvedType

namespace Source.Expr

/-- A subscript with its indices, parentheses aside. -/
theorem bare_of_indexing? {e owner first : Expr} {rest : List Expr}
    (h : e.indexing? = some (owner, first, rest)) : ∃ before entries close,
      e.bare = .subscript owner before entries close ∧ Entry.indices entries = first :: rest := by
  unfold indexing? at h
  split at h
  · rename_i hbare
    split at h
    · cases h
    · rename_i hindices
      cases h
      exact ⟨_, _, _, hbare, hindices⟩
  · cases h

theorem bare_ne_paren (e : Expr) (afterOpen beforeClose : Gap) (inner : Expr) :
    e.bare ≠ .paren afterOpen inner beforeClose := by
  fun_induction bare e with
  | case1 _ inner' _ ih => exact ih
  | case2 e hparen => exact fun h => hparen _ _ _ h

end Source.Expr

theorem parse_of_quotedIn? {text : String} {inner : Expr} (h : quotedIn? text = .ok (some inner)) :
    Expr.parse (Text.trimmed text) = .ok inner := by
  unfold quotedIn? at h
  cases hparse : Expr.parse (Text.trimmed text) with
  | ok found =>
    rw [hparse] at h
    cases h
    rfl
  | error fault =>
    rw [hparse] at h
    cases fault <;> cases h

namespace Oracle

variable {oracle : Oracle} {e : Expr}

theorem typesOf_iff {es : List Expr} {ts : List ResolvedType} : oracle.typesOf es = .ok (some ts)
    ↔ List.Forall₂ (fun e t => oracle.typeOf e = .ok (some t)) es ts := by
  induction es generalizing ts with
  | nil =>
    have hnil : oracle.typesOf [] = .ok (some []) := rfl
    rw [hnil, List.forall₂_nil_left_iff]
    exact ⟨fun h => by cases h; rfl, fun h => by rw [h]⟩
  | cons e es ih =>
    rw [typesOf_cons]
    constructor
    · intro h
      obtain ⟨t?, ht, h⟩ := bind_eq_ok.1 h
      obtain ⟨ts?, hts, h⟩ := bind_eq_ok.1 h
      obtain ⟨t, rfl, hall⟩ := Option.bind_eq_some_iff.1 (Except.ok.inj h)
      obtain ⟨ts, rfl, rfl⟩ := Option.map_eq_some_iff.1 hall
      exact .cons ht (ih.1 hts)
    · rintro (_ | ⟨ht, hts⟩)
      exact bind_eq_ok.2 ⟨_, ht, bind_eq_ok.2 ⟨_, ih.2 hts, rfl⟩⟩

/-! ## Spellings -/

/-- The spellings of `None` that a branch is recognised by: the name, in quotes without blanks or not, and the
type of it. -/
inductive ShownNull (oracle : Oracle) (e : Expr) : Prop
  | name (h : e.isName "None" = true)
  | quoted (h : stringValue e = .ok (some "None"))
  | type {callee : Expr} {argument : Entry} (hcallee : e.callee? = some callee)
    (hspecial : oracle.specialForm? callee = some "type") (harguments : e.arguments = [argument])
    (hnone : (argument.item.argument.map fun e => e.isName "None").getD false = true)

/-- All spellings of `None`: those that are recognised, and whatever is made of some by quotes, as the members
of a literal type, by wrappers and optional types, by unions, and by an index. -/
inductive NullForm (oracle : Oracle) : Expr → Prop
  | shown {e : Expr} (h : ShownNull oracle e) : NullForm oracle e
  | quoted {q inner : Expr} {text : String} (htext : stringValue q = .ok (some text))
    (hparse : Expr.parse (Text.trimmed text) = .ok inner) (h : NullForm oracle inner) : NullForm oracle q
  | literal {e owner first : Expr} {rest : List Expr} (hindexing : e.indexing? = some (owner, first, rest))
    (hspecial : oracle.specialForm? owner = some "Literal")
    (h : ∀ member ∈ first :: rest, member.isName "None" = true) : NullForm oracle e
  | first {e owner first : Expr} {rest : List Expr} {special : String}
    (hindexing : e.indexing? = some (owner, first, rest)) (hspecial : oracle.specialForm? owner = some special)
    (hform : wrapperForms.contains special = true ∨ special = "Optional") (h : NullForm oracle first) :
    NullForm oracle e
  | union {e : Expr} {parts : List Expr} (hparts : unionParts? oracle e = some (parts, false))
    (h : ∀ part ∈ parts, NullForm oracle part) : NullForm oracle e
  | generic {e owner : Expr} {before close : Gap} {entries : List Entry}
    (hbare : e.bare = .subscript owner before entries close) (hplain : oracle.specialForm? owner = none)
    (h : NullForm oracle owner) : NullForm oracle e

theorem unionParts?_ne_nil {parts : List Expr} {implied : Bool}
    (h : unionParts? oracle e = some (parts, implied)) : parts ≠ [] := by
  unfold unionParts? at h
  split at h
  · cases h
    exact nofun
  · dsimp only at h
    split at h
    · split at h <;> cases h
      rename_i hlength
      rintro hnil
      rw [hnil] at hlength
      cases hlength
    · split at h <;> cases h
      rename_i hempty
      exact fun hnil => hempty (List.isEmpty_iff.2 hnil)
    · cases h
  · cases h

theorem isNullBranch_iff : oracle.isNullBranch e = .ok true ↔ ShownNull oracle e := by
  constructor
  · intro h
    unfold isNullBranch at h
    split at h
    · exact .name ‹_›
    obtain ⟨text?, htext, h⟩ := bind_eq_ok.1 h
    split at h
    · rename_i hnone
      exact .quoted (by rw [htext, eq_of_beq hnone])
    · split at h
      · rename_i argument hcallee harguments
        obtain ⟨callee, hcallee, hspecial⟩ := Option.bind_eq_some_iff.1 hcallee
        exact .type hcallee hspecial harguments (Except.ok.inj h)
      · cases h
  · intro h
    unfold isNullBranch
    split
    · rfl
    rename_i hname
    cases h with
    | name h => exact (hname h).elim
    | quoted h =>
      rw [h]
      rfl
    | type hcallee hspecial harguments hnone =>
      have htext : stringValue e = .ok none := by
        rw [← stringValue_bare]
        unfold Expr.callee? at hcallee
        split at hcallee
        · rename_i hbare
          rw [hbare]
          rfl
        · cases hcallee
      rw [htext, hcallee, harguments, Option.bind_some, hspecial]
      exact congrArg Except.ok hnone

/-- Every spelling of `None` denotes it. -/
theorem typeOf_of_nullForm (h : NullForm oracle e) : oracle.typeOf e = .ok (some .none) := by
  induction h with
  | shown h => exact typeOf_of_isNull (isNullBranch_iff.2 h)
  | quoted htext hparse _ ih =>
    rw [typeOf, resolve_quoted htext (quotedIn?_of_parse hparse)]
    exact ih
  | @literal e owner first rest hindexing hspecial h =>
    obtain ⟨before, entries, close, hbare, hindices⟩ := Expr.bare_of_indexing? hindexing
    have hspecial : (oracle.symbols .host).specialForm? owner.dottedName = some "Literal" := hspecial
    have hnone : ∀ member ∈ first :: rest, oracle.resolveLiteral .host [] member = .ok (some .none) := by
      intro member hmember
      rw [resolveLiteral, h member hmember]
      rfl
    have hall : List.Forall₂ (fun e t => oracle.resolveLiteral .host [] e = .ok (some t)) (first :: rest)
        ((first :: rest).map fun _ => .none) :=
      List.forall₂_map_right_iff.2 (List.forall₂_same.2 hnone)
    rw [typeOf, ← resolve_bare, hbare, resolve_literal hspecial hindices hall,
      ResolvedType.ofMembers_const rfl (List.cons_ne_nil first rest)]
  | @first e owner first rest special hindexing hspecial hform _ ih =>
    obtain ⟨before, entries, close, hbare, hindices⟩ := Expr.bare_of_indexing? hindexing
    have hspecial : (oracle.symbols .host).specialForm? owner.dottedName = some special := hspecial
    rw [typeOf, ← resolve_bare, hbare]
    obtain hwrapper | rfl := hform
    · rw [resolve_wrapper hspecial hwrapper hindices]
      exact ih
    · have hfirst : oracle.resolve .host [] first = .ok (some .none) := ih
      rw [resolve_optional hspecial hindices, hfirst]
      rfl
  | @union e parts hparts _ ih =>
    have htypes : oracle.typesOf parts = .ok (some (parts.map fun _ => .none)) :=
      typesOf_iff.2 (List.forall₂_map_right_iff.2 (List.forall₂_same.2 ih))
    have hnone := ResolvedType.ofMembers_const (t := .none) rfl (unionParts?_ne_nil hparts)
    rw [typeOf_parts hparts, htypes]
    simp only [Functor.map, Except.map, Option.map_some, Bool.false_eq_true, if_false, List.append_nil, hnone]
  | @generic e owner before close entries hbare hplain _ ih =>
    have hplain : (oracle.symbols .host).specialForm? owner.dottedName = none := hplain
    rw [typeOf, ← resolve_bare, hbare, resolve, hplain]
    exact ih

/-- What a union that is `None` is made of. -/
theorem typeOf_of_ofMembers {members : List Expr} {ts : List ResolvedType}
    (hts : List.Forall₂ (fun e t => oracle.typeOf e = .ok (some t)) members ts)
    (h : ResolvedType.ofMembers ts = .none) : ∀ e ∈ members, oracle.typeOf e = .ok (some .none) := by
  have hnormal : ∀ t ∈ ts, t.Normal ResolvedType.ApartAsSpelled :=
    forall_of_forall₂ (P := fun _ => True) hts.flip (fun _ _ htype _ => kept_normal.typeOf htype)
      fun _ _ => trivial
  have hbranches := ResolvedType.branches_of_ofMembers (fun t ht => (hnormal t ht).flat) h
  refine forall_of_forall₂ hts (fun e t htype ht => ?_) fun t ht =>
    ResolvedType.eq_none_of_branches (hnormal t ht) (hbranches t ht)
  rw [htype, ht]

/-- What a literal type that is `None` is made of. -/
theorem isName_of_ofMembers {members : List Expr} {ts : List ResolvedType}
    (hts : List.Forall₂ (fun e t => oracle.resolveLiteral .host [] e = .ok (some t)) members ts)
    (h : ResolvedType.ofMembers ts = .none) : ∀ e ∈ members, e.isName "None" = true := by
  have hsingle : ∀ t ∈ ts, t.isUnion = false :=
    forall_of_forall₂ (P := fun _ => True) hts.flip (fun t e htype _ => by
      obtain ⟨-, rfl⟩ | ⟨value, -, rfl⟩ | ⟨owner, member, -, rfl⟩ := literal_cases htype <;> rfl)
      fun _ _ => trivial
  have hbranches := ResolvedType.branches_of_ofMembers
    (fun t ht => ResolvedType.flat_of_not_union (hsingle t ht)) h
  refine forall_of_forall₂ (P := fun t => t = .none) hts (fun e t htype ht => ?_) fun t ht => ?_
  · obtain ⟨hname, -⟩ | ⟨value, -, hvalue⟩ | ⟨owner, member, -, hmember⟩ := literal_cases htype
    · exact hname
    · rw [ht] at hvalue
      cases hvalue
    · rw [ht] at hmember
      cases hmember
  · refine hbranches t ht t ?_
    rw [ResolvedType.branches_of_not_union (hsingle t ht)]
    exact List.mem_singleton_self t

/-- The parts of an annotation, and what it quotes, are spellings of `None` where they denote it. -/
def NullParts (oracle : Oracle) (e : Expr) : Prop :=
  ∀ part, oracle.Asks (.hint .host e.bare) (.hint .host part) → part.weight < e.weight →
    oracle.typeOf part = .ok (some .none) → NullForm oracle part

/-- The subscript of a special form is `None` only if what it is resolved through is. -/
theorem nullForm_of_form {owner first : Expr} {before close : Gap} {entries : List Entry} {rest : List Expr}
    {special : String} (hbare : e.bare = .subscript owner before entries close) (hparts : oracle.NullParts e)
    (hspecial : (oracle.symbols .host).specialForm? owner.dottedName = some special)
    (hindices : Entry.indices entries = first :: rest)
    (h : FormDenotes oracle .host [] special first rest .none) : NullForm oracle e := by
  have hlight {member : Expr} (hmember : member ∈ Entry.indices entries) : member.weight < e.weight :=
    Nat.lt_of_lt_of_le (Expr.weight_lt_subscript hmember) (hbare ▸ e.weight_bare_le)
  rw [NullParts, hbare] at hparts
  have hindexing : e.indexing? = some (owner, first, rest) := by
    simp only [Expr.indexing?, hbare, hindices]
  have hfirst (hthrough : looksThrough special = true) (h : oracle.typeOf first = .ok (some .none)) :
      NullForm oracle first := by
    have hhead : (Entry.indices entries).head? = some first := by rw [hindices, List.head?_cons]
    exact hparts first (.first hspecial hthrough hhead) (hlight (hindices ▸ List.mem_cons_self)) h
  generalize hnone : ResolvedType.none = t at h
  cases h with
  | wrapper hform h =>
    subst hnone
    refine .first hindexing hspecial (.inl hform) (hfirst ?_ h)
    simp only [looksThrough, hform, Bool.true_or]
  | array => cases hnone
  | mapping => cases hnone
  | metatype => cases hnone
  | @optional t hform h =>
    subst hform
    refine .first hindexing hspecial (.inr rfl) (hfirst rfl ?_)
    have htypes : List.Forall₂ (fun e t => oracle.typeOf e = .ok (some t)) [first, impliedNone]
        [t, .none] := .cons h (.cons typeOf_none .nil)
    exact typeOf_of_ofMembers htypes hnone.symm first List.mem_cons_self
  | union hform h =>
    subst hform
    have hunion : unionParts? oracle e = some (first :: rest, false) := by
      have hspecial : oracle.specialForm? owner = some "Union" := hspecial
      simp only [unionParts?, hbare, hspecial, hindices]
      rfl
    refine .union hunion fun part hpart => ?_
    have hmember : part ∈ Entry.indices entries := hindices ▸ hpart
    exact hparts part (.member hspecial hmember) (hlight hmember)
      (typeOf_of_ofMembers h hnone.symm part hpart)
  | literal hform h =>
    subst hform
    exact .literal hindexing hspecial (isName_of_ofMembers h hnone.symm)

/-- A subscript is `None` only by its form, or as its owner. -/
theorem nullForm_of_subscript {owner : Expr} {before close : Gap} {entries : List Entry}
    (hbare : e.bare = .subscript owner before entries close) (hparts : oracle.NullParts e)
    (h : oracle.resolve .host [] (.subscript owner before entries close) = .ok (some .none)) :
    NullForm oracle e := by
  cases hspecial : (oracle.symbols .host).specialForm? owner.dottedName with
  | none =>
    rw [resolve, hspecial] at h
    rw [NullParts, hbare] at hparts
    refine .generic hbare hspecial (hparts owner (.generic hspecial) ?_ h)
    have hlight : (Expr.subscript owner before entries close).weight ≤ e.weight := hbare ▸ e.weight_bare_le
    exact Nat.lt_of_lt_of_le (by simp only [Expr.weight]; omega) hlight
  | some special =>
    cases hindices : Entry.indices entries with
    | nil =>
      rw [← reached_inj, resolve_eq_step] at h
      simp only [stepResolve, hspecial, hindices] at h
      cases h
    | cons first rest =>
      exact nullForm_of_form hbare hparts hspecial hindices (formDenotes_of_resolve hspecial hindices h)

/-- A quotation is `None` only if what it quotes is. -/
theorem nullForm_of_other (hother : e.bare.isOther = true) (hparts : oracle.NullParts e)
    (h : oracle.resolve .host [] e.bare = .ok (some .none)) : NullForm oracle e := by
  obtain ⟨text?, htext, ⟨-, hnone⟩ | ⟨text, inner?, rfl, hinner, hquoted⟩⟩ := quotation_cases hother h
  · cases hnone
  · obtain ⟨-, hnone⟩ | ⟨inner, rfl, hnone⟩ := hquoted
    · cases hnone
    · have hasks : oracle.Asks (.hint .host e.bare) (.hint .host inner) := .quoted htext hinner
      rw [stringValue_bare] at htext
      have hparse := parse_of_quotedIn? hinner
      exact .quoted htext hparse (hparts inner hasks (weight_lt_of_quoted htext hparse) hnone)

/-- A union is `None` only if both sides are. -/
theorem nullForm_of_bar {left right : Expr} {beforeOp afterOp : Gap}
    (hbare : e.bare = .binary left beforeOp "|" afterOp right) (hparts : oracle.NullParts e)
    (h : oracle.typeOf e = .ok (some .none)) : NullForm oracle e := by
  have hunion : unionParts? oracle e = some ([left, right], false) := by
    simp only [unionParts?, hbare]
  rw [typeOf_parts hunion] at h
  obtain ⟨ts?, hts, h⟩ := map_eq_ok.1 h
  obtain ⟨ts, rfl, hnone⟩ := Option.map_eq_some_iff.1 h
  rw [if_neg Bool.false_ne_true, List.append_nil] at hnone
  have hall := typeOf_of_ofMembers (typesOf_iff.1 hts) hnone
  refine .union hunion fun part hpart => ?_
  refine hparts part ?_ (weight_lt_of_unionParts hunion hpart) (hall part hpart)
  rw [hbare]
  obtain rfl | hpart := List.mem_cons.1 hpart
  · exact .left
  · obtain rfl := List.mem_singleton.1 hpart
    exact .right

/-- A dotted name other than `None` itself denotes it only as an alias. -/
theorem followsAlias_of_reference {e : Expr} (he : e.isReference = true)
    (h : oracle.typeOf e = .ok (some .none)) : oracle.FollowsAlias (.hint .host e) := by
  cases e with
  | name text =>
    have hnone : text ≠ "None" := bne_iff_ne.1 he
    rw [typeOf_name hnone] at h
    exact .later (by rintro _ _ ⟨⟩) (.bare hnone) (followsAlias_of_dotted h)
  | «attribute» owner beforeDot afterDot attr =>
    rw [typeOf, resolve] at h
    exact .later (by rintro _ _ ⟨⟩) .attribute (followsAlias_of_dotted h)
  | _ => cases he

/-- A call denotes `None` only if it asks for the type of it. -/
theorem shownNull_of_call {callee : Expr} {before close : Gap} {entries : List Entry}
    (hbare : e.bare = .call callee before entries close)
    (h : oracle.resolve .host [] (.call callee before entries close) = .ok (some .none)) :
    ShownNull oracle e := by
  have hcallee : e.callee? = some callee := by rw [Expr.callee?, hbare]
  have harguments : e.arguments = entries := by rw [Expr.arguments, hbare]
  rw [resolve.eq_def] at h
  dsimp only at h
  split at h
  · split at h
    · rename_i hcond
      obtain ⟨hspecial, hnone⟩ := Bool.and_eq_true_iff.1 hcond
      exact .type hcallee (eq_of_beq hspecial) harguments hnone
    · split at h <;> cases h
  · rw [Bool.and_false, if_neg Bool.false_ne_true] at h
    split at h <;> cases h

/-- Where no alias is followed, only the spellings of `None` denote it. -/
theorem nullForm_of_typeOf (haliases : ¬ oracle.FollowsAlias (.hint .host e))
    (h : oracle.typeOf e = .ok (some .none)) : NullForm oracle e := by
  induction hn : e.weight using Nat.strongRecOn generalizing e with
  | ind n ih =>
    subst hn
    have haliases : ¬ oracle.FollowsAlias (.hint .host e.bare) := fun h => haliases h.of_bare
    have hparts : oracle.NullParts e := fun part hasks hlight h =>
      ih part.weight hlight (fun hpart => haliases (.later (by rintro _ _ ⟨⟩) hasks hpart)) h rfl
    have hbareType := h
    rw [typeOf, ← resolve_bare] at hbareType
    by_cases hother : e.bare.isOther = true
    · exact nullForm_of_other hother hparts hbareType
    cases hbare : e.bare with
    | paren afterOpen inner beforeClose => exact (e.bare_ne_paren _ _ _ hbare).elim
    | name text =>
      by_cases hnone : text = "None"
      · refine .shown (.name ?_)
        simp only [Expr.isName, hbare, hnone, beq_self_eq_true]
      · rw [hbare] at hbareType haliases
        exact (haliases (followsAlias_of_reference (bne_iff_ne.2 hnone) hbareType)).elim
    | «attribute» owner beforeDot afterDot attr =>
      rw [hbare] at hbareType haliases
      exact (haliases (followsAlias_of_reference rfl hbareType)).elim
    | binary left beforeOp op afterOp right =>
      obtain rfl : op = "|" := by simpa [hbare, Expr.isOther] using hother
      exact nullForm_of_bar hbare hparts h
    | subscript owner before entries close =>
      rw [hbare] at hbareType
      exact nullForm_of_subscript hbare hparts hbareType
    | call callee before entries close =>
      rw [hbare] at hbareType
      exact .shown (shownNull_of_call hbare hbareType)
    | dict entries close =>
      rw [hbare, resolve] at hbareType
      cases hbareType
    | _ =>
      rw [hbare] at hother
      exact (hother rfl).elim

end Oracle

/-- A branch is recognised as `None` by the spellings that are shown to be it, and every spelling of `None`
denotes it. So, where no alias is followed, a branch is recognised exactly when it denotes `None`, unless it
is one of the other spellings, and then it is not. -/
theorem null_branches_recognised (oracle : Oracle) (e : Expr) :
    (oracle.isNullBranch e = .ok true ↔ oracle.ShownNull e)
      ∧ (oracle.NullForm e → oracle.typeOf e = .ok (some .none))
      ∧ (¬ oracle.FollowsAlias (.hint .host e) →
        ((oracle.isNullBranch e = .ok true ↔ oracle.typeOf e = .ok (some .none))
          ↔ (oracle.NullForm e → oracle.ShownNull e))) := by
  refine ⟨Oracle.isNullBranch_iff, Oracle.typeOf_of_nullForm, fun haliases => ?_⟩
  rw [Oracle.isNullBranch_iff]
  constructor
  · exact fun hagree hform => hagree.2 (Oracle.typeOf_of_nullForm hform)
  · intro hshown
    constructor
    · exact fun h => Oracle.typeOf_of_nullForm (.shown h)
    · exact fun h => hshown (Oracle.nullForm_of_typeOf haliases h)

namespace NullSpellings

/-- A module with `from typing import Literal` -/
def oracle : Oracle where
  host.moduleName := "m"
  host.imports := ⟨[("Literal", { origin := "typing", imported := some "Literal" })]⟩

/-- `type(None)` -/
def typeOfNone : Expr := .call (.name "type") [] [.mk [] (.value (.name "None")) none] []

/-- `Literal[None]` -/
def literalNone : Expr := .subscript (.name "Literal") [] [.mk [] (.value (.name "None")) none] []

theorem shown : oracle.ShownNull typeOfNone := .type rfl (by decide) rfl (by decide)

theorem not_followsAlias_type : ¬ oracle.FollowsAlias (.hint .host typeOfNone) := by
  intro h
  cases h with
  | later _ hasks _ =>
    cases hasks with
    | quoted htext => cases htext

theorem special_literal : oracle.specialForm? (.name "Literal") = some "Literal" := by decide

/-- `None` as the member of a literal type has no owner to look up. -/
theorem not_followsAlias_literal : ¬ oracle.FollowsAlias (.hint .host literalNone) := by
  have hspecial : (oracle.symbols .host).specialForm? (Expr.name "Literal").dottedName = some "Literal" :=
    special_literal
  intro h
  cases h with
  | later _ hasks h =>
    cases hasks with
    | generic hplain =>
      rw [hspecial] at hplain
      cases hplain
    | first hform hthrough =>
      rw [hspecial] at hform
      cases hform
      cases hthrough
    | member hform =>
      rw [hspecial] at hform
      exact absurd (Option.some.inj hform) (by decide)
    | quoted htext => cases htext
    | value _ hmember =>
      obtain rfl := List.mem_singleton.1 hmember
      cases h with
      | later _ hasks =>
        cases hasks with
        | owner hsplit =>
          have hwhole : Oracle.splitMember? "None" = none := by decide
          rw [show (Expr.name "None").dottedName = "None" from rfl, hwhole] at hsplit
          cases hsplit

end NullSpellings

theorem null_branches_recognised_of_type :
    NullSpellings.oracle.isNullBranch NullSpellings.typeOfNone = .ok true
      ∧ NullSpellings.oracle.typeOf NullSpellings.typeOfNone = .ok (some .none) := by
  obtain ⟨hrecognised, -, hagree⟩ :=
    null_branches_recognised NullSpellings.oracle NullSpellings.typeOfNone
  have hnull := hrecognised.2 NullSpellings.shown
  exact ⟨hnull, ((hagree NullSpellings.not_followsAlias_type).2 fun _ => NullSpellings.shown).1 hnull⟩

/-- The literal type of `None` is not recognised. In a union with one type it is taken for a second one. -/
theorem literal_none_not_recognised :
    unionBranches NullSpellings.oracle (.binary (.name "int") [] "|" [] NullSpellings.literalNone)
        = [.name "int", NullSpellings.literalNone]
      ∧ NullSpellings.oracle.isNullBranch NullSpellings.literalNone = .ok false
      ∧ NullSpellings.oracle.typeOf NullSpellings.literalNone = .ok (some .none)
      ∧ ¬ NullSpellings.oracle.FollowsAlias (.hint .host NullSpellings.literalNone) := by
  refine ⟨?_, by decide, ?_, NullSpellings.not_followsAlias_literal⟩
  · have hint : unionBranches NullSpellings.oracle (.name "int") = [.name "int"] := by
      rw [Oracle.unionBranches_eq]
      rfl
    have hparts : unionParts? NullSpellings.oracle NullSpellings.literalNone = none := by
      simp only [unionParts?, NullSpellings.literalNone, Expr.bare, NullSpellings.special_literal]
      rfl
    have hliteral : unionBranches NullSpellings.oracle NullSpellings.literalNone
        = [NullSpellings.literalNone] := by
      rw [Oracle.unionBranches_eq, hparts]
    have hunion : unionParts? NullSpellings.oracle (.binary (.name "int") [] "|" [] NullSpellings.literalNone)
        = some ([.name "int", NullSpellings.literalNone], false) := rfl
    rw [Oracle.unionBranches_eq, hunion]
    simp only [List.flatMap_cons, hint, hliteral]
    rfl
  · refine Oracle.typeOf_of_nullForm (.literal rfl NullSpellings.special_literal ?_)
    exact List.forall_mem_singleton.2 (by decide)

end ModelMetadata
