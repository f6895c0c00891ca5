import ModelMetadata.Proofs.Copying
import ModelMetadata.Proofs.DomainLevels
import ModelMetadata.Proofs.UnionBranches

/-!
Domains beside types. The domain of an annotation is looked for in its type, and the entry for the type comes
from how the annotation is written, branch by branch; what is printed in the end is the name of the type
either way. So an enumeration, which has no such name, stands without a type, and literals stand beside the
builtin type of their values or beside none.
-/
set_option autoImplicit false
namespace ModelMetadata

open Source

/-! ## Literals and their types -/

namespace ResolvedType

/-- The literals in a type are named by the builtin types of their values. -/
inductive Typed : ResolvedType → Prop where
  | named {t : NamedType} : Typed (.named t)
  | array {element : ResolvedType} (h : element.Typed) : Typed (.array element)
  | literal {value : Primitive} : Typed (.literal value (.builtin value.typeName))
  | enumMember {owner : NamedType} {member : String} : Typed (.enumMember owner member)
  | union {members : List ResolvedType} (h : ∀ t ∈ members, t.Typed) : Typed (.union members)
  | none : Typed .none

namespace Typed

variable {t : ResolvedType} {members : List ResolvedType}

theorem branches (h : t.Typed) : ∀ branch ∈ t.branches, branch.Typed := by
  refine forall_branches h ?_
  rintro members rfl
  cases h with
  | union h => exact h

theorem ofMembers (h : ∀ t ∈ members, t.Typed) : (ResolvedType.ofMembers members).Typed := by
  have hbranch : ∀ branch ∈ distinct (members.flatMap ResolvedType.branches), branch.Typed := by
    intro branch hbranch
    obtain ⟨t, ht, hbranch⟩ := List.mem_flatMap.1 (mem_of_mem_distinct hbranch)
    exact (h t ht).branches branch hbranch
  unfold ResolvedType.ofMembers
  split
  · rename_i only honly
    exact hbranch only (honly ▸ List.mem_singleton_self only)
  · exact .union hbranch

theorem unspelled (h : t.Typed) : t.unspelled.Typed := by
  induction h with
  | named => exact .named
  | array _ ih => exact .array ih
  | literal => exact .literal
  | enumMember => exact .enumMember
  | none => exact .none
  | union _ ih =>
    refine .union ?_
    rw [unspelledAll_eq_map]
    exact List.forall_mem_map.2 ih

theorem respelled (h : t.Typed) (spelling : Option String) : (Oracle.respelled spelling t).Typed := by
  cases t with
  | named t => exact .named
  | _ => exact h.unspelled

end Typed
end ResolvedType

theorem kept_typed : Kept ResolvedType.Typed where
  none := .none
  named _ _ := .named
  builtin _ := .named
  array h := .array h
  enumMember _ _ := .enumMember
  ofMembers _ h := .ofMembers h
  literal _ := .literal
  unspelled h := h.unspelled
  respelled h spelling := h.respelled spelling

/-! ## Domains and names -/

/-- A reference fits a domain: it names nothing, or it names the builtin type of all values of the domain,
below an array if the domain is one of an array. -/
def TypeReference.Fits (reference : TypeReference) (domain : ResolvedType) (isArray : Bool) : Prop :=
  reference.name = none ∨ ∃ values base, domain.literalValues? = some values ∧ values ≠ []
    ∧ (∀ value ∈ values, value.typeName = base) ∧ reference.named = some (.builtin base)
    ∧ (isArray = true ↔ 0 < reference.depth)

namespace ResolvedType

variable {t d : ResolvedType}

theorem fits_array {reference : TypeReference} {isArray : Bool} (h : reference.Fits d isArray) :
    reference.array.Fits d true := by
  rw [TypeReference.array]
  split
  · rename_i name hname
    obtain hnone | ⟨values, base, hvalues, hne, htyped, hnamed, -⟩ := h
    · rw [hnone] at hname
      cases hname
    · exact .inr ⟨values, base, hvalues, hne, htyped, hnamed, by simp⟩
  · exact .inl rfl

theorem typeName_of_hasBase {name : String} (htyped : t.Typed) (hbase : hasBase (.builtin name) t = true) :
    ∃ value base, t = .literal value base ∧ value.typeName = name := by
  cases htyped with
  | @literal value =>
    have hname : name = value.typeName := (NamedType.same_iff.1 hbase).1
    exact ⟨value, _, rfl, hname.symm⟩
  | _ => cases hbase

/-- Literals that have a base in common have values of that type. -/
theorem values_of_commonBase? {members : List ResolvedType} (htyped : ∀ t ∈ members, t.Typed)
    {base : NamedType} (h : commonBase? members = some base) : ∃ name values, base = .builtin name
      ∧ members.mapM literalValue? = some values ∧ values ≠ []
      ∧ ∀ value ∈ values, value.typeName = name := by
  unfold commonBase? at h
  split at h
  · rename_i value base' rest
    split at h
    · rename_i hrest
      obtain rfl := Option.some.inj h
      obtain ⟨hfirst, hothers⟩ := List.forall_mem_cons.1 htyped
      cases hfirst
      obtain ⟨values, hvalues, hnames⟩ := exists_values fun t ht =>
        typeName_of_hasBase (hothers t ht) (List.all_eq_true.1 hrest t ht)
      refine ⟨_, value :: values, rfl, ?_, List.cons_ne_nil _ _, List.forall_mem_cons.2 ⟨rfl, hnames⟩⟩
      rw [List.mapM_cons, hvalues]
      rfl
    · cases h
  · cases h

/-- Literals without a base in common have no name together. -/
theorem nameless_of_literals {members : List ResolvedType} (hliterals : members.all isLiteral = true)
    (hbase : commonBase? members = Option.none) : (called members).name = Option.none := by
  unfold called
  rw [hbase]
  obtain _ | ⟨only, _ | ⟨second, others⟩⟩ := members
  · rfl
  · have hliteral := List.all_eq_true.1 hliterals only List.mem_cons_self
    cases only with
    | literal value base => cases hbase
    | _ => cases hliteral
  · rfl

/-- Members of an enumeration have no name together. -/
theorem nameless_of_commonOwner? {members : List ResolvedType} {owner : NamedType}
    (h : commonOwner? members = some owner) : (called members).name = Option.none := by
  unfold commonOwner? at h
  split at h
  · rename_i rest
    cases rest <;> simp only [called, commonBase?, reference]
  · cases h

theorem fits_of_commonBase? {members : List ResolvedType} (htyped : ∀ t ∈ members, t.Typed)
    {base : NamedType} (hbase : commonBase? members = some base)
    (hvalues : d.literalValues? = members.mapM literalValue?) : (called members).Fits d false := by
  obtain ⟨name, values, rfl, hmembers, hne, hnames⟩ := values_of_commonBase? htyped hbase
  unfold called
  rw [hbase]
  exact .inr ⟨values, name, hvalues.trans hmembers, hne, hnames, rfl,
    iff_of_false Bool.false_ne_true (Nat.lt_irrefl 0)⟩

/-- What members are called fits the domain that they make. -/
theorem fits_called (htyped : t.Typed) (h : t.flatDomain? = some d) : (called t.branches).Fits d false := by
  cases t with
  | literal value base =>
    obtain rfl := Option.some.inj h
    exact fits_of_commonBase? htyped.branches rfl rfl
  | union members =>
    rw [flatDomain?] at h
    rw [branches]
    split at h
    · rename_i hliterals
      obtain rfl := Option.some.inj h
      cases hbase : commonBase? members with
      | some base => exact fits_of_commonBase? htyped.branches hbase rfl
      | none => exact .inl (nameless_of_literals hliterals hbase)
    · obtain ⟨owner, howner, -⟩ := Option.map_eq_some_iff.1 h
      exact .inl (nameless_of_commonOwner? howner)
  | _ => cases h

/-- The name of a type that is no array fits the domain of the type. -/
theorem fits_flat (hflat : t.Flat) (htyped : t.Typed) (h : t.domain? = some d)
    (harray : t.element = (t, false)) : t.reference.Fits d false ∧ d.element = (d, false) := by
  cases t with
  | literal value base =>
    have hcalled := fits_called htyped h
    rw [reference_eq_called hflat]
    exact ⟨hcalled, (Leveled.element_of_flatDomain? h).2.2⟩
  | union members =>
    have hsingle : ∀ t ∈ members.filter fun t => !t.isNone, t.isUnion = false :=
      fun t ht => hflat t (List.mem_filter.1 ht).1
    have hmembers : ∀ t ∈ members.filter fun t => !t.isNone, t.Typed :=
      fun t ht => htyped.branches t (List.mem_filter.1 ht).1
    rw [domain?, withoutNone?] at h
    split at h
    · cases h
    · rw [Option.bind_some] at h
      have hcalled := fits_called (.ofMembers hmembers) h
      rw [branches_ofMembers fun t ht => flat_of_not_union (hsingle t ht),
        flatMap_branches_of_not_union hsingle] at hcalled
      rw [reference_eq_called hflat]
      exact ⟨hcalled, (Leveled.element_of_flatDomain? h).2.2⟩
  | array => cases harray
  | _ => cases h

theorem not_writable_array (t : ResolvedType) : ¬ Writable (.array t) := by
  rintro (h | ⟨values, h⟩) <;> cases h

/-- The name of a type fits the domain that its literals make, in an array or not. -/
theorem fits_literals {U : List ResolvedType → Prop} (hnormal : t.Normal U) (htyped : t.Typed)
    (h : t.domain? = some d) (hwritable : Writable d.element.1) : t.reference.Fits d.element.1 d.element.2 := by
  cases t with
  | array inner =>
    cases hnormal with
    | array hnormal =>
    cases htyped with
    | array htyped =>
    obtain ⟨found, hfound, rfl⟩ := Option.map_eq_some_iff.1 h
    rw [reference]
    cases inner with
    | array element =>
      obtain ⟨deeper, -, rfl⟩ := Option.map_eq_some_iff.1 hfound
      exact (not_writable_array deeper hwritable).elim
    | _ => exact fits_array (fits_flat hnormal.flat htyped hfound rfl).1
  | _ =>
    obtain ⟨hfits, helement⟩ := fits_flat hnormal.flat htyped h rfl
    rw [helement]
    exact hfits

theorem nameless_of_isEnumerated (h : t.isEnumerated = true) : t.reference.name = Option.none := by
  cases t with
  | named t =>
    have henum : t.isEnumeration = true := h
    rw [reference, TypeReference.ofNamed, if_pos henum]
  | enumMember => rw [reference]
  | _ => cases h

/-- What is taken off a type is a `None` beside one other member. -/
theorem withoutOptional_cases (t : ResolvedType) : t.withoutOptional = t
    ∨ ∃ members, t = .union members ∧ (members.filter fun s => !s.isNone) = [t.withoutOptional] := by
  cases t with
  | union members =>
    rw [withoutOptional]
    split
    · rename_i hoptional
      obtain ⟨hlength, hnone⟩ := Bool.and_eq_true_iff.1 hoptional
      obtain ⟨first, second, rfl⟩ := List.length_eq_two.1 (eq_of_beq hlength)
      cases hfirst : first.isNone <;> cases hsecond : second.isNone
      · simp [hfirst, hsecond] at hnone
      · exact .inr ⟨_, rfl, by simp [hfirst, hsecond]⟩
      · exact .inr ⟨_, rfl, by simp [hfirst, hsecond]⟩
      · exact .inl (by simp [hfirst, hsecond])
    · exact .inl rfl
  | _ => exact .inl rfl

/-- A `None` that is taken off does not change the name. -/
theorem reference_withoutOptional (hflat : t.Flat) : t.withoutOptional.reference = t.reference := by
  obtain heq | ⟨members, rfl, honly⟩ := t.withoutOptional_cases
  · rw [heq]
  · generalize (union members).withoutOptional = only at honly
    have hmem := List.mem_filter.1 (honly ▸ List.mem_singleton_self only)
    have hsingle : only.isUnion = false := hflat only hmem.1
    rw [reference_eq_called hflat, reference_eq_called (flat_of_not_union hsingle),
      branches_of_not_union hsingle, branches, rest, rest, honly, ← honly, List.filter_filter]
    simp

/-- What holds of a type and of its branches holds where a `None` is taken off. -/
theorem withoutOptional_of_branches {P : ResolvedType → Prop} (h : P t)
    (hbranches : ∀ branch ∈ t.branches, P branch) : P t.withoutOptional := by
  obtain heq | ⟨members, rfl, honly⟩ := t.withoutOptional_cases
  · rwa [heq]
  · exact hbranches _ (List.mem_filter.1 (honly ▸ List.mem_singleton_self _)).1

/-- The name of a type fits the domain of the type, where that can be written. -/
theorem fits_domain {U : List ResolvedType → Prop} (hnormal : t.Normal U) (htyped : t.Typed) {isArray : Bool}
    (h : t.propertyDomain? = some (d, isArray)) (hwritable : Writable d) : t.reference.Fits d isArray := by
  have hinner {u : ResolvedType} {around : Bool} (hnormal : u.Normal U) (htyped : u.Typed)
      (h : (if u.isEnumerated then some (u, around)
        else u.domain?.map fun domain => (domain.element.1, around || domain.element.2))
          = some (d, isArray)) :
      ∃ nested, u.reference.Fits d nested ∧ isArray = (around || nested) := by
    split at h
    · rename_i henum
      cases h
      exact ⟨false, .inl (nameless_of_isEnumerated henum), (Bool.or_false _).symm⟩
    · obtain ⟨domain, hdomain, hfound⟩ := Option.map_eq_some_iff.1 h
      cases hfound
      exact ⟨_, fits_literals hnormal htyped hdomain hwritable, rfl⟩
  have hnormal' : t.withoutOptional.Normal U := withoutOptional_of_branches hnormal hnormal.branches
  have htyped' : t.withoutOptional.Typed := withoutOptional_of_branches htyped htyped.branches
  rw [← reference_withoutOptional hnormal.flat]
  have hdomain := fun u around => @propertyDomain?_eq t u around
  generalize t.withoutOptional = u at hnormal' htyped' hdomain
  cases u with
  | array element =>
    cases hnormal' with
    | array hnormal' =>
    cases htyped' with
    | array htyped' =>
    obtain ⟨nested, hfits, rfl⟩ := hinner hnormal' htyped' ((hdomain _ _ rfl).symm.trans h)
    rw [reference]
    exact fits_array hfits
  | _ =>
    obtain ⟨nested, hfits, rfl⟩ := hinner hnormal' htyped' ((hdomain _ _ rfl).symm.trans h)
    exact hfits

end ResolvedType

/-! ## Entries by the name of a type -/

namespace Oracle

variable {oracle : Oracle} {e : Expr}

/-- Where an annotation has an answer, it can be told what is quoted in it. -/
theorem exists_stringValue {t? : Option ResolvedType} (h : oracle.typeOf e = .ok t?) :
    ∃ text?, stringValue e = .ok text?
      ∧ ∀ text, text? = some text → ∃ inner?, quotedIn? text = .ok inner? := by
  rw [typeOf, ← resolve_bare] at h
  rw [← stringValue_bare]
  have hparen := e.bare_ne_paren
  generalize e.bare = e at h hparen
  cases hother : e.isOther with
  | true =>
    obtain ⟨text?, htext, ⟨rfl, -⟩ | ⟨text, inner?, rfl, hinner, -⟩⟩ := quotation_cases hother h
    · exact ⟨none, htext, by rintro _ ⟨⟩⟩
    · refine ⟨some text, htext, ?_⟩
      rintro _ ⟨⟩
      exact ⟨inner?, hinner⟩
  | false =>
    refine ⟨none, ?_, by rintro _ ⟨⟩⟩
    cases e with
    | paren => exact (hparen _ _ _ rfl).elim
    | string | adjacent => cases hother
    | _ => rfl

/-- Where an annotation has an answer, so has its core. -/
theorem exists_core {t? : Option ResolvedType} (h : oracle.typeOf e = .ok t?) :
    ∃ core, oracle.core e = .ok core := by
  induction hn : e.weight using Nat.strongRecOn generalizing e with
  | ind n ih =>
    subst hn
    obtain ⟨text?, htext, hquoted⟩ := exists_stringValue h
    cases text? with
    | some text =>
      obtain ⟨inner?, hinner⟩ := hquoted text rfl
      cases inner? with
      | none =>
        refine ⟨e, ?_⟩
        rw [core_eq, htext]
        simp only [hinner, bind, Except.bind]
        rfl
      | some inner =>
        rw [typeOf, resolve_quoted htext hinner] at h
        rw [core_quoted htext hinner]
        exact ih _ (weight_lt_of_quoted htext (parse_of_quotedIn? hinner)) h rfl
    | none =>
      cases hindexing : e.indexing? with
      | none => exact ⟨e, core_unindexed htext hindexing⟩
      | some found =>
        obtain ⟨owner, first, rest⟩ := found
        rw [core_indexed htext hindexing]
        split
        · rename_i hwraps
          obtain ⟨⟨owner, ⟨first, hlt⟩, rest⟩, hindexed, hparts⟩ :=
            Option.map_eq_some_iff.1 ((Expr.indexing?_eq e).symm.trans hindexing)
          cases hparts
          exact ih _ hlt (by rw [typeOf_of_indexed? hindexed hwraps, h]) rfl
        · exact ⟨e, rfl⟩

/-- What has members of its own denotes a dict; everything else is a union or a name for the oracle. -/
theorem coreShape_cases (e : Expr) : oracle.typeOf e = .ok (some (.builtin "dict"))
    ∨ oracle.coreShape e
      = .ok (if (unionParts? oracle e).isSome then .union (unionBranches oracle e) else .named e) := by
  rw [typeOf, ← resolve_bare]
  unfold coreShape
  split
  · rename_i entries hentries
    unfold Expr.dictEntries? at hentries
    split at hentries
    · rename_i hbare
      exact .inl (by rw [hbare, resolve])
    · cases hentries
  split
  · rename_i hcallee
    obtain ⟨callee, hcallee, hspecial⟩ := Option.bind_eq_some_iff.1 (eq_of_beq hcallee)
    unfold Expr.callee? at hcallee
    split at hcallee
    · rename_i hbare
      cases hcallee
      have hspecial : (oracle.symbols .host).specialForm? callee.dottedName = some "TypedDict" := hspecial
      refine .inl ?_
      rw [hbare, resolve.eq_def]
      simp only [hspecial]
      rfl
    · cases hcallee
  · refine .inr ?_
    split <;> rfl

/-- The branches of a union that has a type have types. -/
theorem typeOf_of_mem_unionBranches {t : ResolvedType} (h : oracle.typeOf e = .ok (some t)) :
    ∀ branch ∈ unionBranches oracle e, ∃ s, oracle.typeOf branch = .ok (some s) := by
  have hbranches := oracle.typeOf_branches e
  rw [h] at hbranches
  generalize htypes : oracle.typesOf (unionBranches oracle e) = types at hbranches
  cases hbranches with
  | ok hrel =>
    cases hrel with
    | some =>
      exact forall_of_forall₂ (P := fun _ => True) (typesOf_iff.1 htypes) (fun _ s hs _ => ⟨s, hs⟩)
        fun _ _ => trivial

end Oracle

/-- Entries for a type by its name, with others behind them: the reference to it, or none, unless the type is
a dict, which may be described by its members. -/
inductive ByName (site : Site) (reference : TypeReference) : Describe Descriptor → Prop
  | dict {entries : Describe Descriptor} (h : reference = .ofNamed (.builtin "dict")) :
    ByName site reference entries
  | nothing {others : Descriptor} (h : others.lookup typeKey = none) : ByName site reference (pure others)
  | referred {others : Descriptor} (h : others.lookup typeKey = none) :
    ByName site reference ((· ++ others) <$> referredEntries site reference)

/-- More entries behind those for a type. -/
theorem ByName.append {site : Site} {reference : TypeReference} {entries : Describe Descriptor}
    (h : ByName site reference entries) {more : Descriptor} (hmore : more.lookup typeKey = none) :
    ByName site reference ((· ++ more) <$> entries) := by
  have hlookup {others : Descriptor} (hothers : others.lookup typeKey = none) :
      (others ++ more).lookup typeKey = none := by
    rw [List.lookup_append, hothers, hmore]
    rfl
  cases h with
  | dict h => exact .dict h
  | nothing hothers =>
    rw [map_pure]
    exact .nothing (hlookup hothers)
  | @referred others hothers =>
    rw [Functor.map_map]
    simp only [List.append_assoc]
    exact .referred (hlookup hothers)

theorem ByName.alone (site : Site) (reference : TypeReference) :
    ByName site reference (referredEntries site reference) := by
  have h : ByName site reference ((· ++ []) <$> referredEntries site reference) := .referred rfl
  simp only [List.append_nil, id_map'] at h
  exact h

/-- A union is described by the one branch besides `None`, if there is one, and that has its name. -/
theorem ByName.union {site : Site} {existing : List String} {e : Expr} {t : ResolvedType}
    (htype : site.oracle.typeOf e = .ok (some t))
    (hbranch : ∀ branch s, site.oracle.nonNull (unionBranches site.oracle e) = .ok [branch] →
      site.oracle.typeOf branch = .ok (some s) → ByName site s.reference (typeEntries site existing branch)) :
    ByName site t.reference (shapeEntries site existing (.union (unionBranches site.oracle e))) := by
  obtain ⟨kept, hkept⟩ := Oracle.exists_nonNull fun branch hmem =>
    (Oracle.typeOf_of_mem_unionBranches htype branch hmem).elim fun s hs =>
      (Oracle.exists_stringValue hs).imp fun _ => And.left
  rw [shapeEntries, ofExcept_bind hkept]
  obtain _ | ⟨branch, _ | ⟨second, others⟩⟩ := kept
  · exact .nothing rfl
  · have hreference := Oracle.reference_of_branch hkept
    rw [htype] at hreference
    generalize hfound : site.oracle.typeOf branch = found at hreference
    cases hreference with
    | ok hrel =>
      cases hrel with
      | some hrel =>
        rw [hrel]
        have hentries := hbranch branch _ hkept hfound
        dsimp only
        split
        · rw [bind_pure]
          exact hentries
        · rw [← map_eq_pure_bind]
          exact hentries.append (by decide)
  · exact .nothing rfl

/-- Whatever an annotation is made of, its entries are those by the name of what it denotes. -/
theorem typeEntries_by_name {site : Site} {existing : List String}
    (habsent : existing.contains typeKey = false) {e : Expr} {t : ResolvedType}
    (htype : site.oracle.typeOf e = .ok (some t)) :
    ByName site t.reference (typeEntries site existing e) := by
  have h : (∀ existing e, existing.contains typeKey = false → ∀ t, site.oracle.typeOf e = .ok (some t) →
      ByName site t.reference (typeEntries site existing e))
      ∧ ∀ (_ : Declaration) (_ : Unwrapped), True := by
    refine describing_induction site (fun existing e _ hbranch habsent t htype => ?_) fun _ _ _ => trivial
    obtain ⟨core, hcore⟩ := Oracle.exists_core htype
    have htype' := (Oracle.typeOf_core hcore).trans htype
    rw [typeEntries_eq, if_neg (Bool.eq_false_iff.1 habsent)]
    obtain hdict | hshape := site.oracle.coreShape_cases core
    · rw [htype'] at hdict
      cases hdict
      exact .dict (by rw [ResolvedType.builtin, ResolvedType.reference])
    · have hshape : site.oracle.shape e = _ := (congrArg (· >>= site.oracle.coreShape) hcore).trans hshape
      rw [ofExcept_bind hshape]
      split at hshape
      · rename_i hunion
        rw [if_pos hunion]
        exact .union htype' fun branch s hkept hs => hbranch _ branch hshape hkept habsent s hs
      · rename_i hunion
        rw [if_neg hunion, shapeEntries, namedEntries_eq, ofExcept_bind htype']
        exact .alone site t.reference
  exact h.1 existing e habsent t htype

/-! ## Entries of both kinds -/

inductive Site.NamesEnumeration (site : Site) (value : Expr) : Prop
  | enumeration {t : NamedType} {journal : Journal} (henum : t.isEnumeration = true)
    (h : (site.refer t journal).1 = .ok value) : NamesEnumeration site value
  | member {owner : NamedType} {member : String} {journal : Journal}
    (h : (referMember site.options.readonly site.host owner member journal).1 = .ok value) :
    NamesEnumeration site value

/-- The type of some values, written as a type entry: the builtin type of all of them, in lists just where the
values are those of an array. -/
def IsTypeOf (values : List Primitive) (isArray : Bool) (type : Expr) : Prop :=
  values ≠ [] ∧ ∃ base depth, type = Expr.thunk (nested depth (.name base))
    ∧ (∀ value ∈ values, value.typeName = base) ∧ (isArray = true ↔ 0 < depth)

/-- Entries for a type beside those for a domain: none beside an enumeration, and beside literals either none
or the type of the values. -/
inductive Consistent (site : Site) (types : Descriptor) : Descriptor → Prop
  | referred {value : Expr} {isArray : Bool} (hvalue : site.NamesEnumeration value)
    (hnone : types.lookup typeKey = none) :
    Consistent site types ((enumKey, value) :: if isArray then [(isArrayKey, boolLiteral true)] else [])
  | listed {values : List Primitive} {literals : List Expr} {isArray : Bool}
    (hliterals : values.mapM Primitive.literal = .ok literals)
    (htype : ∀ type, types.lookup typeKey = some type → IsTypeOf values isArray type) :
    Consistent site types
      ((enumKey, Expr.ofList literals) :: if isArray then [(isArrayKey, boolLiteral true)] else [])

theorem refer_typeName (readonly : Bool) (host : String) (value : Primitive) :
    (NamedType.builtin value.typeName).refer readonly host = pure (.name value.typeName) := by
  have hname : Text.isIdentifier value.typeName.toList = true := by
    cases value <;> (rw [Primitive.typeName]; decide)
  change Describe.ofExcept (nameExpr value.typeName) = _
  rw [nameExpr, if_pos hname]
  rfl

/-- The entry for a type, if there is one, is for the type of the values of a domain. -/
def TypeFits (types : Descriptor) (d : ResolvedType) (isArray : Bool) : Prop :=
  ∀ type, types.lookup typeKey = some type →
    ∃ values, d.literalValues? = some values ∧ IsTypeOf values isArray type

/-- By a name that fits a domain there is no type, or the type of the values. -/
theorem referredEntries_of_fits (site : Site) {reference : TypeReference} {d : ResolvedType} {isArray : Bool}
    (h : reference.Fits d isArray) :
    ∃ types : Descriptor, referredEntries site reference = pure types ∧ TypeFits types d isArray := by
  obtain hname | ⟨values, base, hvalues, hne, htyped, hnamed, harray⟩ := h
  · exact ⟨[], referredEntries_of_nameless hname site, nofun⟩
  · obtain ⟨value, hvalue⟩ := List.exists_mem_of_ne_nil values hne
    obtain rfl := htyped value hvalue
    rw [referredEntries]
    split
    · exact ⟨[], rfl, nofun⟩
    · refine ⟨[(typeKey, Expr.thunk (nested reference.depth (.name value.typeName)))], ?_,
        fun type htype => ?_⟩
      · unfold TypeReference.refer
        rw [hnamed]
        dsimp only
        rw [refer_typeName, map_pure, pure_bind]
      · rw [List.lookup_cons_self] at htype
        exact ⟨values, hvalues, hne, _, _, (Option.some.inj htype).symm, htyped, harray⟩

/-- No value is a dict. -/
theorem not_fits_dict {d : ResolvedType} {isArray : Bool} :
    ¬ (TypeReference.ofNamed (.builtin "dict")).Fits d isArray := by
  rintro (hname | ⟨values, base, -, hne, htyped, hnamed, -⟩)
  · cases hname
  · obtain ⟨value, hvalue⟩ := List.exists_mem_of_ne_nil values hne
    have hdict : "dict" = base := congrArg NamedType.name (Option.some.inj hnamed)
    have hother : value.typeName ≠ "dict" := by
      cases value <;> (rw [Primitive.typeName]; decide)
    exact hother ((htyped value hvalue).trans hdict.symm)

theorem ByName.of_fits {site : Site} {reference : TypeReference} {entries : Describe Descriptor}
    (h : ByName site reference entries) {d : ResolvedType} {isArray : Bool} (hfits : reference.Fits d isArray) :
    ∃ types : Descriptor, entries = pure types ∧ TypeFits types d isArray := by
  cases h with
  | dict h => exact (not_fits_dict (h ▸ hfits)).elim
  | nothing hothers =>
    refine ⟨_, rfl, fun type htype => ?_⟩
    rw [hothers] at htype
    cases htype
  | @referred others hothers =>
    obtain ⟨types, htypes, hfit⟩ := referredEntries_of_fits site hfits
    refine ⟨types ++ others, by rw [htypes, map_pure], fun type htype => hfit type ?_⟩
    rwa [List.lookup_append, hothers, Option.or_none] at htype

/-- What is written for a domain: a reference, or its values. -/
def Written (site : Site) (d : ResolvedType) (value : Expr) : Prop :=
  (d.isEnumerated = true ∧ site.NamesEnumeration value)
    ∨ ∃ values literals, d.literalValues? = some values ∧ values.mapM Primitive.literal = .ok literals
      ∧ value = Expr.ofList literals

theorem Written.writable {site : Site} {d : ResolvedType} {value : Expr} (h : Written site d value) :
    d.Writable := by
  obtain ⟨henumerated, -⟩ | ⟨values, literals, hvalues, -⟩ := h
  · exact .inl henumerated
  · exact .inr ⟨values, hvalues⟩

theorem domainExpr_written (site : Site) (d : ResolvedType) :
    Ensures (domainExpr site d) fun value? => ∀ value, value? = some value → Written site d value := by
  unfold domainExpr
  split
  · rename_i t
    refine .ite (fun henum => ?_) fun _ => .pure nofun
    refine .bind (P := fun value => site.NamesEnumeration value) (Ensures.of fun _ _ h =>
      .enumeration henum h) fun value hvalue => .pure ?_
    rintro _ ⟨⟩
    exact .inl ⟨henum, hvalue⟩
  · rename_i owner member
    refine .bind (P := fun value => site.NamesEnumeration value) (Ensures.of fun _ _ h =>
      .member h) fun value hvalue => .pure ?_
    rintro _ ⟨⟩
    exact .inl ⟨rfl, hvalue⟩
  · split
    · rename_i values hvalues
      refine .bind (.ofExcept _) fun literals hliterals => .pure ?_
      rintro _ ⟨⟩
      exact .inr ⟨values, literals, hvalues, hliterals, rfl⟩
    · exact .pure nofun

/-- An enumeration or a member of one is no list of values. -/
theorem ResolvedType.literalValues?_of_isEnumerated {d : ResolvedType} (h : d.isEnumerated = true) :
    d.literalValues? = Option.none := by
  cases d <;> first | rfl | cases h

/-- Beside what is written for a domain, entries for a type that fits it are consistent. -/
theorem Written.consistent {site : Site} {d : ResolvedType} {value : Expr} (h : Written site d value)
    {types : Descriptor} {isArray : Bool} (htypes : TypeFits types d isArray) :
    Consistent site types ((enumKey, value) :: if isArray then [(isArrayKey, boolLiteral true)] else []) := by
  obtain ⟨henumerated, hreference⟩ | ⟨values, literals, hvalues, hliterals, rfl⟩ := h
  · refine .referred hreference ?_
    rw [Option.eq_none_iff_forall_ne_some]
    intro type hlookup
    obtain ⟨values, hvalues, -⟩ := htypes type hlookup
    rw [ResolvedType.literalValues?_of_isEnumerated henumerated] at hvalues
    cases hvalues
  · refine .listed hliterals fun type hlookup => ?_
    obtain ⟨found, hfound, hof⟩ := htypes type hlookup
    rw [hvalues] at hfound
    cases hfound
    exact hof

/-- The entries of a domain, if there are any, are consistent with those for the type, which are found. -/
theorem domainEntries_consistent {site : Site} {existing : List String} {e : Expr}
    (htype : existing.contains typeKey = false) (henum : existing.contains enumKey = false) :
    Ensures (domainEntries site existing e) fun entries => entries = [] ∨ ∃ types : Descriptor,
      typeEntries site existing e = pure types ∧ Consistent site types entries := by
  rw [domainEntries, henum, if_neg Bool.false_ne_true]
  refine .bind (.ofExcept _) fun t? ht => ?_
  split
  · exact .pure (.inl rfl)
  · rename_i d isArray hfound
    obtain ⟨t, rfl, hdomain⟩ := Option.bind_eq_some_iff.1 hfound
    refine .bind (domainExpr_written site d) fun value? hwritten => ?_
    split
    · exact .pure (.inl rfl)
    · rename_i value
      refine .pure (.inr ?_)
      have hwritten := hwritten value rfl
      have hfits :=
        ResolvedType.fits_domain (kept_normal.typeOf ht) (kept_typed.typeOf ht) hdomain hwritten.writable
      obtain ⟨types, htypes, hfit⟩ := (typeEntries_by_name htype ht).of_fits hfits
      exact ⟨types, htypes, hwritten.consistent hfit⟩

/-- The entries for the type and for the domain of a property do not contradict each other. Whatever the
module, the project, the mode and the annotation: where there is a domain, the entries for the type are found,
and they name no type beside an enumeration or a member of one, and none but the builtin type of all values
beside literals, as an array just where the domain is one. -/
theorem type_beside_domain (site : Site) (existing : List String) (e : Expr) (journal : Journal)
    (entries : Descriptor) (htype : existing.contains typeKey = false)
    (henum : existing.contains enumKey = false)
    (h : (domainEntries site existing e journal).1 = .ok entries) (hsome : entries ≠ []) :
    ∃ types : Descriptor, typeEntries site existing e = pure types ∧ Consistent site types entries :=
  ((domainEntries_consistent htype henum).ensures h).resolve_left hsome

namespace Levels

/-- `list[Optional[Literal[True]]]` -/
def truths : Expr := optionals (form "Literal" (.name "True"))

def truthType : ResolvedType := .literal (.bool true) (.builtin "bool")

theorem typeOf_truths : site.oracle.typeOf truths = .ok (some (.array (.union [truthType, .none]))) := by
  have hanswer := (Oracle.adequate_within site.oracle 100).resolve .host [] truths (by decide)
  exact (Option.some.inj hanswer).symm

theorem domainEntries_truths : (domainEntries site [] truths {}).1
    = .ok [(enumKey, Expr.ofList [boolLiteral true]), (isArrayKey, boolLiteral true)] := by
  have hfound : (ResolvedType.array (.union [truthType, .none])).propertyDomain?
      = some (truthType, true) := rfl
  rw [Oracle.domainEntries_of_propertyDomain? rfl typeOf_truths hfound]
  cbv

/-- `lambda: [bool]` -/
def truthsEntry : Expr := Expr.thunk (Expr.ofList [.name "bool"])

theorem reference_truths : (ResolvedType.array (.union [truthType, .none])).reference
    = { name := some "[bool]", named := some (.builtin "bool"), depth := 1 } := by
  have hflat : (ResolvedType.union [truthType, .none]).Flat := by
    simp [ResolvedType.Flat, ResolvedType.branches, truthType, ResolvedType.isUnion]
  have hrest : ResolvedType.rest (ResolvedType.union [truthType, .none]).branches = [truthType] := rfl
  rw [ResolvedType.reference, ResolvedType.reference_eq_called hflat, hrest]
  rfl

theorem typeEntries_truths : typeEntries site [] truths = pure [(typeKey, truthsEntry)] := by
  have hcore : site.oracle.core truths = .ok truths :=
    (Oracle.core_indexed rfl rfl).trans (if_neg (by decide))
  have hshape : site.oracle.shape truths = .ok (.named truths) := by
    rw [Oracle.shape, hcore]
    rfl
  rw [typeEntries_named rfl hshape, ofExcept_bind typeOf_truths, Option.map_some, Option.getD_some,
    reference_truths]
  rfl

end Levels

/-- In `list[Optional[Literal[True]]]` both the domain and the type are found. -/
theorem type_beside_domain_of_truths :
    (domainEntries Levels.site [] Levels.truths {}).1
        = .ok [(enumKey, Expr.ofList [boolLiteral true]), (isArrayKey, boolLiteral true)]
      ∧ typeEntries Levels.site [] Levels.truths = pure [(typeKey, Levels.truthsEntry)]
      ∧ Consistent Levels.site [(typeKey, Levels.truthsEntry)]
          [(enumKey, Expr.ofList [boolLiteral true]), (isArrayKey, boolLiteral true)] := by
  obtain ⟨types, htypes, hconsistent⟩ := type_beside_domain Levels.site [] Levels.truths {} _ rfl rfl
    Levels.domainEntries_truths (List.cons_ne_nil _ _)
  have hsame := congrArg (fun step => (step {}).1) (Levels.typeEntries_truths.symm.trans htypes)
  rw [← Except.ok.inj hsame] at hconsistent
  exact ⟨Levels.domainEntries_truths, Levels.typeEntries_truths, hconsistent⟩

end ModelMetadata
