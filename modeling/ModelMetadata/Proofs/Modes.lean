import ModelMetadata.Proofs.Offers
import ModelMetadata.Proofs.References

/-!
Both modes of describing. The same declaration is described in the collected module and in the class's own,
piece by piece: types and domains are parallel, a default and what markers give may be left out of the
collected module. What is left out there must not be said by an entry behind it, which is so where no
offer of a seed or a marker is disputed, in the property and in all that its type encloses.
-/
set_option autoImplicit false
namespace ModelMetadata

open Source

/-! ## What a type encloses -/

/-- The properties of inline shapes that a type is described by, at every depth. -/
inductive Oracle.Encloses (oracle : Oracle) : Expr → Unwrapped → Prop where
  | member {e : Expr} {members : List Declaration} {member : Declaration} {found : Unwrapped}
    (hshape : oracle.shape e = .ok (.inline members)) (hmember : member ∈ members)
    (hfound : oracle.unwrap member.typeHint = .ok found) (hkept : skipReason member found = none) :
    Encloses oracle e found
  | within {e : Expr} {members : List Declaration} {member : Declaration} {found inner : Unwrapped}
    (hshape : oracle.shape e = .ok (.inline members)) (hmember : member ∈ members)
    (hfound : oracle.unwrap member.typeHint = .ok found) (hkept : skipReason member found = none)
    (h : Encloses oracle found.type inner) : Encloses oracle e inner
  | branch {e branch : Expr} {branches : List Expr} {inner : Unwrapped}
    (hshape : oracle.shape e = .ok (.union branches)) (hkept : oracle.nonNull branches = .ok [branch])
    (h : Encloses oracle branch inner) : Encloses oracle e inner

/-! ## Types -/

section Types

variable (site : Site)

theorem namedEntries_jointly (core : Expr) :
    Jointly Descriptor.Parallel (namedEntries (site.inMode true) core)
      (namedEntries (site.inMode false) core) := by
  refine .bind_ofExcept fun t? _ => ?_
  dsimp only
  split
  · exact .pure .nil
  · exact (typeReference_agrees _ _ _).bind fun e e' hagrees => .pure (.cons ⟨rfl, hagrees.thunk⟩ .nil)

def MemberAgrees (item item' : String × Expr) : Prop :=
  ∃ name d d', item = (name, d.display) ∧ item' = (name, d'.display) ∧ Within d d'

theorem memberEntry_jointly {member : Declaration}
    (h : ∀ found, site.oracle.unwrap member.typeHint = .ok found → skipReason member found = none →
      Jointly Within (assembleUnwrapped (site.inMode true) member found)
        (assembleUnwrapped (site.inMode false) member found)) :
    Jointly (Option.Rel MemberAgrees) (memberEntry (site.inMode true) member)
      (memberEntry (site.inMode false) member) := by
  unfold memberEntry
  split
  · exact .pure .none
  · rename_i name _
    refine .bind_ofExcept fun found hfound => ?_
    split
    · exact .pure .none
    · rename_i hkept
      refine (h found hfound (by simpa using hkept)).bind fun d d' hwithin => .pure (.some ?_)
      exact ⟨name, d, d', rfl, rfl, hwithin⟩

theorem membersAgree_of_rel {items items' : List (Option (String × Expr))}
    (h : List.Forall₂ (Option.Rel MemberAgrees) items items') :
    MembersAgree (items.filterMap id) (items'.filterMap id) := by
  induction h with
  | nil => exact .nil
  | cons hitem _ ih =>
    cases hitem with
    | none => exact ih
    | some hagrees =>
      obtain ⟨name, d, d', rfl, rfl, hwithin⟩ := hagrees
      exact .cons name hwithin ih

end Types

/-! ## Domains and defaults -/

section Pieces

variable (site : Site) (subject : String) (existing : List String)

theorem domainExpr_jointly (domain : ResolvedType) :
    Jointly (Option.Rel Agrees) (domainExpr (site.inMode true) domain)
      (domainExpr (site.inMode false) domain) := by
  unfold domainExpr
  split
  · split
    · exact (refer_agrees _ _ _).bind fun e e' hagrees => .pure (.some hagrees)
    · exact .pure .none
  · exact (referMember_agrees _ _ _ _).bind fun e e' hagrees => .pure (.some hagrees)
  · split
    · exact .bind_ofExcept fun values _ => .pure (.some (.same _))
    · exact .pure .none

theorem domainEntries_jointly (e : Expr) :
    Jointly Descriptor.Parallel (domainEntries (site.inMode true) existing e)
      (domainEntries (site.inMode false) existing e) := by
  unfold domainEntries
  split
  · exact .pure .nil
  · refine .bind_ofExcept fun t? _ => ?_
    split
    · exact .pure .nil
    · refine (domainExpr_jointly site _).bind fun value? value?' hrel => ?_
      cases hrel with
      | none => exact .pure .nil
      | some hagrees => exact .pure (.cons ⟨rfl, hagrees⟩ (Descriptor.Parallel.refl _))

/-- A default that is left out in collection mode may be there in the other one. -/
theorem defaultEntries_jointly (hscope : ∀ name ∈ site.scope, name ∉ constantNames)
    (value : Option Expr) :
    Jointly Descriptor.Follows (defaultEntries (site.inMode true) subject existing value)
      (defaultEntries (site.inMode false) subject existing value) := by
  have hnothing (d' : Descriptor) : Descriptor.Follows [] d' := fun _ _ h => by cases h
  simp only [defaultEntries, Site.inMode_oracle]
  split
  · exact .pure (hnothing _)
  split
  · exact .pure (hnothing _)
  · rename_i initial _
    refine .bind_ofExcept fun copied _ => ?_
    have hcopyable : Jointly (fun kept kept' => kept = true → kept' = true)
        ((site.inMode true).isCopyable copied) ((site.inMode false).isCopyable copied) :=
      .ofEnsures (.ofExcept _) (.ofExcept _) fun kept kept' hkept hkept' htrue =>
        Except.ok.inj (hkept'.symm.trans (isCopyable_of_isStatic hscope (htrue ▸ hkept)))
    refine hcopyable.bind fun kept kept' himp => ?_
    cases kept with
    | true =>
      rw [himp rfl]
      exact .pure (Descriptor.Parallel.refl _).follows
    | false =>
      refine .ofEnsures (P := fun d => d = []) (.bind (.trivially _) fun _ _ => .pure rfl) (.trivially _) ?_
      rintro _ d' rfl -
      exact hnothing d'

end Pieces

/-! ## Validation -/

theorem MarkerRule.key_mem_keys {marker : Expr} {rule : MarkerRule} {offer : Offer}
    (h : offer ∈ rule.offers marker) : offer.key ∈ rule.keys := by
  cases rule with
  | argument key =>
    obtain ⟨e, -, rfl⟩ := List.mem_map.1 h
    exact List.mem_cons_self
  | range lower upper =>
    obtain ⟨first, -, h⟩ := List.mem_flatMap.1 h
    obtain rfl | h := List.mem_cons.1 h
    · exact List.mem_cons_self
    · obtain ⟨second, -, rfl⟩ := List.mem_map.1 h
      exact List.mem_cons_of_mem _ List.mem_cons_self
  | bound key value =>
    obtain rfl := List.mem_singleton.1 h
    exact List.mem_cons_self
  | pattern key =>
    obtain rfl := List.mem_singleton.1 h
    exact List.mem_cons_self

/-- No constraint has the key of the default or the one of membership. -/
theorem key_of_markerOffers {options : Options} {found : Unwrapped} {offer : Offer}
    (h : offer ∈ found.markerOffers options) : offer.key ≠ defaultKey ∧ offer.key ≠ enumKey := by
  have hkeys : ∀ row ∈ constraintRows, ∀ key ∈ row.rule.keys, key ≠ defaultKey ∧ key ≠ enumKey := by
    decide
  unfold Unwrapped.markerOffers at h
  split at h
  · obtain ⟨row, hrow, h⟩ := List.mem_flatMap.1 h
    unfold MarkerRow.offers at h
    cases hmarker : findMarker? found.markers row.names with
    | none =>
      rw [hmarker] at h
      cases h
    | some marker =>
      rw [hmarker] at h
      exact hkeys row hrow _ (MarkerRule.key_mem_keys h)
  · cases h

theorem validation_jointly {site : Site} (hscope : ∀ name ∈ site.scope, name ∉ constantNames)
    (subject : String) {found : Unwrapped} (h : Undisputed (found.markerOffers site.options)) :
    Jointly
      (fun d d' => d.Follows d'
        ∧ ∀ key ∈ d.keys, ∃ offer ∈ found.markerOffers site.options, offer.key = key)
      (if site.options.classValidatorShim then validationEntries (site.inMode true) subject found.markers
        else pure [])
      (if site.options.classValidatorShim then validationEntries (site.inMode false) subject found.markers
        else pure []) := by
  have hkeys {offer : Offer} (hoffer : offer ∈ found.markerOffers site.options) :=
    key_of_markerOffers hoffer
  unfold Unwrapped.markerOffers at h hkeys ⊢
  split
  · rename_i hshim
    simp only [hshim, if_true] at h hkeys
    refine .ofEnsures (validationEntries_eq _ subject _) (validationEntries_eq _ subject _) ?_
    rintro d d' rfl rfl
    have hmarkers := offered_markers hscope h
    refine ⟨fun key e hlookup => ?_, hmarkers.offered⟩
    obtain ⟨offer, hoffer, rfl⟩ := hmarkers.offered key (Descriptor.mem_keys_of_lookup hlookup)
    obtain ⟨e', hfound, hagrees⟩ := hmarkers.follows _ e hlookup
    refine ⟨e', ?_, hagrees⟩
    -- Membership, which stands in front in the class's own module, has a key of its own.
    have hmembership :
        (membershipRow.given (site.inMode false) found.markers).lookup offer.key = none := by
      refine Descriptor.lookup_eq_none fun hmem => (hkeys hoffer).2 ?_
      unfold MarkerRow.given at hmem
      cases hmarker : findMarker? found.markers membershipRow.names with
      | none =>
        rw [hmarker] at hmem
        cases hmem
      | some marker =>
        rw [hmarker] at hmem
        exact mem_keys_argumentGiven hmem
    change List.lookup offer.key (membershipRow.given (site.inMode false) found.markers
      ++ constraintRows.flatMap (MarkerRow.given (site.inMode false) found.markers)) = _
    rw [List.lookup_append, hmembership, Option.none_or, hfound]
  · exact .pure ⟨fun _ _ h => (by cases h), fun _ h => (by cases h)⟩

/-! ## Descriptors -/

namespace Descriptor

/-- The pieces of a descriptor put together. Seeded entries and the default are what collection mode may
leave out. -/
theorem Follows.assembled {seeds seeds' required type type' docs default default' domain domain'
      validation validation' : Descriptor}
    (hseeds : seeds.Follows seeds') (htype : type.Parallel type') (hdefault : default.Follows default')
    (hdomain : domain.Parallel domain') (hvalidation : validation.Follows validation')
    (hseeded : ∀ key ∈ seeds'.keys,
      key ∈ (required ++ type ++ docs ++ default ++ domain ++ validation).keys → key ∈ seeds.keys)
    (hapart : ∀ key ∈ default'.keys, key ∉ (domain ++ validation).keys) :
    (seeds ++ required ++ type ++ docs ++ default ++ domain ++ validation).Follows
      (seeds' ++ required ++ type' ++ docs ++ default' ++ domain' ++ validation') := by
  have hbehind : (default ++ (domain ++ validation)).Follows (default' ++ (domain' ++ validation')) :=
    hdefault.append (hdomain.append_follows hvalidation) fun key hkey hlater =>
      absurd hlater (hapart key hkey)
  have hderived : (required ++ (type ++ (docs ++ (default ++ (domain ++ validation))))).Follows
      (required ++ (type' ++ (docs ++ (default' ++ (domain' ++ validation'))))) :=
    (Parallel.refl required).append_follows
      (htype.append_follows ((Parallel.refl docs).append_follows hbehind))
  simp only [List.append_assoc] at hseeded ⊢
  exact hseeds.append hderived hseeded

end Descriptor

theorem nullable_offered (options : Options) {found : Unwrapped} (h : typeKey ∉ found.seed.map Prod.fst) :
    nullableKey ∈ (found.derivedOffers options).map Offer.key := by
  simp [Unwrapped.derivedOffers, h]

theorem isArray_offered (options : Options) {found : Unwrapped} (h : enumKey ∉ found.seed.map Prod.fst) :
    isArrayKey ∈ (found.derivedOffers options).map Offer.key := by
  simp [Unwrapped.derivedOffers, h]

/-- Behind the seeded entries no key of a refused one comes in, where no offer is disputed. -/
theorem seeds_apart {options : Options} {found : Unwrapped} {seeds seeds' derived validation : Descriptor}
    (hseeds : Offered found.seedOffers seeds seeds')
    (hcross : ∀ offer ∈ found.seedOffers, ∀ later ∈ found.derivedOffers options,
      offer.key = later.key → offer.Stands)
    (hderived : KeepsOff (found.seed.map Prod.fst) ((found.derivedOffers options).map Offer.key) derived)
    (hvalidation : ∀ key ∈ validation.keys, ∃ offer ∈ found.markerOffers options, offer.key = key)
    (key : String) (hkey : key ∈ seeds'.keys) (hlater : key ∈ (derived ++ validation).keys) :
    key ∈ seeds.keys := by
  refine hseeds.stands key hkey fun offer hoffer heq => ?_
  suffices h : ∃ later ∈ found.derivedOffers options, later.key = key by
    obtain ⟨later, hmem, hlater⟩ := h
    exact hcross offer hoffer later hmem (heq.trans hlater.symm)
  rw [Descriptor.keys_append] at hlater
  obtain hlater | hlater := List.mem_append.1 hlater
  · obtain ⟨e, he⟩ := Descriptor.mem_keys.1 hlater
    obtain ⟨entry, hentry, rfl⟩ := List.mem_map.1 hoffer
    exact List.mem_map.1 (hderived _ he (List.mem_map.2 ⟨entry, hentry, heq⟩))
  · obtain ⟨later, hmem, hlater⟩ := hvalidation key hlater
    exact ⟨later, List.mem_append_right _ hmem, hlater⟩

/-- Behind the default no entry has its key. -/
theorem default_apart {options : Options} {found : Unwrapped} {domain validation : Descriptor}
    (hdomain : ∀ entry ∈ domain, enumKey ∉ found.seed.map Prod.fst
      ∧ (entry.1 = enumKey ∨ entry.1 = isArrayKey))
    (hvalidation : ∀ key ∈ validation.keys, ∃ offer ∈ found.markerOffers options, offer.key = key) :
    defaultKey ∉ (domain ++ validation).keys := by
  intro hlater
  rw [Descriptor.keys_append] at hlater
  obtain hlater | hlater := List.mem_append.1 hlater
  · obtain ⟨e, he⟩ := Descriptor.mem_keys.1 hlater
    have hother : defaultKey ≠ enumKey ∧ defaultKey ≠ isArrayKey := by decide
    exact (hdomain _ he).2.elim hother.1 hother.2
  · obtain ⟨offer, hoffer, heq⟩ := hvalidation _ hlater
    exact (key_of_markerOffers hoffer).1 heq

/-- A property both of whose modes describe its type in parallel. -/
theorem assembled_jointly {site : Site} (hscope : ∀ name ∈ site.scope, name ∉ constantNames)
    (declaration : Declaration) {found : Unwrapped} (hown : Undisputed (found.offers site.options))
    (htypes : ∀ existing, Jointly Descriptor.Parallel (typeEntries (site.inMode true) existing found.type)
      (typeEntries (site.inMode false) existing found.type)) :
    Jointly Within (assembleUnwrapped (site.inMode true) declaration found)
      (assembleUnwrapped (site.inMode false) declaration found) := by
  obtain ⟨hseedOffers, hderivedOffers, hcross⟩ := List.pairwise_append.1 hown
  have hmarkerOffers : Undisputed (found.markerOffers site.options) :=
    (List.pairwise_append.1 hderivedOffers).2.1
  have hseeds := offered_seed hscope hseedOffers
  rw [assembleUnwrapped, assembleUnwrapped]
  refine Jointly.bind (R := fun seeds seeds' => seeds = (site.inMode true).copyableSeed found
      ∧ seeds' = (site.inMode false).copyableSeed found)
    (.ofEnsures (seedEntries_eq _ _ _) (seedEntries_eq _ _ _) fun _ _ hd hd' => ⟨hd, hd'⟩) ?_
  rintro seeds seeds' ⟨rfl, rfl⟩
  refine ((htypes _).and (typeEntries_keys _ _ _) (.trivially _)).bind fun type type' htype => ?_
  refine .bind_ofExcept fun docs hdocs => ?_
  refine ((defaultEntries_jointly site _ _ hscope _).and (defaultEntries_keys _ _ _ _)
    (defaultEntries_keys _ _ _ _)).bind fun default default' hdefault => ?_
  refine ((domainEntries_jointly site _ found.type).and (domainEntries_keys _ _ _) (.trivially _)).bind
    fun domain domain' hdomain => ?_
  obtain ⟨htype, htypeKeys, -⟩ := htype
  obtain ⟨hdefault, hdefaultKeys, hdefaultKeys'⟩ := hdefault
  obtain ⟨hdomain, hdomainKeys, -⟩ := hdomain
  have hderived := KeepsOff.derived ((found.derivedOffers site.options).map Offer.key)
    (boolLiteral (found.isRequired declaration.optionalByDefault)) htypeKeys
    (fun entry hentry => (documentationEntries_keys _ _ hdocs entry hentry).1) hdefaultKeys hdomainKeys
    (nullable_offered site.options) (isArray_offered site.options)
  -- Whether the property must be present is said alike in both modes.
  generalize (if (found.seed.map Prod.fst).contains requiredKey then [] else
    [(requiredKey, boolLiteral (found.isRequired declaration.optionalByDefault))]) = required
    at hderived ⊢
  have hvalidation :=
    validation_jointly hscope ((site.inMode true).subject declaration.name) hmarkerOffers
  have hall (validation validation' : Descriptor) (h : validation.Follows validation'
      ∧ ∀ key ∈ validation.keys, ∃ offer ∈ found.markerOffers site.options, offer.key = key) :
      Jointly Within
        (pure (Descriptor.distinct ((site.inMode true).copyableSeed found ++ required
          ++ type ++ docs ++ default ++ domain ++ validation)) : Describe Descriptor)
        (pure (Descriptor.distinct ((site.inMode false).copyableSeed found ++ required
          ++ type' ++ docs ++ default' ++ domain' ++ validation')) : Describe Descriptor) := by
    refine .pure (Descriptor.Follows.assembled hseeds.follows htype hdefault hdomain h.1
      (seeds_apart hseeds hcross hderived h.2) fun key hkey => ?_).within
    obtain ⟨e, he⟩ := Descriptor.mem_keys.1 hkey
    obtain rfl : key = defaultKey := (hdefaultKeys' _ he).2
    exact default_apart hdomainKeys h.2
  refine .ite (fun hshim => ?_) fun hshim => ?_
  · have hshim : site.options.classValidatorShim = true := hshim
    rw [if_pos hshim, if_pos hshim] at hvalidation
    exact hvalidation.bind hall
  · have hshim : ¬ site.options.classValidatorShim = true := hshim
    rw [if_neg hshim, if_neg hshim] at hvalidation
    exact hvalidation.bind hall

/-- Nothing that a type encloses has an offer that is disputed. -/
def Site.UndisputedWithin (site : Site) (e : Expr) : Prop :=
  ∀ inner, site.oracle.Encloses e inner → Undisputed (inner.offers site.options)

/-- Types and properties in both modes, by the recursion through members and branches. -/
theorem describing_jointly {site : Site} (hscope : ∀ name ∈ site.scope, name ∉ constantNames) :
    (∀ existing e, site.UndisputedWithin e → Jointly Descriptor.Parallel
        (typeEntries (site.inMode true) existing e) (typeEntries (site.inMode false) existing e))
      ∧ ∀ declaration found, Undisputed (found.offers site.options) → site.UndisputedWithin found.type →
        Jointly Within (assembleUnwrapped (site.inMode true) declaration found)
          (assembleUnwrapped (site.inMode false) declaration found) := by
  refine describing_induction site (fun existing e hmembers hbranch hinside => ?_)
    fun declaration found htypes hown hinside =>
      assembled_jointly hscope declaration hown fun existing => htypes existing hinside
  rw [typeEntries_eq, typeEntries_eq]
  refine .ite (fun _ => .pure .nil) fun _ => .bind_ofExcept fun shape hshape => ?_
  cases shape with
  | named core => exact namedEntries_jointly site core
  | inline members =>
    refine (Jointly.mapM fun member hmember => memberEntry_jointly site fun found hfound hkept => ?_).bind
      fun items items' hitems => .pure (.cons ⟨rfl, (Agrees.shape (membersAgree_of_rel hitems)).thunk⟩ .nil)
    exact hmembers members hshape member hmember found hfound
      (hinside found (.member hshape hmember hfound hkept))
      fun inner hinner => hinside inner (.within hshape hmember hfound hkept hinner)
  | union branches =>
    refine .bind_ofExcept fun kept hkept => ?_
    split
    · -- The only branch is described in place of the union, and encloses what the union does.
      refine (hbranch branches _ hshape hkept fun inner hinner =>
        hinside inner (.branch hshape hkept hinner)).bind fun d d' hparallel => ?_
      exact .ite (fun _ => .pure hparallel) fun _ =>
        .pure (hparallel.append (Descriptor.Parallel.refl _))
    · exact .pure .nil

/-- What the descriptor of a property says in the collected module it says in the class's own module, up to
the spelling of types, where the seeded entries and markers of the property, and of all that its type
encloses, give no second value for a key whose first is not a constant. -/
theorem modes_agree {site : Site} {declaration : Declaration} {found : Unwrapped}
    {journal journal' : Journal} {d d' : Descriptor}
    (hscope : ∀ name ∈ site.scope, name ∉ constantNames)
    (hfound : site.oracle.unwrap declaration.typeHint = .ok found)
    (hown : Undisputed (found.offers site.options)) (hinside : site.UndisputedWithin found.type)
    (hcollected : (assemble (site.inMode true) declaration journal).1 = .ok d)
    (haugmented : (assemble (site.inMode false) declaration journal').1 = .ok d') :
    ∀ key e, (key, e) ∈ d → ∃ e', (key, e') ∈ d' ∧ Agrees e e' := by
  have hassemble (readonly : Bool) : assemble (site.inMode readonly) declaration
      = assembleUnwrapped (site.inMode readonly) declaration found :=
    ofExcept_bind hfound _
  rw [hassemble] at hcollected haugmented
  exact within_iff.1
    (((describing_jointly hscope).2 declaration found hown hinside).results hcollected haugmented)

/-! ## A seed that is refused -/

namespace Competing

open Bounded

/-- A place where no class binds `LOW`. -/
def site : Site := siteIn false []

def low : Descriptor := [("minimum", .name "LOW")]

theorem assemble_low (readonly : Bool) :
    assemble (site.inMode readonly) (property [lowSeed])
      = pure (if readonly then plain else low ++ plain) := by
  cases readonly with
  | true => exact assemble_property true [] unwrap_low rfl rfl rfl
  | false => exact assemble_property false [] unwrap_low rfl rfl rfl

theorem undisputedWithin_int : site.UndisputedWithin (.name "int") := by
  intro inner h
  have hshape : site.oracle.shape (.name "int") = .ok (.named (.name "int")) := Interposed.shape_int
  cases h with
  | member h | within h | branch h =>
    rw [hshape] at h
    cases h

/-- `Min(5)` -/
def minMarker : Expr := .call (.name "Min") [] (Entry.ofItems [.value (.integer "5")]) []

def five : Descriptor := [("minimum", .integer "5")]

theorem unwrap_lowMin :
    site.oracle.unwrap (property [lowSeed, minMarker]).typeHint = .ok (found [lowSeed, minMarker]) := by
  cbv

theorem toCopy_five : toCopy (.integer "5") = .ok (.integer "5") := by
  -- The bound on digits is a number that only the kernel can write out.
  have hshort : isOverlong 5 = false := by decide +kernel
  have hliteral : (Primitive.int 5).literal = .ok (.integer "5") := by
    rw [Primitive.literal, hshort]
    rfl
  have hcanonical : canonicalLiteral (.integer "5") = .ok (some (.integer "5")) := by
    refine bind_eq_ok.2 ⟨some (.int 5), rfl, ?_⟩
    dsimp only
    rw [hliteral]
    rfl
  rw [toCopy, hcanonical]
  rfl

theorem minRow_entries (readonly : Bool) (subject : String) :
    MarkerRow.entries (siteIn readonly []) subject [lowSeed, minMarker] ⟨["Min", "Ge"], .argument "minimum"⟩
      = pure five := by
  have hcopied : copyArgument (siteIn readonly []) subject (.integer "5") = pure (some (.integer "5")) := by
    unfold copyArgument
    rw [ofExcept_bind toCopy_five]
    cases readonly <;> rfl
  have hentry : argumentEntry (siteIn readonly []) subject "minimum" (some (.integer "5")) = pure five := by
    simp only [argumentEntry, hcopied]
    rfl
  exact hentry

theorem validationEntries_min (readonly : Bool) (subject : String) :
    validationEntries (siteIn readonly []) subject [lowSeed, minMarker] = pure five := by
  have hrows : constraintRows.mapM (MarkerRow.entries (siteIn readonly []) subject [lowSeed, minMarker])
      = pure (five :: List.replicate 7 []) := by
    rw [constraintRows, List.mapM_cons, minRow_entries]
    rfl
  rw [validationEntries]
  cases readonly with
  | true =>
    have htable : markerTable (siteIn true []).options.readonly = constraintRows := rfl
    rw [htable, hrows]
    rfl
  | false =>
    have htable : markerTable (siteIn false []).options.readonly = membershipRow :: constraintRows := rfl
    have hmembership : membershipRow.entries (siteIn false []) subject [lowSeed, minMarker] = pure [] := rfl
    rw [htable, List.mapM_cons, hmembership, hrows]
    rfl

theorem assemble_lowMin (readonly : Bool) :
    assemble (site.inMode readonly) (property [lowSeed, minMarker])
      = pure (if readonly then plain ++ five else low ++ plain) := by
  cases readonly with
  | true => exact assemble_property true [] unwrap_lowMin rfl rfl (validationEntries_min true _)
  | false => exact assemble_property false [] unwrap_lowMin rfl rfl (validationEntries_min false _)

end Competing

/-- The collected module leaves the seeded value out, and says the same of the rest. -/
theorem modes_agree_of_competing :
    assemble (Competing.site.inMode true) (Bounded.property [Bounded.lowSeed]) = pure Bounded.plain
      ∧ assemble (Competing.site.inMode false) (Bounded.property [Bounded.lowSeed])
        = pure (Competing.low ++ Bounded.plain)
      ∧ ∀ key e, (key, e) ∈ Bounded.plain →
        ∃ e', (key, e') ∈ Competing.low ++ Bounded.plain ∧ Agrees e e' := by
  have hunwrap : Competing.site.oracle.unwrap (Bounded.property [Bounded.lowSeed]).typeHint
      = .ok (Bounded.found [Bounded.lowSeed]) := Bounded.unwrap_low
  have hoffers : (Bounded.found [Bounded.lowSeed]).offers Competing.site.options
      = [⟨"minimum", [.name "LOW"]⟩, ⟨nullableKey, []⟩, ⟨isArrayKey, []⟩] := rfl
  have hundisputed : Undisputed ((Bounded.found [Bounded.lowSeed]).offers Competing.site.options) := by
    rw [hoffers]
    simp [Undisputed, nullableKey, isArrayKey]
  have hcollected := Competing.assemble_low true
  have haugmented := Competing.assemble_low false
  refine ⟨hcollected, haugmented, ?_⟩
  exact modes_agree (List.forall_mem_nil _) hunwrap hundisputed Competing.undisputedWithin_int
    (congrArg (fun step => (step {}).1) hcollected) (congrArg (fun step => (step {}).1) haugmented)

/-- A number agrees with nothing but itself. -/
theorem eq_of_agrees_integer {text : String} {e' : Expr} (hne : text ≠ importsBinding)
    (h : Agrees (.integer text) e') : e' = .integer text := by
  generalize heq : Expr.integer text = e at h
  cases h with
  | same => rfl
  | reference h _ =>
    obtain ⟨gap, kind?, rest, hpieces⟩ := begins_of_referenceText h
    rw [← heq, Expr.pieces] at hpieces
    cases hpieces
    exact absurd rfl hne
  | member | list | thunk | shape => cases heq

/-- With a marker for the key of the refused value, the collected module states the marker's value. -/
theorem modes_differ :
    assemble (Competing.site.inMode true) (Bounded.property [Bounded.lowSeed, Competing.minMarker])
        = pure (Bounded.plain ++ Competing.five)
      ∧ assemble (Competing.site.inMode false) (Bounded.property [Bounded.lowSeed, Competing.minMarker])
        = pure (Competing.low ++ Bounded.plain)
      ∧ ¬ ∀ key e, (key, e) ∈ Bounded.plain ++ Competing.five →
        ∃ e', (key, e') ∈ Competing.low ++ Bounded.plain ∧ Agrees e e' := by
  refine ⟨Competing.assemble_lowMin true, Competing.assemble_lowMin false, fun h => ?_⟩
  obtain ⟨e', hmem, hagrees⟩ := h "minimum" (.integer "5") (by simp [Competing.five])
  obtain rfl := eq_of_agrees_integer (by decide) hagrees
  simp [Competing.low, Bounded.plain, requiredKey, typeKey] at hmem

end ModelMetadata
