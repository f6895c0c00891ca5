import ModelMetadata.Proofs.Copying
import ModelMetadata.Proofs.Rerunning

/-!
What a seed marker says goes. A key that the seed names has the seeded value in the descriptor, or is
not there when that value cannot be copied. Derived entries keep off seeded keys each in its own way,
and three kinds do not: that a type may be null and that it is an array follow the seed only through
the key they go with, and validation markers do not follow it at all. These give way to a seeded value
that is there, but come in for one that was dropped.
-/
set_option autoImplicit false
namespace ModelMetadata

open Source

/-! ## Keys -/

def MarkerRule.keys : MarkerRule → List String
  | .argument key => [key]
  | .bound key _ => [key]
  | .range lower upper => [lower, upper]
  | .pattern key => [key]

def markerKeys (options : Options) (markers : List Expr) : List String :=
  if options.classValidatorShim then
    ((markerTable options.readonly).filter fun row => (findMarker? markers row.names).isSome).flatMap
      fun row => row.rule.keys
  else []

def Unwrapped.unguardedKeys (options : Options) (found : Unwrapped) : List String :=
  let seeded := found.seed.map Prod.fst
  (if seeded.contains typeKey then [] else [nullableKey])
    ++ (if seeded.contains enumKey then [] else [isArrayKey])
    ++ markerKeys options found.markers

def Site.copyableSeed (site : Site) (found : Unwrapped) : Descriptor :=
  found.seed.filter fun entry =>
    (ModelMetadata.isCopyable site.options.readonly site.scope entry.2).toOption.getD false

/-! ## Looking keys up -/

theorem mem_keepFirst_go {key : String} {e : Expr} (seen : List String) (d : Descriptor) :
    (key, e) ∈ keepFirst.go (fun entry : String × Expr => some entry.1) seen d
      ↔ key ∉ seen ∧ d.lookup key = some e := by
  induction d generalizing seen with
  | nil => simp [keepFirst.go]
  | cons entry rest ih =>
    obtain ⟨name, value⟩ := entry
    simp only [keepFirst.go]
    by_cases hname : key = name
    · subst hname
      by_cases hseen : key ∈ seen
      · simp [hseen, ih]
      · simp [hseen, ih, eq_comm]
    · have htest : (key == name) = false := by simpa using hname
      by_cases hrepeated : name ∈ seen
      · simp [hrepeated, ih, List.lookup_cons, htest]
      · simp [hrepeated, ih, List.lookup_cons, htest, hname]

/-- Of entries with one key the first is found, and it is the one that is kept. -/
theorem mem_distinct {key : String} {e : Expr} {d : Descriptor} :
    (key, e) ∈ d.distinct ↔ d.lookup key = some e :=
  (mem_keepFirst_go [] d).trans (by simp)

theorem mem_of_lookup {d : Descriptor} {key : String} {e : Expr} (h : d.lookup key = some e) :
    (key, e) ∈ d := by
  obtain ⟨before, after, rfl, -⟩ := List.lookup_eq_some_iff.1 h
  simp

theorem lookup_eq_none_of_keys {key : String} {d : Descriptor} (h : ∀ entry ∈ d, entry.1 ≠ key) :
    d.lookup key = none := by
  apply List.lookup_eq_none_iff.2
  intro entry hentry
  simpa using (h entry hentry).symm

/-! ## Derived entries -/

def KeepsOff (seeded exempt : List String) (d : Descriptor) : Prop :=
  ∀ entry ∈ d, entry.1 ∈ seeded → entry.1 ∈ exempt

theorem KeepsOff.nil (seeded exempt : List String) : KeepsOff seeded exempt [] := by
  intro entry hentry
  simp at hentry

theorem KeepsOff.append {seeded exempt : List String} {d more : Descriptor}
    (h : KeepsOff seeded exempt d) (hmore : KeepsOff seeded exempt more) :
    KeepsOff seeded exempt (d ++ more) := by
  intro entry hentry
  rcases List.mem_append.1 hentry with hentry | hentry
  · exact h entry hentry
  · exact hmore entry hentry

theorem KeepsOff.ofAbsent {seeded exempt : List String} {key : String} {e : Expr}
    (h : key ∉ seeded) : KeepsOff seeded exempt [(key, e)] := by
  intro entry hentry hseeded
  obtain rfl := List.mem_singleton.1 hentry
  exact absurd hseeded h

/-- Entries under a key that guards them, and under one that goes with it. -/
theorem KeepsOff.ofGuarded {seeded exempt : List String} {guard companion : String} {d : Descriptor}
    (h : ∀ entry ∈ d, guard ∉ seeded ∧ (entry.1 = guard ∨ entry.1 = companion))
    (hexempt : guard ∉ seeded → companion ∈ exempt) : KeepsOff seeded exempt d := by
  intro entry hentry hseeded
  obtain ⟨habsent, hkey | hkey⟩ := h entry hentry
  · exact absurd (hkey ▸ hseeded) habsent
  · exact hkey ▸ hexempt habsent

section Producers

variable (site : Site) (subject : String) (seeded : List String)

theorem seedEntries_eq (seed : List (String × Expr)) :
    Ensures (seedEntries site subject seed) fun d => d = seed.filter fun entry =>
      (ModelMetadata.isCopyable site.options.readonly site.scope entry.2).toOption.getD false := by
  induction seed with
  | nil => exact .pure rfl
  | cons entry rest ih =>
    obtain ⟨key, e⟩ := entry
    refine .bind (.ofExcept _) fun isCopyable hcopyable => .ite (fun hkept => ?_) fun hdropped => ?_
    · exact ih.bind fun d hd => .pure (by simp [hcopyable, hkept, hd, Except.toOption])
    · refine .bind (.trivially _) fun _ _ => ih.imp fun d hd => ?_
      simp [hcopyable, hdropped, hd, Except.toOption]

/-- The entries of a type are its own and whether it may be null, and there are none when the type is
seeded. -/
theorem typeEntries_keys (e : Expr) :
    Ensures (typeEntries site seeded e) fun d => ∀ entry ∈ d,
      typeKey ∉ seeded ∧ (entry.1 = typeKey ∨ entry.1 = nullableKey) := by
  have h : (∀ existing e, Ensures (typeEntries site existing e) fun d => ∀ entry ∈ d,
      typeKey ∉ existing ∧ (entry.1 = typeKey ∨ entry.1 = nullableKey))
      ∧ ∀ (_ : Declaration) (_ : Unwrapped), True := by
    apply describing_induction site
    · intro existing e _ hbranch
      rw [typeEntries_eq]
      refine .ite (fun _ => .pure (by simp)) fun hguard => ?_
      have habsent : typeKey ∉ existing := by simpa using hguard
      refine .bind (.ofExcept _) fun shape hshape => ?_
      cases shape with
      | inline members => exact .bind (.trivially _) fun entries _ => .pure (by simp [habsent])
      | named core =>
        refine .bind (.trivially _) fun t _ => ?_
        dsimp only
        split
        · exact .pure (by simp)
        · exact .bind (.trivially _) fun e _ => .pure (by simp [habsent])
      | union branches =>
        refine .bind (.ofExcept _) fun kept hkept => ?_
        split
        · rename_i branch
          refine (hbranch branches branch hshape hkept).bind fun d hd => .ite (fun _ => .pure hd) fun _ => ?_
          refine .pure fun entry hentry => ?_
          rcases List.mem_append.1 hentry with hentry | hentry
          · exact hd entry hentry
          · exact ⟨habsent, .inr (congrArg Prod.fst (List.mem_singleton.1 hentry))⟩
        · exact .pure (by simp)
    · intro _ _ _
      trivial
  exact h.1 seeded e

theorem exampleField?_key {examples : List Value} {key : String} {value : Value}
    (h : exampleField? examples = some (key, value)) : key = "example" ∨ key = "examples" := by
  unfold exampleField? at h
  split at h
  · cases h
  · cases h
    exact .inl rfl
  · cases h
    exact .inr rfl

/-- The description, the examples and the deprecation of a documentation, in this order. -/
theorem docEntries_parts {doc : DocComment} {descriptionKey : String} {d : Descriptor}
    (h : doc.entries descriptionKey seeded = .ok d) :
    ∃ examples, d
        = ((doc.description.filter fun _ => !seeded.contains descriptionKey).map
            fun text => (descriptionKey, textLiteral text)).toList ++ examples
          ++ (if doc.deprecated && !seeded.contains "deprecated"
              then [("deprecated", boolLiteral true)] else [])
      ∧ (examples = [] ∨ ∃ key value literal, exampleField? doc.examples = some (key, value)
        ∧ "example" ∉ seeded ∧ "examples" ∉ seeded ∧ value.literal = .ok literal
        ∧ examples = [(key, literal)]) := by
  unfold DocComment.entries at h
  dsimp only at h
  split at h
  · cases h
    exact ⟨[], rfl, .inl rfl⟩
  · rename_i key value hfield
    obtain ⟨literal, hliteral, h⟩ := bind_eq_ok.1 h
    cases h
    obtain ⟨hfound, hguard⟩ := Option.filter_eq_some_iff.1 hfield
    have habsent : "example" ∉ seeded ∧ "examples" ∉ seeded := by simpa using hguard
    exact ⟨[(key, literal)], rfl, .inr ⟨key, value, literal, hfound, habsent.1, habsent.2, hliteral, rfl⟩⟩

/-- The keys of documentation, none of which is seeded. -/
theorem docEntries_keys {doc : DocComment} {descriptionKey : String} {d : Descriptor}
    (h : doc.entries descriptionKey seeded = .ok d) : ∀ entry ∈ d, entry.1 ∉ seeded
      ∧ (entry.1 = descriptionKey ∨ entry.1 ∈ ["example", "examples", "deprecated"]) := by
  obtain ⟨examples, rfl, hexamples⟩ := docEntries_parts seeded h
  intro entry hentry
  simp only [List.mem_append] at hentry
  rcases hentry with (hentry | hentry) | hentry
  · obtain ⟨text, htext, rfl⟩ := Option.map_eq_some_iff.1 (Option.mem_toList.1 hentry)
    have hguard := (Option.filter_eq_some_iff.1 htext).2
    exact ⟨by simpa using hguard, .inl rfl⟩
  · rcases hexamples with rfl | ⟨key, value, literal, hfield, hexample, hexamples, -, rfl⟩
    · cases hentry
    · rw [List.mem_singleton.1 hentry]
      rcases exampleField?_key hfield with rfl | rfl
      · exact ⟨hexample, .inr (by simp)⟩
      · exact ⟨hexamples, .inr (by simp)⟩
  · split at hentry
    · rename_i hguard
      obtain rfl := List.mem_singleton.1 hentry
      have habsent : "deprecated" ∉ seeded := by
        intro hseeded
        simp [hseeded] at hguard
      exact ⟨habsent, by simp⟩
    · cases hentry

theorem documentationEntries_keys {declaration : Declaration} {d : Descriptor}
    (h : documentationEntries site.options declaration seeded = .ok d) : ∀ entry ∈ d,
      entry.1 ∉ seeded ∧ site.options.introspectComments = true
        ∧ (entry.1 = site.options.dtoKeyOfComment
          ∨ entry.1 ∈ ["example", "examples", "deprecated"]) := by
  unfold documentationEntries at h
  split at h
  · rename_i hintrospect
    obtain ⟨doc, _, h⟩ := bind_eq_ok.1 h
    intro entry hentry
    obtain ⟨habsent, hkey⟩ := docEntries_keys seeded h entry hentry
    exact ⟨habsent, hintrospect, hkey⟩
  · cases h
    simp

theorem defaultEntries_keys (value : Option Expr) :
    Ensures (defaultEntries site subject seeded value) fun d => ∀ entry ∈ d,
      defaultKey ∉ seeded ∧ entry.1 = defaultKey := by
  refine .ite (fun _ => .pure (by simp)) fun hguard => ?_
  have habsent : defaultKey ∉ seeded := by simpa using hguard
  split
  · exact .pure (by simp)
  · refine .bind (.trivially _) fun copied _ => .bind (.trivially _) fun isCopyable _ => .ite (fun _ => ?_) fun _ => ?_
    · exact .pure (by simp [habsent])
    · exact .bind (.trivially _) fun _ _ => .pure (by simp)

/-- The entries of a domain are its own and whether it is an array, and there are none when the domain
is seeded. -/
theorem domainEntries_keys (e : Expr) :
    Ensures (domainEntries site seeded e) fun d => ∀ entry ∈ d,
      enumKey ∉ seeded ∧ (entry.1 = enumKey ∨ entry.1 = isArrayKey) := by
  refine .ite (fun _ => .pure (by simp)) fun hguard => ?_
  have habsent : enumKey ∉ seeded := by simpa using hguard
  refine .bind (.trivially _) fun t _ => ?_
  split
  · exact .pure (by simp)
  · refine .bind (.trivially _) fun value? _ => ?_
    split
    · exact .pure (by simp)
    · refine .pure fun entry hentry => ⟨habsent, ?_⟩
      rcases List.mem_cons.1 hentry with rfl | hentry
      · exact .inl rfl
      · split at hentry
        · exact .inr (congrArg Prod.fst (List.mem_singleton.1 hentry))
        · simp at hentry

theorem argumentEntry_keys (key : String) (argument : Option Expr) :
    Ensures (argumentEntry site subject key argument) fun d => ∀ entry ∈ d, entry.1 = key := by
  cases argument with
  | none => exact .pure (by simp)
  | some e =>
    refine .bind (.trivially _) fun copied _ => .pure fun entry hentry => ?_
    cases copied <;> simp at hentry
    simp [hentry]

theorem markerRule_keys (marker : Expr) (rule : MarkerRule) :
    Ensures (rule.entries site subject marker) fun d => ∀ entry ∈ d, entry.1 ∈ rule.keys := by
  cases rule with
  | argument key =>
    refine (argumentEntry_keys site subject key _).imp fun d hd entry hentry => ?_
    simp [MarkerRule.keys, hd entry hentry]
  | bound key value => exact .bind (.trivially _) fun literal _ => .pure (by simp [MarkerRule.keys])
  | range lower upper =>
    refine (argumentEntry_keys site subject lower _).bind fun first hfirst => ?_
    split
    · exact .pure (by simp)
    · refine (argumentEntry_keys site subject upper _).bind fun second hsecond => .pure ?_
      intro entry hentry
      rcases List.mem_append.1 hentry with hentry | hentry
      · simp [MarkerRule.keys, hfirst entry hentry]
      · simp [MarkerRule.keys, hsecond entry hentry]
  | pattern key =>
    simp only [MarkerRule.entries]
    split
    · exact .pure (by simp)
    · refine .bind (.trivially _) fun text _ => .pure fun entry hentry => ?_
      cases text <;> simp at hentry
      simp [MarkerRule.keys, hentry]

theorem validationEntries_keys (markers : List Expr) (hshim : site.options.classValidatorShim = true) :
    Ensures (validationEntries site subject markers) fun d => ∀ entry ∈ d,
      entry.1 ∈ markerKeys site.options markers := by
  have hrow : ∀ row ∈ markerTable site.options.readonly,
      Ensures (row.entries site subject markers) fun d => ∀ entry ∈ d,
        entry.1 ∈ markerKeys site.options markers := by
    intro row hrow
    unfold MarkerRow.entries
    cases hmarker : findMarker? markers row.names with
    | none => exact .pure (by simp)
    | some marker =>
      refine (markerRule_keys site subject marker row.rule).imp fun d hd entry hentry => ?_
      simp only [markerKeys, hshim, if_true, List.mem_flatMap, List.mem_filter]
      exact ⟨row, ⟨hrow, by simp [hmarker]⟩, hd entry hentry⟩
  refine (Maintains.mapM hrow).bind fun all hall => .pure fun entry hentry => ?_
  obtain ⟨d, hd, hentry⟩ := List.mem_flatten.1 hentry
  exact hall d hd entry hentry

end Producers

/-! ## Descriptors -/

section Descriptors

variable {site : Site} {declaration : Declaration} {found : Unwrapped}

theorem nullable_unguarded (options : Options) (h : typeKey ∉ found.seed.map Prod.fst) :
    nullableKey ∈ found.unguardedKeys options := by
  simp [Unwrapped.unguardedKeys, h]

theorem isArray_unguarded (options : Options) (h : enumKey ∉ found.seed.map Prod.fst) :
    isArrayKey ∈ found.unguardedKeys options := by
  simp [Unwrapped.unguardedKeys, h]

/-- The entries between the seeded ones and those of markers; what follows the seed only through the key
it goes with is exempt. -/
theorem KeepsOff.derived {seeded : List String} (exempt : List String)
    {type docs default domain : Descriptor} (e : Expr)
    (htype : ∀ entry ∈ type, typeKey ∉ seeded ∧ (entry.1 = typeKey ∨ entry.1 = nullableKey))
    (hdocs : ∀ entry ∈ docs, entry.1 ∉ seeded)
    (hdefault : ∀ entry ∈ default, defaultKey ∉ seeded ∧ entry.1 = defaultKey)
    (hdomain : ∀ entry ∈ domain, enumKey ∉ seeded ∧ (entry.1 = enumKey ∨ entry.1 = isArrayKey))
    (hnullable : typeKey ∉ seeded → nullableKey ∈ exempt)
    (hisArray : enumKey ∉ seeded → isArrayKey ∈ exempt) :
    KeepsOff seeded exempt ((if seeded.contains requiredKey then [] else [(requiredKey, e)])
      ++ type ++ docs ++ default ++ domain) := by
  have hrequired : KeepsOff seeded exempt
      (if seeded.contains requiredKey then [] else [(requiredKey, e)]) := by
    split
    · exact .nil _ _
    · rename_i hguard
      exact .ofAbsent (by simpa using hguard)
  have hdocs : KeepsOff seeded exempt docs := fun entry hentry hseeded =>
    absurd hseeded (hdocs entry hentry)
  have hdefault : KeepsOff seeded exempt default := by
    intro entry hentry hseeded
    obtain ⟨habsent, hkey⟩ := hdefault entry hentry
    exact absurd (hkey ▸ hseeded) habsent
  have htype : KeepsOff seeded exempt type := .ofGuarded htype hnullable
  have hdomain : KeepsOff seeded exempt domain := .ofGuarded hdomain hisArray
  exact (((hrequired.append htype).append hdocs).append hdefault).append hdomain

/-- The entries behind the seeded ones keep off the keys that the seed names, but for the unguarded. -/
theorem assembled_eq (site : Site) (declaration : Declaration) (found : Unwrapped) :
    Ensures (assembleUnwrapped site declaration found) fun d => ∃ derived : Descriptor,
      d = (site.copyableSeed found ++ derived).distinct
        ∧ KeepsOff (found.seed.map Prod.fst) (found.unguardedKeys site.options) derived := by
  rw [assembleUnwrapped]
  refine (seedEntries_eq site _ found.seed).bind fun seeded hseeded => ?_
  refine (typeEntries_keys site _ found.type).bind fun type htype => ?_
  refine (Maintains.ofExcept _).bind fun docs hdocs => ?_
  refine (defaultEntries_keys site _ _ _).bind fun default hdefault => ?_
  refine (domainEntries_keys site _ found.type).bind fun domain hdomain => ?_
  have hall := KeepsOff.derived (found.unguardedKeys site.options)
    (boolLiteral (found.isRequired declaration.optionalByDefault)) htype
    (fun entry hentry => (documentationEntries_keys site _ hdocs entry hentry).1) hdefault hdomain
    (nullable_unguarded site.options) (isArray_unguarded site.options)
  have hwhole {validation : Descriptor}
      (hvalidation : KeepsOff (found.seed.map Prod.fst) (found.unguardedKeys site.options) validation) :
      ∃ derived : Descriptor, (seeded ++ (if (found.seed.map Prod.fst).contains requiredKey then []
          else [(requiredKey, boolLiteral (found.isRequired declaration.optionalByDefault))])
          ++ type ++ docs ++ default ++ domain ++ validation).distinct
            = (site.copyableSeed found ++ derived).distinct
        ∧ KeepsOff (found.seed.map Prod.fst) (found.unguardedKeys site.options) derived := by
    refine ⟨_, ?_, hall.append hvalidation⟩
    rw [hseeded]
    simp only [Site.copyableSeed, List.append_assoc]
  refine .ite (fun hshim => ?_) fun _ => ?_
  · refine (validationEntries_keys site _ found.markers hshim).bind fun validation hvalidation => ?_
    refine .pure (hwhole fun entry hentry _ => ?_)
    simp [Unwrapped.unguardedKeys, hvalidation entry hentry]
  · exact .bind (.pure rfl) fun validation hvalidation => .pure (hwhole (hvalidation ▸ .nil _ _))

/-- What the descriptor of a property holds under a key that the seed names is the seeded value, if it
can be copied, and nothing else; but a key that derived entries may take needs a seeded value that can
be copied. -/
theorem mem_assembled_of_seeded {journal journal' : Journal} {d : Descriptor} {key : String}
    (hfound : site.oracle.unwrap declaration.typeHint = .ok found)
    (hrun : assemble site declaration journal = (.ok d, journal'))
    (hseeded : key ∈ found.seed.map Prod.fst)
    (hclear : key ∈ found.unguardedKeys site.options →
      key ∈ (site.copyableSeed found).map Prod.fst) (e : Expr) :
    (key, e) ∈ d ↔ (site.copyableSeed found).lookup key = some e := by
  have hassemble : assemble site declaration = assembleUnwrapped site declaration found :=
    ofExcept_bind hfound _
  rw [hassemble] at hrun
  obtain ⟨derived, rfl, hderived⟩ :=
    (assembled_eq site declaration found).ensures (congrArg Prod.fst hrun)
  rw [mem_distinct, List.lookup_append]
  by_cases hkept : key ∈ (site.copyableSeed found).map Prod.fst
  · cases hlookup : (site.copyableSeed found).lookup key with
    | some value => simp
    | none =>
      obtain ⟨entry, hentry, rfl⟩ := List.mem_map.1 hkept
      have hne := List.lookup_eq_none_iff.1 hlookup entry hentry
      simp at hne
  · have hnone : derived.lookup key = none := by
      apply lookup_eq_none_of_keys
      intro entry hentry hkey
      exact hkept (hclear (hkey ▸ hderived entry hentry (hkey ▸ hseeded)))
    rw [hnone, Option.or_none]

end Descriptors

namespace Bounded

/-- `ApiProperty(minimum=LOW)` -/
def lowSeed : Expr :=
  .call (.name "ApiProperty") [] (Entry.ofItems [.keyword "minimum" [] [] (.name "LOW")]) []

/-- `Min(BOUND)` -/
def boundMarker : Expr := .call (.name "Min") [] (Entry.ofItems [.value (.name "BOUND")]) []

/-- A property `x: Annotated[int, ...]` with some markers. -/
def property (markers : List Expr) : Declaration where
  name := some "x"
  typeHint :=
    .subscript (.name "Annotated") [] (Entry.ofItems ((.name "int" :: markers).map .value)) []

def found (markers : List Expr) : Unwrapped := { type := .name "int", markers }

/-- A class that binds `LOW` in its body. -/
def site : Site := { Interposed.site with scope := ["LOW"] }

def plain : Descriptor := [(requiredKey, boolLiteral true), (typeKey, Expr.thunk (.name "int"))]

def siteIn (readonly : Bool) (scope : List String) : Site :=
  { Interposed.site with options := { Interposed.options with readonly }, scope }

theorem assemble_property (readonly : Bool) (scope : List String) {markers : List Expr}
    {seeded validation : Descriptor}
    (hunwrap : site.oracle.unwrap (property markers).typeHint = .ok (found markers))
    (hseed : (found markers).seed = [("minimum", .name "LOW")])
    (hseeded : seedEntries (siteIn readonly scope) (site.subject (some "x")) [("minimum", .name "LOW")]
      = pure seeded)
    (hvalidation : validationEntries (siteIn readonly scope) (site.subject (some "x")) markers
      = pure validation) :
    assemble (siteIn readonly scope) (property markers) = pure (seeded ++ plain ++ validation).distinct := by
  have htype : typeEntries (siteIn readonly scope) ["minimum"] (.name "int")
      = pure [(typeKey, Expr.thunk (.name "int"))] := Interposed.typeEntries_int _ scope ["minimum"]
  have hdomain : domainEntries (siteIn readonly scope) ["minimum"] (.name "int") = pure [] :=
    Interposed.domainEntries_int _ scope ["minimum"]
  refine (ofExcept_bind hunwrap _).trans ?_
  rw [assembleUnwrapped, hseed]
  change (do
    let seeded ← seedEntries (siteIn readonly scope) (site.subject (some "x")) [("minimum", .name "LOW")]
    let type ← typeEntries (siteIn readonly scope) ["minimum"] (.name "int")
    let domain ← domainEntries (siteIn readonly scope) ["minimum"] (.name "int")
    let validation ← validationEntries (siteIn readonly scope) (site.subject (some "x")) markers
    pure (Descriptor.distinct (seeded ++ [(requiredKey, boolLiteral true)] ++ type ++ [] ++ []
      ++ domain ++ validation))) = _
  rw [hseeded, htype, hdomain, hvalidation]
  simp [plain]

theorem unwrap_low :
    site.oracle.unwrap (property [lowSeed]).typeHint = .ok (found [lowSeed]) := by
  cbv

theorem unwrap_lowBound :
    site.oracle.unwrap (property [lowSeed, boundMarker]).typeHint
      = .ok (found [lowSeed, boundMarker]) := by
  cbv

theorem assemble_low : assemble site (property [lowSeed]) = pure plain :=
  assemble_property false ["LOW"] unwrap_low rfl rfl rfl

theorem assemble_lowBound :
    assemble site (property [lowSeed, boundMarker]) = pure (plain ++ [("minimum", .name "BOUND")]) :=
  assemble_property false ["LOW"] unwrap_lowBound rfl rfl rfl

end Bounded

/-- A value that reads a name of the class body is dropped, and no other comes in for it. -/
theorem mem_assembled_of_bounded :
    ("minimum", .name "LOW") ∈ Bounded.plain
      ↔ (Bounded.site.copyableSeed (Bounded.found [Bounded.lowSeed])).lookup "minimum"
        = some (.name "LOW") := by
  have hrun : assemble Bounded.site (Bounded.property [Bounded.lowSeed]) {}
      = (.ok Bounded.plain, {}) := by
    rw [Bounded.assemble_low]
    rfl
  apply mem_assembled_of_seeded Bounded.unwrap_low hrun
  · decide
  · decide

/-- With a marker for the same key beside it, the marker's value does come in. -/
theorem seed_replaced :
    (Bounded.found [Bounded.lowSeed, Bounded.boundMarker]).seed = [("minimum", .name "LOW")]
      ∧ Bounded.site.copyableSeed (Bounded.found [Bounded.lowSeed, Bounded.boundMarker]) = []
      ∧ assemble Bounded.site (Bounded.property [Bounded.lowSeed, Bounded.boundMarker])
        = pure [(requiredKey, boolLiteral true), (typeKey, Expr.thunk (.name "int")),
            ("minimum", .name "BOUND")] := by
  refine ⟨rfl, rfl, ?_⟩
  exact Bounded.assemble_lowBound

end ModelMetadata
