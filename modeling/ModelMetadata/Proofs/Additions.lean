import ModelMetadata.Proofs.Completing
import ModelMetadata.Proofs.Modes

/-!
What is added to a bare declaration: metadata around its annotation, a default and a documentation. Each
value among these is read by itself, whether it gives an entry, gives none because it cannot be copied,
or has a fault, and the descriptor is put together from the bare one and from what the values give. So
a value that cannot be copied costs its own entry and no other one, but for the bounds of a range, of
which the second is read only behind the first.
-/
set_option autoImplicit false
namespace ModelMetadata

open Source

/-! ## Readings -/

/-- What comes of a value that is read by itself: an entry, none when it cannot be copied, or a
fault. -/
abbrev Reading := Except Fault (Option (String × Expr))

def readAll : List Reading → Except Fault Descriptor
  | [] => return []
  | reading :: rest => do
    let entry ← reading
    let others ← readAll rest
    return entry.toList ++ others

def givenBy (readings : List Reading) : Descriptor :=
  readings.flatMap fun reading => reading.toOption.join.toList

theorem readAll_append (readings more : List Reading) :
    readAll (readings ++ more) = do return (← readAll readings) ++ (← readAll more) := by
  induction readings with
  | nil => simp [readAll]
  | cons reading rest ih =>
    simp only [readAll, List.cons_append, ih, bind_assoc, pure_bind, List.append_assoc]

theorem readAll_singleton (reading : Reading) :
    readAll [reading] = do return (← reading).toList := by
  simp only [readAll, pure_bind, List.append_nil]

/-- Only a fault of one of the values can get in the way. -/
theorem succeeds_readAll {readings : List Reading} :
    Succeeds (readAll readings) ↔ ∀ reading ∈ readings, Succeeds reading := by
  induction readings with
  | nil => simp [readAll, Succeeds, pure, Except.pure]
  | cons reading rest ih =>
    rw [List.forall_mem_cons]
    exact succeeds_bind Iff.rfl fun entry =>
      (succeeds_bind ih fun others => iff_true_intro (succeeds_ok _)).trans (and_iff_left trivial)

theorem readAll_eq_givenBy {readings : List Reading} {d : Descriptor}
    (h : readAll readings = .ok d) : d = givenBy readings := by
  induction readings generalizing d with
  | nil =>
    cases h
    rfl
  | cons reading rest ih =>
    obtain ⟨entry, hentry, h⟩ := bind_eq_ok.1 h
    obtain ⟨others, hothers, h⟩ := bind_eq_ok.1 h
    cases h
    rw [ih hothers, hentry]
    rfl

theorem mem_givenBy {readings : List Reading} {entry : String × Expr} :
    entry ∈ givenBy readings ↔ .ok (some entry) ∈ readings := by
  have hgiven (reading : Reading) :
      entry ∈ reading.toOption.join.toList ↔ reading = .ok (some entry) := by
    match reading with
    | .error fault => simp [Except.toOption]
    | .ok none => simp [Except.toOption]
    | .ok (some given) => simp [Except.toOption, eq_comm]
  simp [givenBy, hgiven]

/-! ## Values -/

section Values

variable (site : Site)

def Site.readSeeded (entry : String × Expr) : Reading :=
  return if ← ModelMetadata.isCopyable site.options.readonly site.scope entry.2 then some entry
    else none

def Site.readValue (key : String) (e : Expr) : Reading := do
  let copied ← toCopy e
  return if ← ModelMetadata.isCopyable site.options.readonly site.scope copied then
      some (key, copied)
    else none

def MarkerRule.readings (marker : Expr) : MarkerRule → List Reading
  | .argument key => marker.positionalArguments[0]?.toList.map (site.readValue key)
  | .bound key value => [return some (key, ← (Primitive.int value).literal)]
  | .range lower upper => marker.positionalArguments[0]?.toList.map (site.readValue lower)
    ++ marker.positionalArguments[1]?.toList.map (site.readValue upper)
  | .pattern key => marker.positionalArguments[0]?.toList.map fun e =>
    return (← patternText e).map fun text => (key, textLiteral text)

def MarkerRow.readings (markers : List Expr) (row : MarkerRow) : List Reading :=
  (findMarker? markers row.names).toList.flatMap fun marker => row.rule.readings site marker

def Site.markerReadings (markers : List Expr) : List Reading :=
  if site.options.classValidatorShim then
    (markerTable site.options.readonly).flatMap (MarkerRow.readings site markers)
  else []

def DocComment.readings (doc : DocComment) (descriptionKey : String) (seeded : List String) :
    List Reading :=
  let isExampleGiven := seeded.contains "example" || seeded.contains "examples"
  (doc.description.filter fun _ => !seeded.contains descriptionKey).toList.map
      (fun text => .ok (some (descriptionKey, textLiteral text)))
    ++ ((exampleField? doc.examples).filter fun _ => !isExampleGiven).toList.map
      (fun (key, value) => return some (key, ← value.literal))
    ++ if doc.deprecated && !seeded.contains "deprecated" then
        [.ok (some ("deprecated", boolLiteral true))]
      else []

def Site.docReadings (declaration : Declaration) (seeded : List String) : List Reading :=
  if site.options.introspectComments then
    match DocComment.parse (declaration.docText?.getD "") with
    | .error fault => [.error fault]
    | .ok doc => doc.readings site.options.dtoKeyOfComment seeded
  else []

def Site.defaultReadings (declaration : Declaration) (seeded : List String) : List Reading :=
  if seeded.contains defaultKey then []
  else (declaration.value.bind site.oracle.defaultOf?).toList.map (site.readValue defaultKey)

end Values

/-! ## Producers read their values -/

section Producers

variable (site : Site) (subject : String)

theorem seedEntries_gives (seed : List (String × Expr)) :
    Gives (seedEntries site subject seed) (readAll (seed.map site.readSeeded)) := by
  induction seed with
  | nil => exact .pure []
  | cons entry rest ih =>
    obtain ⟨key, e⟩ := entry
    have hread : readAll (((key, e) :: rest).map site.readSeeded) = do
        let copyable ← isCopyable site.options.readonly site.scope e
        let others ← readAll (rest.map site.readSeeded)
        return (if copyable then some (key, e) else none).toList ++ others := by
      simp [readAll, Site.readSeeded]
    rw [hread]
    refine .bind (.ofExcept _) fun copyable => ?_
    cases copyable with
    | true => exact ih.bind fun others => .pure _
    | false =>
      refine .andThen (.note ..) ?_
      simpa using ih

theorem copyArgument_gives (e : Expr) :
    Gives (copyArgument site subject e) (do
      let copied ← toCopy e
      let copyable ← isCopyable site.options.readonly site.scope copied
      return if copyable then some copied else none) := by
  refine .bind (.ofExcept _) fun copied => .bind (.ofExcept _) fun copyable => ?_
  cases copyable with
  | true => exact .pure (some copied)
  | false => exact .andThen (.note ..) (.pure none)

theorem argumentEntry_gives (key : String) (argument : Option Expr) :
    Gives (argumentEntry site subject key argument)
      (readAll (argument.toList.map (site.readValue key))) := by
  cases argument with
  | none => exact .pure []
  | some e =>
    have hread : readAll ((some e).toList.map (site.readValue key)) = (do
        let copied ← toCopy e
        let copyable ← isCopyable site.options.readonly site.scope copied
        return if copyable then some copied else none) >>= fun copied? =>
          return (copied?.map fun copied => (key, copied)).toList := by
      simp only [Option.toList_some, List.map_cons, List.map_nil, readAll_singleton, Site.readValue,
        bind_assoc, pure_bind, apply_ite (Option.map _), Option.map_some, Option.map_none]
    rw [hread]
    exact (copyArgument_gives site subject e).bind fun copied? => .pure _

/-- The second bound of a range, which is read only behind the first, is not missed where it could be
copied. -/
def MarkerRule.IsWhole (marker : Expr) : MarkerRule → Prop
  | .range lower upper => ∀ first second, marker.positionalArguments[0]? = some first →
    marker.positionalArguments[1]? = some second → site.readValue lower first = .ok none →
    site.readValue upper second = .ok none
  | _ => True

theorem isWhole_of_single {marker : Expr} {rule : MarkerRule} (h : rule.keys.length = 1) :
    rule.IsWhole site marker := by
  cases rule with
  | range => cases h
  | _ => trivial

/-- Behind a first bound that gives nothing, the second one of a whole range gives nothing either. -/
theorem readAll_upper {marker : Expr} {lower upper : String}
    (hwhole : (MarkerRule.range lower upper).IsWhole site marker)
    (hlower : readAll (marker.positionalArguments[0]?.toList.map (site.readValue lower)) = .ok []) :
    readAll (marker.positionalArguments[1]?.toList.map (site.readValue upper)) = .ok [] := by
  cases hsecond : marker.positionalArguments[1]? with
  | none => rfl
  | some second =>
    obtain ⟨hlong, -⟩ := List.getElem?_eq_some_iff.1 hsecond
    have hfirst := List.getElem?_eq_getElem (Nat.lt_of_succ_lt hlong)
    rw [hfirst, Option.toList_some, List.map_singleton, readAll_singleton] at hlower
    obtain ⟨entry, hentry, hnone⟩ := bind_eq_ok.1 hlower
    cases entry with
    | some entry => cases hnone
    | none =>
      rw [Option.toList_some, List.map_singleton, readAll_singleton,
        hwhole _ second hfirst hsecond hentry]
      rfl

theorem markerRule_gives {marker : Expr} {rule : MarkerRule} (hwhole : rule.IsWhole site marker) :
    Gives (rule.entries site subject marker) (readAll (rule.readings site marker)) := by
  cases rule with
  | argument key => exact argumentEntry_gives site subject key _
  | bound key value =>
    simp only [MarkerRule.readings, readAll_singleton, bind_assoc, pure_bind]
    exact .bind (.ofExcept _) fun literal => .pure _
  | range lower upper =>
    have hlower := argumentEntry_gives site subject lower marker.positionalArguments[0]?
    rw [MarkerRule.readings, readAll_append]
    cases hread : readAll (marker.positionalArguments[0]?.toList.map (site.readValue lower)) with
    | error fault =>
      rw [hread] at hlower
      exact .stop hlower
    | ok d =>
      rw [hread] at hlower
      refine .andThen hlower ?_
      cases d with
      | nil =>
        rw [readAll_upper site hwhole hread]
        exact .pure []
      | cons entry rest => exact (argumentEntry_gives site subject upper _).bind fun others => .pure _
  | pattern key =>
    simp only [MarkerRule.entries, MarkerRule.readings]
    cases marker.positionalArguments[0]? with
    | none => exact .pure []
    | some e =>
      simp only [Option.toList_some, List.map_cons, List.map_nil, readAll_singleton, bind_assoc, pure_bind]
      exact .bind (.ofExcept _) fun text => .pure _

def Site.RangesWhole (markers : List Expr) : Prop :=
  ∀ row ∈ markerTable site.options.readonly, ∀ marker, findMarker? markers row.names = some marker →
    row.rule.IsWhole site marker

theorem validationEntries_gives {markers : List Expr} (hwhole : site.RangesWhole markers) :
    Gives (validationEntries site subject markers)
      (readAll ((markerTable site.options.readonly).flatMap (MarkerRow.readings site markers))) := by
  have hrow : ∀ row ∈ markerTable site.options.readonly,
      Gives (row.entries site subject markers) (readAll (row.readings site markers)) := by
    intro row hrow
    unfold MarkerRow.entries MarkerRow.readings
    cases hmarker : findMarker? markers row.names with
    | none => exact .pure []
    | some marker =>
      rw [Option.toList_some, List.flatMap_singleton]
      exact markerRule_gives site subject (hwhole row hrow marker hmarker)
  unfold validationEntries
  generalize markerTable site.options.readonly = rows at hrow
  induction rows with
  | nil => exact .pure []
  | cons row rest ih =>
    obtain ⟨hfirst, hrest⟩ := List.forall_mem_cons.1 hrow
    rw [List.flatMap_cons, readAll_append, List.mapM_cons]
    simp only [bind_assoc, pure_bind, List.flatten_cons]
    refine hfirst.bind fun d => ?_
    have hothers := (ih hrest).bind (f := fun others => pure (d ++ others)) fun others => .pure _
    simp only [bind_assoc, pure_bind] at hothers
    exact hothers

theorem docEntries_eq (doc : DocComment) (descriptionKey : String) (seeded : List String) :
    doc.entries descriptionKey seeded = readAll (doc.readings descriptionKey seeded) := by
  unfold DocComment.entries DocComment.readings
  dsimp only
  generalize doc.description.filter _ = description
  generalize (exampleField? doc.examples).filter _ = field
  have hdescription : readAll (description.toList.map fun text =>
      (.ok (some (descriptionKey, textLiteral text)) : Reading))
        = .ok (description.map fun text => (descriptionKey, textLiteral text)).toList := by
    cases description <;> rfl
  have hdeprecated (isGiven : Bool) : readAll (if isGiven then
      [(.ok (some ("deprecated", boolLiteral true)) : Reading)] else [])
        = .ok (if isGiven then [("deprecated", boolLiteral true)] else []) := by
    cases isGiven <;> rfl
  rw [readAll_append, readAll_append, hdescription, hdeprecated]
  cases field with
  | none => rfl
  | some field =>
    obtain ⟨key, value⟩ := field
    simp only [Option.toList_some, List.map_singleton, readAll_singleton, bind_assoc, pure_bind]
    rfl

theorem documentationEntries_eq (declaration : Declaration) (seeded : List String) :
    documentationEntries site.options declaration seeded
      = readAll (site.docReadings declaration seeded) := by
  unfold documentationEntries Site.docReadings
  split
  · cases DocComment.parse (declaration.docText?.getD "") with
    | error fault => rfl
    | ok doc => exact docEntries_eq doc _ seeded
  · rfl

theorem defaultEntries_gives (declaration : Declaration) (seeded : List String) :
    Gives (defaultEntries site subject seeded declaration.value)
      (readAll (site.defaultReadings declaration seeded)) := by
  unfold defaultEntries Site.defaultReadings
  split
  · exact .pure []
  · cases declaration.value.bind site.oracle.defaultOf? with
    | none => exact .pure []
    | some initial =>
      simp only [Option.toList_some, List.map_singleton, readAll_singleton, Site.readValue, bind_assoc,
        pure_bind]
      refine .bind (.ofExcept _) fun copied => .bind (.ofExcept _) fun copyable => ?_
      cases copyable with
      | true => exact .pure _
      | false => exact .andThen (.note ..) (.pure [])

/-- The keys that are there matter to the type only in whether its own is one of them. -/
theorem typeEntries_of_absent {existing : List String} (habsent : existing.contains typeKey = false)
    (e : Expr) : typeEntries site existing e = typeEntries site [] e := by
  have h : (∀ existing e, existing.contains typeKey = false →
      typeEntries site existing e = typeEntries site [] e)
      ∧ ∀ (_ : Declaration) (_ : Unwrapped), True := by
    refine describing_induction site (fun existing e _ hbranch habsent => ?_) fun _ _ _ => trivial
    rw [typeEntries_eq site existing, typeEntries_eq site [], if_neg (by simpa using habsent),
      if_neg (by simp)]
    refine ofExcept_bind_congr fun shape hshape => ?_
    cases shape with
    | inline members => rfl
    | named core => rfl
    | union branches =>
      refine ofExcept_bind_congr fun kept hkept => ?_
      split
      · rw [hbranch branches _ hshape hkept habsent]
      · rfl
  exact h.1 existing e habsent

def unlessSeeded (seeded : List String) (key : String) (d : Descriptor) : Descriptor :=
  if seeded.contains key then [] else d

def resultUnlessSeeded (seeded : List String) (key : String) (result : Except Fault Descriptor) :
    Except Fault Descriptor :=
  if seeded.contains key then .ok [] else result

theorem resultUnlessSeeded_ok (seeded : List String) (key : String) (d : Descriptor) :
    resultUnlessSeeded seeded key (.ok d) = .ok (unlessSeeded seeded key d) := by
  unfold resultUnlessSeeded unlessSeeded
  split <;> rfl

def Site.typeResult (e : Expr) : Except Fault Descriptor := (typeEntries site [] e {}).1

def Site.domainResult (e : Expr) : Except Fault Descriptor := (domainEntries site [] e {}).1

theorem typeEntries_gives (existing : List String) (e : Expr) :
    Gives (typeEntries site existing e)
      (resultUnlessSeeded existing typeKey (site.typeResult e)) := by
  unfold resultUnlessSeeded
  cases hguard : existing.contains typeKey with
  | true =>
    rw [typeEntries_eq, if_pos hguard]
    exact .pure []
  | false =>
    rw [typeEntries_of_absent site hguard]
    exact .ofSteady ((Additive.describing site).1 [] e).steady

theorem domainEntries_gives (existing : List String) (e : Expr) :
    Gives (domainEntries site existing e)
      (resultUnlessSeeded existing enumKey (site.domainResult e)) := by
  unfold resultUnlessSeeded
  cases hguard : existing.contains enumKey with
  | true =>
    rw [domainEntries, if_pos hguard]
    exact .pure []
  | false =>
    have habsent : domainEntries site existing e = domainEntries site [] e := by
      rw [domainEntries, domainEntries, if_neg (by simpa using hguard), if_neg (by simp)]
    rw [habsent]
    exact .ofSteady (Additive.domainEntries site [] e).steady

end Producers

/-! ## Descriptors -/

def seedOf (markers : List Expr) : List (String × Expr) :=
  ((findMarker? markers [seedMarker]).map Expr.keywordArguments).getD []

def seededKeys (markers : List Expr) : List String := (seedOf markers).map Prod.fst

section Descriptors

variable (site : Site)

def Site.seedReadings (markers : List Expr) : List Reading := (seedOf markers).map site.readSeeded

def Site.additions (declaration : Declaration) (markers : List Expr) : List Reading :=
  site.seedReadings markers ++ site.docReadings declaration (seededKeys markers)
    ++ site.defaultReadings declaration (seededKeys markers) ++ site.markerReadings markers

/-- The entries of a descriptor: those of any declaration, of the type and of its domain, each unless its
key is seeded, and among them those that the added values give. -/
def Site.joined (declaration : Declaration) (markers : List Expr)
    (required type domain : Descriptor) : Descriptor :=
  givenBy (site.seedReadings markers) ++ unlessSeeded (seededKeys markers) requiredKey required
    ++ unlessSeeded (seededKeys markers) typeKey type
    ++ givenBy (site.docReadings declaration (seededKeys markers))
    ++ givenBy (site.defaultReadings declaration (seededKeys markers))
    ++ unlessSeeded (seededKeys markers) enumKey domain ++ givenBy (site.markerReadings markers)

def Site.result (declaration : Declaration) (found : Unwrapped) : Except Fault Descriptor := do
  let seeded := seededKeys found.markers
  let seeds ← readAll (site.seedReadings found.markers)
  let type ← resultUnlessSeeded seeded typeKey (site.typeResult found.type)
  let docs ← readAll (site.docReadings declaration seeded)
  let default ← readAll (site.defaultReadings declaration seeded)
  let domain ← resultUnlessSeeded seeded enumKey (site.domainResult found.type)
  let validation ← readAll (site.markerReadings found.markers)
  let required := [(requiredKey, boolLiteral (found.isRequired declaration.optionalByDefault))]
  return Descriptor.distinct (seeds ++ unlessSeeded seeded requiredKey required ++ type ++ docs
    ++ default ++ domain ++ validation)

theorem assembleUnwrapped_gives (declaration : Declaration) {found : Unwrapped}
    (hwhole : site.RangesWhole found.markers) :
    Gives (assembleUnwrapped site declaration found) (site.result declaration found) := by
  rw [assembleUnwrapped]
  refine (seedEntries_gives site _ found.seed).bind fun seeds => ?_
  refine (typeEntries_gives site _ found.type).bind fun type => ?_
  rw [documentationEntries_eq]
  refine .bind (.ofExcept _) fun docs => ?_
  refine (defaultEntries_gives site _ declaration _).bind fun default => ?_
  refine (domainEntries_gives site _ found.type).bind fun domain => ?_
  unfold Site.markerReadings
  cases site.options.classValidatorShim with
  | true => exact (validationEntries_gives site _ hwhole).bind fun validation => .pure _
  | false => exact .bind (.pure []) fun validation => .pure _

variable {site} {declaration : Declaration} {found : Unwrapped} {type domain : Descriptor}
  (htype : site.typeResult found.type = .ok type) (hdomain : site.domainResult found.type = .ok domain)
include htype hdomain

theorem result_eq : site.result declaration found = do
    let seeds ← readAll (site.seedReadings found.markers)
    let docs ← readAll (site.docReadings declaration (seededKeys found.markers))
    let default ← readAll (site.defaultReadings declaration (seededKeys found.markers))
    let validation ← readAll (site.markerReadings found.markers)
    return Descriptor.distinct (seeds
      ++ unlessSeeded (seededKeys found.markers) requiredKey
        [(requiredKey, boolLiteral (found.isRequired declaration.optionalByDefault))]
      ++ unlessSeeded (seededKeys found.markers) typeKey type ++ docs ++ default
      ++ unlessSeeded (seededKeys found.markers) enumKey domain ++ validation) := by
  unfold Site.result
  dsimp only
  rw [htype, hdomain, resultUnlessSeeded_ok, resultUnlessSeeded_ok]
  rfl

/-- An added value must have a fault to keep the property from its descriptor. -/
theorem succeeds_result : Succeeds (site.result declaration found)
    ↔ ∀ reading ∈ site.additions declaration found.markers, Succeeds reading := by
  rw [result_eq htype hdomain]
  unfold Site.additions
  simp only [List.forall_mem_append, ← succeeds_readAll, and_assoc]
  refine succeeds_bind Iff.rfl fun seeds => succeeds_bind Iff.rfl fun docs => ?_
  refine succeeds_bind Iff.rfl fun default => ?_
  exact (succeeds_bind Iff.rfl fun _ => iff_true_intro (succeeds_ok _)).trans (and_iff_left trivial)

theorem eq_joined {d : Descriptor} (h : site.result declaration found = .ok d) :
    d = (site.joined declaration found.markers
      [(requiredKey, boolLiteral (found.isRequired declaration.optionalByDefault))] type
      domain).distinct := by
  rw [result_eq htype hdomain] at h
  obtain ⟨seeds, hseeds, h⟩ := bind_eq_ok.1 h
  obtain ⟨docs, hdocs, h⟩ := bind_eq_ok.1 h
  obtain ⟨default, hdefault, h⟩ := bind_eq_ok.1 h
  obtain ⟨validation, hvalidation, h⟩ := bind_eq_ok.1 h
  cases h
  rw [readAll_eq_givenBy hseeds, readAll_eq_givenBy hdocs, readAll_eq_givenBy hdefault,
    readAll_eq_givenBy hvalidation]
  rfl

end Descriptors

/-! ## Bare annotations -/

def Unwrapped.inside (metadata : List Expr) (found : Unwrapped) : Unwrapped :=
  { found with markers := metadata ++ found.markers }

theorem wrappedBy?_inside (metadata more : List Expr) (found : Unwrapped) (wrapper : String) :
    (found.inside metadata).wrappedBy? wrapper more
      = (found.wrappedBy? wrapper more).map (Unwrapped.inside metadata) := by
  simp only [Unwrapped.wrappedBy?, Unwrapped.inside, List.append_assoc, apply_ite (Option.map _),
    Option.map_some, Option.map_none]

theorem unwrapFrom_inside (oracle : Oracle) (metadata : List Expr) (found : Unwrapped) :
    unwrapFrom oracle (found.inside metadata)
      = Unwrapped.inside metadata <$> unwrapFrom oracle found := by
  induction hn : found.type.weight using Nat.strongRecOn generalizing found with
  | ind n ih =>
    subst hn
    rw [unwrapFrom, unwrapFrom, map_bind]
    refine bind_congr fun text? => ?_
    cases text? with
    | some text =>
      dsimp only
      rw [map_bind]
      refine bind_congr fun inner? => ?_
      cases inner? with
      | none => rfl
      | some inner => exact ih _ inner.property { found with type := inner.val } rfl
    | none =>
      dsimp only [Unwrapped.inside]
      cases found.type.indexed? with
      | none =>
        dsimp only
        by_cases hsubscript : found.type.isSubscript = true
        · simp only [hsubscript, if_true]
          rfl
        · simp only [hsubscript]
          rfl
      | some parts =>
        obtain ⟨owner, ⟨first, hlight⟩, more⟩ := parts
        dsimp only
        have hlayer := wrappedBy?_inside metadata more found (oracle.wrapperName owner)
        rw [Unwrapped.inside] at hlayer
        rw [hlayer]
        cases found.wrappedBy? (oracle.wrapperName owner) more with
        | none => rfl
        | some layer => exact ih _ hlight { layer with type := first } rfl

theorem indexed?_subscript {owner first : Expr} {gap : Gap} {entries : List Entry} {close : Gap}
    {metadata : List Expr} (hindices : Entry.indices entries = first :: metadata) :
    ∃ hlight, (Expr.subscript owner gap entries close).indexed?
      = some (owner, ⟨first, hlight⟩, metadata) := by
  unfold Expr.indexed?
  split
  · rename_i hbare
    cases hbare
    split
    · rename_i hnone
      rw [hindices] at hnone
      cases hnone
    · rename_i hsome
      rw [hindices] at hsome
      cases hsome
      exact ⟨Expr.weight_lt_subscript (hindices ▸ List.mem_cons_self), rfl⟩
  · rename_i hother
    exact (hother _ _ _ _ rfl).elim

/-- Without all metadata, an annotation is the one that is bare. -/
structure Oracle.Strips (oracle : Oracle) (typeHint bare : Expr) (markers : List Expr) : Prop where
  unwrap : oracle.unwrap typeHint = Unwrapped.inside markers <$> oracle.unwrap bare
  bare {found : Unwrapped} (h : oracle.unwrap bare = .ok found) : found.markers = []

namespace Oracle.Strips

variable {oracle : Oracle} {bare : Expr}

theorem refl (h : ∀ found, oracle.unwrap bare = .ok found → found.markers = []) :
    oracle.Strips bare bare [] :=
  ⟨(id_map (oracle.unwrap bare)).symm, h _⟩

/-- The metadata of an outer layer comes before that of the inner ones. -/
theorem annotated {owner first : Expr} {gap : Gap} {entries : List Entry} {close : Gap}
    {metadata markers : List Expr} (hindices : Entry.indices entries = first :: metadata)
    (howner : oracle.wrapperName owner = "Annotated") (h : oracle.Strips first bare markers) :
    oracle.Strips (.subscript owner gap entries close) bare (metadata ++ markers) where
  unwrap := by
    have hlayer : oracle.unwrap (.subscript owner gap entries close)
        = unwrapFrom oracle (Unwrapped.inside metadata { type := first }) := by
      obtain ⟨hlight, hindexed⟩ := indexed?_subscript hindices
      have htext : stringValue (.subscript owner gap entries close) = .ok none := rfl
      rw [Oracle.unwrap, unwrapFrom]
      dsimp only
      rw [htext]
      simp only [bind, Except.bind]
      rw [hindexed]
      simp [Unwrapped.wrappedBy?, howner, Unwrapped.inside]
    rw [hlayer, unwrapFrom_inside]
    change _ <$> oracle.unwrap first = _
    rw [h.unwrap, Functor.map_map]
    refine congrArg (· <$> _) (funext fun found => ?_)
    simp [Unwrapped.inside]
  bare := h.bare

end Oracle.Strips
/-! ## What is added -/

/-- The declaration with the annotation `bare`, without a default and a documentation. -/
def Declaration.stripped (declaration : Declaration) (bare : Expr) : Declaration where
  name := declaration.name
  typeHint := bare
  optionalByDefault := declaration.optionalByDefault

theorem Descriptor.mem_keys_distinct {d : Descriptor} {key : String} (h : key ∈ d.keys) :
    key ∈ d.distinct.keys := by
  cases hlookup : d.lookup key with
  | some e => exact Descriptor.mem_keys.2 ⟨e, mem_distinct.2 hlookup⟩
  | none =>
    obtain ⟨e, he⟩ := Descriptor.mem_keys.1 h
    simpa using List.lookup_eq_none_iff.1 hlookup (key, e) he

section Added

variable {site : Site} {declaration : Declaration} {bare : Expr} {markers : List Expr}

/-- No value that gives an entry is without one of its key. -/
theorem mem_keys_joined {key : String} {e : Expr} (required type domain : Descriptor)
    (h : .ok (some (key, e)) ∈ site.additions declaration markers) :
    key ∈ (site.joined declaration markers required type domain).keys := by
  have hgiven {readings : List Reading} (h : .ok (some (key, e)) ∈ readings) :
      key ∈ Descriptor.keys (givenBy readings) :=
    Descriptor.mem_keys.2 ⟨e, mem_givenBy.2 h⟩
  simp only [Site.additions, List.mem_append] at h
  simp only [Site.joined, Descriptor.keys_append, List.mem_append]
  obtain ((h | h) | h) | h := h
  all_goals simp [hgiven h]

theorem docReadings_stripped : site.docReadings (declaration.stripped bare) [] = [] := by
  have hparse : DocComment.parse "" = .ok {} := by cbv
  unfold Site.docReadings
  split
  · change (match DocComment.parse "" with
      | .error fault => [.error fault]
      | .ok doc => doc.readings site.options.dtoKeyOfComment []) = []
    rw [hparse]
    rfl
  · rfl

theorem markerReadings_nil : site.markerReadings [] = [] := by
  unfold Site.markerReadings
  split
  · exact List.flatMap_eq_nil_iff.2 fun row _ => rfl
  · rfl

theorem result_stripped {found : Unwrapped} (hmarkers : found.markers = []) :
    site.result (declaration.stripped bare) found = do
      let type ← site.typeResult found.type
      let domain ← site.domainResult found.type
      return Descriptor.distinct ([(requiredKey,
        boolLiteral (found.isRequired declaration.optionalByDefault))] ++ type ++ domain) := by
  have hseeds : site.seedReadings [] = [] := rfl
  have hkeys : seededKeys [] = [] := rfl
  have hdefault : site.defaultReadings (declaration.stripped bare) [] = [] := rfl
  have hneeded (key : String) (result : Except Fault Descriptor) :
      resultUnlessSeeded [] key result = result := rfl
  have hthere (key : String) (d : Descriptor) : unlessSeeded [] key d = d := rfl
  unfold Site.result
  rw [hmarkers]
  simp only [hseeds, hkeys, docReadings_stripped, hdefault, markerReadings_nil, hneeded, hthere, readAll,
    pure_bind, List.nil_append, List.append_nil]
  rfl

theorem assemble_gives {found : Unwrapped}
    (hfound : site.oracle.unwrap declaration.typeHint = .ok found)
    (hwhole : site.RangesWhole found.markers) :
    Gives (assemble site declaration) (site.result declaration found) := by
  rw [assemble, ofExcept_bind hfound]
  exact assembleUnwrapped_gives site declaration hwhole

/-- A bare declaration that gets a descriptor has a type and a domain, in so far as they can be told. -/
theorem bare_described {journal : Journal}
    (hplain : ∀ found, site.oracle.unwrap bare = .ok found → found.markers = [])
    (h : Succeeds (assemble site (declaration.stripped bare) journal).1) :
    ∃ found type domain, site.oracle.unwrap bare = .ok found
      ∧ site.typeResult found.type = .ok type ∧ site.domainResult found.type = .ok domain
      ∧ (assemble site (declaration.stripped bare) journal).1 = .ok (Descriptor.distinct
        ([(requiredKey, boolLiteral (found.isRequired declaration.optionalByDefault))] ++ type
          ++ domain)) := by
  cases hfound : site.oracle.unwrap bare with
  | error fault =>
    have hstop : Gives (assemble site (declaration.stripped bare)) (.error fault) := by
      rw [assemble]
      exact .stop (hfound ▸ .ofExcept _)
    rw [hstop.gives] at h
    exact absurd h (not_succeeds_error fault)
  | ok found =>
    have hwhole : site.RangesWhole found.markers := by
      rw [hplain found hfound]
      exact fun row _ marker hmarker => nomatch hmarker
    have hgives : Gives (assemble site (declaration.stripped bare)) _ := assemble_gives hfound hwhole
    rw [result_stripped (hplain found hfound)] at hgives
    obtain ⟨d, hd⟩ := h
    rw [hgives.gives] at hd
    obtain ⟨type, htype, hd⟩ := bind_eq_ok.1 hd
    obtain ⟨domain, hdomain, -⟩ := bind_eq_ok.1 hd
    refine ⟨found, type, domain, rfl, htype, hdomain, ?_⟩
    rw [hgives.gives, htype, hdomain]
    rfl

/-- Everything that is added to a bare declaration is read by itself. The property is lost only if one of
the added values has a fault of its own. Otherwise each of them that can be copied has its key in the
descriptor, and the descriptor is the one of the bare declaration and what these values give, where of
entries with one key the first is kept. -/
theorem additions_apart (hstrips : site.oracle.Strips declaration.typeHint bare markers)
    (hwhole : site.RangesWhole markers) {journal : Journal}
    (hbare : Succeeds (assemble site (declaration.stripped bare) journal).1) (journal' : Journal) :
    (Succeeds (assemble site declaration journal').1
        ↔ ∀ reading ∈ site.additions declaration markers, Succeeds reading)
      ∧ ∀ d, (assemble site declaration journal').1 = .ok d →
        (∀ key e, .ok (some (key, e)) ∈ site.additions declaration markers → key ∈ d.keys)
        ∧ ∃ required type domain,
          (assemble site (declaration.stripped bare) journal).1
            = .ok (Descriptor.distinct (required ++ type ++ domain))
          ∧ d = (site.joined declaration markers required type domain).distinct := by
  obtain ⟨found, type, domain, hfound, htype, hdomain, hdescribed⟩ :=
    bare_described (fun _ => hstrips.bare) hbare
  have hfull : site.oracle.unwrap declaration.typeHint = .ok { found with markers } := by
    rw [hstrips.unwrap, hfound]
    simp [Unwrapped.inside, hstrips.bare hfound]
  have hgives := assemble_gives hfull hwhole
  rw [hgives.gives]
  refine ⟨succeeds_result htype hdomain, fun d hd => ?_⟩
  have hjoined := @eq_joined site declaration { found with markers } type domain htype hdomain d hd
  refine ⟨fun key e h => ?_, _, type, domain, hdescribed, hjoined⟩
  rw [hjoined]
  exact Descriptor.mem_keys_distinct (mem_keys_joined _ type domain h)

end Added
namespace Bounded

theorem unwrap_int : site.oracle.unwrap (.name "int") = .ok { type := .name "int" } :=
  Interposed.unwrap_int

theorem strips {markers : List Expr} (hindices : Entry.indices
      (Entry.ofItems ((.name "int" :: markers).map .value)) = .name "int" :: markers) :
    site.oracle.Strips (property markers).typeHint (.name "int") markers := by
  have hbare : site.oracle.Strips (.name "int") (.name "int") [] := .refl fun found hfound => by
    rw [unwrap_int] at hfound
    cases hfound
    rfl
  have hlayer : site.oracle.Strips (property markers).typeHint (.name "int") (markers ++ []) :=
    hbare.annotated hindices (by decide)
  rwa [List.append_nil] at hlayer

theorem bare_int (journal : Journal) :
    (assemble site ((property []).stripped (.name "int")) journal).1 = .ok plain := by
  have htype : site.typeResult (.name "int") = .ok [(typeKey, Expr.thunk (.name "int"))] :=
    congrArg (fun step => (step {}).1) (Interposed.typeEntries_int Interposed.options ["LOW"] [])
  have hdomain : site.domainResult (.name "int") = .ok [] :=
    congrArg (fun step => (step {}).1) (Interposed.domainEntries_int Interposed.options ["LOW"] [])
  have hgives : Gives (assemble site ((property []).stripped (.name "int"))) _ :=
    assemble_gives unwrap_int fun row _ marker hmarker => nomatch hmarker
  rw [result_stripped rfl, htype, hdomain] at hgives
  exact hgives.gives journal

/-- `Min(LOW)` -/
def lowerBound : Expr := .call (.name "Min") [] (Entry.ofItems [.value (.name "LOW")]) []

/-- `Max(BOUND)` -/
def upperBound : Expr := .call (.name "Max") [] (Entry.ofItems [.value (.name "BOUND")]) []

def bounds : List Expr := [lowerBound, upperBound]

theorem additions_bounds :
    site.additions (property bounds) bounds = [.ok none, .ok (some ("maximum", .name "BOUND"))] := rfl

theorem rangesWhole_bounds : site.RangesWhole bounds := by
  have hsingle : ∀ row ∈ markerTable site.options.readonly,
      (findMarker? bounds row.names).isSome = true → row.rule.keys.length = 1 := by
    decide
  intro row hrow marker hmarker
  exact isWhole_of_single site (hsingle row hrow (by rw [hmarker]; rfl))

end Bounded

/-- The first of two bounds reads a name of the class body; the other one is there. -/
theorem additions_apart_of_bounds :
    ∃ d, (assemble Bounded.site (Bounded.property Bounded.bounds) {}).1 = .ok d
      ∧ "maximum" ∈ Descriptor.keys d := by
  have hbare : Succeeds (assemble Bounded.site
      ((Bounded.property Bounded.bounds).stripped (.name "int")) {}).1 := ⟨_, Bounded.bare_int {}⟩
  have hadded := additions_apart (Bounded.strips rfl) Bounded.rangesWhole_bounds hbare {}
  rw [Bounded.additions_bounds] at hadded
  obtain ⟨d, hd⟩ := hadded.1.2 (by simp [Succeeds])
  exact ⟨d, hd, (hadded.2 d hd).1 "maximum" (.name "BOUND") (by simp)⟩

namespace Bounded

/-- `Length(LOW, 5)` -/
def length : Expr :=
  .call (.name "Length") [] (Entry.ofItems [.value (.name "LOW"), .value (.integer "5")]) []

theorem additions_length : site.additions (property [length]) [length]
    = [.ok none, .ok (some ("maxLength", .integer "5"))] := by
  have hfive : site.readValue "maxLength" (.integer "5") = .ok (some ("maxLength", .integer "5")) := by
    rw [Site.readValue, Competing.toCopy_five]
    rfl
  rw [← hfive]
  rfl

theorem assemble_length : assemble site (property [length]) = pure plain := by
  have hunwrap : site.oracle.unwrap (property [length]).typeHint = .ok (found [length]) := by
    cbv
  have htype : typeEntries site [] (.name "int") = pure [(typeKey, Expr.thunk (.name "int"))] :=
    Interposed.typeEntries_int Interposed.options ["LOW"] []
  have hdomain : domainEntries site [] (.name "int") = pure [] :=
    Interposed.domainEntries_int Interposed.options ["LOW"] []
  refine (ofExcept_bind hunwrap _).trans ?_
  rw [assembleUnwrapped]
  change (do
    let type ← typeEntries site [] (.name "int")
    let domain ← domainEntries site [] (.name "int")
    pure (Descriptor.distinct ([(requiredKey, boolLiteral true)] ++ type ++ [] ++ [] ++ domain ++ []))) = _
  rw [htype, hdomain]
  rfl

end Bounded

/-- A second bound is lost with the first one. -/
theorem upper_dropped :
    .ok (some ("maxLength", .integer "5"))
        ∈ Bounded.site.additions (Bounded.property [Bounded.length]) [Bounded.length]
      ∧ assemble Bounded.site (Bounded.property [Bounded.length]) = pure Bounded.plain
      ∧ "maxLength" ∉ Descriptor.keys Bounded.plain := by
  refine ⟨?_, Bounded.assemble_length, by decide⟩
  rw [Bounded.additions_length]
  exact List.mem_cons_of_mem _ List.mem_cons_self

end ModelMetadata
