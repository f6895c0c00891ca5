import ModelMetadata.Proofs.Additions
import ModelMetadata.Proofs.CanonicalLiterals

/-!
The order of entries. Producers offer the entries of a descriptor one after the other, each of them in an
order of its own. The descriptor has every key that is offered, once and where it is first offered, with
the value that it is first offered with. Of the markers behind some of these entries no more matters than
which is the first one of each row of the table.
-/
set_option autoImplicit false
namespace ModelMetadata

open Source

/-! ## Distinct entries -/

namespace Descriptor

theorem nodup_keepFirst_go (seen : List String) (d : Descriptor) :
    (keys (keepFirst.go (fun entry : String × Expr => some entry.1) seen d)).Nodup := by
  induction d generalizing seen with
  | nil => exact List.nodup_nil
  | cons entry rest ih =>
    simp only [keepFirst.go]
    split
    · exact ih seen
    · refine List.nodup_cons.2 ⟨fun hmem => ?_, ih _⟩
      obtain ⟨e, he⟩ := mem_keys.1 hmem
      exact ((mem_keepFirst_go _ _).1 he).1 List.mem_cons_self

theorem nodup_keys_distinct (d : Descriptor) : d.distinct.keys.Nodup := nodup_keepFirst_go [] d

theorem keys_keepFirst_go (seen : List String) (d : Descriptor) :
    keys (keepFirst.go (fun entry : String × Expr => some entry.1) seen d)
      = (d.keys.filter fun key => !seen.contains key).eraseDups := by
  induction d generalizing seen with
  | nil => rfl
  | cons entry rest ih =>
    obtain ⟨key, e⟩ := entry
    simp only [keepFirst.go, keys, List.map_cons, List.filter_cons]
    by_cases hseen : seen.contains key = true
    · simp only [hseen, if_true, Bool.not_true, Bool.false_eq_true, if_false]
      exact ih seen
    · have hlater : (rest.map Prod.fst).filter (fun other => !(key :: seen).contains other)
          = ((rest.map Prod.fst).filter fun other => !seen.contains other).filter fun other =>
            !other == key := by
        rw [List.filter_filter]
        refine List.filter_congr fun other _ => ?_
        simp [Bool.beq_eq_decide_eq]
      simp only [hseen, Bool.not_false, if_true, Bool.false_eq_true, if_false, List.map_cons,
        List.eraseDups_cons]
      rw [← hlater]
      exact congrArg _ (ih (key :: seen))

/-- The keys that are kept stand where each of them comes first. -/
theorem keys_distinct (d : Descriptor) : d.distinct.keys = d.keys.eraseDups := by
  refine (keys_keepFirst_go [] d).trans (congrArg _ (List.filter_eq_self.2 fun key _ => ?_))
  rfl

theorem lookup_distinct (d : Descriptor) (key : String) : d.distinct.lookup key = d.lookup key := by
  cases hkept : d.distinct.lookup key with
  | some e => exact (mem_distinct.1 (mem_of_lookup hkept)).symm
  | none =>
    cases hfound : d.lookup key with
    | none => rfl
    | some e =>
      have hne := List.lookup_eq_none_iff.1 hkept (key, e) (mem_distinct.2 hfound)
      simp at hne

/-- Of entries in groups, the first group that has a key gives its value. -/
theorem lookup_flatMap {α : Type} (groups : List α) (entries : α → Descriptor) (key : String) :
    (groups.flatMap entries).lookup key = groups.findSome? fun group => (entries group).lookup key := by
  induction groups with
  | nil => rfl
  | cons group rest ih =>
    rw [List.flatMap_cons, List.lookup_append, ih, List.findSome?_cons]
    cases (entries group).lookup key <;> rfl

end Descriptor

/-! ## Producers -/

/-- What offers entries of a descriptor. -/
inductive Producer where
  | seed
  | required
  | type
  | documentation
  | default
  | domain
  | validation
deriving Repr, DecidableEq

namespace Producer

def all : List Producer :=
  [.seed, .required, .type, .documentation, .default, .domain, .validation]

def entries (site : Site) (declaration : Declaration) (found : Unwrapped) : Producer → Describe Descriptor
  | .seed => seedEntries site (site.subject declaration.name) found.seed
  | .required =>
    pure (if (found.seed.map Prod.fst).contains requiredKey then []
      else [(requiredKey, boolLiteral (found.isRequired declaration.optionalByDefault))])
  | .type => typeEntries site (found.seed.map Prod.fst) found.type
  | .documentation =>
    Describe.ofExcept (documentationEntries site.options declaration (found.seed.map Prod.fst))
  | .default =>
    defaultEntries site (site.subject declaration.name) (found.seed.map Prod.fst) declaration.value
  | .domain => domainEntries site (found.seed.map Prod.fst) found.type
  | .validation =>
    if site.options.classValidatorShim then
      validationEntries site (site.subject declaration.name) found.markers
    else pure []

/-- The entries that a producer offers are in the order of its own: the seeded ones that can be copied as
they are called, any others under some keys one after the other. -/
def InOrder (site : Site) (found : Unwrapped) (producer : Producer) (d : Descriptor) : Prop :=
  match producer with
  | .seed => d = site.copyableSeed found
  | .required => d.keys.Sublist [requiredKey]
  | .type => ∃ count, d.keys.Sublist (typeKey :: List.replicate count nullableKey)
  | .documentation =>
    d.keys.Sublist [site.options.dtoKeyOfComment, "example", "examples", "deprecated"]
  | .default => d.keys.Sublist [defaultKey]
  | .domain => d.keys.Sublist [enumKey, isArrayKey]
  | .validation => d.keys.Sublist ((markerTable site.options.readonly).flatMap fun row => row.rule.keys)

variable (site : Site) (declaration : Declaration) (found : Unwrapped)

/-- A descriptor is what all producers offer, without the entries whose key came before. -/
theorem assembleUnwrapped_eq : assembleUnwrapped site declaration found = do
    let parts ← all.mapM (entries site declaration found)
    return Descriptor.distinct parts.flatten := by
  rw [assembleUnwrapped]
  cases hshim : site.options.classValidatorShim <;>
    simp only [all, List.mapM_cons, List.mapM_nil, entries, hshim, Bool.false_eq_true, if_true, if_false,
      bind_assoc, pure_bind, List.flatten_cons, List.flatten_nil, List.append_nil, List.append_assoc]

/-- What a producer offers does not depend on what was described before. -/
theorem steady_entries (producer : Producer) : Steady (entries site declaration found producer) := by
  cases producer with
  | seed => exact (Additive.seedEntries _ _ _).steady
  | required => exact ⟨fun _ _ => rfl⟩
  | type => exact ((Additive.describing site).1 _ _).steady
  | documentation => exact (Additive.ofExcept _).steady
  | default => exact (Additive.defaultEntries _ _ _ _).steady
  | domain => exact (Additive.domainEntries _ _ _).steady
  | validation => exact (Additive.ite (Additive.validationEntries _ _ _) (.pure [])).steady

/-! ### Orders -/

variable {site declaration found}

theorem typeEntries_inOrder (existing : List String) (e : Expr) :
    Ensures (typeEntries site existing e) fun d =>
      ∃ count, d.keys.Sublist (typeKey :: List.replicate count nullableKey) := by
  have h : (∀ existing e, Ensures (typeEntries site existing e) fun d =>
      ∃ count, d.keys.Sublist (typeKey :: List.replicate count nullableKey))
      ∧ ∀ (_ : Declaration) (_ : Unwrapped), True := by
    apply describing_induction site
    · intro existing e _ hbranch
      have hnone : ∃ count, (Descriptor.keys []).Sublist (typeKey :: List.replicate count nullableKey) :=
        ⟨0, List.nil_sublist _⟩
      rw [typeEntries_eq]
      refine .ite (fun _ => .pure hnone) fun _ => .bind (.ofExcept _) fun shape hshape => ?_
      cases shape with
      | inline members => exact .bind (.trivially _) fun entries _ => .pure ⟨0, .refl _⟩
      | named core =>
        refine .bind (.trivially _) fun t _ => ?_
        dsimp only
        split
        · exact .pure hnone
        · exact .bind (.trivially _) fun e _ => .pure ⟨0, .refl _⟩
      | union branches =>
        refine .bind (.ofExcept _) fun kept hkept => ?_
        split
        · rename_i branch
          refine (hbranch branches branch hshape hkept).bind fun d hd => .ite (fun _ => .pure hd) fun _ => ?_
          obtain ⟨count, hd⟩ := hd
          refine .pure ⟨count + 1, ?_⟩
          rw [Descriptor.keys_append, List.replicate_succ']
          exact hd.append (.refl [nullableKey])
        · exact .pure hnone
    · intro _ _ _
      trivial
  exact h.1 existing e

theorem keys_optional {α : Type} (key : String) (value? : Option α) (write : α → Expr) :
    (Descriptor.keys (value?.toList.map fun value => (key, write value))).Sublist [key] := by
  cases value? with
  | none => exact List.nil_sublist _
  | some value => exact .refl _

theorem documentationEntries_inOrder {existing : List String} {d : Descriptor}
    (h : documentationEntries site.options declaration existing = .ok d) :
    d.keys.Sublist [site.options.dtoKeyOfComment, "example", "examples", "deprecated"] := by
  unfold documentationEntries at h
  split at h
  · obtain ⟨doc, -, h⟩ := bind_eq_ok.1 h
    obtain ⟨examples, rfl, hexamples⟩ := docEntries_parts existing h
    have hdescription (prose : Option String) : (Descriptor.keys (prose.map fun text =>
        (site.options.dtoKeyOfComment, textLiteral text)).toList).Sublist [site.options.dtoKeyOfComment] := by
      rw [Option.toList_map]
      exact keys_optional _ prose textLiteral
    have hexamples : examples.keys.Sublist ["example", "examples"] := by
      rcases hexamples with rfl | ⟨key, value, literal, hfield, -, -, -, rfl⟩
      · exact List.nil_sublist _
      · rcases exampleField?_key hfield with rfl | rfl
        · exact .cons_cons _ (List.nil_sublist _)
        · exact .cons _ (.refl _)
    have hdeprecated (isGiven : Bool) : (Descriptor.keys (if isGiven then
        [("deprecated", boolLiteral true)] else [])).Sublist ["deprecated"] := by
      cases isGiven with
      | true => exact .refl _
      | false => exact List.nil_sublist _
    rw [Descriptor.keys_append, Descriptor.keys_append]
    exact ((hdescription _).append hexamples).append (hdeprecated _)
  · cases h
    exact List.nil_sublist _

theorem defaultEntries_inOrder (subject : String) (existing : List String) (value : Option Expr) :
    Ensures (defaultEntries site subject existing value) fun d => d.keys.Sublist [defaultKey] := by
  have hnone : (Descriptor.keys []).Sublist [defaultKey] := List.nil_sublist _
  refine .ite (fun _ => .pure hnone) fun _ => ?_
  split
  · exact .pure hnone
  · refine .bind (.trivially _) fun copied _ => .bind (.trivially _) fun isCopyable _ => .ite (fun _ => ?_) fun _ => ?_
    · exact .pure (.refl _)
    · exact .bind (.trivially _) fun _ _ => .pure hnone

theorem domainEntries_inOrder (existing : List String) (e : Expr) :
    Ensures (domainEntries site existing e) fun d => d.keys.Sublist [enumKey, isArrayKey] := by
  have hnone : (Descriptor.keys []).Sublist [enumKey, isArrayKey] := List.nil_sublist _
  refine .ite (fun _ => .pure hnone) fun _ => .bind (.trivially _) fun t _ => ?_
  split
  · exact .pure hnone
  · refine .bind (.trivially _) fun value? _ => ?_
    split
    · exact .pure hnone
    · refine .pure (.cons_cons _ ?_)
      split
      · exact .refl _
      · exact List.nil_sublist _

theorem given_inOrder (marker : Expr) (rule : MarkerRule) :
    (rule.given site marker).keys.Sublist rule.keys := by
  have hargument (key : String) (argument : Option Expr) :
      (site.argumentGiven key argument).keys.Sublist [key] := keys_optional key _ id
  cases rule with
  | argument key => exact hargument key _
  | bound key value => exact keys_optional key (Primitive.int value).literal.toOption id
  | range lower upper =>
    have hlower := hargument lower marker.positionalArguments[0]?
    simp only [MarkerRule.given]
    split
    · exact List.nil_sublist _
    · rw [Descriptor.keys_append]
      exact hlower.append (hargument upper _)
  | pattern key => exact keys_optional key _ textLiteral

theorem validationEntries_inOrder (subject : String) (markers : List Expr) :
    Ensures (validationEntries site subject markers) fun d =>
      d.keys.Sublist ((markerTable site.options.readonly).flatMap fun row => row.rule.keys) := by
  refine (validationEntries_eq site subject markers).imp fun d hd => ?_
  rw [hd]
  induction markerTable site.options.readonly with
  | nil => exact .refl _
  | cons row rest ih =>
    rw [List.flatMap_cons, List.flatMap_cons, Descriptor.keys_append]
    refine List.Sublist.append ?_ ih
    unfold MarkerRow.given
    cases findMarker? markers row.names with
    | none => exact List.nil_sublist _
    | some marker => exact given_inOrder marker row.rule

theorem inOrder (producer : Producer) :
    Ensures (entries site declaration found producer) fun d => producer.InOrder site found d := by
  cases producer with
  | seed => exact seedEntries_eq site _ found.seed
  | required =>
    refine .pure ?_
    change List.Sublist (Descriptor.keys (if _ then _ else _)) [requiredKey]
    split
    · exact List.nil_sublist _
    · exact .refl _
  | type => exact typeEntries_inOrder _ _
  | documentation => exact (Maintains.ofExcept _).imp fun d hd => documentationEntries_inOrder hd
  | default => exact defaultEntries_inOrder _ _ _
  | domain => exact domainEntries_inOrder _ _
  | validation => exact .ite (fun _ => validationEntries_inOrder _ _) fun _ => .pure (List.nil_sublist _)

/-! ### Offers -/

variable (site declaration found)

def offered (producer : Producer) : Descriptor :=
  ((entries site declaration found producer {}).1.toOption).getD []

theorem entries_offered (producer : Producer) :
    Ensures (entries site declaration found producer) fun d =>
      d = offered site declaration found producer
        ∧ ∀ state, (entries site declaration found producer state).1 = .ok d := by
  refine .of fun state d h => ?_
  have hsteady := (steady_entries site declaration found producer).same
  refine ⟨?_, fun state' => (hsteady state' state).trans h⟩
  rw [offered, (hsteady {} state).trans h]
  rfl

theorem mapM_offered (producers : List Producer) :
    Ensures (producers.mapM (entries site declaration found)) fun parts =>
      parts = producers.map (offered site declaration found)
        ∧ ∀ producer ∈ producers, ∀ state, (entries site declaration found producer state).1
          = .ok (offered site declaration found producer) := by
  induction producers with
  | nil => exact .pure ⟨rfl, nofun⟩
  | cons producer rest ih =>
    rw [List.mapM_cons]
    refine (entries_offered site declaration found producer).bind fun d hd => ih.bind fun parts hparts => ?_
    obtain ⟨rfl, hoffered⟩ := hd
    exact .pure ⟨by rw [hparts.1, List.map_cons], List.forall_mem_cons.2 ⟨hoffered, hparts.2⟩⟩

theorem assembled_offered :
    Ensures (assembleUnwrapped site declaration found) fun d =>
      d = Descriptor.distinct (all.flatMap (offered site declaration found))
        ∧ ∀ producer state, (entries site declaration found producer state).1
          = .ok (offered site declaration found producer) := by
  rw [assembleUnwrapped_eq]
  refine (mapM_offered site declaration found all).bind fun parts hparts => .pure ⟨?_, fun producer => ?_⟩
  · rw [hparts.1, List.flatMap_def]
  · exact hparts.2 producer (by cases producer <;> decide)

end Producer

/-! ## Displays -/

theorem Entry.map_item_ofItems (items : List Item) : (Entry.ofItems items).map Entry.item = items := by
  have hgo (first : Item) (rest : List Item) (gap : Gap) :
      (Entry.ofItems.go first rest gap).map Entry.item = first :: rest := by
    induction rest generalizing first gap with
    | nil => rfl
    | cons next rest ih => rw [Entry.ofItems.go, List.map_cons, ih, Entry.item]
  cases items with
  | nil => rfl
  | cons first rest => exact hgo first rest []

def Source.Expr.shownKeys : Expr → Except Fault (List (Option String))
  | .dict entries _ => (entries.map Entry.item).mapM entryKey?
  | _ => .ok []

/-- A descriptor shows its own keys, however they are written. -/
theorem shownKeys_display (d : Descriptor) : d.display.shownKeys = .ok (d.keys.map some) := by
  have hkey (key : String) (e : Expr) :
      entryKey? (.pair (textLiteral key) [] Gap.space e) = .ok (some key) := by
    rw [entryKey?, literalValue_textLiteral]
    rfl
  unfold Descriptor.display Expr.ofPairs Source.Expr.shownKeys
  dsimp only
  rw [Entry.map_item_ofItems]
  induction d with
  | nil => rfl
  | cons entry rest ih =>
    rw [List.map_cons, List.map_cons, List.mapM_cons, ih, hkey]
    rfl

/-! ## Descriptors -/

/-- A descriptor has the keys that the producers offer, in the order in which each of them is offered
first and each of them once, also where they are read from the display. Under a key stands what the first
producer that offers it gives. -/
theorem assemble_in_order {site : Site} {declaration : Declaration} {journal journal' : Journal}
    {d : Descriptor} (h : assemble site declaration journal = (.ok d, journal')) :
    ∃ found, site.oracle.unwrap declaration.typeHint = .ok found
      ∧ ∃ offered : Producer → Descriptor,
        (∀ (producer : Producer) (state : Journal),
          (producer.entries site declaration found state).1 = .ok (offered producer))
        ∧ (∀ producer : Producer, producer.InOrder site found (offered producer))
        ∧ d.keys = (Producer.all.flatMap fun producer => (offered producer).keys).eraseDups
        ∧ (∀ key, d.lookup key = Producer.all.findSome? fun producer => (offered producer).lookup key)
        ∧ d.keys.Nodup ∧ d.display.shownKeys = .ok (d.keys.map some) := by
  cases hfound : site.oracle.unwrap declaration.typeHint with
  | error fault =>
    unfold assemble at h
    rw [hfound] at h
    cases h
  | ok found =>
    have hassemble : assemble site declaration = assembleUnwrapped site declaration found :=
      ofExcept_bind hfound _
    rw [hassemble] at h
    obtain ⟨rfl, hoffered⟩ :=
      (Producer.assembled_offered site declaration found).ensures (congrArg Prod.fst h)
    refine ⟨found, rfl, Producer.offered site declaration found, hoffered, fun producer => ?_, ?_,
      fun key => ?_, Descriptor.nodup_keys_distinct _, shownKeys_display _⟩
    · exact (Producer.inOrder producer).ensures (hoffered producer journal)
    · rw [Descriptor.keys_distinct, Descriptor.keys, List.map_flatMap]
      rfl
    · rw [Descriptor.lookup_distinct, Descriptor.lookup_flatMap]

/-- A seed and a marker offer the same key, the seed before the marker. -/
theorem assemble_in_order_of_repeated :
    let d : Descriptor := ("minimum", .name "LOW") :: Bounded.plain
    assemble (Bounded.siteIn false []) (Bounded.property [Bounded.lowSeed, Bounded.boundMarker]) {}
        = (.ok d, {})
      ∧ ∃ offered : Producer → Descriptor, offered .validation = [("minimum", .name "BOUND")]
        ∧ d.keys = (Producer.all.flatMap fun producer => (offered producer).keys).eraseDups
        ∧ d.lookup "minimum"
          = Producer.all.findSome? fun producer => (offered producer).lookup "minimum" := by
  intro d
  have hrun : assemble (Bounded.siteIn false [])
      (Bounded.property [Bounded.lowSeed, Bounded.boundMarker]) = pure d :=
    Bounded.assemble_property false [] Bounded.unwrap_lowBound rfl rfl rfl
  have hrun : assemble (Bounded.siteIn false [])
      (Bounded.property [Bounded.lowSeed, Bounded.boundMarker]) {} = (.ok d, {}) := by
    rw [hrun]
    rfl
  obtain ⟨found, hfound, offered, hoffered, -, hkeys, hlookup, -⟩ := assemble_in_order hrun
  cases Bounded.unwrap_lowBound.symm.trans hfound
  have hvalidation := hoffered .validation {}
  exact ⟨hrun, offered, (Except.ok.inj hvalidation).symm, hkeys, hlookup "minimum"⟩

/-! ## Markers -/

def isTabled (readonly : Bool) (marker : Expr) : Bool :=
  (markerTable readonly).any fun row => row.names.contains marker.lastName

namespace Bounded

/-- `Min(...)` -/
def least (bound : String) : Expr := .call (.name "Min") [] (Entry.ofItems [.value (.integer bound)]) []

/-- `limits.Le(9)` -/
def greatest : Expr :=
  .call (.attribute (.name "limits") [] [] "Le") [] (Entry.ofItems [.value (.integer "9")]) []

/-- `Doc` -/
def stranger : Expr := .name "Doc"

end Bounded

section

variable (site : Site) (subject : String) {markers reordered : List Expr}

/-- What markers add depends on the first marker of each row alone. -/
theorem validationEntries_congr
    (hfirst : ∀ row ∈ markerTable site.options.readonly,
      findMarker? reordered row.names = findMarker? markers row.names) :
    validationEntries site subject reordered = validationEntries site subject markers := by
  have hrow : ∀ row ∈ markerTable site.options.readonly,
      row.entries site subject reordered = row.entries site subject markers := fun row hrow => by
    unfold MarkerRow.entries
    rw [hfirst row hrow]
  unfold validationEntries
  rw [mapM_congr hrow]

/-- The first marker of a row is found among the markers of the table. -/
theorem findMarker?_filter {readonly : Bool} {row : MarkerRow} (hrow : row ∈ markerTable readonly) :
    findMarker? (markers.filter (isTabled readonly)) row.names = findMarker? markers row.names := by
  unfold findMarker?
  rw [List.find?_filter]
  congr 1
  funext marker
  cases hmarker : row.names.contains marker.lastName with
  | false => simp
  | true =>
    have htabled : isTabled readonly marker = true := List.any_eq_true.2 ⟨row, hrow, hmarker⟩
    simp [htabled]

/-- Markers may change places as long as the first marker of each row stays the first of its row, and
markers of no row may come in anywhere among them: the entries are the same and so are the notes. -/
theorem validationEntries_reordered
    (hfirst : ∀ row ∈ markerTable site.options.readonly,
      findMarker? reordered row.names = findMarker? markers row.names) :
    validationEntries site subject reordered = validationEntries site subject markers
      ∧ ∀ wider : List Expr, wider.filter (isTabled site.options.readonly)
          = reordered.filter (isTabled site.options.readonly) →
        validationEntries site subject wider = validationEntries site subject markers := by
  refine ⟨validationEntries_congr site subject hfirst, fun wider hwider => ?_⟩
  refine validationEntries_congr site subject fun row hrow => ?_
  calc findMarker? wider row.names
      = findMarker? (wider.filter (isTabled site.options.readonly)) row.names :=
        (findMarker?_filter hrow).symm
    _ = findMarker? (reordered.filter (isTabled site.options.readonly)) row.names := by rw [hwider]
    _ = findMarker? reordered row.names := findMarker?_filter hrow
    _ = findMarker? markers row.names := hfirst row hrow

end

/-- The upper bound comes before both lower bounds, and markers of no row between them. -/
theorem validationEntries_reordered_of_bounds :
    validationEntries Bounded.site "x"
        [Bounded.stranger, Bounded.greatest, Bounded.least "1", Bounded.stranger, Bounded.least "2"]
      = validationEntries Bounded.site "x" [Bounded.least "1", Bounded.greatest, Bounded.least "2"] := by
  have hfirst : ∀ row ∈ markerTable Bounded.site.options.readonly,
      findMarker? [Bounded.greatest, Bounded.least "1", Bounded.least "2"] row.names
        = findMarker? [Bounded.least "1", Bounded.greatest, Bounded.least "2"] row.names := by
    intro row hrow
    fin_cases hrow <;> rfl
  exact (validationEntries_reordered Bounded.site "x" hfirst).2 _ rfl

end ModelMetadata
