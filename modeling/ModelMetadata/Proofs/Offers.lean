import ModelMetadata.Proofs.Agreeing

/-!
Offers. A seed and markers offer entries of a descriptor, each with the expressions that are copied for it.
In collection mode an offer is refused unless what it copies is constant; what is copied there is copied in
the class's own module too. So where no refused offer stands before another one under its key, the entries
that collection mode keeps are the ones that the other mode finds.
-/
set_option autoImplicit false
namespace ModelMetadata

open Source

/-! ## Constants -/

def Source.Expr.IsConstant (e : Expr) : Prop := (toCopy e >>= isStatic) = .ok true

theorem isStatic_of_literalValue (e : Expr) {value : Primitive}
    (h : literalValue e = .ok (some value)) : isStatic e = .ok true := by
  cases e with
  | paren afterOpen inner beforeClose => exact isStatic_of_literalValue inner h
  | name text =>
    unfold isStatic
    split
    case h_2 => rfl
    case h_7 => exact bind_eq_ok.2 ⟨_, h, rfl⟩
    all_goals contradiction
  | list => cases h
  | set => cases h
  | tuple => cases h
  | dict => cases h
  | _ => exact bind_eq_ok.2 ⟨_, h, rfl⟩
termination_by structural e

/-- A constant that is copied as it is written. -/
theorem Source.Expr.IsConstant.isStatic {e : Expr} (h : e.IsConstant) : isStatic e = .ok true := by
  obtain ⟨copied, hcopied, hstatic⟩ := bind_eq_ok.1 h
  obtain ⟨canonical?, hcanonical, heq⟩ := bind_eq_ok.1 hcopied
  obtain ⟨value?, hvalue, hliteral⟩ := bind_eq_ok.1 hcanonical
  cases value? with
  | some value => exact isStatic_of_literalValue e hvalue
  | none =>
    cases hliteral
    cases heq
    exact hstatic

/-- What is copied in collection mode is copied in the class's own module, where no class binds a
constant. -/
theorem isCopyable_of_isStatic {scope : List String} (hscope : ∀ name ∈ scope, name ∉ constantNames)
    {e : Expr} (h : isStatic e = .ok true) : isCopyable false scope e = .ok true := by
  have hreads := (readsNothing_of_isStatic e h).names
  have hnone : e.namesRead.any scope.contains = false := by
    refine List.any_eq_false.2 fun name hname hbound => ?_
    exact hscope name (List.contains_iff_mem.1 hbound) (hreads name hname)
  simp only [isCopyable, hnone, Bool.false_eq_true, if_false, Bool.not_false]

def Site.copied? (site : Site) (e : Expr) : Option Expr :=
  (toCopy e).toOption.filter fun copied =>
    (ModelMetadata.isCopyable site.options.readonly site.scope copied).toOption.getD false

section Copied

variable {site : Site} (hscope : ∀ name ∈ site.scope, name ∉ constantNames)

theorem copied?_of_isConstant {e : Expr} (h : e.IsConstant) :
    ∃ copied, (site.inMode true).copied? e = some copied := by
  obtain ⟨copied, hcopied, hstatic⟩ := bind_eq_ok.1 h
  refine ⟨copied, ?_⟩
  simp [Site.copied?, Site.inMode, isCopyable, hcopied, hstatic, Except.toOption]

include hscope

/-- What collection mode copies, the other mode copies as well. -/
theorem copied?_inMode {e copied : Expr} (h : (site.inMode true).copied? e = some copied) :
    (site.inMode false).copied? e = some copied := by
  obtain ⟨hcopied, hstatic⟩ := Option.filter_eq_some_iff.1 h
  refine Option.filter_eq_some_iff.2 ⟨hcopied, ?_⟩
  have htrue : isStatic copied = .ok true := by
    cases hresult : isStatic copied with
    | error fault => simp [Site.inMode, isCopyable, hresult, Except.toOption] at hstatic
    | ok value => simp_all [Site.inMode, isCopyable, Except.toOption]
  have hfalse := isCopyable_of_isStatic hscope htrue
  simp [Site.inMode, hfalse, Except.toOption]

end Copied

/-! ## What markers give -/

def Site.argumentGiven (site : Site) (key : String) (argument : Option Expr) : Descriptor :=
  (argument.bind site.copied?).toList.map fun copied => (key, copied)

def MarkerRule.given (site : Site) (marker : Expr) : MarkerRule → Descriptor
  | .argument key => site.argumentGiven key marker.positionalArguments[0]?
  | .bound key value => (Primitive.int value).literal.toOption.toList.map fun literal => (key, literal)
  | .range lower upper =>
    match site.argumentGiven lower marker.positionalArguments[0]? with
    | [] => []
    | first => first ++ site.argumentGiven upper marker.positionalArguments[1]?
  | .pattern key =>
    (marker.positionalArguments[0]?.bind fun e => (patternText e).toOption.join).toList.map
      fun text => (key, textLiteral text)

def MarkerRow.given (site : Site) (markers : List Expr) (row : MarkerRow) : Descriptor :=
  (findMarker? markers row.names).elim [] (row.rule.given site)

section Given

variable (site : Site) (subject : String)

theorem copyArgument_eq (e : Expr) :
    Ensures (copyArgument site subject e) fun copied? => copied? = site.copied? e := by
  refine .bind (.ofExcept _) fun copied hcopied => .bind (.ofExcept _) fun copyable hcopyable => ?_
  have hfilter : site.copied? e = if copyable then some copied else none := by
    simp only [Site.copied?, hcopied, Except.toOption, Option.filter, hcopyable, Option.getD_some]
  rw [hfilter]
  cases copyable with
  | true => exact .pure rfl
  | false => exact .bind (.trivially _) fun _ _ => .pure rfl

theorem argumentEntry_eq (key : String) (argument : Option Expr) :
    Ensures (argumentEntry site subject key argument) fun d => d = site.argumentGiven key argument := by
  cases argument with
  | none => exact .pure rfl
  | some e =>
    refine (copyArgument_eq site subject e).bind fun copied? hcopied => .pure ?_
    subst hcopied
    simp only [Site.argumentGiven, Option.bind_some]
    cases site.copied? e <;> rfl

theorem markerRule_eq (marker : Expr) (rule : MarkerRule) :
    Ensures (rule.entries site subject marker) fun d => d = rule.given site marker := by
  cases rule with
  | argument key => exact argumentEntry_eq site subject key _
  | bound key value =>
    refine .bind (.ofExcept _) fun literal hliteral => .pure ?_
    simp only [MarkerRule.given, hliteral]
    rfl
  | range lower upper =>
    refine (argumentEntry_eq site subject lower _).bind fun first hfirst => ?_
    simp only [MarkerRule.given, ← hfirst]
    cases first with
    | nil => exact .pure rfl
    | cons entry rest =>
      exact (argumentEntry_eq site subject upper _).bind fun second hsecond => .pure (by rw [hsecond])
  | pattern key =>
    simp only [MarkerRule.entries, MarkerRule.given]
    cases marker.positionalArguments[0]? with
    | none => exact .pure rfl
    | some e =>
      refine .bind (.ofExcept _) fun text htext => .pure ?_
      simp only [Option.bind_some, htext]
      cases text <;> rfl

theorem Ensures.mapM_eq {σ α β : Type} {f : α → ExceptT Fault (StateM σ) β} {g : α → β}
    {xs : List α} (h : ∀ x ∈ xs, Ensures (f x) fun y => y = g x) :
    Ensures (xs.mapM f) fun ys => ys = xs.map g := by
  induction xs with
  | nil => exact .pure rfl
  | cons x rest ih =>
    rw [List.mapM_cons]
    refine (h x List.mem_cons_self).bind fun y hy => ?_
    refine (ih fun z hz => h z (List.mem_cons_of_mem x hz)).bind fun ys hys => .pure ?_
    rw [hy, hys, List.map_cons]

theorem validationEntries_eq (markers : List Expr) :
    Ensures (validationEntries site subject markers) fun d =>
      d = (markerTable site.options.readonly).flatMap (MarkerRow.given site markers) := by
  have hrow : ∀ row ∈ markerTable site.options.readonly,
      Ensures (row.entries site subject markers) fun d => d = row.given site markers := by
    intro row _
    unfold MarkerRow.entries MarkerRow.given
    cases findMarker? markers row.names with
    | none => exact .pure rfl
    | some marker => exact markerRule_eq site subject marker row.rule
  refine (Ensures.mapM_eq hrow).bind fun all hall => .pure ?_
  rw [hall, List.flatMap_def]

end Given

/-! ## Offers -/

/-- An entry that is offered: its key and the expressions that are copied for it. -/
structure Offer where
  key : String
  copied : List Expr := []

def Offer.Stands (offer : Offer) : Prop := ∀ e ∈ offer.copied, e.IsConstant

/-- What a marker offers by a rule; the second bound of a range is not there without the first. -/
def MarkerRule.offers (marker : Expr) : MarkerRule → List Offer
  | .argument key => marker.positionalArguments[0]?.toList.map fun e => { key, copied := [e] }
  | .bound key _ => [{ key }]
  | .range lower upper =>
    marker.positionalArguments[0]?.toList.flatMap fun first =>
      { key := lower, copied := [first] } :: marker.positionalArguments[1]?.toList.map fun second =>
        { key := upper, copied := [first, second] }
  | .pattern key => [{ key }]

def MarkerRow.offers (markers : List Expr) (row : MarkerRow) : List Offer :=
  (findMarker? markers row.names).elim [] fun marker => row.rule.offers marker

def Unwrapped.seedOffers (found : Unwrapped) : List Offer :=
  found.seed.map fun entry => { key := entry.1, copied := [entry.2] }

def Unwrapped.markerOffers (options : Options) (found : Unwrapped) : List Offer :=
  if options.classValidatorShim then constraintRows.flatMap (MarkerRow.offers found.markers) else []

/-- What derived entries offer under keys that the seed may name: those that follow the seed only through
the key they go with, and those of the markers. -/
def Unwrapped.derivedOffers (options : Options) (found : Unwrapped) : List Offer :=
  let seeded := found.seed.map Prod.fst
  (if seeded.contains typeKey then [] else [{ key := nullableKey }])
    ++ (if seeded.contains enumKey then [] else [{ key := isArrayKey }]) ++ found.markerOffers options

def Unwrapped.offers (options : Options) (found : Unwrapped) : List Offer :=
  found.seedOffers ++ found.derivedOffers options

/-- An offer that collection mode refuses has no other one under its key behind it. -/
def Undisputed (offers : List Offer) : Prop :=
  offers.Pairwise fun offer later => offer.key = later.key → offer.Stands

/-- What comes of some offers in both modes: collection mode follows the other, has no other keys than
those that are offered, and all that no mode refuses. -/
structure Offered (offers : List Offer) (d d' : Descriptor) : Prop where
  follows : d.Follows d'
  offered (key : String) (h : key ∈ d.keys) : ∃ offer ∈ offers, offer.key = key
  stands (key : String) (h : key ∈ d'.keys) (hstands : ∀ offer ∈ offers, offer.key = key → offer.Stands) :
    key ∈ d.keys

namespace Offered

variable {offers more : List Offer} {d d' e e' : Descriptor}

theorem nil : Offered [] [] [] where
  follows _ _ h := by cases h
  offered _ h := by cases h
  stands _ h := by cases h

theorem append (h : Offered offers d d') (hmore : Offered more e e')
    (hpair : ∀ offer ∈ offers, ∀ later ∈ more, offer.key = later.key → offer.Stands) :
    Offered (offers ++ more) (d ++ e) (d' ++ e') where
  follows := by
    refine h.follows.append hmore.follows fun key hkey hlater => ?_
    obtain ⟨later, hmem, rfl⟩ := hmore.offered key hlater
    exact h.stands _ hkey fun offer hoffer heq => hpair offer hoffer later hmem heq
  offered key hkey := by
    rw [Descriptor.keys_append] at hkey
    obtain hkey | hkey := List.mem_append.1 hkey
    · exact (h.offered key hkey).imp fun _ hoffer => hoffer.imp_left (List.mem_append_left _)
    · exact (hmore.offered key hkey).imp fun _ hoffer => hoffer.imp_left (List.mem_append_right _)
  stands key hkey hstands := by
    rw [Descriptor.keys_append] at hkey ⊢
    obtain hkey | hkey := List.mem_append.1 hkey
    · exact List.mem_append_left _
        (h.stands key hkey fun offer hoffer => hstands offer (List.mem_append_left _ hoffer))
    · exact List.mem_append_right _
        (hmore.stands key hkey fun offer hoffer => hstands offer (List.mem_append_right _ hoffer))

/-- Entries that are the same in both modes. -/
theorem same {d : Descriptor} (h : ∀ key ∈ d.keys, ∃ offer ∈ offers, offer.key = key) :
    Offered offers d d where
  follows := (Descriptor.Parallel.refl d).follows
  offered := h
  stands _ hkey _ := hkey

/-- Entries that collection mode refuses. -/
theorem refused (h : ∀ key ∈ d'.keys, ∃ offer ∈ offers, offer.key = key ∧ ¬ offer.Stands) :
    Offered offers [] d' where
  follows _ _ h := by cases h
  offered _ h := by cases h
  stands key hkey hstands := by
    obtain ⟨offer, hoffer, heq, hnot⟩ := h key hkey
    exact absurd (hstands offer hoffer heq) hnot

/-- Offers in groups, none of which is disputed by another one. -/
theorem flatMap {α : Type} {xs : List α} {offers : α → List Offer} {d d' : α → Descriptor}
    (h : ∀ x ∈ xs, Offered (offers x) (d x) (d' x)) (hpair : Undisputed (xs.flatMap offers)) :
    Offered (xs.flatMap offers) (xs.flatMap d) (xs.flatMap d') := by
  induction xs with
  | nil => exact nil
  | cons x rest ih =>
    simp only [List.flatMap_cons, Undisputed] at hpair ⊢
    obtain ⟨-, hrest, hcross⟩ := List.pairwise_append.1 hpair
    exact (h x List.mem_cons_self).append (ih (fun y hy => h y (List.mem_cons_of_mem _ hy)) hrest) hcross

end Offered

def Site.seedGiven (site : Site) (entry : String × Expr) : Descriptor :=
  if (ModelMetadata.isCopyable site.options.readonly site.scope entry.2).toOption.getD false then [entry]
  else []

theorem copyableSeed_eq (site : Site) (found : Unwrapped) :
    site.copyableSeed found = found.seed.flatMap site.seedGiven := by
  unfold Site.copyableSeed
  induction found.seed with
  | nil => rfl
  | cons entry rest ih =>
    rw [List.filter_cons, List.flatMap_cons, ih]
    unfold Site.seedGiven
    split <;> rfl

theorem Site.seedGiven_of_copyable (site : Site) (key : String) {e : Expr}
    (h : ModelMetadata.isCopyable site.options.readonly site.scope e = .ok true) :
    site.seedGiven (key, e) = [(key, e)] :=
  if_pos (by rw [h]; rfl)

theorem mem_keys_seedGiven {site : Site} {entry : String × Expr} {name : String}
    (h : name ∈ (site.seedGiven entry).keys) : name = entry.1 := by
  unfold Site.seedGiven at h
  split at h
  · exact List.mem_singleton.1 h
  · cases h

theorem mem_keys_argumentGiven {site : Site} {key name : String} {argument : Option Expr}
    (h : name ∈ (site.argumentGiven key argument).keys) : name = key := by
  obtain ⟨e, he⟩ := Descriptor.mem_keys.1 h
  obtain ⟨copied, -, heq⟩ := List.mem_map.1 he
  cases heq
  rfl

theorem not_isConstant {site : Site} {e : Expr} (h : (site.inMode true).copied? e = none) :
    ¬ e.IsConstant := by
  intro hconstant
  obtain ⟨copied, hcopied⟩ := copied?_of_isConstant hconstant
  rw [h] at hcopied
  cases hcopied

section Modes

variable {site : Site} (hscope : ∀ name ∈ site.scope, name ∉ constantNames)
include hscope

theorem offered_argument (key : String) (argument : Option Expr) :
    Offered (argument.toList.map fun e => { key, copied := [e] })
      ((site.inMode true).argumentGiven key argument) ((site.inMode false).argumentGiven key argument) := by
  cases argument with
  | none => exact .nil
  | some e =>
    cases hcopied : (site.inMode true).copied? e with
    | some copied =>
      simp only [Site.argumentGiven, Option.bind_some, hcopied, copied?_inMode hscope hcopied]
      exact .same (by simp [Descriptor.keys])
    | none =>
      have hnone : (site.inMode true).argumentGiven key (some e) = [] := by
        simp only [Site.argumentGiven, Option.bind_some, hcopied, Option.toList_none, List.map_nil]
      rw [hnone]
      refine .refused fun name hname => ⟨{ key, copied := [e] }, List.mem_cons_self, ?_, ?_⟩
      · exact (mem_keys_argumentGiven hname).symm
      · exact fun hstands => not_isConstant hcopied (hstands e List.mem_cons_self)

theorem offered_range (lower upper : String) (marker : Expr) :
    Offered ((MarkerRule.range lower upper).offers marker)
      ((MarkerRule.range lower upper).given (site.inMode true) marker)
      ((MarkerRule.range lower upper).given (site.inMode false) marker) := by
  simp only [MarkerRule.offers, MarkerRule.given]
  have hsecond := offered_argument hscope upper marker.positionalArguments[1]?
  generalize marker.positionalArguments[1]? = second at hsecond ⊢
  cases marker.positionalArguments[0]? with
  | none => exact .nil
  | some first =>
    rw [Option.toList_some, List.flatMap_cons, List.flatMap_nil, List.append_nil]
    have hfirst {mode : Site} {copied : Expr} (h : mode.copied? first = some copied) :
        mode.argumentGiven lower (some first) = [(lower, copied)] := by
      simp only [Site.argumentGiven, Option.bind_some, h, Option.toList_some, List.map_cons, List.map_nil]
    have hunbound {mode : Site} (h : mode.copied? first = none) :
        mode.argumentGiven lower (some first) = [] := by
      simp only [Site.argumentGiven, Option.bind_some, h, Option.toList_none, List.map_nil]
    cases hcopied : (site.inMode true).copied? first with
    | some copied =>
      rw [hfirst hcopied, hfirst (copied?_inMode hscope hcopied)]
      refine ⟨(Descriptor.Parallel.refl [(lower, copied)]).append_follows hsecond.follows, ?_, ?_⟩
      · intro name hname
        obtain rfl | hname := List.mem_cons.1 hname
        · exact ⟨_, List.mem_cons_self, rfl⟩
        · obtain ⟨offer, hoffer, rfl⟩ := hsecond.offered name hname
          obtain ⟨e, he, rfl⟩ := List.mem_map.1 hoffer
          exact ⟨_, List.mem_cons_of_mem _ (List.mem_map_of_mem he), rfl⟩
      · intro name hname hstands
        obtain rfl | hname := List.mem_cons.1 hname
        · exact List.mem_cons_self
        · refine List.mem_cons_of_mem _ (hsecond.stands name hname fun offer hoffer heq => ?_)
          obtain ⟨e, he, rfl⟩ := List.mem_map.1 hoffer
          have hboth := hstands _ (List.mem_cons_of_mem _ (List.mem_map_of_mem he)) heq
          exact fun e' he' => hboth e' (List.mem_cons_of_mem _ he')
    | none =>
      -- Without the first bound, collection mode gives neither; the other mode may give both.
      have hrefused : ¬ first.IsConstant := not_isConstant hcopied
      rw [hunbound hcopied]
      refine .refused fun name hname => ?_
      cases hother : (site.inMode false).copied? first with
      | none =>
        rw [hunbound hother] at hname
        cases hname
      | some copied =>
        rw [hfirst hother] at hname
        obtain rfl | hname := List.mem_cons.1 hname
        · exact ⟨_, List.mem_cons_self, rfl, fun hstands => hrefused (hstands first List.mem_cons_self)⟩
        · cases second with
          | none => cases hname
          | some e =>
            exact ⟨_, List.mem_cons_of_mem _ List.mem_cons_self, (mem_keys_argumentGiven hname).symm,
              fun hstands => hrefused (hstands first List.mem_cons_self)⟩

theorem offered_rule (marker : Expr) (rule : MarkerRule) :
    Offered (rule.offers marker) (rule.given (site.inMode true) marker)
      (rule.given (site.inMode false) marker) := by
  cases rule with
  | argument key => exact offered_argument hscope key _
  | range lower upper => exact offered_range hscope lower upper marker
  | bound key value =>
    refine .same fun name hname => ⟨{ key }, List.mem_cons_self, ?_⟩
    obtain ⟨e, he⟩ := Descriptor.mem_keys.1 hname
    obtain ⟨literal, -, heq⟩ := List.mem_map.1 he
    exact congrArg Prod.fst heq
  | pattern key =>
    refine .same fun name hname => ⟨{ key }, List.mem_cons_self, ?_⟩
    obtain ⟨e, he⟩ := Descriptor.mem_keys.1 hname
    obtain ⟨text, -, heq⟩ := List.mem_map.1 he
    exact congrArg Prod.fst heq

theorem offered_row (markers : List Expr) (row : MarkerRow) :
    Offered (row.offers markers) (row.given (site.inMode true) markers)
      (row.given (site.inMode false) markers) := by
  unfold MarkerRow.offers MarkerRow.given
  cases findMarker? markers row.names with
  | none => exact .nil
  | some marker => exact offered_rule hscope marker row.rule

/-- What markers give. The class's own module has entries of membership besides. -/
theorem offered_markers {markers : List Expr}
    (h : Undisputed (constraintRows.flatMap (MarkerRow.offers markers))) :
    Offered (constraintRows.flatMap (MarkerRow.offers markers))
      (constraintRows.flatMap (MarkerRow.given (site.inMode true) markers))
      (constraintRows.flatMap (MarkerRow.given (site.inMode false) markers)) :=
  .flatMap (fun row _ => offered_row hscope markers row) h

theorem offered_seedEntry (entry : String × Expr) :
    Offered [{ key := entry.1, copied := [entry.2] }] ((site.inMode true).seedGiven entry)
      ((site.inMode false).seedGiven entry) := by
  obtain ⟨key, e⟩ := entry
  by_cases hstatic : isStatic e = .ok true
  · have hcollected : isCopyable true site.scope e = .ok true := hstatic
    have haugmented := isCopyable_of_isStatic hscope hstatic
    rw [(site.inMode true).seedGiven_of_copyable key hcollected,
      (site.inMode false).seedGiven_of_copyable key haugmented]
    exact .same (by simp [Descriptor.keys])
  · have hnone : (site.inMode true).seedGiven (key, e) = [] := by
      refine if_neg fun hkept => hstatic ?_
      change (isStatic e).toOption.getD false = true at hkept
      cases hresult : isStatic e with
      | error fault => simp [hresult, Except.toOption] at hkept
      | ok value => simpa [hresult, Except.toOption] using hkept
    rw [hnone]
    refine .refused fun name hname => ⟨_, List.mem_cons_self, ?_, fun hstands => ?_⟩
    · exact (mem_keys_seedGiven hname).symm
    · exact hstatic (hstands e List.mem_cons_self).isStatic

/-- The seeded entries that are copied. -/
theorem offered_seed {found : Unwrapped} (h : Undisputed found.seedOffers) :
    Offered found.seedOffers ((site.inMode true).copyableSeed found)
      ((site.inMode false).copyableSeed found) := by
  have hoffers : found.seedOffers
      = found.seed.flatMap fun entry => [{ key := entry.1, copied := [entry.2] }] := List.map_eq_flatMap
  rw [hoffers] at h ⊢
  rw [copyableSeed_eq, copyableSeed_eq]
  exact .flatMap (fun entry _ => offered_seedEntry hscope entry) h

end Modes
end ModelMetadata
