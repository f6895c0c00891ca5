import ModelMetadata.Proofs.Completing
import ModelMetadata.Proofs.Seeding

/-!
Which imports describing records. A reference to a type records the module it is read from as soon as it
is made. Every import recorded for a class belongs to a reference that stands in its map, or was recorded
for something that was made and dropped again: a property that failed, one that gave way to a later one of
its name, or an enumerable domain whose key was taken by a description.
-/
set_option autoImplicit false
namespace ModelMetadata

open Source

/-! ## References in expressions -/

/-- An expression that stands in another one, in the ways that class maps are made. -/
inductive Source.Expr.StandsIn (e : Expr) : Expr → Prop
  | self : StandsIn e e
  | owner {owner : Expr} {beforeDot afterDot : Gap} {attr : String} (h : StandsIn e owner) :
    StandsIn e (.attribute owner beforeDot afterDot attr)
  | body {header : List Word} {gap : Gap} {body : Expr} (h : StandsIn e body) :
    StandsIn e (.lambda header gap body)
  | element {entries : List Entry} {beforeClose before : Gap} {comma : Option Gap} {value : Expr}
    (hmem : .mk before (.value value) comma ∈ entries) (h : StandsIn e value) :
    StandsIn e (.list entries beforeClose)
  | value {entries : List Entry} {beforeClose before beforeColon afterColon : Gap}
    {comma : Option Gap} {key value : Expr}
    (hmem : .mk before (.pair key beforeColon afterColon value) comma ∈ entries)
    (h : StandsIn e value) : StandsIn e (.dict entries beforeClose)

theorem Entry.exists_mem_ofItems {item : Item} {items : List Item} (h : item ∈ items) :
    ∃ before comma, Entry.mk before item comma ∈ Entry.ofItems items := by
  have hgo (first : Item) (rest : List Item) (gap : Gap) (h : item ∈ first :: rest) :
      ∃ before comma, Entry.mk before item comma ∈ Entry.ofItems.go first rest gap := by
    induction rest generalizing first gap with
    | nil =>
      obtain rfl := List.mem_singleton.1 h
      exact ⟨gap, none, List.mem_singleton_self _⟩
    | cons next rest ih =>
      rcases List.mem_cons.1 h with rfl | h
      · exact ⟨gap, some [], List.mem_cons_self⟩
      · obtain ⟨before, comma, hmem⟩ := ih next Gap.space h
        exact ⟨before, comma, List.mem_cons_of_mem _ hmem⟩
  cases items with
  | nil => simp at h
  | cons first rest => exact hgo first rest [] h

namespace Source.Expr.StandsIn

variable {e value : Expr}

theorem ofList {values : List Expr} (hvalue : value ∈ values) (h : e.StandsIn value) :
    e.StandsIn (Expr.ofList values) := by
  obtain ⟨before, comma, hmem⟩ := Entry.exists_mem_ofItems (List.mem_map_of_mem (f := .value) hvalue)
  exact .element hmem h

theorem nested (h : e.StandsIn value) (depth : Nat) : e.StandsIn (nested depth value) := by
  induction depth generalizing value with
  | zero => exact h
  | succ depth ih => exact ih (.ofList List.mem_cons_self h)

theorem display {d : Descriptor} {key : String} (hentry : (key, value) ∈ d) (h : e.StandsIn value) :
    e.StandsIn d.display := by
  have hpair := List.mem_map_of_mem (f := fun entry : String × Expr =>
    (textLiteral entry.1, entry.2)) hentry
  have hitem := List.mem_map_of_mem (f := fun pair : Expr × Expr =>
    Item.pair pair.1 [] Gap.space pair.2) hpair
  obtain ⟨before, comma, hmem⟩ := Entry.exists_mem_ofItems hitem
  exact .value hmem h

end Source.Expr.StandsIn

/-- An import, by the name of a type and its module, that belongs to a reference in an expression. -/
def Source.Expr.Needs (readonly : Bool) (e : Expr) (entry : String × String) : Prop :=
  ∃ t : NamedType, entry = (t.canonicalName, t.origin)
    ∧ ∃ reference, readExpr (t.referenceText readonly) = .ok reference ∧ reference.StandsIn e

theorem Source.Expr.Needs.mono {readonly : Bool} {e e' : Expr} {entry : String × String}
    (h : e.Needs readonly entry)
    (hmono : ∀ reference : Expr, reference.StandsIn e → reference.StandsIn e') :
    e'.Needs readonly entry := by
  obtain ⟨t, hentry, reference, hread, hstands⟩ := h
  exact ⟨t, hentry, reference, hread, hmono reference hstands⟩

/-! ## Steps with a before and an after -/

namespace Leads

variable {α : Type}

theorem ofExcept {P : Journal → Prop} {Q : α → Journal → Prop} {result : Except Fault α}
    (h : ∀ a, result = .ok a → ∀ journal, P journal → Q a journal) :
    Leads P (Describe.ofExcept result) Q :=
  .of fun journal hs a ha => h a ha journal hs

end Leads

/-! ## Recorded imports -/

/-- All imports recorded so far are as `needed` says. -/
def Covered (needed : String × String → Prop) (journal : Journal) : Prop :=
  ∀ entry ∈ journal.typeImports.entries, needed entry

structure Records {α : Type} (step : Describe α) (needs : α → String × String → Prop) : Prop where
  leads (known : String × String → Prop) :
    Leads (Covered known) step fun a => Covered fun entry => known entry ∨ needs a entry

structure Quiet {α : Type} (step : Describe α) : Prop where
  maintains (imports : TypeImports) :
    Maintains (fun journal : Journal => journal.typeImports = imports) step fun _ => True

namespace Quiet

variable {α β : Type} {step : Describe α} {f : α → Describe β}

theorem same (h : Quiet step) (journal : Journal) : (step journal).2.typeImports = journal.typeImports :=
  (h.maintains journal.typeImports).state rfl

theorem pure (a : α) : Quiet (Pure.pure a : Describe α) := ⟨fun _ => .pure trivial⟩

theorem ofExcept (result : Except Fault α) : Quiet (Describe.ofExcept result) :=
  ⟨fun _ => (Maintains.ofExcept result).any⟩

theorem bind (hstep : Quiet step) (hf : ∀ a, Quiet (f a)) : Quiet (step >>= f) :=
  ⟨fun imports => (hstep.maintains imports).andThen fun a => (hf a).maintains imports⟩

theorem ite {condition : Prop} [Decidable condition] {other : Describe α} (hstep : Quiet step)
    (hother : Quiet other) : Quiet (if condition then step else other) :=
  ⟨fun imports => .ite (fun _ => hstep.maintains imports) fun _ => hother.maintains imports⟩

theorem mapM {f : β → Describe α} {xs : List β} (h : ∀ x, Quiet (f x)) : Quiet (xs.mapM f) :=
  ⟨fun imports => (Maintains.mapM fun x _ => (h x).maintains imports).any⟩

theorem leads {known : String × String → Prop} (h : Quiet step) :
    Leads (Covered known) step fun _ => Covered known := by
  refine .of fun journal hs _ _ => ?_
  unfold Covered
  rw [h.same]
  exact hs

variable (site : Site)

theorem note (text : String) : Quiet (site.note text) := by
  unfold Site.note Describe.note
  exact .ite ⟨fun _ => .of (fun _ hs => hs) fun _ _ _ _ => trivial⟩ (.pure ())

theorem seedEntries (subject : String) (seed : List (String × Expr)) :
    Quiet (seedEntries site subject seed) := by
  induction seed with
  | nil => exact .pure []
  | cons entry rest ih =>
    unfold ModelMetadata.seedEntries
    refine (ofExcept _).bind fun isCopyable => .ite (ih.bind fun _ => .pure _) ?_
    exact (note ..).bind fun _ => ih

theorem defaultEntries (subject : String) (existing : List String) (value : Option Expr) :
    Quiet (defaultEntries site subject existing value) := by
  unfold ModelMetadata.defaultEntries
  refine .ite (.pure []) ?_
  split
  · exact .pure []
  · refine (ofExcept _).bind fun copied => (ofExcept _).bind fun isCopyable => ?_
    exact .ite (.pure _) ((note ..).bind fun _ => .pure [])

theorem argumentEntry (subject key : String) (argument : Option Expr) :
    Quiet (argumentEntry site subject key argument) := by
  unfold ModelMetadata.argumentEntry copyArgument
  split
  · exact .pure []
  · refine .bind ((ofExcept _).bind fun copied => (ofExcept _).bind fun isCopyable => ?_)
      fun _ => .pure _
    exact .ite (.pure _) ((note ..).bind fun _ => .pure none)

theorem ruleEntries (subject : String) (marker : Expr) (rule : MarkerRule) :
    Quiet (rule.entries site subject marker) := by
  cases rule with
  | argument key => exact argumentEntry ..
  | bound key value => exact (ofExcept _).bind fun _ => .pure _
  | range lower upper =>
    refine (argumentEntry ..).bind fun first => ?_
    split
    · exact .pure []
    · exact (argumentEntry ..).bind fun _ => .pure _
  | pattern key =>
    dsimp only [MarkerRule.entries]
    split
    · exact .pure []
    · exact (ofExcept _).bind fun _ => .pure _

theorem validationEntries (subject : String) (markers : List Expr) :
    Quiet (validationEntries site subject markers) := by
  refine .bind (.mapM fun row => ?_) fun _ => .pure _
  unfold MarkerRow.entries
  split
  · exact .pure []
  · exact ruleEntries ..

theorem emissionOf (head : ClassHead) (isModuleLevel : Bool) :
    Quiet (emissionOf site head isModuleLevel) := by
  refine (ofExcept _).bind fun model => .ite ((note ..).bind fun _ => .pure _) ?_
  exact .ite (.pure _) (.ite (.pure _) ((note ..).bind fun _ => .pure _))

end Quiet

namespace Records

variable {α β : Type} {needs : α → String × String → Prop} {more : β → String × String → Prop}

theorem ofQuiet {step : Describe α} (h : Quiet step) : Records step needs :=
  ⟨fun _ => h.leads.imp fun _ _ hs entry hentry => .inl (hs entry hentry)⟩

theorem trivially (step : Describe α) : Records step fun _ _ => True :=
  ⟨fun _ => .of fun _ _ _ _ _ _ => .inr trivial⟩

/-- Steps that record nothing may come first. -/
theorem after {step : Describe β} {f : β → Describe α} (hquiet : Quiet step)
    (hf : ∀ b, Records (f b) needs) : Records (step >>= f) needs :=
  ⟨fun known => hquiet.leads.bind fun b => (hf b).leads known⟩

theorem map {step : Describe α} {f : α → β} (hstep : Records step needs)
    (h : ∀ a entry, needs a entry → more (f a) entry) : Records (f <$> step) more := by
  refine ⟨fun known => ?_⟩
  rw [map_eq_pure_bind]
  refine (hstep.leads known).bind fun a => .pure fun journal hs entry hentry => ?_
  exact (hs entry hentry).imp_right (h a entry)

/-- A last step that goes on from a result. -/
theorem finish {step : Describe α} {f : α → Describe β} (hstep : Records step needs)
    (hquiet : ∀ a, Quiet (f a))
    (h : ∀ a, Ensures (f a) fun b => ∀ entry, needs a entry → more b entry) :
    Records (step >>= f) more := by
  refine ⟨fun known => (hstep.leads known).bind fun a => Leads.of fun journal hs b hb entry hentry => ?_⟩
  rw [(hquiet a).same] at hentry
  exact (hs entry hentry).imp_right ((h a).ensures hb entry)

theorem ite {condition : Prop} [Decidable condition] {step other : Describe α}
    (hstep : condition → Records step needs) (hother : ¬ condition → Records other needs) :
    Records (if condition then step else other) needs := by
  split
  · exact hstep ‹_›
  · exact hother ‹_›

theorem mapM {f : β → Describe α} {xs : List β} (h : ∀ x ∈ xs, Records (f x) needs) :
    Records (xs.mapM f) fun ys entry => ∃ y ∈ ys, needs y entry := by
  induction xs with
  | nil => exact .ofQuiet (.pure [])
  | cons x rest ih =>
    refine ⟨fun known => ?_⟩
    rw [List.mapM_cons]
    refine ((h x List.mem_cons_self).leads known).bind fun first => ?_
    refine ((ih fun y hy => h y (List.mem_cons_of_mem x hy)).leads _).bind fun others => .pure ?_
    intro journal hs entry hentry
    rcases hs entry hentry with (hknown | hfirst) | ⟨y, hy, hothers⟩
    · exact .inl hknown
    · exact .inr ⟨first, List.mem_cons_self, hfirst⟩
    · exact .inr ⟨y, List.mem_cons_of_mem first hy, hothers⟩

end Records

/-! ## References -/

theorem records_refer (readonly : Bool) (host : String) (t : NamedType) :
    Records (t.refer readonly host) fun e entry => e.Needs readonly entry := by
  unfold NamedType.refer
  refine .ite (fun _ => .ofQuiet (.ofExcept _)) fun _ => .ite (fun _ => ?_) fun _ => ?_
  · refine ⟨fun known => ?_⟩
    have hrecord : Leads (Covered known) (Describe.recordImport t.canonicalName t.origin)
        fun _ => Covered fun entry => known entry ∨ entry = (t.canonicalName, t.origin) := by
      refine .of fun journal hs _ _ entry hentry => ?_
      change entry ∈ (journal.typeImports.record t.canonicalName t.origin).entries at hentry
      rcases TypeImports.mem_record.1 hentry with hold | ⟨-, hnew⟩
      · exact .inl (hs entry hold)
      · exact .inr hnew
    refine hrecord.bind fun _ => Leads.ofExcept fun e he journal hs entry hentry => ?_
    rcases hs entry hentry with hknown | rfl
    · exact .inl hknown
    · exact .inr ⟨t, rfl, e, he, .self⟩
  · exact .ofQuiet ((Quiet.pure _).bind fun _ => .ofExcept _)

theorem records_reference (readonly : Bool) (host : String) (reference : TypeReference) :
    Records (reference.refer readonly host) fun e entry => e.Needs readonly entry := by
  unfold TypeReference.refer
  split
  · exact (records_refer ..).map fun e entry h => h.mono fun _ hstands => hstands.nested _
  · exact .ofQuiet (.ofExcept _)

theorem records_referMember (readonly : Bool) (host : String) (owner : NamedType) (member : String) :
    Records (referMember readonly host owner member) fun e entry => e.Needs readonly entry := by
  refine (records_refer readonly host owner).finish (fun _ => .ofExcept _) fun e => ?_
  refine (Maintains.ofExcept _).imp fun found hfound entry hneeds => hneeds.mono fun _ hstands => ?_
  unfold memberExpr at hfound
  split at hfound
  · cases hfound
    exact hstands.owner
  · cases hfound

/-! ## Entries -/

/-- An import that belongs to a reference in the first entry under a key. -/
def Descriptor.NeedsAt (readonly : Bool) (key : String) (d : Descriptor)
    (entry : String × String) : Prop :=
  ∃ e, d.lookup key = some e ∧ e.Needs readonly entry

section Entries

variable (site : Site)

theorem records_namedEntries (core : Expr) :
    Records (namedEntries site core) (Descriptor.NeedsAt site.options.readonly typeKey) := by
  refine .after (.ofExcept _) fun t? => ?_
  dsimp only
  split
  · exact .ofQuiet (.pure [])
  · refine (records_reference ..).finish (fun _ => .pure _) fun e => .pure fun entry hneeds => ?_
    exact ⟨Expr.thunk e, rfl, hneeds.mono fun _ hstands => hstands.body⟩

theorem records_domainExpr (domain : ResolvedType) :
    Records (domainExpr site domain) fun e? entry =>
      ∃ e, e? = some e ∧ e.Needs site.options.readonly entry := by
  unfold domainExpr
  split
  · refine .ite (fun _ => ?_) fun _ => .ofQuiet (.pure none)
    exact (records_refer ..).finish (fun _ => .pure _) fun e => .pure fun entry h => ⟨e, rfl, h⟩
  · exact (records_referMember ..).finish (fun _ => .pure _) fun e => .pure fun entry h => ⟨e, rfl, h⟩
  · split
    · exact .ofQuiet ((Quiet.ofExcept _).bind fun _ => .pure _)
    · exact .ofQuiet (.pure none)

theorem records_domainEntries (existing : List String) (e : Expr) :
    Records (domainEntries site existing e) (Descriptor.NeedsAt site.options.readonly enumKey) := by
  unfold domainEntries
  refine .ite (fun _ => .ofQuiet (.pure [])) fun _ => .after (.ofExcept _) fun t? => ?_
  split
  · exact .ofQuiet (.pure [])
  · refine (records_domainExpr site _).finish (fun value? => ?_) fun value? => ?_
    · split
      · exact .pure []
      · exact .pure _
    · split
      · exact .pure (by simp)
      · refine .pure fun entry h => ?_
        obtain ⟨value, hvalue, hneeds⟩ := h
        obtain rfl := Option.some.inj hvalue
        exact ⟨_, by simp, hneeds⟩

end Entries

/-! ## Descriptors -/

def Options.SparesDomains (options : Options) : Prop :=
  options.introspectComments = true → options.dtoKeyOfComment ≠ enumKey

theorem Descriptor.needs_distinct {readonly : Bool} {d : Descriptor} (key : String) {e : Expr}
    {entry : String × String} (he : d.lookup key = some e) (h : e.Needs readonly entry) :
    d.distinct.display.Needs readonly entry :=
  h.mono fun _ hstands => .display (mem_distinct.2 he) hstands

theorem copyableSeed_lookup {found : Unwrapped} {key : String} (site : Site)
    (h : key ∉ found.seed.map Prod.fst) : (site.copyableSeed found).lookup key = none := by
  apply lookup_eq_none_of_keys
  rintro entry hentry rfl
  exact h (List.mem_map_of_mem (List.mem_filter.1 hentry).1)

theorem records_memberEntry {site : Site} {member : Declaration}
    (hassemble : ∀ found, site.oracle.unwrap member.typeHint = .ok found →
      Records (assembleUnwrapped site member found) fun d entry =>
        d.display.Needs site.options.readonly entry) :
    Records (memberEntry site member) fun item? entry =>
      ∃ item, item? = some item ∧ item.2.Needs site.options.readonly entry := by
  unfold memberEntry
  split
  · exact .ofQuiet (.pure none)
  · rename_i name hname
    refine ⟨fun known => .bindWith (.ofExcept _) (Quiet.ofExcept _).leads fun found hfound => ?_⟩
    refine Records.leads (.ite (fun _ => .ofQuiet (.pure none)) fun _ => ?_) known
    exact (hassemble found hfound).finish (fun _ => .pure _) fun d => .pure fun entry h =>
      ⟨(name, d.display), rfl, h⟩

theorem requiredEntry_lookup (found : Unwrapped) (byDefault : Bool) {key : String}
    (hkey : key ≠ requiredKey) :
    List.lookup key (if (found.seed.map Prod.fst).contains requiredKey then []
      else [(requiredKey, boolLiteral (found.isRequired byDefault))]) = none := by
  split
  · rfl
  · simpa using hkey

/-- The entries of the type and of the domain of a property are not dropped again. -/
theorem records_assembleUnwrapped {site : Site} (hspares : site.options.SparesDomains)
    (declaration : Declaration) {found : Unwrapped}
    (htypes : ∀ existing, Records (typeEntries site existing found.type)
      (Descriptor.NeedsAt site.options.readonly typeKey)) :
    Records (assembleUnwrapped site declaration found) fun d entry =>
      d.display.Needs site.options.readonly entry := by
  rw [assembleUnwrapped]
  refine ⟨fun known => ?_⟩
  refine .bindWith (seedEntries_eq site _ found.seed) (Quiet.seedEntries ..).leads
    fun seeded hseeded => ?_
  refine .bindWith (typeEntries_keys site _ found.type) ((htypes _).leads known) fun type htype => ?_
  refine .bindWith (.ofExcept _) (Quiet.ofExcept _).leads fun docs hdocs => ?_
  refine .bindWith (defaultEntries_keys ..) (Quiet.defaultEntries ..).leads fun default hdefault => ?_
  refine .bindWith (domainEntries_keys site _ found.type) ((records_domainEntries ..).leads _)
    fun domain hdomain => ?_
  change seeded = site.copyableSeed found at hseeded
  have hneeded (validation : Descriptor) (entry : String × String)
      (hentry : (known entry ∨ type.NeedsAt site.options.readonly typeKey entry)
        ∨ domain.NeedsAt site.options.readonly enumKey entry) :
      known entry ∨ (Descriptor.distinct (seeded
        ++ (if (found.seed.map Prod.fst).contains requiredKey then []
            else [(requiredKey, boolLiteral (found.isRequired declaration.optionalByDefault))])
        ++ type ++ docs ++ default ++ domain ++ validation)).display.Needs
          site.options.readonly entry := by
    rcases hentry with (hknown | ⟨e, he, hneeds⟩) | ⟨e, he, hneeds⟩
    · exact .inl hknown
    · have hseed := copyableSeed_lookup site (htype _ (mem_of_lookup he)).1
      have hrequired := requiredEntry_lookup found declaration.optionalByDefault
        (by decide : typeKey ≠ requiredKey)
      refine .inr (Descriptor.needs_distinct typeKey ?_ hneeds)
      simp [List.lookup_append, hseeded, hseed, hrequired, he]
    -- Everything before the domain must leave its key alone, a description under a configured key too.
    · have hseed := copyableSeed_lookup site (hdomain _ (mem_of_lookup he)).1
      have hrequired := requiredEntry_lookup found declaration.optionalByDefault
        (by decide : enumKey ≠ requiredKey)
      have hnotype : type.lookup enumKey = none := by
        apply lookup_eq_none_of_keys
        intro other hother
        rcases (htype other hother).2 with hkey | hkey <;> rw [hkey] <;> decide
      have hnodocs : docs.lookup enumKey = none := by
        apply lookup_eq_none_of_keys
        intro other hother
        obtain ⟨-, hintrospect, hkey | hkey⟩ := documentationEntries_keys site _ hdocs other hother
        · exact hkey ▸ hspares hintrospect
        · rintro hsame
          rw [hsame] at hkey
          revert hkey
          decide
      have hnodefault : default.lookup enumKey = none := by
        apply lookup_eq_none_of_keys
        intro other hother
        rw [(hdefault other hother).2]
        decide
      refine .inr (Descriptor.needs_distinct enumKey ?_ hneeds)
      simp [List.lookup_append, hseeded, hseed, hrequired, hnotype, hnodocs, hnodefault, he]
  refine .ite (fun _ => ?_) fun _ => ?_
  · refine (Quiet.validationEntries ..).leads.bind fun validation => .pure fun journal hs => ?_
    exact fun entry hentry => hneeded validation entry (hs entry hentry)
  · refine (Quiet.pure _).leads.bind fun validation => .pure fun journal hs => ?_
    exact fun entry hentry => hneeded validation entry (hs entry hentry)

/-- The imports recorded for a type belong to its entry, and those recorded for a property to its
descriptor. -/
theorem describing_records (site : Site) (hspares : site.options.SparesDomains) :
    (∀ existing e, Records (typeEntries site existing e)
        (Descriptor.NeedsAt site.options.readonly typeKey))
      ∧ ∀ declaration found, Records (assembleUnwrapped site declaration found) fun d entry =>
        d.display.Needs site.options.readonly entry := by
  apply describing_induction site
  · intro existing e hmembers hbranch
    rw [typeEntries_eq]
    refine .ite (fun _ => .ofQuiet (.pure [])) fun _ => ?_
    refine ⟨fun known => .bindWith (.ofExcept _) (Quiet.ofExcept _).leads fun shape hshape => ?_⟩
    refine Records.leads ?_ known
    cases shape with
    | inline members =>
      have hentries := Records.mapM fun member hmember =>
        records_memberEntry (hmembers members hshape member hmember)
      refine hentries.finish (fun _ => .pure _) fun entries => .pure fun entry hneeds => ?_
      obtain ⟨item?, hitem, ⟨key, e⟩, rfl, hneeds⟩ := hneeds
      have hmem : (key, e) ∈ entries.filterMap id := List.mem_filterMap.2 ⟨_, hitem, rfl⟩
      exact ⟨_, rfl, hneeds.mono fun _ hstands => (Expr.StandsIn.display hmem hstands).body⟩
    | union branches =>
      refine ⟨fun known => .bindWith (.ofExcept _) (Quiet.ofExcept _).leads fun kept hkept => ?_⟩
      refine Records.leads ?_ known
      split
      · refine (hbranch branches _ hshape hkept).finish (fun _ => .ite (.pure _) (.pure _)) fun d => ?_
        refine .ite (fun _ => .pure fun _ hneeds => hneeds) fun _ => .pure fun entry hneeds => ?_
        obtain ⟨e, he, hneeds⟩ := hneeds
        exact ⟨e, by simp [List.lookup_append, he], hneeds⟩
      · exact .ofQuiet (.pure [])
    | named core => exact records_namedEntries site core
  · intro declaration found htypes
    exact records_assembleUnwrapped hspares declaration htypes

/-! ## Properties -/

def descriptorOf (site : Site) (className : String) (declaration : Declaration) :
    Except Fault (Option Descriptor) :=
  (describeProperty site className declaration {}).1

/-- An import recorded for something that the properties of a class are described without. -/
inductive Drops (site : Site) (className : String) (declarations : List Declaration)
    (entry : String × String) : Prop
  /-- The property cannot be described. -/
  | failed {property : Declaration} (hproperty : property ∈ declarations) {fault : Fault}
    (hfault : descriptorOf site className property = .error fault)
    (hrecorded : Recorded (describeProperty site className property) entry)
  /-- A description stands where the enumerable domain would. -/
  | displaced {property : Declaration} (hproperty : property ∈ declarations) {d : Descriptor}
    (hd : descriptorOf site className property = .ok (some d)) (hkey : ¬ site.options.SparesDomains)
    (hrecorded : Recorded (describeProperty site className property) entry)
    (hneeds : ¬ d.display.Needs site.options.readonly entry)
  /-- A later property has the name. -/
  | replaced {property later : Declaration} (hlater : [property, later].Sublist declarations)
    (hname : property.name = later.name) {d d' : Descriptor}
    (hd : descriptorOf site className property = .ok (some d))
    (hd' : descriptorOf site className later = .ok (some d'))
    (hneeds : d.display.Needs site.options.readonly entry)
    (hdropped : ¬ d'.display.Needs site.options.readonly entry)

theorem Drops.sublist {site : Site} {className : String} {declarations more : List Declaration}
    {entry : String × String} (h : Drops site className declarations entry)
    (hsublist : declarations.Sublist more) : Drops site className more entry := by
  cases h with
  | failed hproperty hfault hrecorded => exact .failed (hsublist.subset hproperty) hfault hrecorded
  | displaced hproperty hd hkey hrecorded hneeds =>
    exact .displaced (hsublist.subset hproperty) hd hkey hrecorded hneeds
  | replaced hlater hname hd hd' hneeds hdropped =>
    exact .replaced (hlater.trans hsublist) hname hd hd' hneeds hdropped

theorem describeProperty_fst (site : Site) (className : String) (declaration : Declaration)
    (journal : Journal) :
    (describeProperty site className declaration journal).1
      = descriptorOf site className declaration :=
  (Additive.describeProperty site className declaration).steady.same journal {}

theorem records_describeProperty (site : Site) (className : String) (declaration : Declaration) :
    Records (describeProperty site className declaration) fun d? entry =>
      ∃ d, d? = some d
        ∧ (site.options.SparesDomains → d.display.Needs site.options.readonly entry) := by
  refine .after (.ofExcept _) fun found => ?_
  split
  · exact .ofQuiet ((Quiet.note ..).bind fun _ => .pure none)
  by_cases hspares : site.options.SparesDomains
  · exact ((describing_records site hspares).2 ..).map fun d entry h => ⟨d, rfl, fun _ => h⟩
  · exact (Records.trivially _).map fun d entry _ => ⟨d, rfl, fun h => absurd h hspares⟩

theorem name_of_described {site : Site} {className : String} {declaration : Declaration}
    {d : Descriptor} (h : descriptorOf site className declaration = .ok (some d)) :
    ∃ name, declaration.name = some name := by
  have hnamed : Ensures (describeProperty site className declaration) fun d? =>
      d?.isSome → declaration.name.isSome := by
    refine .bind (.trivially _) fun found _ => ?_
    split
    · exact .bind (.trivially _) fun _ _ => .pure (by simp)
    · rename_i hskip
      refine .map (.trivially _) fun d _ _ => ?_
      unfold skipReason at hskip
      split at hskip
      · cases hskip
      · rename_i hsome
        simpa [Option.isSome_iff_ne_none] using hsome
  exact Option.isSome_iff_exists.1 (hnamed.ensures h rfl)

/-- What is known of an import once some properties have been described: it belongs to the descriptor
that a table has for one of them, or was recorded for something that the table is without. -/
inductive Tabled (site : Site) (className : String) (declarations : List Declaration)
    (table : Table Descriptor) (entry : String × String) : Prop
  | needed {property : Declaration} (hproperty : property ∈ declarations) {d : Descriptor}
    (hd : descriptorOf site className property = .ok (some d))
    (hget : table.get? (property.name.getD "") = some d)
    (hneeds : d.display.Needs site.options.readonly entry)
  | dropped (h : Drops site className declarations entry)

section Properties

variable {site : Site} {className : String} {declarations : List Declaration}
  {table : Table Descriptor} {entry : String × String} {property : Declaration}

theorem Tabled.skip (h : Tabled site className declarations table entry) :
    Tabled site className (declarations ++ [property]) table entry := by
  cases h with
  | needed hother hd hget hneeds => exact .needed (List.mem_append_left _ hother) hd hget hneeds
  | dropped h => exact .dropped (h.sublist (List.sublist_append_left ..))

theorem Tabled.insert (h : Tabled site className declarations table entry) {d : Descriptor}
    (hd : descriptorOf site className property = .ok (some d)) :
    Tabled site className (declarations ++ [property])
      (table.insert (property.name.getD "") d) entry := by
  cases h with
  | dropped h => exact .dropped (h.sublist (List.sublist_append_left ..))
  | needed hother hd' hget hneeds =>
    rename_i other d'
    by_cases hsame : property.name.getD "" = other.name.getD ""
    · obtain ⟨name, hname⟩ := name_of_described hd
      obtain ⟨name', hname'⟩ := name_of_described hd'
      have hnames : other.name = property.name := by simp_all
      by_cases hkept : d.display.Needs site.options.readonly entry
      · exact .needed (by simp) hd (by simp) hkept
      · have hlater : [other, property].Sublist (declarations ++ [property]) :=
          (List.singleton_sublist.2 hother).append (List.Sublist.refl [property])
        exact .dropped (.replaced hlater hnames hd' hd hneeds hkept)
    · refine .needed (List.mem_append_left _ hother) hd' ?_ hneeds
      rw [Table.get?_insert, if_neg hsame, hget]

/-- What describing a property adds to the imports, however it ends. -/
theorem describeProperty_caught (known : String × String → Prop) :
    Leads (Covered known) (describeProperty site className property).caught fun result journal =>
      descriptorOf site className property = result
        ∧ Covered (fun entry => known entry ∨ Recorded (describeProperty site className property) entry
          ∧ ∀ d?, result = .ok d? → ∃ d, d? = some d
            ∧ (site.options.SparesDomains → d.display.Needs site.options.readonly entry)) journal := by
  refine .of fun journal hs result hresult => ?_
  cases hresult
  have hsame := describeProperty_fst site className property journal
  refine ⟨hsame.symm, fun entry hentry => ?_⟩
  by_cases hknown : known entry
  · exact .inl hknown
  · have hnew := (Additive.describeProperty site className property).recorded hentry
    refine .inr ⟨hnew.resolve_left (mt (hs entry) hknown), fun d? hd => ?_⟩
    have hneeds := ((records_describeProperty site className property).leads known).ok hs hd
    exact (hneeds entry hentry).resolve_left hknown

theorem addProperty_tabled (known : String × String → Prop) :
    Leads (Covered fun entry => known entry ∨ Tabled site className declarations table entry)
      (addProperty site className table property) fun table =>
        Covered fun entry =>
          known entry ∨ Tabled site className (declarations ++ [property]) table entry := by
  have hlast : property ∈ declarations ++ [property] := by simp
  refine (describeProperty_caught _).bind fun result => .assume fun hresult => ?_
  cases result with
  | error fault =>
    refine (Quiet.note ..).leads.bind fun _ => .pure fun journal hs entry hentry => ?_
    rcases hs entry hentry with (hknown | htabled) | ⟨hrecorded, -⟩
    · exact .inl hknown
    · exact .inr htabled.skip
    · exact .inr (.dropped (.failed hlast hresult hrecorded))
  | ok d? =>
    cases d? with
    | none =>
      refine .pure fun journal hs entry hentry => ?_
      rcases hs entry hentry with (hknown | htabled) | ⟨-, hnew⟩
      · exact .inl hknown
      · exact .inr htabled.skip
      · obtain ⟨d, hd, -⟩ := hnew none rfl
        cases hd
    | some d =>
      refine .pure fun journal hs entry hentry => ?_
      rcases hs entry hentry with (hknown | htabled) | ⟨hrecorded, hnew⟩
      · exact .inl hknown
      · exact .inr (htabled.insert hresult)
      · obtain ⟨_, hd, hneeds⟩ := hnew (some d) rfl
        cases hd
        by_cases hkept : d.display.Needs site.options.readonly entry
        · exact .inr (.needed hlast hresult (by simp) hkept)
        · exact .inr (.dropped (.displaced hlast hresult (mt hneeds hkept) hrecorded hkept))

/-- The invariant of the table of a class, over the properties described so far. -/
theorem classDescriptors_tabled (site : Site) (className : String) (declarations : List Declaration)
    (known : String × String → Prop) :
    Leads (Covered known) (classDescriptors site className declarations) fun table =>
      Covered fun entry => known entry ∨ Tabled site className declarations table entry := by
  have hfold (front back : List Declaration) (table : Table Descriptor) :
      Leads (Covered fun entry => known entry ∨ Tabled site className front table entry)
        (back.foldlM (addProperty site className) table) fun table =>
          Covered fun entry => known entry ∨ Tabled site className (front ++ back) table entry := by
    induction back generalizing front table with
    | nil =>
      rw [List.append_nil]
      exact .pure fun _ hs => hs
    | cons property rest ih =>
      rw [List.foldlM_cons, List.append_cons]
      exact (addProperty_tabled known).bind fun table => ih (front ++ [property]) table
  exact (hfold [] declarations {}).weaken fun _ hs entry hentry => .inl (hs entry hentry)

end Properties

/-- The imports recorded for a class belong to references that stand in its map, or were recorded for
what its properties are described without. -/
theorem records_classMetadata (site : Site) (head : ClassHead) (body : Suite) :
    Records (classMetadata site head body) fun metadata entry =>
      metadata.Needs site.options.readonly entry
        ∨ ∃ declarations, body.properties = .ok declarations
          ∧ Drops { site with scope := body.scopeNames } head.name declarations entry := by
  refine ⟨fun known => ?_⟩
  refine .bindWith (.ofExcept _) (Quiet.ofExcept _).leads fun declarations hproperties => ?_
  refine (classDescriptors_tabled _ _ declarations known).bind fun table => .pure fun journal hs => ?_
  intro entry hentry
  rcases hs entry hentry with hknown | htabled
  · exact .inl hknown
  · cases htabled with
    | needed hproperty hd hget hneeds =>
      have hmem := List.mem_map_of_mem (f := fun entry : String × Descriptor =>
        (entry.1, entry.2.display)) (Oracle.mem_entries_of_get? hget)
      exact .inr (.inl (hneeds.mono fun _ hstands => .display hmem hstands))
    | dropped hdrops => exact .inr (.inr ⟨declarations, hproperties, hdrops⟩)

end ModelMetadata
