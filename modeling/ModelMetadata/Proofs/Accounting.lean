import ModelMetadata.Proofs.Batches
import ModelMetadata.Proofs.Framing
import ModelMetadata.Proofs.Importing
import ModelMetadata.Proofs.Reordering

/-!
What is reported as collected. A class is reported before it is known whether its file has a module, and
its map is registered after that. Where the file has one, the classes that a run reports as collected are
those whose maps it has registered under the key of the file, and the collected module of a directory has
as many class maps as are reported for its files.
-/
set_option autoImplicit false
namespace ModelMetadata

open Source

/-! ## Passes -/

def collectedNames (classes : List (String × ClassEmission)) : List String :=
  (classes.filter fun entry => entry.2 == .collect).map Prod.fst

theorem collectedNames_append (classes more : List (String × ClassEmission)) :
    collectedNames (classes ++ more) = collectedNames classes ++ collectedNames more := by
  simp [collectedNames]

theorem mem_collectedNames {classes : List (String × ClassEmission)} {name : String} :
    name ∈ collectedNames classes ↔ (name, ClassEmission.collect) ∈ classes := by
  simp [collectedNames]

def moduleLevelNames (found : List (Bool × ClassHead × Suite)) : List String :=
  (found.filter fun visit => visit.1).map fun visit => visit.2.1.name

/-- A registration of the map of one of some classes under the key of their file. -/
structure Registration.Made (site : Site) (key : Except Fault String)
    (found : List (Bool × ClassHead × Suite)) (registration : Registration) : Prop where
  key : key = .ok registration.key
  map : ∃ visit ∈ found, visit.2.1.name = registration.className
    ∧ classMap site visit.2.1 visit.2.2 = .ok registration.metadata

/-- Between two states the maps of those classes are registered that are reported as collected. -/
structure Accounted (site : Site) (key : Except Fault String)
    (found : List (Bool × ClassHead × Suite)) (maps : List Registration) (state after : PassState) :
    Prop where
  registry : after.registry = state.registry.addAll maps
  names : collectedNames after.emissions
    = collectedNames state.emissions ++ maps.map Registration.className
  level : (maps.map Registration.className).Sublist (moduleLevelNames found)
  made : ∀ registration ∈ maps, registration.Made site key found

/-- A step that registers the maps of the classes that it reports as collected. -/
structure Accounts (site : Site) (key : Except Fault String) (found : List (Bool × ClassHead × Suite))
    {α : Type} (step : Pass α) : Prop where
  accounts {state after : PassState} {a : α} (h : step state = (.ok a, after)) :
    ∃ maps, Accounted site key found maps state after

theorem Registry.addAll_append (registry : Registry) (maps more : List Registration) :
    registry.addAll (maps ++ more) = (registry.addAll maps).addAll more := List.foldl_append

namespace Accounts

variable {site : Site} {key : Except Fault String}

theorem composes (site : Site) (key : Except Fault String) :
    Composes fun found {_} step => Accounts site key found step where
  pure a := by
    refine ⟨fun {state after _} h => ?_⟩
    obtain ⟨-, rfl⟩ := Prod.mk.inj h
    exact ⟨[], rfl, (List.append_nil _).symm, List.Sublist.refl _, nofun⟩
  bind {_ _ found more step f} hstep hf := by
    refine ⟨fun {state after b} h => ?_⟩
    obtain ⟨a, middle, hfirst, hsecond⟩ := step_bind_eq_ok h
    obtain ⟨maps, hmaps⟩ := hstep.accounts hfirst
    obtain ⟨others, hothers⟩ := (hf a).accounts hsecond
    refine ⟨maps ++ others, ?_, ?_, ?_, ?_⟩
    · rw [hothers.registry, hmaps.registry, Registry.addAll_append]
    · rw [hothers.names, hmaps.names, List.map_append, List.append_assoc]
    · rw [List.map_append, moduleLevelNames, List.filter_append, List.map_append]
      exact hmaps.level.append hothers.level
    · intro registration hregistration
      rcases List.mem_append.1 hregistration with hmem | hmem
      · obtain ⟨hkey, visit, hvisit, hmap⟩ := hmaps.made registration hmem
        exact ⟨hkey, visit, List.mem_append_left _ hvisit, hmap⟩
      · obtain ⟨hkey, visit, hvisit, hmap⟩ := hothers.made registration hmem
        exact ⟨hkey, visit, List.mem_append_right _ hvisit, hmap⟩

end Accounts

theorem collectClass_registers {site : Site} {key : String} (hmodule : (moduleOfKey? key).isSome)
    (className : String) (metadata : Expr) (state : PassState) :
    collectClass site (.ok key) className metadata state
      = (.ok (), { state with registry := state.registry.add key className metadata }) := by
  have hkey : Pass.describe (Describe.ofExcept (.ok key)) state = (.ok key, state) := rfl
  unfold collectClass
  rw [step_bind hkey, if_pos hmodule]
  rfl

/-- The map of a class that is reported as collected is registered if its file has a module. -/
theorem accounts_emitClass (site : Site) {key : Except Fault String}
    (hmodule : ∀ found, key = .ok found → (moduleOfKey? found).isSome)
    (visit : Bool × ClassHead × Suite) {outer : List String} (houter : visit.1 = true → outer = [])
    (updated : Suite) :
    Accounts site key [visit] (emitClass site key outer visit.1 visit.2.1 visit.2.2 updated) := by
  obtain ⟨isModuleLevel, head, body⟩ := visit
  refine ⟨fun {state after result} h => ?_⟩
  obtain ⟨emission, decided, hdecided, h⟩ := step_bind_eq_ok h
  obtain ⟨hemission, hdecidedNames, hdecidedMaps⟩ := describe_eq_ok hdecided
  obtain ⟨⟨⟩, reported, hreported, h⟩ := step_bind_eq_ok h
  obtain ⟨-, rfl⟩ := Prod.mk.inj hreported
  rw [(emissionOf_gives_for site head isModuleLevel).gives] at hemission
  have hother {after : PassState} (hskipped : emission ≠ .collect)
      (hnames : after.emissions = decided.emissions ++ [(joinDots (outer ++ [head.name]), emission)])
      (hmaps : after.registry = decided.registry) :
      ∃ maps, Accounted site key [(isModuleLevel, head, body)] maps state after := by
    refine ⟨[], hmaps.trans hdecidedMaps, ?_, List.nil_sublist _, nofun⟩
    rw [hnames, hdecidedNames, collectedNames_append]
    simp [collectedNames, hskipped]
  cases emission with
  | skip =>
    cases h
    exact hother nofun rfl rfl
  | augment =>
    obtain ⟨metadata, described, hdescribed, h⟩ := step_bind_eq_ok h
    obtain ⟨-, hnames, hmaps⟩ := describe_eq_ok hdescribed
    cases h
    exact hother nofun hnames hmaps
  | collect =>
    obtain ⟨metadata, described, hdescribed, h⟩ := step_bind_eq_ok h
    obtain ⟨hmap, hnames, hmaps⟩ := describe_eq_ok hdescribed
    obtain ⟨⟨⟩, registered, hregistered, h⟩ := step_bind_eq_ok h
    cases h
    obtain ⟨-, -, rfl, -⟩ := (emissionFor_eq_ok hemission).2.1 rfl
    obtain rfl := houter rfl
    cases key with
    | error fault => cases hregistered
    | ok found =>
      rw [collectClass_registers (hmodule found rfl)] at hregistered
      obtain ⟨-, rfl⟩ := Prod.mk.inj hregistered
      rw [(Gives.ofSteady (Additive.classMetadata site head body).steady).gives] at hmap
      refine ⟨[⟨found, head.name, metadata⟩], ?_, ?_, List.Sublist.refl _, ?_⟩
      · exact congrArg (·.add found head.name metadata) (hmaps.trans hdecidedMaps)
      · change collectedNames described.emissions = _
        rw [hnames]
        change collectedNames (decided.emissions ++ [(head.name, .collect)]) = _
        rw [hdecidedNames, collectedNames_append]
        rfl
      · exact List.forall_mem_singleton.2 ⟨rfl, _, List.mem_cons_self, rfl, hmap⟩

theorem accounts_passModule (site : Site) {key : Except Fault String}
    (hmodule : ∀ found, key = .ok found → (moduleOfKey? found).isSome) (source : Module) :
    Accounts site key (visitsOfAll true source.body) (passModule site key source) :=
  Emits.passModule (Accounts.composes site key) source
    ⟨fun visit _ _ houter updated => accounts_emitClass site hmodule visit houter updated⟩

/-! ## Runs -/

theorem runPass_eq_ok {α : Type} {pass : Pass α} {state after : Engine × List LogRecord} {a : α}
    {classes : List (String × ClassEmission)} (h : runPass pass state = (.ok (a, classes), after)) :
    ∃ passed : PassState, pass
        { journal := { typeImports := state.1.typeImports, log := state.2 },
          registry := state.1.registry } = (.ok a, passed)
      ∧ classes = passed.emissions ∧ after.1.registry = passed.registry := by
  unfold runPass at h
  dsimp only at h
  rcases hpass : pass
      { journal := { typeImports := state.1.typeImports, log := state.2 },
        registry := state.1.registry } with ⟨result, passed⟩
  rw [hpass] at h
  obtain ⟨hresult, rfl⟩ := Prod.mk.inj h
  cases result with
  | error fault => cases hresult
  | ok found =>
    obtain ⟨rfl, rfl⟩ := Prod.mk.inj (Except.ok.inj hresult)
    exact ⟨passed, rfl, rfl, rfl⟩

section

variable {tree : FileTree} {code file : String} {before : Engine × List LogRecord}
  {result : RunResult}

/-- A run over a module that gives a result has come through a pass over its tree, and reports it. -/
theorem run_parsed_eq_ok {source : Module} (hparse : Module.parse code = .ok source)
    (hrun : (run tree code file before).1 = .ok result) :
    ∃ site journal updated passed, Reads tree before code file source site
      ∧ passModule site (fileKey tree before.1.options file) source
        { journal, registry := before.1.registry } = (.ok updated, passed)
      ∧ result = reportOf before.1.options code (updated, passed.emissions)
      ∧ (run tree code file before).2.1.registry = passed.registry := by
  rcases run_cases hparse file before with ⟨fault, -, hcase⟩ | ⟨fault, middle, -, hcase⟩
    | ⟨project, middle, site, hindex, hsite, hcase⟩
  · rw [hcase] at hrun
    cases hrun
  · rw [hcase] at hrun
    cases hrun
  · have hreads : Reads tree before code file source site := ⟨hparse, project, by rw [hindex], hsite⟩
    have hsame : (projectIndex tree before).2.1.registry = before.1.registry :=
      (maintains_projectIndex (I := fun engine => engine.registry = before.1.registry)
        (fun _ _ h => h) tree).state rfl
    rw [hindex] at hsame
    have hended : (runPass (passModule site (fileKey tree before.1.options file) source) >>=
        fun passed => pure (reportOf before.1.options code passed)) middle
          = (.ok result, (run tree code file before).2) :=
      hcase.symm.trans (Prod.ext hrun rfl)
    obtain ⟨⟨updated, classes⟩, after, hpassed, hreported⟩ := step_bind_eq_ok hended
    obtain ⟨hresult, hafter⟩ := Prod.mk.inj hreported
    obtain ⟨passed, hpass, rfl, hregistry⟩ := runPass_eq_ok hpassed
    rw [hsame] at hpass
    rw [← hafter]
    exact ⟨site, _, updated, passed, hreads, hpass, (Except.ok.inj hresult).symm, hregistry⟩

/-- A run that gives a result has left all as it was, over a text that is none of the language, or has
come through a pass over the tree of its text. -/
theorem run_eq_ok (hrun : (run tree code file before).1 = .ok result) :
    (result.classes = [] ∧ (run tree code file before).2 = before)
      ∨ ∃ source site journal updated passed, Reads tree before code file source site
        ∧ passModule site (fileKey tree before.1.options file) source
          { journal, registry := before.1.registry } = (.ok updated, passed)
        ∧ result.classes = passed.emissions
        ∧ (run tree code file before).2.1.registry = passed.registry := by
  cases hparse : Module.parse code with
  | error reason =>
    cases reason with
    | malformed =>
      rw [run_malformed tree file before hparse] at hrun ⊢
      cases hrun
      exact .inl ⟨rfl, rfl⟩
    | invalid =>
      rw [run_invalid tree file before hparse] at hrun
      cases hrun
  | ok source =>
    obtain ⟨site, journal, updated, passed, hreads, hpass, rfl, hregistry⟩ :=
      run_parsed_eq_ok hparse hrun
    exact .inr ⟨source, site, journal, updated, passed, hreads, hpass, rfl, hregistry⟩

/-- A run that gives a result registers the maps of the classes that it reports as collected, if its
file has a module. -/
theorem run_accounted
    (hmodule : ∀ key, fileKey tree before.1.options file = .ok key → (moduleOfKey? key).isSome)
    (hrun : (run tree code file before).1 = .ok result) :
    ∃ maps, (run tree code file before).2.1.registry = before.1.registry.addAll maps
      ∧ collectedNames result.classes = maps.map Registration.className
      ∧ (maps = [] ∨ ∃ source site, Reads tree before code file source site
        ∧ (maps.map Registration.className).Sublist (moduleLevelNames (visitsOfAll true source.body))
        ∧ ∀ registration ∈ maps, registration.Made site (fileKey tree before.1.options file)
          (visitsOfAll true source.body)) := by
  rcases run_eq_ok hrun with ⟨hnone, hsame⟩
    | ⟨source, site, journal, updated, passed, hreads, hpass, hclasses, hregistry⟩
  · rw [hnone, hsame]
    exact ⟨[], rfl, rfl, .inl rfl⟩
  · obtain ⟨maps, hmaps⟩ := (accounts_passModule site hmodule source).accounts hpass
    rw [hclasses, hregistry]
    exact ⟨maps, hmaps.registry, hmaps.names, .inr ⟨source, site, hreads, hmaps.level, hmaps.made⟩⟩

end

/-! ## Registered maps -/

namespace Registry

variable {registry : Registry} {key : String}

theorem addAll_cons (registry : Registry) (map : Registration) (rest : List Registration) :
    registry.addAll (map :: rest)
      = (registry.add map.key map.className map.metadata).addAll rest := rfl

theorem find?_addAll_of_not_mem {maps : List Registration} (hkeys : ∀ map ∈ maps, map.key = key)
    {name : String} (hname : name ∉ maps.map Registration.className) :
    (registry.addAll maps).find? key name = registry.find? key name := by
  induction maps generalizing registry with
  | nil => rfl
  | cons map rest ih =>
    obtain ⟨hfirst, hrest⟩ := List.forall_mem_cons.1 hkeys
    rw [List.map_cons, List.mem_cons, not_or] at hname
    rw [addAll_cons, ih hrest hname.2, hfirst, find?_add, if_neg (Ne.symm hname.1)]

theorem find?_addAll_of_mem {maps : List Registration} (hkeys : ∀ map ∈ maps, map.key = key)
    (hnames : (maps.map Registration.className).Nodup) {map : Registration} (hmap : map ∈ maps) :
    (registry.addAll maps).find? key map.className = some map.metadata := by
  induction maps generalizing registry with
  | nil => cases hmap
  | cons first rest ih =>
    obtain ⟨hfirst, hrest⟩ := List.forall_mem_cons.1 hkeys
    obtain ⟨hnew, hothers⟩ := List.nodup_cons.1 hnames
    rcases List.mem_cons.1 hmap with rfl | hmap
    · rw [addAll_cons, find?_addAll_of_not_mem hrest hnew, hfirst, find?_add, if_pos rfl]
    · exact ih hrest hothers hmap

def mapCount (registry : Registry) : Nat := (registry.entries.map fun file => file.2.size).sum

end Registry

theorem Table.sum_insertInto {α : Type} (size : α → Nat) (name : String) (value : α)
    (entries : List (String × α)) :
    ((Table.insertInto name value entries).map fun entry => size entry.2).sum
        + ((Table.lookup name entries).map size).getD 0
      = (entries.map fun entry => size entry.2).sum + size value := by
  induction entries with
  | nil => simp [insertInto, lookup]
  | cons entry rest ih =>
    obtain ⟨found, old⟩ := entry
    by_cases hsame : found = name
    · simp only [insertInto, lookup, if_pos hsame, List.map_cons, List.sum_cons, Option.map_some,
        Option.getD_some]
      omega
    · simp only [insertInto, lookup, if_neg hsame, List.map_cons, List.sum_cons]
      omega

theorem Table.size_insert {α : Type} {table : Table α} {name : String} (h : table.get? name = none)
    (value : α) : (table.insert name value).size = table.size + 1 := by
  have hsize (table : Table α) : table.size = (table.entries.map fun _ => 1).sum := by
    simp [size]
  have hsum := Table.sum_insertInto (fun _ => 1) name value table.entries
  rw [← get?, h] at hsum
  rw [hsize, hsize]
  exact hsum

theorem Registry.mapCount_add {registry : Registry} {key className : String}
    (h : registry.find? key className = none) (metadata : Expr) :
    (registry.add key className metadata).mapCount = registry.mapCount + 1 := by
  have hsum := Table.sum_insertInto Table.size key
    (((Table.get? registry key).getD {}).insert className metadata) registry.entries
  change (registry.add key className metadata).mapCount + ((Table.get? registry key).map Table.size).getD 0
    = registry.mapCount + (((Table.get? registry key).getD {}).insert className metadata).size at hsum
  unfold find? at h
  cases hclasses : Table.get? registry key with
  | none =>
    rw [hclasses] at hsum
    exact hsum
  | some classes =>
    rw [hclasses, Option.bind_some] at h
    rw [hclasses, Option.map_some, Option.getD_some, Option.getD_some, Table.size_insert h] at hsum
    omega

/-- New maps add up. -/
theorem Registry.mapCount_addAll {registry : Registry} {key : String} {maps : List Registration}
    (hkeys : ∀ map ∈ maps, map.key = key) (hnames : (maps.map Registration.className).Nodup)
    (hnew : ∀ map ∈ maps, registry.find? key map.className = none) :
    (registry.addAll maps).mapCount = registry.mapCount + maps.length := by
  induction maps generalizing registry with
  | nil => rfl
  | cons map rest ih =>
    obtain ⟨hfirst, hrest⟩ := List.forall_mem_cons.1 hkeys
    obtain ⟨hother, hothers⟩ := List.nodup_cons.1 hnames
    obtain ⟨hnone, hnew⟩ := List.forall_mem_cons.1 hnew
    have hkept : ∀ other ∈ rest,
        (registry.add map.key map.className map.metadata).find? key other.className = none := by
      intro other hmem
      rw [hfirst, find?_add, if_neg, hnew other hmem]
      rintro hsame
      exact hother (hsame ▸ List.mem_map_of_mem hmem)
    have hcount := ih hrest hothers hkept
    rw [addAll_cons, hcount, mapCount_add (hfirst ▸ hnone), List.length_cons]
    omega

def Registry.Keyed (registry : Registry) : Prop :=
  ∀ file ∈ registry.entries, (moduleOfKey? file.1).isSome

theorem keyed_run (tree : FileTree) (code : String) {options : Options} (file : String) :
    Maintains (fun state : Engine × List LogRecord =>
        state.1.options = options ∧ state.1.registry.Keyed) (run tree code file) fun _ => True := by
  refine maintains_run code fun key _ hmodule className metadata registry hregistry found hfound => ?_
  rcases Table.mem_entries_insert hfound with rfl | hfound
  · exact hmodule
  · exact hregistry found hfound

/-- The collected module has all maps of a registry whose files have modules. -/
theorem Registry.Keyed.collected {registry : Registry} (h : registry.Keyed)
    {files : List (Expr × Table Expr)} (hfiles : registry.collected = .ok files) :
    (files.map fun file => file.2.size).sum = registry.mapCount := by
  have hall (entries : List (String × Table Expr)) (h : ∀ file ∈ entries, (moduleOfKey? file.1).isSome)
      (files : List (Expr × Table Expr)) (hfiles : Registry.collected ⟨entries⟩ = .ok files) :
      files.map Prod.snd = entries.map Prod.snd := by
    induction entries generalizing files with
    | nil =>
      cases hfiles
      rfl
    | cons file rest ih =>
      obtain ⟨hfirst, hrest⟩ := List.forall_mem_cons.1 h
      obtain ⟨name, hname⟩ := Option.isSome_iff_exists.1 hfirst
      obtain ⟨handled, hhandled, hkept⟩ := bind_eq_ok.1 hfiles
      rw [List.mapM_cons] at hhandled
      obtain ⟨handled?, hhandle, hhandled⟩ := bind_eq_ok.1 hhandled
      obtain ⟨others, hothers, hhandled⟩ := bind_eq_ok.1 hhandled
      dsimp only at hhandle
      rw [hname] at hhandle
      obtain ⟨handle, -, hhandle⟩ := bind_eq_ok.1 hhandle
      cases hhandle
      cases hhandled
      cases hkept
      have hmore := ih hrest (others.filterMap id) (bind_eq_ok.2 ⟨others, hothers, rfl⟩)
      exact congrArg (file.2 :: ·) hmore
  have htables := hall registry.entries h files hfiles
  have hsizes := congrArg (fun tables => (tables.map Table.size).sum) htables
  simpa [mapCount, List.map_map, Function.comp_def] using hsizes

/-! ## Directories -/

/-- Files that are collected whole, if nothing else was before: the text of each is run through, and it
has classes of different names at module level, a module, and a key of its own. -/
structure Collectable (tree : FileTree) (options : Options) (files : List Path) : Prop where
  returns : ∀ file ∈ files, ∀ code, tree.readText file = .ok code →
    Succeeds (run tree code (tree.resolve file).render ({ options }, [])).1
  distinct : ∀ file ∈ files, ∀ code source, tree.readText file = .ok code →
    Module.parse code = .ok source → (moduleLevelNames (visitsOfAll true source.body)).Nodup
  modules : ∀ file ∈ files, ∀ key, fileKey tree options (tree.resolve file).render = .ok key →
    (moduleOfKey? key).isSome
  apart : files.Pairwise fun file other => ∀ key,
    fileKey tree options (tree.resolve file).render = .ok key →
      fileKey tree options (tree.resolve other).render ≠ .ok key

section

variable {tree : FileTree} {options : Options} {engine : Engine}
  {tables : Except Fault (Option ProjectIndex)}

/-- An engine on its way through some files: it has not come to any of them. -/
structure Engine.Comes (tree : FileTree) (options : Options)
    (tables : Except Fault (Option ProjectIndex)) (files : List Path) (engine : Engine) : Prop where
  goesOn : Engine.GoesOn tables [tree] { options } engine
  keyed : engine.registry.Keyed
  fresh : ∀ file ∈ files, ∀ key, fileKey tree options (tree.resolve file).render = .ok key →
    Table.get? engine.registry key = none

/-- The maps of a file that has none in the registry yet are counted. -/
theorem mapCount_run {code file : String} {before : Engine × List LogRecord} {result : RunResult}
    (hmodule : ∀ key, fileKey tree before.1.options file = .ok key → (moduleOfKey? key).isSome)
    (hdistinct : ∀ source, Module.parse code = .ok source →
      (moduleLevelNames (visitsOfAll true source.body)).Nodup)
    (hnew : ∀ key, fileKey tree before.1.options file = .ok key →
      Table.get? before.1.registry key = none)
    (hrun : (run tree code file before).1 = .ok result) :
    (run tree code file before).2.1.registry.mapCount
      = before.1.registry.mapCount + (collectedNames result.classes).length := by
  obtain ⟨maps, hmaps, hnames, hmade⟩ := run_accounted hmodule hrun
  rw [hmaps, hnames, List.length_map]
  rcases hmade with rfl | ⟨source, site, hreads, hlevel, hmade⟩
  · rfl
  · cases hkey : fileKey tree before.1.options file with
    | error fault =>
      have hnone : maps = [] := List.eq_nil_iff_forall_not_mem.2 fun map hmap => by
        have hsome := (hmade map hmap).key
        rw [hkey] at hsome
        cases hsome
      rw [hnone]
      rfl
    | ok key =>
      have hkeys : ∀ map ∈ maps, map.key = key := fun map hmap =>
        Except.ok.inj ((hmade map hmap).key.symm.trans hkey)
      have hnames := hlevel.nodup (hdistinct source hreads.parse)
      refine Registry.mapCount_addAll hkeys hnames fun map _ => ?_
      unfold Registry.find?
      rw [hnew key hkey]
      rfl

/-- A file on the way is passed, and its maps are counted. -/
theorem mapCount_runPath {file : Path} {rest : List Path}
    (hstart : Engine.GoesOn tables [tree] { options } { options })
    (h : Collectable tree options (file :: rest))
    (hengine : engine.Comes tree options tables (file :: rest)) :
    (runPath tree file (engine, [])).2.1.Comes tree options tables rest
      ∧ (runPath tree file (engine, [])).2.1.registry.mapCount
        = engine.registry.mapCount
          + (collectedNames (fileResult (runPath tree file (engine, [])).1).classes).length := by
  have hfile : file ∈ file :: rest := List.mem_cons_self
  obtain ⟨hgoesOn, hkeyed, hfresh⟩ := hengine
  obtain ⟨hnew, hfresh⟩ := List.forall_mem_cons.1 hfresh
  obtain ⟨hapart, -⟩ := List.pairwise_cons.1 h.apart
  cases hread : tree.readText file with
  | error fault =>
    rw [runPath_error hread]
    exact ⟨⟨hgoesOn, hkeyed, hfresh⟩, rfl⟩
  | ok code =>
    rw [runPath_ok hread]
    obtain ⟨result, halone⟩ := h.returns file hfile code hread
    obtain ⟨hresult, hlater, -, -⟩ := @run_alone_again tables [tree] ({ options }, []) (engine, [])
      ⟨tree, code, (tree.resolve file).render⟩ List.mem_cons_self hstart hgoesOn
    rw [halone] at hresult
    have hoptions : engine.options = options := hgoesOn.options
    have hkept := ((keyed_run tree code (tree.resolve file).render).state
      (s := (engine, [])) ⟨hoptions, hkeyed⟩).2
    refine ⟨⟨hlater, hkept, fun other hother key hkey => ?_⟩, ?_⟩
    · have hne : fileKey tree options (tree.resolve file).render ≠ .ok key :=
        fun hsame => hapart other hother key hsame hkey
      exact ((run_apart tree code hne).state (s := (engine, []))
        ⟨hoptions, hfresh other hother key hkey⟩).2
    · have hcount := @mapCount_run tree code (tree.resolve file).render (engine, []) result
        (hoptions ▸ h.modules file hfile) (fun source => h.distinct file hfile code source hread)
        (hoptions ▸ hnew) hresult
      rw [hcount]
      dsimp only at hresult
      rw [hresult]
      rfl

/-- As many maps are registered as classes are reported as collected. -/
theorem mapCount_collectFiles {files : List Path}
    (hstart : Engine.GoesOn tables [tree] { options } { options })
    (h : Collectable tree options files) (hengine : engine.Comes tree options tables files)
    {session : Session} (hshows : session.console.ShowsAll) (hsession : session.tree = tree) :
    ∃ results after log, collectFiles engine files session
        = (.ok (results, after), { session with log })
      ∧ after.registry.Keyed
      ∧ after.registry.mapCount = engine.registry.mapCount + collectedCount results := by
  induction files generalizing engine session with
  | nil => exact ⟨[], engine, session.log, rfl, hengine.keyed, rfl⟩
  | cons file rest ih =>
    subst hsession
    obtain ⟨log, hrun⟩ := runFile_fileResult engine file hshows
    obtain ⟨hcomes, hcount⟩ := mapCount_runPath hstart h hengine
    have hrest : Collectable session.tree options rest :=
      ⟨fun other hother => h.returns other (List.mem_cons_of_mem file hother),
        fun other hother => h.distinct other (List.mem_cons_of_mem file hother),
        fun other hother => h.modules other (List.mem_cons_of_mem file hother),
        (List.pairwise_cons.1 h.apart).2⟩
    obtain ⟨results, after, log', hfiles, hkeyed, hcounted⟩ := @ih _ hrest hcomes
      { session with log } hshows rfl
    refine ⟨(file.render, fileResult (runPath session.tree file (engine, [])).1) :: results, after,
      log', ?_, hkeyed, ?_⟩
    · unfold collectFiles
      rw [step_bind hrun]
      exact step_bind hfiles
    · rw [hcounted, hcount, collectedCount, collectedNames, List.length_map, Nat.add_assoc]

end

/-- The classes that a result lists as collected are those whose maps the run has put under the key of
its file. -/
structure RunResult.Stored (tree : FileTree) (code file : String) (before : Engine × List LogRecord)
    (result : RunResult) : Prop where
  stored {name : String} (h : (name, ClassEmission.collect) ∈ result.classes) :
    ∃ key source site visit metadata, fileKey tree before.1.options file = .ok key
      ∧ Reads tree before code file source site
      ∧ visit ∈ visitsOfAll true source.body ∧ visit.2.1.name = name
      ∧ classMap site visit.2.1 visit.2.2 = .ok metadata
      ∧ (run tree code file before).2.1.registry.find? key name = some metadata
  only {key name : String} (h : fileKey tree before.1.options file = .ok key →
    (name, ClassEmission.collect) ∉ result.classes) :
    (run tree code file before).2.1.registry.find? key name = before.1.registry.find? key name

theorem run_stored {tree : FileTree} {code file : String} {before : Engine × List LogRecord}
    {result : RunResult} (hrun : (run tree code file before).1 = .ok result)
    (hmodule : ∀ key, fileKey tree before.1.options file = .ok key → (moduleOfKey? key).isSome)
    (hdistinct : ∀ source, Module.parse code = .ok source →
      (moduleLevelNames (visitsOfAll true source.body)).Nodup) :
    result.Stored tree code file before := by
  obtain ⟨maps, hmaps, hnames, hmade⟩ := run_accounted hmodule hrun
  constructor
  · intro name hname
    have hmem : name ∈ maps.map Registration.className := hnames ▸ mem_collectedNames.2 hname
    obtain ⟨map, hmap, rfl⟩ := List.mem_map.1 hmem
    rcases hmade with rfl | ⟨source, site, hreads, hlevel, hmade⟩
    · cases hmap
    · obtain ⟨hkey, visit, hvisit, hsame, hmetadata⟩ := hmade map hmap
      refine ⟨map.key, source, site, visit, map.metadata, hkey, hreads, hvisit, hsame, hmetadata, ?_⟩
      rw [hmaps]
      exact Registry.find?_addAll_of_mem
        (fun other hother => Except.ok.inj ((hmade other hother).key.symm.trans hkey))
        (hlevel.nodup (hdistinct source hreads.parse)) hmap
  · intro key name hname
    by_cases hkey : fileKey tree before.1.options file = .ok key
    · rw [hmaps]
      apply Registry.find?_addAll_of_not_mem
      · rcases hmade with rfl | ⟨source, site, hreads, hlevel, hmade⟩
        · exact nofun
        · exact fun map hmap => Except.ok.inj ((hmade map hmap).key.symm.trans hkey)
      · rw [← hnames, mem_collectedNames]
        exact hname hkey
    · have hkept := ((run_apart tree code hkey).state (s := before) ⟨rfl, rfl⟩).2
      unfold Registry.find?
      rw [hkept]

/-- Where files have modules, the classes that are reported as collected are those whose maps are
registered, and a collected directory has as many class maps as are announced. -/
theorem collected_accounted (session : Session) (options : Options) (files : List Path) :
    (∀ code file before result, (run session.tree code file before).1 = .ok result →
      (∀ key, fileKey session.tree before.1.options file = .ok key → (moduleOfKey? key).isSome) →
      (∀ source, Module.parse code = .ok source →
        (moduleLevelNames (visitsOfAll true source.body)).Nodup) →
      result.Stored session.tree code file before)
    ∧ (session.console.ShowsAll → Collectable session.tree options files →
      ∃ results engine log, collectFiles { options, console := session.console } files session
          = (.ok (results, engine), { session with log })
        ∧ ∀ found, engine.registry.collected = .ok found →
          (found.map fun file => file.2.size).sum = collectedCount results) := by
  constructor
  · intro code file before result hrun hmodule hdistinct
    exact run_stored hrun hmodule hdistinct
  · intro hshows h
    have hstart : Engine.GoesOn (Engine.tablesIn session.tree { options }) [session.tree] { options }
        { options } := ⟨rfl, List.forall_mem_singleton.2 rfl, fun _ h => h⟩
    have hkeyed : Registry.Keyed {} := by simp [Registry.Keyed]
    obtain ⟨results, engine, log, hfiles, hkept, hcount⟩ :=
      mapCount_collectFiles hstart h ⟨hstart, hkeyed, fun _ _ _ _ => rfl⟩ hshows rfl
    have hengine : collectFiles { options, console := session.console } files session
        = collectFiles { options } files session := by rw [hshows.eq]
    refine ⟨results, engine, log, hengine.trans hfiles, fun found hfound => ?_⟩
    rw [hkept.collected hfound, hcount]
    exact Nat.zero_add _

namespace Counted

def code : String := "class A: pass\n"

def tree : FileTree where
  directory := Path.parse "/"
  files := [(["src", "m.py"], code.toUTF8.toList), (["src", "n.py"], "class\n".toUTF8.toList)]

def options : Options := { readonly := true, pathToSource := some (Path.parse "/src") }

def first : Path := Path.parse "/src/m.py"

def second : Path := Path.parse "/src/n.py"

theorem run_first : (run tree code "/src/m.py" ({ options }, [])).1
    = .ok { code, classes := [("A", .collect)] } := by cbv

theorem key_first : fileKey tree options (tree.resolve first).render = .ok "./m.py" := by cbv

theorem key_second : fileKey tree options (tree.resolve second).render = .ok "./n.py" := by cbv

theorem names_distinct (source : Module) (h : Module.parse code = .ok source) :
    (moduleLevelNames (visitsOfAll true source.body)).Nodup := by
  have hparse : Module.parse code = .ok
      { body := [.classDef ⟨{}, Gap.space, "A", [], none, []⟩
          (.inline Gap.space ⟨[⟨.verbatim [⟨[], "pass"⟩], none⟩], {}⟩)] } := by cbv
  rw [hparse] at h
  cases h
  decide

theorem collectable : Collectable tree options [first, second] := by
  have hfirst : tree.readText first = .ok code := by cbv
  have hsecond : tree.readText second = .ok "class\n" := by cbv
  have hbroken : Module.parse "class\n" = .error .malformed := by cbv
  constructor
  · intro file hfile text htext
    rcases List.mem_cons.1 hfile with rfl | hfile
    · rw [hfirst] at htext
      cases htext
      exact ⟨_, run_first⟩
    · obtain rfl := List.mem_singleton.1 hfile
      rw [hsecond] at htext
      cases htext
      unfold run
      rw [hbroken]
      exact succeeds_ok _
  · intro file hfile text source htext hparse
    rcases List.mem_cons.1 hfile with rfl | hfile
    · rw [hfirst] at htext
      cases htext
      exact names_distinct source hparse
    · obtain rfl := List.mem_singleton.1 hfile
      rw [hsecond] at htext
      cases htext
      rw [hbroken] at hparse
      cases hparse
  · intro file hfile key hkey
    rcases List.mem_cons.1 hfile with rfl | hfile
    · obtain rfl := Except.ok.inj (key_first.symm.trans hkey)
      cbv
    · obtain rfl := List.mem_singleton.1 hfile
      obtain rfl := Except.ok.inj (key_second.symm.trans hkey)
      cbv
  · simp [key_first, key_second]

end Counted

/-- One class of a directory is collected; the file that is none of the language costs nothing. -/
theorem collected_accounted_of_counted :
    (∃ metadata, (run Counted.tree Counted.code "/src/m.py"
        ({ options := Counted.options }, [])).2.1.registry.find? "./m.py" "A" = some metadata)
      ∧ ∃ results engine log, collectFiles { options := Counted.options }
          [Counted.first, Counted.second] { tree := Counted.tree }
          = (.ok (results, engine), { tree := Counted.tree, log })
        ∧ ∀ found, engine.registry.collected = .ok found →
          (found.map fun file => file.2.size).sum = collectedCount results := by
  have haccounted := collected_accounted { tree := Counted.tree } Counted.options
    [Counted.first, Counted.second]
  dsimp only at haccounted
  constructor
  · have hmodule : ∀ key, fileKey Counted.tree Counted.options "/src/m.py" = .ok key →
        (moduleOfKey? key).isSome := Counted.collectable.modules Counted.first List.mem_cons_self
    have hstored := haccounted.1 Counted.code "/src/m.py" ({ options := Counted.options }, []) _
      Counted.run_first hmodule Counted.names_distinct
    obtain ⟨key, source, site, visit, metadata, hkey, -, -, -, -, hfound⟩ :=
      hstored.stored List.mem_cons_self
    obtain rfl := Except.ok.inj (Counted.key_first.symm.trans hkey)
    exact ⟨metadata, hfound⟩
  · exact haccounted.2 (fun _ => rfl) Counted.collectable

/-- The class of a file beside the source root is reported as collected, and the registry has no map. -/
theorem collected_unregistered :
    ∃ result, (run Linked.job.tree Linked.code Strayed.file ({ options := Strayed.options }, [])).1
        = .ok result
      ∧ ("A", ClassEmission.collect) ∈ result.classes
      ∧ (run Linked.job.tree Linked.code Strayed.file
        ({ options := Strayed.options }, [])).2.1.registry.entries = [] := by
  rw [Strayed.run_source]
  exact ⟨_, rfl, List.mem_cons_self, rfl⟩

end ModelMetadata
