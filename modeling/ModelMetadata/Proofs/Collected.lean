import ModelMetadata.Proofs.Indexing
import ModelMetadata.Proofs.SelfContained

/-!
Runs that collect. An engine that writes nothing to its sources keeps a registry of self-contained maps,
through every run over every text, however the run ends: the texts are parsed, the tables of the source
tree are collected from parsed texts, and all that the pass registers is a map of a class in the text.
-/
set_option autoImplicit false
namespace ModelMetadata

open Source

/-! ## The registry -/

def Registry.SelfContained (registry : Registry) : Prop :=
  ∀ file ∈ registry.entries, ∀ entry ∈ file.2.entries, entry.2.SelfContained

namespace Registry.SelfContained

theorem empty : Registry.SelfContained {} := by simp [Registry.SelfContained]

theorem add {registry : Registry} (h : registry.SelfContained) (key className : String)
    {metadata : Expr} (hmetadata : metadata.SelfContained) :
    (registry.add key className metadata).SelfContained := by
  intro file hfile entry hentry
  obtain rfl | hfile := Table.mem_entries_insert hfile
  · obtain rfl | hentry := Table.mem_entries_insert hentry
    · exact hmetadata
    · cases hclasses : Table.get? registry key with
      | none =>
        rw [hclasses] at hentry
        cases hentry
      | some classes =>
        rw [hclasses] at hentry
        exact h _ (Oracle.mem_entries_of_get? hclasses) entry hentry
  · exact h file hfile entry hentry

end Registry.SelfContained

/-! ## The pass -/

/-- A step of a pass that keeps all class maps self-contained. -/
abbrev Collects {α : Type} (pass : Pass α) : Prop :=
  Maintains (fun state : PassState => state.registry.SelfContained) pass fun _ => True

theorem maintains_describe {α : Type} {I : Registry → Prop} {step : Describe α} {P : α → Prop}
    (h : Ensures step P) :
    Maintains (fun state : PassState => I state.registry) (Pass.describe step) P :=
  .of (fun _ hs => hs) fun _ _ _ ha => h.ensures ha

/-- The emission of a class keeps of the registry what the registration of its map keeps. -/
theorem maintains_emitClass {I : Registry → Prop} {P : Expr → Prop} {site : Site}
    {key : Except Fault String} {head : ClassHead} {body : Suite}
    (hmetadata : Ensures (classMetadata site head body) P)
    (hadd : ∀ found, key = .ok found → (moduleOfKey? found).isSome → ∀ metadata, P metadata →
      ∀ registry, I registry → I (registry.add found head.name metadata))
    (outer : List String) (isModuleLevel : Bool) (updated : Suite) :
    Maintains (fun state : PassState => I state.registry)
      (emitClass site key outer isModuleLevel head body updated) fun _ => True := by
  have hemit (name : String) (emission : ClassEmission) :
      Maintains (fun state : PassState => I state.registry) (Pass.emit name emission) fun _ => True :=
    .of (fun _ hs => hs) fun _ _ _ _ => trivial
  have hcollect (metadata : Expr) (h : P metadata) : Maintains (fun state : PassState =>
      I state.registry) (collectClass site key head.name metadata) fun _ => True := by
    refine (maintains_describe (.ofExcept key)).bind fun found hfound => .ite (fun hmodule => ?_) fun _ => ?_
    · exact .of (fun state hs => hadd found hfound hmodule metadata h state.registry hs)
        fun _ _ _ _ => trivial
    · exact maintains_describe (.trivially _)
  refine (maintains_describe (.trivially _)).andThen fun emission => (hemit _ emission).andThen fun _ => ?_
  cases emission with
  | skip => exact .pure trivial
  | collect =>
    exact (maintains_describe hmetadata).bind fun metadata h =>
      (hcollect metadata h).andThen fun _ => .pure trivial
  | augment => exact (maintains_describe hmetadata).andThen fun _ => .pure trivial

mutual

theorem wellNamed_of_visits {isModuleLevel : Bool} {statement : Statement} (h : statement.WellNamed) :
    ∀ visit ∈ visits isModuleLevel statement, visit.2.2.WellNamed := by
  cases statement with
  | line above line => simp [visits]
  | classDef head body =>
    rw [visits, List.forall_mem_append]
    exact ⟨wellNamed_of_visitsOfSuite h.2, List.forall_mem_singleton.2 h.2⟩
  | functionDef head body => exact wellNamed_of_visitsOfSuite h
  | compound clauses => exact wellNamed_of_visitsOfClauses h
termination_by structural statement

theorem wellNamed_of_visitsOfAll {isModuleLevel : Bool} {statements : List Statement}
    (h : Statement.AllNamed statements) :
    ∀ visit ∈ visitsOfAll isModuleLevel statements, visit.2.2.WellNamed := by
  cases statements with
  | nil => simp [visitsOfAll]
  | cons statement rest =>
    rw [visitsOfAll, List.forall_mem_append]
    exact ⟨wellNamed_of_visits h.1, wellNamed_of_visitsOfAll h.2⟩
termination_by structural statements

theorem wellNamed_of_visitsOfClauses {isModuleLevel : Bool} {clauses : List Clause}
    (h : Clause.AllNamed clauses) :
    ∀ visit ∈ visitsOfClauses isModuleLevel clauses, visit.2.2.WellNamed := by
  cases clauses with
  | nil => simp [visitsOfClauses]
  | cons clause rest =>
    obtain ⟨above, head, body⟩ := clause
    rw [visitsOfClauses, List.forall_mem_append]
    exact ⟨wellNamed_of_visitsOfSuite h.1, wellNamed_of_visitsOfClauses h.2⟩
termination_by structural clauses

theorem wellNamed_of_visitsOfSuite {isModuleLevel : Bool} {body : Suite} (h : body.WellNamed) :
    ∀ visit ∈ visitsOfSuite isModuleLevel body, visit.2.2.WellNamed := by
  cases body with
  | block tail step statements footer => exact wellNamed_of_visitsOfAll h
  | «inline» gap line => simp [visitsOfSuite]
termination_by structural body

end

/-- The pass over a module that was read. -/
theorem collects_passModule {site : Site} (hsite : site.Collecting) (key : Except Fault String)
    {text : String} {source : Module} (hparse : Module.parse text = .ok source) :
    Collects (passModule site key source) := by
  have hnamed : ∀ visit ∈ visitsOfAll true source.body, visit.2.2.WellNamed :=
    wellNamed_of_visitsOfAll (Source.Module.allNamed_of_parse hparse)
  apply Emitting.passModule source
  constructor
  intro visit hvisit outer updated
  exact maintains_emitClass (classMetadata_selfContained hsite (hnamed visit hvisit) visit.2.1)
    (fun found _ _ metadata h registry hregistry => hregistry.add found visit.2.1.name h)
    outer visit.1 updated

/-! ## Engines -/

def ModuleSymbols.FromText (symbols : ModuleSymbols) : Prop :=
  ∃ text source moduleName isPackage, Module.parse text = .ok source
    ∧ ModuleSymbols.collect source moduleName isPackage = .ok symbols

def ProjectIndex.FromTexts (index : ProjectIndex) : Prop :=
  ∀ entry ∈ index.entries, entry.2.FromText

/-- An engine that collects. Its tables were collected from texts and its maps are self-contained. -/
structure Engine.Collecting (engine : Engine) : Prop where
  readonly : engine.options.readonly = true
  registry : engine.registry.SelfContained
  project (index : ProjectIndex) (h : engine.project = some index) : index.FromTexts

/-- A step that leaves an engine collecting, and whose results are as `P` says. -/
abbrev CollectsWith {α : Type} (step : EngineStep α) (P : α → Prop) : Prop :=
  Maintains (fun state : Engine × List LogRecord => state.1.Collecting) step P

theorem fromText_of_fileSymbols {tree : FileTree} {root file : Path} {symbols : ModuleSymbols}
    (h : fileSymbols tree root file = .ok (some symbols)) : symbols.FromText := by
  unfold fileSymbols at h
  split at h
  · cases h
  · cases h
  · rename_i text htext
    split at h
    · cases h
    · cases h
    · rename_i source hparse
      obtain ⟨found, hcollect, hfound⟩ := map_eq_ok.1 h
      cases hfound
      exact ⟨text, source, _, _, hparse, hcollect⟩

theorem collectsWith_indexFile (tree : FileTree) (root : Path) {index : ProjectIndex}
    (hindex : index.FromTexts) (file : Path) :
    CollectsWith (indexFile tree root index file) ProjectIndex.FromTexts := by
  refine (maintains_ofExcept _).bind fun symbols? hfile => ?_
  cases symbols? with
  | none => exact (maintains_log _).andThen fun _ => .pure hindex
  | some symbols =>
    refine .pure fun entry hentry => ?_
    obtain rfl | hentry := Table.mem_entries_insert hentry
    · exact fromText_of_fileSymbols hfile
    · exact hindex entry hentry

theorem collectsWith_projectIndex (tree : FileTree) :
    CollectsWith (projectIndex tree) fun project =>
      ∀ index, project = some index → index.FromTexts := by
  refine maintains_get.bind fun before hengine => ?_
  dsimp only
  split
  · rename_i root hproject hroot
    refine .ite (fun _ => ?_) fun _ => .pure (by simp)
    refine (Maintains.foldlM (fun index hindex file _ => collectsWith_indexFile tree root hindex file)
      (by simp [ProjectIndex.FromTexts])).bind fun index hindex => ?_
    have hsome : ∀ found, some index = some found → ProjectIndex.FromTexts found :=
      fun found h => Option.some.inj h ▸ hindex
    have hkept : CollectsWith (modify fun before : Engine × List LogRecord =>
        ({ before.1 with project := some index }, before.2)) fun _ => True :=
      maintains_modify fun before h => ⟨h.readonly, h.registry, hsome⟩
    exact hkept.andThen fun _ => .pure hsome
  · exact .pure hengine.project

theorem collectsWith_runPass {α : Type} {pass : Pass α} (h : Collects pass) :
    CollectsWith (runPass pass) fun _ => True :=
  .of (fun _ hs => ⟨hs.readonly, h.state hs.registry, hs.project⟩) fun _ _ _ _ => trivial

theorem wellNamed_of_fromTexts {host : ModuleSymbols} {project : Option ProjectIndex}
    (hhost : host.FromText) (hproject : ∀ index, project = some index → index.FromTexts) :
    ({ host, project } : Oracle).WellNamed where
  host := by
    obtain ⟨text, source, name, isPackage, hparse, hcollect⟩ := hhost
    exact .of_collect hparse hcollect
  project {moduleName symbols} h := by
    obtain ⟨index, hindex, hsymbols⟩ := Option.bind_eq_some_iff.1 h
    obtain ⟨text, source, name, isPackage, hparse, hcollect⟩ :=
      hproject index hindex _ (Oracle.mem_entries_of_get? hsymbols)
    exact .of_collect hparse hcollect

/-- A run over any text leaves an engine collecting. -/
theorem collectsWith_run (tree : FileTree) (code file : String) :
    CollectsWith (run tree code file) fun _ => True := by
  unfold run
  split
  · exact .pure trivial
  · exact .throw _
  · rename_i source hparse
    refine maintains_get.bind fun (engine, log) hengine =>
      (maintains_ofExcept _).bind fun host hhost =>
      (collectsWith_projectIndex tree).bind fun project hproject => ?_
    have horacle := wellNamed_of_fromTexts ⟨code, source, _, _, hparse, hhost⟩ hproject
    have hsite : Site.Collecting
        { oracle := { host, project }, options := engine.options, file, scope := [] } :=
      ⟨hengine.readonly, horacle⟩
    exact (collectsWith_runPass (collects_passModule hsite _ hparse)).andThen fun _ => .pure trivial

/-- A run keeps of the registry what is kept by any registration under the key of its file. -/
theorem maintains_run {I : Registry → Prop} {tree : FileTree} (code : String) {options : Options}
    {file : String} (hadd : ∀ key, fileKey tree options file = .ok key → (moduleOfKey? key).isSome →
      ∀ className metadata registry, I registry → I (registry.add key className metadata)) :
    Maintains (fun state : Engine × List LogRecord => state.1.options = options ∧ I state.1.registry)
      (run tree code file) fun _ => True := by
  unfold run
  split
  · exact .pure trivial
  · exact .throw _
  · rename_i source _
    refine maintains_get.bind fun (engine, log) hengine => (maintains_ofExcept _).andThen fun host =>
      (maintains_projectIndex (I := fun engine => engine.options = options ∧ I engine.registry)
        (fun _ _ h => h) tree).andThen fun project => ?_
    obtain rfl := hengine.1
    have hpass (site : Site) : Maintains (fun state : PassState => I state.registry)
        (passModule site (fileKey tree engine.options file) source) fun _ => True :=
      Emitting.passModule source ⟨fun visit _ outer updated => maintains_emitClass (.trivially _)
        (fun key hkey hmodule metadata _ => hadd key hkey hmodule visit.2.1.name metadata)
        outer visit.1 updated⟩
    refine (maintains_runPass (I := fun later => later.options = engine.options ∧ I later.registry)
      fun before => ?_).andThen fun _ => .pure trivial
    exact .of (fun _ hs => ⟨hs.1, (hpass _).state hs.2⟩) fun _ _ _ _ => trivial

/-! ## Sequences of runs -/

/-- What a run is given: the files that are there, and a text with the name of its file. -/
structure Job where
  tree : FileTree
  code : String
  file : String

/-- Runs one after another. A run that fails leaves behind what it did. -/
def runAll (jobs : List Job) (state : Engine × List LogRecord) : Engine × List LogRecord :=
  jobs.foldl (fun state job => (run job.tree job.code job.file state).2) state

theorem collecting_runAll (jobs : List Job) {state : Engine × List LogRecord}
    (h : state.1.Collecting) : (runAll jobs state).1.Collecting := by
  induction jobs generalizing state with
  | nil => exact h
  | cons job rest ih => exact ih ((collectsWith_run job.tree job.code job.file).state h)

/-- All that the collected maps read is the table of imported modules, builtin types and constants,
whatever texts they were collected from. -/
theorem collected_selfContained {options : Options} (hreadonly : options.readonly = true)
    {project : Option ProjectIndex} (hproject : ∀ index, project = some index → index.FromTexts)
    (typeImports : TypeImports) (console : Console) (log : List LogRecord) (jobs : List Job) :
    ∀ file ∈ (runAll jobs ({ options, typeImports, project, console }, log)).1.registry.entries,
      ∀ entry ∈ file.2.entries, ∀ name, Expr.Reads name entry.2 →
        name = importsBinding ∨ name ∈ builtinTypes ∨ name ∈ constantNames := by
  intro file hfile entry hentry name hreads
  have hregistry :
      (runAll jobs ({ options, typeImports, project, console }, log)).1.registry.SelfContained :=
    (collecting_runAll jobs ⟨hreadonly, .empty, hproject⟩).registry
  exact (hregistry file hfile entry hentry).reads hreads

/-! ## A run that links a class -/

theorem runPass_ok {α : Type} {pass : Pass α} {a : α} {after : PassState} {engine : Engine}
    {log : List LogRecord}
    (h : pass { journal := { typeImports := engine.typeImports, log }, registry := engine.registry }
      = (.ok a, after)) :
    runPass pass (engine, log) = (.ok (a, after.emissions),
      { engine with typeImports := after.journal.typeImports, registry := after.registry },
      after.journal.log) := by
  unfold runPass
  dsimp only
  rw [h]
  rfl

/-- What a run gives and leaves, by what its steps give. -/
theorem run_eq {tree : FileTree} {code file : String} {source updated : Module}
    {before middle after : Engine × List LogRecord} {host : ModuleSymbols}
    {project : Option ProjectIndex} {classes : List (String × ClassEmission)}
    (hparse : Module.parse code = .ok source)
    (hhost : ModuleSymbols.collect source
      (moduleNameFor before.1.options.pathToSource (Path.parse file)).1
      (moduleNameFor before.1.options.pathToSource (Path.parse file)).2 = .ok host)
    (hproject : projectIndex tree before = (.ok project, middle))
    (hpass : runPass (passModule { oracle := { host, project }, options := before.1.options, file }
      (fileKey tree before.1.options file) source) middle = (.ok (updated, classes), after)) :
    run tree code file before
      = (.ok { code := if before.1.options.readonly then code else updated.render, classes }, after) := by
  have hget : (get : EngineStep (Engine × List LogRecord)) before = (.ok before, before) := rfl
  have hcollect : EngineStep.ofExcept (ModuleSymbols.collect source
      (moduleNameFor before.1.options.pathToSource (Path.parse file)).1
      (moduleNameFor before.1.options.pathToSource (Path.parse file)).2) before
      = (.ok host, before) := Prod.ext hhost rfl
  unfold run
  rw [hparse]
  dsimp only
  rw [step_bind hget, step_bind hcollect, step_bind hproject, step_bind hpass]
  rfl

/-- A pass over a module of one class is the emission of that class. -/
theorem passModule_of_emitClass {site : Site} {key : Except Fault String} {head : ClassHead}
    {body : Suite} {after : PassState}
    (hsuite : passSuite site key ([] ++ [head.name]) false body {} = (.ok body, {}))
    (h : emitClass site key [] true head body body {} = (.ok body, after)) :
    passModule site key { body := [.classDef head body] } {}
      = (.ok { body := [.classDef head body] }, after) := by
  have hstatement : passStatement site key [] true (.classDef head body) {}
      = (.ok (.classDef head body), after) := by
    rw [passStatement, step_bind hsuite, step_bind h]
    rfl
  have hstatements : passStatements site key [] true [.classDef head body] {}
      = (.ok [.classDef head body], after) := by
    rw [passStatements, step_bind hstatement]
    rfl
  exact step_bind hstatements

namespace Linked

def code : String := "class A:\n    x: A = B\n"

def options : Options := { readonly := true, pathToSource := some (Path.parse "/src") }

def job : Job := { tree := { directory := Path.parse "/" }, code, file := "/src/m.py" }

def head : ClassHead where
  preamble := {}
  afterClass := Gap.space
  name := "A"
  parameters := []
  bases := none
  beforeColon := []

def body : Suite :=
  .block {} (some "    ")
    [.ofSmall (.annotated (.name "x") [] Gap.space (.name "A")
      (some ⟨Gap.space, Gap.space, .name "B"⟩))] []

/-- The tree of `code`. -/
def source : Module := { body := [.classDef head body] }

def site : Site where
  oracle := { host := { moduleName := "m", classes := ⟨[("A", ⟨"A", [], ["x"]⟩)]⟩ }, project := none }
  options := options
  file := "/src/m.py"

def property : Declaration :=
  { name := some "x", typeHint := .name "A", value := some (.name "B") }

def reference : Expr :=
  .attribute (.subscript (.name "t") [] [.mk [] (.value (.string "\"m\"")) none] []) [] [] "A"

def descriptor : Descriptor :=
  [(requiredKey, boolLiteral true), (typeKey, Expr.thunk reference)]

def metadata : Expr := Descriptor.display [("x", descriptor.display)]

def journal : Journal := { typeImports := ⟨[("m.A", "m")]⟩ }

theorem parse_code : Module.parse code = .ok source := by cbv

def inner : Site := { site with scope := body.scopeNames }

def found : Unwrapped := { type := .name "A" }

def siteAt (root : Path) (file : String) : Site :=
  { site with options := { options with pathToSource := some root }, file }

section

variable (root : Path) (file : String) (fields scope : List String)

def innerAt : Site :=
  { siteAt root file with
    oracle := { host := { moduleName := "m", classes := ⟨[("A", ⟨"A", [], fields⟩)]⟩ }, project := none }
    scope }

theorem typeEntries_at :
    typeEntries (innerAt root file fields scope) (found.seed.map Prod.fst) found.type {}
      = (.ok [(typeKey, Expr.thunk reference)], journal) := by
  rw [typeEntries_eq]
  cbv

theorem assembleUnwrapped_at :
    assembleUnwrapped (innerAt root file fields scope) property found {} = (.ok descriptor, journal) := by
  have hseed (subject : String) : seedEntries (innerAt root file fields scope) subject found.seed {}
      = (.ok [], ({} : Journal)) := by cbv
  have hdocs : documentationEntries (innerAt root file fields scope).options property (found.seed.map Prod.fst)
      = .ok [] := by cbv
  have hdefault (subject : String) : defaultEntries (innerAt root file fields scope) subject
      (found.seed.map Prod.fst) property.value journal = (.ok [], journal) := rfl
  have hdomain : domainEntries (innerAt root file fields scope) (found.seed.map Prod.fst) found.type journal
      = (.ok [], journal) := by cbv
  rw [assembleUnwrapped, step_bind (hseed _), step_bind (typeEntries_at root file fields scope),
    ofExcept_bind hdocs, step_bind (hdefault _), step_bind hdomain]
  rfl

theorem describeProperty_at :
    describeProperty (innerAt root file fields scope) head.name property {} = (.ok (some descriptor), journal) := by
  have hunwrap : (innerAt root file fields scope).oracle.unwrap property.typeHint = .ok found := by cbv
  unfold describeProperty
  rw [ofExcept_bind hunwrap]
  change (some <$> assembleUnwrapped (innerAt root file fields scope) property found : Describe _) {} = _
  rw [map_eq_pure_bind, step_bind (assembleUnwrapped_at root file fields scope)]
  rfl

theorem addProperty_at :
    addProperty (innerAt root file fields scope) head.name {} property {} = (.ok ⟨[("x", descriptor)]⟩, journal) := by
  have hcaught : (describeProperty (innerAt root file fields scope) head.name property).caught {}
      = (.ok (.ok (some descriptor)), journal) := by
    rw [Describe.caught, describeProperty_at]
  exact step_bind hcaught

/-- The map of the class does not depend on its file. -/
theorem classMetadata_at :
    classMetadata (siteAt root file) head body {} = (.ok metadata, journal) := by
  have hproperties : body.properties = .ok [property] := rfl
  have hdescriptors : classDescriptors (innerAt root file ["x"] body.scopeNames) head.name [property] {}
      = (.ok ⟨[("x", descriptor)]⟩, journal) := step_bind (addProperty_at root file ["x"] body.scopeNames)
  unfold classMetadata
  rw [ofExcept_bind hproperties]
  exact step_bind hdescriptors

end

theorem classMetadata_site : classMetadata site head body {} = (.ok metadata, journal) :=
  classMetadata_at (Path.parse "/src") "/src/m.py"

def passed : PassState :=
  { journal, registry := ⟨[("./m.py", ⟨[("A", metadata)]⟩)]⟩, emissions := [("A", .collect)] }

theorem emitClass_site :
    emitClass site (.ok "./m.py") [] true head body body {} = (.ok body, passed) := by
  have hemission : Pass.describe (emissionOf site head true) {} = (.ok .collect, {}) := by cbv
  have hemit : Pass.emit (joinDots ([] ++ [head.name])) .collect {}
      = (.ok (), { emissions := [("A", .collect)] }) := by cbv
  have hmetadata : Pass.describe (classMetadata site head body) { emissions := [("A", .collect)] }
      = (.ok metadata, { journal, emissions := [("A", .collect)] }) := by
    rw [Pass.describe, classMetadata_site]
  unfold emitClass
  rw [step_bind hemission, step_bind hemit]
  dsimp only
  rw [step_bind hmetadata]
  cbv

theorem passModule_source : passModule site (.ok "./m.py") source {} = (.ok source, passed) :=
  passModule_of_emitClass rfl emitClass_site

theorem runAll_job : runAll [job] ({ options }, [])
    = ({ options, typeImports := journal.typeImports, registry := passed.registry }, []) := by
  have hhost : ModuleSymbols.collect source
      (moduleNameFor options.pathToSource (Path.parse job.file)).1
      (moduleNameFor options.pathToSource (Path.parse job.file)).2 = .ok site.oracle.host := by cbv
  have hproject : projectIndex job.tree ({ options }, []) = (.ok none, { options }, []) := by cbv
  have hkey : fileKey job.tree options job.file = .ok "./m.py" := by cbv
  have hpass : runPass (passModule site (fileKey job.tree options job.file) source) ({ options }, [])
      = (.ok (source, passed.emissions),
          { options, typeImports := journal.typeImports, registry := passed.registry }, []) := by
    rw [hkey]
    exact runPass_ok passModule_source
  exact congrArg Prod.snd (run_eq parse_code hhost hproject hpass)

theorem not_assigns_reference {name : String} : ¬ Expr.Assigns name reference := by
  intro h
  cases h with
  | part hpart h =>
    obtain rfl := List.mem_singleton.1 hpart
    cases h with
    | part hpart h =>
      obtain rfl | hpart := List.mem_cons.1 hpart
      · exact Defaulted.not_assigns_name name importsBinding h
      · obtain rfl := List.mem_singleton.1 hpart
        cases h with
        | part hpart => cases hpart

theorem reads_metadata : Expr.Reads importsBinding metadata := by
  have htable : Expr.Reads importsBinding (.name importsBinding) := .here (by decide)
  have hreference : Expr.Reads importsBinding reference :=
    .part (List.mem_singleton_self _) (.part List.mem_cons_self htable)
  have hentry : (textLiteral typeKey, Expr.thunk reference)
      ∈ descriptor.map fun entry => (textLiteral entry.1, entry.2) :=
    List.mem_map_of_mem (List.mem_cons_of_mem _ (List.mem_singleton_self _))
  have hdescriptor : Expr.Reads importsBinding descriptor.display :=
    .ofPairs hentry (.thunk not_assigns_reference hreference)
  exact .ofPairs (List.mem_singleton_self _) hdescriptor

end Linked

/-- The map of a class that has a property of its own type reads the table; the default, a name of the
module, is left out. -/
theorem collected_selfContained_of_linked :
    (runAll [Linked.job] ({ options := Linked.options }, [])).1.registry.entries
        = [("./m.py", ⟨[("A", Linked.metadata)]⟩)]
      ∧ Expr.Reads importsBinding Linked.metadata
      ∧ ∀ name, Expr.Reads name Linked.metadata →
        name = importsBinding ∨ name ∈ builtinTypes ∨ name ∈ constantNames := by
  have hentries : (runAll [Linked.job] ({ options := Linked.options }, [])).1.registry.entries
      = [("./m.py", ⟨[("A", Linked.metadata)]⟩)] := by
    rw [Linked.runAll_job]
    rfl
  have hreadonly : Linked.options.readonly = true := rfl
  have hproject : ∀ index : ProjectIndex, none = some index → index.FromTexts := nofun
  have hall := collected_selfContained hreadonly hproject {} {} [] [Linked.job]
  rw [hentries] at hall
  exact ⟨hentries, Linked.reads_metadata, hall _ List.mem_cons_self _ List.mem_cons_self⟩

end ModelMetadata
