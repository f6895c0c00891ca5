import ModelMetadata.Proofs.Collected
import ModelMetadata.Proofs.Sharing

/-!
Runs in any order. A run records imports and registers maps, and reads neither: whatever an engine has
done before, the run has the same result and adds the same things. Maps go under the key of the file
alone. What a sequence of runs leaves under a key is therefore what the run over its file would have left
on its own, and the order of the runs shows in the order of the registry and nowhere else.
-/
set_option autoImplicit false
namespace ModelMetadata

open Source

/-! ## Passes -/

structure Registration where
  key : String
  className : String
  metadata : Expr

inductive PassState.Entry where
  | journal (entry : Journal.Entry)
  | map (registration : Registration)
  | emission (name : String) (emission : ClassEmission)

def PassState.add (state : PassState) : PassState.Entry → PassState
  | .journal entry => { state with journal := state.journal.add entry }
  | .map ⟨key, className, metadata⟩ =>
    { state with registry := state.registry.add key className metadata }
  | .emission name emission => { state with emissions := state.emissions ++ [(name, emission)] }

theorem PassState.foldl_journal (added : List Journal.Entry) (state : PassState) :
    (added.map PassState.Entry.journal).foldl PassState.add state
      = { state with journal := added.foldl Journal.add state.journal } := by
  induction added generalizing state with
  | nil => rfl
  | cons entry rest ih => exact ih _

namespace Additive

theorem describe {α : Type} {step : Describe α} (h : Additive Journal.add step) :
    Additive PassState.add (Pass.describe step) := by
  obtain ⟨result, added, hadds⟩ := h.adds
  refine ⟨result, added.map .journal, fun state => ?_⟩
  unfold Pass.describe
  rw [hadds, PassState.foldl_journal]

theorem emit (name : String) (emission : ClassEmission) :
    Additive PassState.add (Pass.emit name emission) :=
  .single (.emission name emission) fun _ => rfl

theorem register (key className : String) (metadata : Expr) :
    Additive PassState.add (Pass.register key className metadata) :=
  .single (.map ⟨key, className, metadata⟩) fun _ => rfl

theorem collectClass (site : Site) (key : Except Fault String) (className : String)
    (metadata : Expr) : Additive PassState.add (collectClass site key className metadata) :=
  .bind (describe (.ofExcept key)) fun key =>
    .ite (register key className metadata) (describe (.note ..))

theorem emitClass (site : Site) (key : Except Fault String) (outer : List String)
    (isModuleLevel : Bool) (head : ClassHead) (body updated : Suite) :
    Additive PassState.add (emitClass site key outer isModuleLevel head body updated) := by
  refine .bind (describe (.emissionOf ..)) fun emission => .bind (emit ..) fun _ => ?_
  have hmetadata := describe (Additive.classMetadata site head body)
  cases emission with
  | skip => exact .pure updated
  | collect => exact hmetadata.bind fun metadata => .bind (collectClass ..) fun _ => .pure updated
  | augment => exact hmetadata.bind fun metadata => .pure _

theorem passModule (site : Site) (key : Except Fault String) (source : Module) :
    Additive PassState.add (passModule site key source) :=
  Emits.passModule (P := fun _ _ step => Additive PassState.add step) ⟨.pure, .bind⟩ source
    ⟨fun _ _ outer _ updated => emitClass site key outer _ _ _ updated⟩

end Additive

/-! ## Additions -/

def TypeImports.recordAll (imports : TypeImports) (added : List (String × String)) : TypeImports :=
  added.foldl (fun imports entry => imports.record entry.1 entry.2) imports

def Registry.addAll (registry : Registry) (added : List Registration) : Registry :=
  added.foldl (fun registry entry => registry.add entry.key entry.className entry.metadata) registry

/-- The parts of a state grow independently of one another. -/
theorem PassState.foldl_add (added : List PassState.Entry) :
    ∃ imports maps emissions, ∀ state : PassState,
      (added.foldl PassState.add state).journal.typeImports = state.journal.typeImports.recordAll imports
        ∧ (added.foldl PassState.add state).registry = state.registry.addAll maps
        ∧ (added.foldl PassState.add state).emissions = state.emissions ++ emissions := by
  induction added with
  | nil => exact ⟨[], [], [], fun state => ⟨rfl, rfl, (List.append_nil _).symm⟩⟩
  | cons entry rest ih =>
    obtain ⟨imports, maps, emissions, hrest⟩ := ih
    cases entry with
    | journal entry =>
      cases entry with
      | typeImport canonicalName moduleName =>
        exact ⟨(canonicalName, moduleName) :: imports, maps, emissions, fun state => hrest _⟩
      | log record => exact ⟨imports, maps, emissions, fun state => hrest _⟩
    | map registration => exact ⟨imports, registration :: maps, emissions, fun state => hrest _⟩
    | emission name emission =>
      refine ⟨imports, maps, (name, emission) :: emissions, fun state => ?_⟩
      obtain ⟨himports, hmaps, hemissions⟩ := hrest (state.add (.emission name emission))
      refine ⟨himports, hmaps, hemissions.trans ?_⟩
      simp [PassState.add]

theorem TypeImports.mem_names_recordAll {imports : TypeImports} {added : List (String × String)}
    {name : String} :
    name ∈ (imports.recordAll added).names ↔ name ∈ imports.names ∨ name ∈ added.map Prod.fst := by
  induction added generalizing imports with
  | nil => simp [recordAll]
  | cons entry rest ih =>
    have hrest := @ih (imports.record entry.1 entry.2)
    rw [List.map_cons, List.mem_cons, ← or_assoc, ← mem_names_record]
    exact hrest

/-- What is under a key after some additions follows from what was there before. -/
theorem Registry.get?_addAll {registry registry' : Registry} {key : String}
    (h : Table.get? registry key = Table.get? registry' key) (added : List Registration) :
    Table.get? (registry.addAll added) key = Table.get? (registry'.addAll added) key := by
  induction added generalizing registry registry' with
  | nil => exact h
  | cons entry rest ih =>
    apply ih
    unfold add
    rw [Table.get?_insert, Table.get?_insert]
    split
    · rename_i hsame
      rw [hsame, h]
    · exact h

/-! ## Runs -/

theorem runPass_additions {α : Type} {pass : Pass α} (h : Additive PassState.add pass) :
    ∃ result imports maps, ∀ engine log, ∃ log', runPass pass (engine, log)
      = (result, { engine with
          typeImports := engine.typeImports.recordAll imports
          registry := engine.registry.addAll maps }, log') := by
  obtain ⟨result, added, hadds⟩ := h.adds
  obtain ⟨imports, maps, emissions, hadded⟩ := PassState.foldl_add added
  refine ⟨result.map fun a => (a, emissions), imports, maps, fun engine log => ?_⟩
  obtain ⟨himports, hmaps, hemissions⟩ := hadded
    { journal := { typeImports := engine.typeImports, log }, registry := engine.registry }
  unfold runPass
  dsimp only at himports hmaps hemissions ⊢
  rw [hadds]
  dsimp only
  rw [himports, hmaps, hemissions]
  exact ⟨_, rfl⟩

/-- A run has one result and adds the same things, whatever the engine did before. -/
theorem run_additions (tree : FileTree) (code file : String) (options : Options)
    (tables : Except Fault (Option ProjectIndex)) :
    ∃ result imports maps, ∀ engine log, Engine.options engine = options →
      engine.tablesIn tree = tables → ∃ project log', run tree code file (engine, log)
          = (result, { engine with
              typeImports := engine.typeImports.recordAll imports
              registry := engine.registry.addAll maps
              project }, log')
        ∧ (project = engine.project ∨ ∃ index, project = some index ∧ tables = .ok (some index)) := by
  unfold run
  cases hparse : Module.parse code with
  | error reason =>
    cases reason with
    | malformed => exact ⟨_, [], [], fun engine log _ _ => ⟨engine.project, log, rfl, .inl rfl⟩⟩
    | invalid => exact ⟨_, [], [], fun engine log _ _ => ⟨engine.project, log, rfl, .inl rfl⟩⟩
  | ok source =>
    dsimp only
    have hget (state : Engine × List LogRecord) :
        (get : EngineStep (Engine × List LogRecord)) state = (.ok state, state) := rfl
    cases hhost : ModuleSymbols.collect source (moduleNameFor options.pathToSource (Path.parse file)).1
        (moduleNameFor options.pathToSource (Path.parse file)).2 with
    | error fault =>
      refine ⟨.error fault, [], [], fun engine log hoptions _ => ⟨engine.project, log, ?_, .inl rfl⟩⟩
      subst hoptions
      rw [step_bind (hget _)]
      dsimp only
      rw [hhost]
      exact step_stop rfl
    | ok host =>
      cases tables with
      | error fault =>
        refine ⟨.error fault, [], [], fun engine log hoptions htables => ?_⟩
        subst hoptions
        obtain ⟨project, log', hindex, hproject⟩ := projectIndex_tablesIn tree engine log
        rw [htables] at hindex hproject
        refine ⟨project, log', ?_, hproject⟩
        rw [step_bind (hget _)]
        dsimp only
        rw [hhost, step_bind (engineStep_ofExcept ..)]
        exact step_stop hindex
      | ok index =>
        let site : Site := { oracle := { host, project := index }, options, file }
        obtain ⟨passed, imports, maps, hpass⟩ :=
          runPass_additions (Additive.passModule site (fileKey tree options file) source)
        refine ⟨reportOf options code <$> passed, imports, maps, fun engine log hoptions htables => ?_⟩
        subst hoptions
        obtain ⟨project, log', hindex, hproject⟩ := projectIndex_tablesIn tree engine log
        rw [htables] at hindex hproject
        obtain ⟨log'', hpassed⟩ := hpass { engine with project } log'
        refine ⟨project, log'', ?_, hproject⟩
        rw [step_bind (hget _)]
        dsimp only
        rw [hhost, step_bind (engineStep_ofExcept ..), step_bind hindex]
        cases passed with
        | error fault => exact step_stop hpassed
        | ok passed => exact step_bind hpassed

/-! ## Keys -/

/-- A run leaves alone what is under the keys of other files. -/
theorem run_apart (tree : FileTree) (code : String) {options : Options} {file other : String}
    (hkey : fileKey tree options file ≠ .ok other) {classes : Option (Table Expr)} :
    Maintains (fun state : Engine × List LogRecord =>
        state.1.options = options ∧ Table.get? state.1.registry other = classes)
      (run tree code file) fun _ => True := by
  refine maintains_run (I := fun registry => Table.get? registry other = classes) code
    fun key hsame _ className metadata registry hregistry => ?_
  have hne : key ≠ other := fun heq => hkey (heq ▸ hsame)
  exact (Table.get?_insert ..).trans ((if_neg hne).trans hregistry)

/-! ## Sequences of runs -/

def resultsOf : List Job → Engine × List LogRecord → List (Job × Except Fault RunResult)
  | [], _ => []
  | job :: rest, state =>
    (job, (run job.tree job.code job.file state).1)
      :: resultsOf rest (run job.tree job.code job.file state).2

/-- An engine that was `start` and has gone on from there: it has the same options and, for some trees,
the same tables, and it has lost no import. -/
structure Engine.GoesOn (tables : Except Fault (Option ProjectIndex)) (trees : List FileTree)
    (start engine : Engine) : Prop where
  options : engine.options = start.options
  tables : ∀ tree ∈ trees, engine.tablesIn tree = tables
  imports : ∀ name ∈ start.typeImports.names, name ∈ engine.typeImports.names

theorem runAll_cons (job : Job) (rest : List Job) (state : Engine × List LogRecord) :
    runAll (job :: rest) state = runAll rest (run job.tree job.code job.file state).2 := rfl

section

variable {tables : Except Fault (Option ProjectIndex)} {trees : List FileTree}
  {start state : Engine × List LogRecord}

/-- A run does for an engine that has gone on what it does at the start. -/
theorem run_alone_again {job : Job} (hjob : job.tree ∈ trees) (hstart : start.1.GoesOn tables trees start.1)
    (h : start.1.GoesOn tables trees state.1) :
    (run job.tree job.code job.file state).1 = (run job.tree job.code job.file start).1
      ∧ start.1.GoesOn tables trees (run job.tree job.code job.file state).2.1
      ∧ (∀ name, name ∈ (run job.tree job.code job.file state).2.1.typeImports.names
        ↔ name ∈ state.1.typeImports.names
          ∨ name ∈ (run job.tree job.code job.file start).2.1.typeImports.names)
      ∧ ∀ key, Table.get? state.1.registry key = Table.get? start.1.registry key →
        Table.get? (run job.tree job.code job.file state).2.1.registry key
          = Table.get? (run job.tree job.code job.file start).2.1.registry key := by
  obtain ⟨result, imports, maps, hruns⟩ :=
    run_additions job.tree job.code job.file start.1.options tables
  obtain ⟨project₀, log₀, hfirst, -⟩ := hruns start.1 start.2 rfl (hstart.tables job.tree hjob)
  obtain ⟨project, log, hrun, hproject⟩ := hruns state.1 state.2 h.options (h.tables job.tree hjob)
  rw [Prod.mk.eta] at hfirst hrun
  rw [hfirst, hrun]
  refine ⟨rfl, ⟨h.options, fun other hother => ?_, fun name hname => ?_⟩, fun name => ?_,
    fun key hkey => Registry.get?_addAll hkey maps⟩
  · rcases hproject with rfl | ⟨index, rfl, rfl⟩
    · exact h.tables other hother
    · rfl
  · exact TypeImports.mem_names_recordAll.2 (.inl (h.imports name hname))
  · rw [TypeImports.mem_names_recordAll, TypeImports.mem_names_recordAll, ← or_assoc]
    exact or_congr_left ⟨.inl, fun hname => hname.elim id (h.imports name)⟩

/-- In a sequence every run has the result that it has alone. -/
theorem resultsOf_eq {rest : List Job} (hrest : ∀ job ∈ rest, job.tree ∈ trees)
    (hstart : start.1.GoesOn tables trees start.1) (h : start.1.GoesOn tables trees state.1) :
    resultsOf rest state = rest.map fun job => (job, (run job.tree job.code job.file start).1) := by
  induction rest generalizing state with
  | nil => rfl
  | cons job rest ih =>
    obtain ⟨hresult, hlater, -, -⟩ := run_alone_again (hrest job List.mem_cons_self) hstart h
    have hothers := ih (fun other hother => hrest other (List.mem_cons_of_mem job hother)) hlater
    rw [resultsOf, List.map_cons, hresult, hothers]

/-- The names that a sequence leaves are those that its runs leave alone. -/
theorem mem_names_runAll {rest : List Job} (hrest : ∀ job ∈ rest, job.tree ∈ trees)
    (hstart : start.1.GoesOn tables trees start.1) (h : start.1.GoesOn tables trees state.1)
    (name : String) :
    name ∈ (runAll rest state).1.typeImports.names
      ↔ name ∈ state.1.typeImports.names ∨ ∃ job ∈ rest,
        name ∈ (run job.tree job.code job.file start).2.1.typeImports.names := by
  induction rest generalizing state with
  | nil => simp [runAll]
  | cons job rest ih =>
    obtain ⟨-, hlater, hnames, -⟩ := run_alone_again (hrest job List.mem_cons_self) hstart h
    have hothers := ih (fun other hother => hrest other (List.mem_cons_of_mem job hother)) hlater
    rw [runAll_cons, hothers, hnames]
    simp only [List.mem_cons, exists_eq_or_imp, or_assoc]

/-- A sequence leaves alone what is under the keys of other files. -/
theorem runAll_apart {rest : List Job} {key : String}
    (hkeys : ∀ job ∈ rest, fileKey job.tree start.1.options job.file ≠ .ok key)
    (hoptions : state.1.options = start.1.options) :
    Table.get? (runAll rest state).1.registry key = Table.get? state.1.registry key := by
  induction rest generalizing state with
  | nil => rfl
  | cons job rest ih =>
    obtain ⟨hsame, hkept⟩ :=
      (run_apart job.tree job.code (hkeys job List.mem_cons_self)).state ⟨hoptions, rfl⟩
    rw [runAll_cons, ← hkept]
    exact ih (fun other hother => hkeys other (List.mem_cons_of_mem job hother)) hsame

def Apart (options : Options) (job other : Job) : Prop :=
  ∀ key, fileKey job.tree options job.file = .ok key →
    fileKey other.tree options other.file ≠ .ok key

/-- What a sequence leaves under the key of a file is what the run over it leaves alone. -/
theorem runAll_of_key {rest : List Job} (hrest : ∀ job ∈ rest, job.tree ∈ trees)
    (hstart : start.1.GoesOn tables trees start.1) (h : start.1.GoesOn tables trees state.1)
    (hapart : rest.Pairwise (Apart start.1.options)) {job : Job} (hjob : job ∈ rest) {key : String}
    (hkey : fileKey job.tree start.1.options job.file = .ok key)
    (hbefore : Table.get? state.1.registry key = Table.get? start.1.registry key) :
    Table.get? (runAll rest state).1.registry key
      = Table.get? (run job.tree job.code job.file start).2.1.registry key := by
  induction rest generalizing state with
  | nil => cases hjob
  | cons first rest ih =>
    obtain ⟨hfirst, hothers⟩ := List.pairwise_cons.1 hapart
    obtain ⟨-, hlater, -, hclasses⟩ := run_alone_again (hrest first List.mem_cons_self) hstart h
    rw [runAll_cons]
    rcases List.mem_cons.1 hjob with rfl | hjob
    · rw [← hclasses key hbefore]
      exact runAll_apart (fun other hother => hfirst other hother key hkey) hlater.options
    · have hne : fileKey first.tree start.1.options first.file ≠ .ok key :=
        fun hsame => hfirst job hjob key hsame hkey
      obtain ⟨-, hkept⟩ := (run_apart first.tree first.code hne).state ⟨h.options, hbefore⟩
      exact ih (fun other hother => hrest other (List.mem_cons_of_mem first hother)) hlater hothers
        hjob hkept

end

/-- The order of runs over files with keys of their own shows neither in the maps under any key, nor in
the names of imported types, nor in the results, if the tables of the source tree are the same for all. -/
theorem runs_reordered {start : Engine × List LogRecord}
    {tables : Except Fault (Option ProjectIndex)} {jobs jobs' : List Job}
    (htables : ∀ job ∈ jobs, start.1.tablesIn job.tree = tables)
    (hapart : jobs.Pairwise (Apart start.1.options)) (horder : jobs.Perm jobs') :
    (∀ key, Table.get? (runAll jobs start).1.registry key
        = Table.get? (runAll jobs' start).1.registry key)
      ∧ (∀ name, name ∈ (runAll jobs start).1.typeImports.names
        ↔ name ∈ (runAll jobs' start).1.typeImports.names)
      ∧ (resultsOf jobs start).Perm (resultsOf jobs' start) := by
  have hstart : start.1.GoesOn tables (jobs.map Job.tree) start.1 :=
    ⟨rfl, List.forall_mem_map.2 htables, fun _ h => h⟩
  have hall : ∀ job ∈ jobs, job.tree ∈ jobs.map Job.tree := fun _ h => List.mem_map_of_mem h
  have hall' : ∀ job ∈ jobs', job.tree ∈ jobs.map Job.tree := fun job h => hall job (horder.mem_iff.2 h)
  have hapart' : jobs'.Pairwise (Apart start.1.options) :=
    horder.pairwise hapart fun hjob key hother hsame => hjob key hsame hother
  refine ⟨fun key => ?_, fun name => ?_, ?_⟩
  · by_cases hkey : ∃ job ∈ jobs, fileKey job.tree start.1.options job.file = .ok key
    · obtain ⟨job, hjob, hkey⟩ := hkey
      rw [runAll_of_key hall hstart hstart hapart hjob hkey rfl,
        runAll_of_key hall' hstart hstart hapart' (horder.mem_iff.1 hjob) hkey rfl]
    · have hnone : ∀ job ∈ jobs, fileKey job.tree start.1.options job.file ≠ .ok key :=
        fun job hjob hsame => hkey ⟨job, hjob, hsame⟩
      rw [runAll_apart hnone rfl,
        runAll_apart (fun job hjob => hnone job (horder.mem_iff.2 hjob)) rfl]
  · rw [mem_names_runAll hall hstart hstart, mem_names_runAll hall' hstart hstart]
    simp only [horder.mem_iff]
  · rw [resultsOf_eq hall hstart hstart, resultsOf_eq hall' hstart hstart]
    exact horder.map _

def Linked.beside : Job := { Linked.job with file := "/src/n.py" }

def Linked.start : Engine × List LogRecord := ({ options := Linked.options }, [])

/-- Two files with a class of one name. Whichever is run first, the class of the first file is under its
key, and the class of the other one is not. -/
theorem runs_reordered_of_linked :
    Table.get? (runAll [Linked.beside, Linked.job] Linked.start).1.registry "./m.py"
      = some ⟨[("A", Linked.metadata)]⟩ := by
  have htables : ∀ job ∈ [Linked.job, Linked.beside],
      Linked.start.1.tablesIn job.tree = .ok none := by
    have hnone : Linked.start.1.tablesIn Linked.job.tree = .ok none := by cbv
    simp [Linked.beside, hnone]
  have hkey : fileKey Linked.job.tree Linked.start.1.options Linked.job.file = .ok "./m.py" := by cbv
  have hother : fileKey Linked.job.tree Linked.start.1.options "/src/n.py" = .ok "./n.py" := by cbv
  have hapart : [Linked.job, Linked.beside].Pairwise (Apart Linked.start.1.options) := by
    simp [Apart, Linked.beside, hkey, hother]
  have hstart : Linked.start.1.GoesOn (.ok none) [Linked.job.tree] Linked.start.1 :=
    ⟨rfl, List.forall_mem_singleton.2 (htables Linked.job List.mem_cons_self), fun _ h => h⟩
  have htree : ∀ job ∈ [Linked.job, Linked.beside], job.tree ∈ [Linked.job.tree] := by
    simp [Linked.beside]
  have halone := runAll_of_key htree hstart hstart hapart List.mem_cons_self hkey rfl
  have hafter : (run Linked.job.tree Linked.job.code Linked.job.file Linked.start).2 = _ :=
    Linked.runAll_job
  rw [hafter] at halone
  exact ((runs_reordered htables hapart (.swap ..)).1 "./m.py").symm.trans halone

end ModelMetadata
