import ModelMetadata.Engine
import ModelMetadata.Proofs.Augmenting
import ModelMetadata.Proofs.Indexing

/-!
The pass over its own result. What a first run leaves is left alone by a second one exactly when no map
changes by moving the factories of its class to the end of the body: neither the symbols of the
module nor inner classes, functions or the form of a suite can make a difference. A body that already
ends with its only factory has nothing to move, so the result of a second run is final.
-/
set_option autoImplicit false
namespace ModelMetadata

open Source

/-! ## The tree after a run -/

/-- The place of a file: its own symbols and those of its source tree. -/
def siteOf (project : Option ProjectIndex) (options : Options) (file : String) (source : Module) :
    Except Fault Site := do
  let name := moduleNameFor options.pathToSource (Path.parse file)
  let host ← ModuleSymbols.collect source name.1 name.2
  return { oracle := { host, project }, options, file }

def augmented (project : Option ProjectIndex) (options : Options) (file : String)
    (key : Except Fault String) (source : Module) : Except Fault Module := do
  let site ← siteOf project options file source
  (passModule site key source {}).1

/-! ## Models -/

mutual

/-- The models among the classes of a statement, each with its body. The factories of a model are
replaced, so that no class inside them counts. -/
def modelsOf (site : Site) : Statement → List (ClassHead × Suite)
  | .line _ _ => []
  | .classDef head body =>
    match isModel site head.positionalBases with
    | .ok true => (head, body) :: modelsOfSuite site true body
    | _ => modelsOfSuite site false body
  | .functionDef _ body => modelsOfSuite site false body
  | .compound clauses => modelsOfClauses site clauses

def modelsOfAll (site : Site) (replaces : Bool) : List Statement → List (ClassHead × Suite)
  | [] => []
  | statement :: rest =>
    (if replaces && isFactory statement then [] else modelsOf site statement)
      ++ modelsOfAll site replaces rest

def modelsOfClauses (site : Site) : List Clause → List (ClassHead × Suite)
  | [] => []
  | .mk _ _ body :: rest => modelsOfSuite site false body ++ modelsOfClauses site rest

def modelsOfSuite (site : Site) (replaces : Bool) : Suite → List (ClassHead × Suite)
  | .block _ _ body _ => modelsOfAll site replaces body
  | .inline _ _ => []

end

/-- The body as a run leaves it, but for the map in the factory and for inner definitions. -/
def Source.Suite.relaid (body : Suite) : Suite := withFactory .ellipsis body

/-- A class whose map stays what it is when a factory takes the last place in its body. -/
def Settled (site : Site) (found : ClassHead × Suite) : Prop :=
  classMap site found.1 found.2.relaid = classMap site found.1 found.2

/-! ## Statements that a run leaves alone -/

def Fixed (site : Site) (statement : Statement) : Prop :=
  augmentStatement site statement = .ok statement

theorem fixed_line (site : Site) (above : List EmptyLine) (line : SmallLine) :
    Fixed site (.line above line) := rfl

theorem fixed_factory (site : Site) (metadata : Expr) : Fixed site (factoryFor metadata) := rfl

theorem augmentStatements_append (site : Site) (first rest : List Statement) :
    augmentStatements site (first ++ rest) = (do
      let first ← augmentStatements site first
      return first ++ (← augmentStatements site rest)) := by
  induction first with
  | nil => simp [augmentStatements]
  | cons statement others ih => simp [augmentStatements, ih]

theorem augmentStatements_eq_self (site : Site) (statements : List Statement) :
    augmentStatements site statements = .ok statements ↔ ∀ s ∈ statements, Fixed site s := by
  induction statements with
  | nil => exact ⟨fun _ => nofun, fun _ => rfl⟩
  | cons statement rest ih =>
    constructor
    · intro h
      obtain ⟨first, hfirst, h⟩ := bind_eq_ok.1 h
      obtain ⟨others, hothers, h⟩ := bind_eq_ok.1 h
      obtain ⟨rfl, rfl⟩ := List.cons.inj (Except.ok.inj h)
      exact List.forall_mem_cons.2 ⟨hfirst, ih.1 hothers⟩
    · intro h
      have hfirst := h statement List.mem_cons_self
      have hothers := ih.2 fun s hs => h s (List.mem_cons_of_mem statement hs)
      exact bind_eq_ok.2 ⟨statement, hfirst, bind_eq_ok.2 ⟨rest, hothers, rfl⟩⟩

theorem augmentSuite_eq_self (site : Site) (body : Suite) :
    augmentSuite site body = .ok body ↔ ∀ s ∈ body.statements, Fixed site s := by
  cases body with
  | block tail step statements footer =>
    rw [Suite.statements, ← augmentStatements_eq_self]
    constructor
    · intro h
      obtain ⟨inner, hinner, h⟩ := bind_eq_ok.1 h
      cases h
      exact hinner
    · intro h
      exact bind_eq_ok.2 ⟨statements, h, rfl⟩
  | «inline» gap line =>
    refine ⟨fun _ s hs => ?_, fun _ => rfl⟩
    rw [List.mem_singleton.1 hs]
    exact fixed_line ..

theorem factoryFor_injective {metadata metadata' : Expr}
    (h : factoryFor metadata = factoryFor metadata') : metadata = metadata' := by
  simp only [factoryFor, Statement.function, Statement.ofSmall] at h
  cases h
  rfl

theorem isFactory_of_outline {statements updated : List Statement}
    (h : updated.map Statement.outline = statements.map Statement.outline)
    (hnone : ∀ s ∈ statements, isFactory s = false) : ∀ s ∈ updated, isFactory s = false := by
  intro s hs
  have hmem : s.outline ∈ statements.map Statement.outline := h ▸ List.mem_map_of_mem hs
  obtain ⟨original, horiginal, hsame⟩ := List.mem_map.1 hmem
  rw [← isFactory_outline, ← hsame, isFactory_outline, hnone original horiginal]

theorem augmentClass_model {site : Site} {head : ClassHead}
    (hmodel : isModel site head.positionalBases = .ok true) (body updated : Suite) :
    augmentClass site head body updated
      = (fun metadata => withFactory metadata updated) <$> classMap site head body := by
  unfold augmentClass
  rw [hmodel]
  cases classMap site head body <;> rfl

theorem augmentClass_other {site : Site} {head : ClassHead}
    (hother : isModel site head.positionalBases = .ok false) (body updated : Suite) :
    augmentClass site head body updated = .ok updated := by
  unfold augmentClass
  rw [hother]
  rfl

/-- A model whose only factory is the last statement of its body stays as it is exactly when the other
statements do and the factory returns the map. -/
theorem fixed_model {site : Site} {head : ClassHead}
    (hmodel : isModel site head.positionalBases = .ok true) {tail : LineTail} {step : Option String}
    {statements : List Statement} {footer : List EmptyLine} {metadata : Expr}
    (hothers : ∀ s ∈ statements, isFactory s = false) :
    Fixed site (.classDef head (.block tail step (statements ++ [factoryFor metadata]) footer))
      ↔ (∀ s ∈ statements, Fixed site s)
        ∧ classMap site head (.block tail step (statements ++ [factoryFor metadata]) footer)
          = .ok metadata := by
  have hkept {others : List Statement} (h : ∀ s ∈ others, isFactory s = false) (last : Expr) :
      (others ++ [factoryFor last]).filter (fun s => !isFactory s) = others := by
    rw [List.filter_append, List.filter_eq_self.2 fun s hs => by rw [h s hs]; rfl]
    exact List.append_nil others
  constructor
  · intro h
    obtain ⟨updated, hupdated, h⟩ := bind_eq_ok.1 h
    obtain ⟨body, hbody, h⟩ := bind_eq_ok.1 h
    rw [augmentClass_model hmodel] at hbody
    obtain ⟨found, hfound, rfl⟩ := map_eq_ok.1 hbody
    obtain ⟨inner, hinner, hupdated⟩ := bind_eq_ok.1 hupdated
    cases hupdated
    have hbodies := congrArg Suite.statements (Statement.classDef.inj (Except.ok.inj h)).2
    rw [statements_withFactory] at hbodies
    simp only [Suite.statements] at hbodies
    obtain ⟨hrest, hlast⟩ := List.append_inj' hbodies rfl
    rw [augmentStatements_append] at hinner
    obtain ⟨others, hrestupdated, hinner⟩ := bind_eq_ok.1 hinner
    obtain rfl : inner = others ++ [factoryFor metadata] := (Except.ok.inj hinner).symm
    rw [hkept (isFactory_of_outline (augmentStatements_outline hrestupdated) hothers)] at hrest
    subst hrest
    obtain rfl := factoryFor_injective (List.cons.inj hlast).1
    exact ⟨(augmentStatements_eq_self ..).1 hrestupdated, hfound⟩
  · rintro ⟨hfixed, hmap⟩
    have hinner : augmentStatements site (statements ++ [factoryFor metadata])
        = .ok (statements ++ [factoryFor metadata]) := by
      rw [augmentStatements_eq_self]
      exact List.forall_mem_append.2 ⟨hfixed, by simp [fixed_factory]⟩
    refine bind_eq_ok.2 ⟨_, bind_eq_ok.2 ⟨_, hinner, rfl⟩, bind_eq_ok.2 ⟨_, ?_, rfl⟩⟩
    rw [augmentClass_model hmodel]
    refine map_eq_ok.2 ⟨metadata, hmap, ?_⟩
    simp only [withFactory, Suite.statements, hkept hothers]

/-- A class that is no model stays as it is exactly when its statements do. -/
theorem fixed_other {site : Site} {head : ClassHead}
    (hother : isModel site head.positionalBases = .ok false) (body : Suite) :
    Fixed site (.classDef head body) ↔ ∀ s ∈ body.statements, Fixed site s := by
  rw [← augmentSuite_eq_self]
  constructor
  · intro h
    obtain ⟨updated, hupdated, h⟩ := bind_eq_ok.1 h
    rw [augmentClass_other hother] at h
    cases h
    exact hupdated
  · intro h
    refine bind_eq_ok.2 ⟨body, h, ?_⟩
    rw [augmentClass_other hother]
    rfl

theorem fixed_function (site : Site) (head : FunctionHead) (body : Suite) :
    Fixed site (.functionDef head body) ↔ ∀ s ∈ body.statements, Fixed site s := by
  rw [← augmentSuite_eq_self]
  constructor
  · intro h
    obtain ⟨updated, hupdated, h⟩ := bind_eq_ok.1 h
    cases h
    exact hupdated
  · intro h
    exact bind_eq_ok.2 ⟨body, h, rfl⟩

theorem fixed_compound (site : Site) (clauses : List Clause) :
    Fixed site (.compound clauses) ↔ augmentClauses site clauses = .ok clauses := by
  constructor
  · intro h
    obtain ⟨updated, hupdated, h⟩ := bind_eq_ok.1 h
    cases h
    exact hupdated
  · intro h
    exact bind_eq_ok.2 ⟨clauses, h, rfl⟩

theorem augmentClauses_cons_eq_self (site : Site) (above : List EmptyLine) (head : ClauseHead)
    (body : Suite) (rest : List Clause) :
    augmentClauses site (.mk above head body :: rest) = .ok (.mk above head body :: rest)
      ↔ (∀ s ∈ body.statements, Fixed site s) ∧ augmentClauses site rest = .ok rest := by
  rw [← augmentSuite_eq_self]
  constructor
  · intro h
    obtain ⟨first, hfirst, h⟩ := bind_eq_ok.1 h
    obtain ⟨others, hothers, h⟩ := bind_eq_ok.1 h
    cases h
    exact ⟨hfirst, hothers⟩
  · rintro ⟨hfirst, hothers⟩
    exact bind_eq_ok.2 ⟨body, hfirst, bind_eq_ok.2 ⟨rest, hothers, rfl⟩⟩

/-! ## The second run -/

theorem withFactory_eq_block (metadata : Expr) (body : Suite) :
    ∃ tail step footer, withFactory metadata body
      = .block tail step (body.statements.filter (fun s => !isFactory s) ++ [factoryFor metadata])
        footer := by
  cases body with
  | block tail step statements footer => exact ⟨tail, step, footer, rfl⟩
  | «inline» gap line => exact ⟨{}, none, [], rfl⟩

/-- The map of a class after a run is that of its body with the factory at the end. -/
theorem classMap_withFactory {site : Site} {body updated : Suite}
    (hupdated : augmentSuite site body = .ok updated) (head : ClassHead) (metadata : Expr) :
    classMap site head (withFactory metadata updated) = classMap site head body.relaid := by
  refine classMap_of_outline ?_ site head
  rw [Suite.relaid, statements_withFactory, statements_withFactory, List.map_append,
    List.map_append, filter_outline, filter_outline, augmentSuite_outline hupdated]
  rfl

/-- A model that a run has updated stays as it is exactly when the statements kept from its body do
and its map is settled. -/
theorem fixed_updated {site : Site} {head : ClassHead}
    (hmodel : isModel site head.positionalBases = .ok true) {body updated : Suite} {metadata : Expr}
    (hupdated : augmentSuite site body = .ok updated)
    (hmap : classMap site head body = .ok metadata) :
    Fixed site (.classDef head (withFactory metadata updated))
      ↔ (∀ s ∈ updated.statements, (true && isFactory s) = false → Fixed site s)
        ∧ Settled site (head, body) := by
  obtain ⟨tail, step, footer, hblock⟩ := withFactory_eq_block metadata updated
  have hlaid := classMap_withFactory hupdated head metadata
  rw [hblock] at hlaid ⊢
  rw [fixed_model hmodel fun s hs => by simpa using (List.mem_filter.1 hs).2, hlaid]
  refine and_congr ?_ ?_
  · simp only [List.mem_filter, Bool.true_and, Bool.not_eq_true', and_imp]
  · rw [Settled, hmap]

mutual

theorem fixed_iff_settled {site : Site} {statement updated : Statement}
    (hupdated : augmentStatement site statement = .ok updated) :
    Fixed site updated ↔ ∀ found ∈ modelsOf site statement, Settled site found := by
  cases statement with
  | line above line =>
    cases hupdated
    simp [modelsOf, fixed_line]
  | classDef head body =>
    obtain ⟨inner, hinner, hupdated⟩ := bind_eq_ok.1 hupdated
    obtain ⟨outer, houter, hupdated⟩ := bind_eq_ok.1 hupdated
    cases hupdated
    cases hmodel : isModel site head.positionalBases with
    | error fault =>
      unfold augmentClass at houter
      rw [hmodel] at houter
      cases houter
    | ok model =>
      cases model with
      | true =>
        rw [augmentClass_model hmodel] at houter
        obtain ⟨metadata, hmap, rfl⟩ := map_eq_ok.1 houter
        have hsuite := fixedSuite_iff_settled true hinner
        rw [fixed_updated hmodel hinner hmap, hsuite, modelsOf, hmodel, List.forall_mem_cons,
          and_comm]
      | false =>
        rw [augmentClass_other hmodel] at houter
        cases houter
        have hsuite := fixedSuite_iff_settled false hinner
        rw [fixed_other hmodel, modelsOf, hmodel, ← hsuite]
        simp
  | functionDef head body =>
    obtain ⟨inner, hinner, hupdated⟩ := bind_eq_ok.1 hupdated
    cases hupdated
    have hsuite := fixedSuite_iff_settled false hinner
    rw [fixed_function, modelsOf, ← hsuite]
    simp
  | compound clauses =>
    obtain ⟨inner, hinner, hupdated⟩ := bind_eq_ok.1 hupdated
    cases hupdated
    rw [fixed_compound, modelsOf, ← fixedClauses_iff_settled hinner]
termination_by structural statement

theorem fixedAll_iff_settled {site : Site} (replaces : Bool) {statements updated : List Statement}
    (hupdated : augmentStatements site statements = .ok updated) :
    (∀ s ∈ updated, (replaces && isFactory s) = false → Fixed site s)
      ↔ ∀ found ∈ modelsOfAll site replaces statements, Settled site found := by
  cases statements with
  | nil =>
    cases hupdated
    simp [modelsOfAll]
  | cons statement rest =>
    obtain ⟨first, hfirst, hupdated⟩ := bind_eq_ok.1 hupdated
    obtain ⟨others, hothers, hupdated⟩ := bind_eq_ok.1 hupdated
    cases hupdated
    have hsame : isFactory first = isFactory statement := by
      rw [← isFactory_outline, augmentStatement_outline hfirst, isFactory_outline]
    rw [List.forall_mem_cons, modelsOfAll, List.forall_mem_append,
      fixedAll_iff_settled replaces hothers, fixed_iff_settled hfirst, hsame]
    refine and_congr ?_ Iff.rfl
    cases replaces && isFactory statement <;> simp
termination_by structural statements

theorem fixedClauses_iff_settled {site : Site} {clauses updated : List Clause}
    (hupdated : augmentClauses site clauses = .ok updated) :
    augmentClauses site updated = .ok updated
      ↔ ∀ found ∈ modelsOfClauses site clauses, Settled site found := by
  match clauses with
  | [] =>
    cases hupdated
    exact ⟨fun _ => nofun, fun _ => rfl⟩
  | .mk above head body :: rest =>
    obtain ⟨first, hfirst, hupdated⟩ := bind_eq_ok.1 hupdated
    obtain ⟨others, hothers, hupdated⟩ := bind_eq_ok.1 hupdated
    cases hupdated
    rw [augmentClauses_cons_eq_self, modelsOfClauses, List.forall_mem_append,
      ← fixedClauses_iff_settled hothers, ← fixedSuite_iff_settled false hfirst]
    simp
termination_by structural clauses

theorem fixedSuite_iff_settled {site : Site} (replaces : Bool) {body updated : Suite}
    (hupdated : augmentSuite site body = .ok updated) :
    (∀ s ∈ updated.statements, (replaces && isFactory s) = false → Fixed site s)
      ↔ ∀ found ∈ modelsOfSuite site replaces body, Settled site found := by
  cases body with
  | block tail step statements footer =>
    obtain ⟨inner, hinner, hupdated⟩ := bind_eq_ok.1 hupdated
    cases hupdated
    exact fixedAll_iff_settled replaces hinner
  | «inline» gap line =>
    cases hupdated
    simp [modelsOfSuite, Suite.statements, fixed_line]
termination_by structural body

end

/-! ## Runs -/

theorem passModule_gives {site : Site} (hwrites : site.options.readonly = false)
    (key : Except Fault String) (source : Module) :
    Gives (passModule site key source)
      ((fun body => { source with body }) <$> augmentStatements site source.body) := by
  rw [map_eq_pure_bind]
  exact .bind (passStatements_gives hwrites key [] true source.body) fun _ => .pure _

theorem augmentClass_of_forget {site site' : Site} (h : site'.forget = site.forget)
    (head : ClassHead) (body updated : Suite) :
    augmentClass site' head body updated = augmentClass site head body updated := by
  have hmap : classMap site' head body = classMap site head body := by
    unfold classMap
    rw [← classMetadata_forget site', h, classMetadata_forget]
  unfold augmentClass
  rw [← isModel_forget site', h, isModel_forget, hmap]

def SameFactories (site site' : Site) : Prop :=
  ∀ head body updated, augmentClass site' head body updated = augmentClass site head body updated

mutual

theorem augmentStatement_congr {site site' : Site} (h : SameFactories site site')
    (statement : Statement) : augmentStatement site' statement = augmentStatement site statement := by
  cases statement with
  | line above line => rfl
  | classDef head body =>
    simp only [augmentStatement, augmentSuite_congr h body, h head body]
  | functionDef head body => simp only [augmentStatement, augmentSuite_congr h body]
  | compound clauses => simp only [augmentStatement, augmentClauses_congr h clauses]
termination_by structural statement

theorem augmentStatements_congr {site site' : Site} (h : SameFactories site site')
    (statements : List Statement) :
    augmentStatements site' statements = augmentStatements site statements := by
  cases statements with
  | nil => rfl
  | cons statement rest =>
    simp only [augmentStatements, augmentStatement_congr h statement,
      augmentStatements_congr h rest]
termination_by structural statements

theorem augmentClauses_congr {site site' : Site} (h : SameFactories site site')
    (clauses : List Clause) : augmentClauses site' clauses = augmentClauses site clauses := by
  match clauses with
  | [] => rfl
  | .mk above head body :: rest =>
    simp only [augmentClauses, augmentSuite_congr h body, augmentClauses_congr h rest]
termination_by structural clauses

theorem augmentSuite_congr {site site' : Site} (h : SameFactories site site')
    (body : Suite) : augmentSuite site' body = augmentSuite site body := by
  cases body with
  | block tail step statements footer =>
    simp only [augmentSuite, augmentStatements_congr h statements]
  | «inline» gap line => rfl
termination_by structural body

end

theorem augmentStatements_of_forget {site site' : Site} (h : site'.forget = site.forget)
    (statements : List Statement) :
    augmentStatements site' statements = augmentStatements site statements :=
  augmentStatements_congr (augmentClass_of_forget h) statements

section

variable {project : Option ProjectIndex} {options : Options} {file : String}
  {key : Except Fault String} {source updated : Module} {site : Site}

theorem siteOf_options (hsite : siteOf project options file source = .ok site) :
    site.options = options := by
  obtain ⟨host, -, h⟩ := bind_eq_ok.1 hsite
  cases h
  rfl

theorem augmented_eq (hwrites : options.readonly = false)
    (hsite : siteOf project options file source = .ok site) :
    augmented project options file key source
      = (fun body => { source with body }) <$> augmentStatements site source.body := by
  unfold augmented
  rw [hsite]
  exact (passModule_gives ((siteOf_options hsite).symm ▸ hwrites) key source).gives {}

theorem runPass_eq {α : Type} {pass : Pass α} {result : Except Fault α} (h : Gives pass result)
    (state : Engine × List LogRecord) :
    ∃ classes state', runPass pass state = (result.map fun a => (a, classes), state') := by
  obtain ⟨engine, log⟩ := state
  let start : PassState :=
    { journal := { typeImports := engine.typeImports, log }, registry := engine.registry }
  refine ⟨(pass start).2.emissions, (runPass pass (engine, log)).2, Prod.ext ?_ rfl⟩
  change Except.map _ (pass start).1 = _
  rw [h.gives]

def reportOf (options : Options) (code : String) (passed : Module × List (String × ClassEmission)) :
    RunResult :=
  { code := if options.readonly then code else passed.1.render, classes := passed.2 }

/-- A run over a module ends where its symbols or the tables of the source tree cannot be read, and
with a pass otherwise. -/
theorem run_cases {tree : FileTree} {code : String} (hparse : Module.parse code = .ok source)
    (file : String) (before : Engine × List LogRecord) :
    (∃ fault, ModuleSymbols.collect source
          (moduleNameFor before.1.options.pathToSource (Path.parse file)).1
          (moduleNameFor before.1.options.pathToSource (Path.parse file)).2 = .error fault
        ∧ run tree code file before = (.error fault, before))
      ∨ (∃ fault middle, projectIndex tree before = (.error fault, middle)
        ∧ run tree code file before = (.error fault, middle))
      ∨ ∃ project middle site, projectIndex tree before = (.ok project, middle)
        ∧ siteOf project before.1.options file source = .ok site
        ∧ run tree code file before
          = (runPass (passModule site (fileKey tree before.1.options file) source) >>=
              fun passed => pure (reportOf before.1.options code passed)) middle := by
  have hget : (get : EngineStep (Engine × List LogRecord)) before = (.ok before, before) := rfl
  unfold run
  rw [hparse]
  dsimp only
  rw [step_bind hget]
  cases hhost : ModuleSymbols.collect source
      (moduleNameFor before.1.options.pathToSource (Path.parse file)).1
      (moduleNameFor before.1.options.pathToSource (Path.parse file)).2 with
  | error fault =>
    rw [step_stop (engineStep_ofExcept ..)]
    exact .inl ⟨fault, rfl, rfl⟩
  | ok host =>
    rw [step_bind (engineStep_ofExcept ..)]
    rcases hproject : projectIndex tree before with ⟨project?, middle⟩
    cases project? with
    | error fault =>
      rw [step_stop hproject]
      exact .inr (.inl ⟨fault, middle, rfl, rfl⟩)
    | ok project =>
      rw [step_bind hproject]
      have hsite : siteOf project before.1.options file source
          = .ok { oracle := { host, project }, options := before.1.options, file } :=
        bind_eq_ok.2 ⟨host, hhost, rfl⟩
      exact .inr (.inr ⟨project, middle, _, rfl, hsite, rfl⟩)

/-- A run that reads a tree writes the text of the tree after the pass. -/
theorem run_code {tree : FileTree} {engine engine' : Engine} {log log' : List LogRecord}
    {code : String} (hwrites : engine.options.readonly = false)
    (hparse : Module.parse code = .ok source)
    (hproject : projectIndex tree (engine, log) = (.ok project, engine', log')) :
    RunResult.code <$> (run tree code file (engine, log)).1
      = Module.render <$>
          augmented project engine.options file (fileKey tree engine.options file) source := by
  rcases run_cases hparse file (engine, log) with ⟨fault, hhost, hrun⟩ | ⟨fault, middle, hindex, hrun⟩
    | ⟨project', middle, site, hindex, hsite, hrun⟩
  · unfold augmented siteOf
    dsimp only at hhost ⊢
    rw [hrun, hhost]
    rfl
  · rw [hproject] at hindex
    cases hindex
  · rw [hproject] at hindex
    cases hindex
    have hgives := passModule_gives ((siteOf_options hsite).symm ▸ hwrites)
      (fileKey tree engine.options file) source
    obtain ⟨classes, state, hpass⟩ := runPass_eq hgives (engine', log')
    rw [hrun, augmented_eq hwrites hsite]
    generalize (_ <$> augmentStatements _ source.body : Except Fault Module) = result at hpass ⊢
    cases result with
    | error fault =>
      rw [step_stop hpass]
      rfl
    | ok updated =>
      rw [step_bind hpass]
      simp only [reportOf, hwrites]
      rfl

/-- The symbols of the tree that results are those of the tree before, up to members of classes. -/
theorem siteOf_updated {body : List Statement}
    (hsite : siteOf project options file source = .ok site)
    (hbody : augmentStatements site source.body = .ok body) :
    ∃ site', siteOf project options file { source with body } = .ok site'
      ∧ site'.forget = site.forget := by
  obtain ⟨host, hhost, h⟩ := bind_eq_ok.1 hsite
  cases h
  have hagree := ModuleSymbols.collect_agree hbody
    (moduleNameFor options.pathToSource (Path.parse file)).1
    (moduleNameFor options.pathToSource (Path.parse file)).2
  unfold ModuleSymbols.Agree at hagree
  rw [hhost] at hagree
  obtain ⟨host', hhost', hforget⟩ := map_eq_ok.1 hagree
  refine ⟨_, bind_eq_ok.2 ⟨host', hhost', rfl⟩, ?_⟩
  simp only [Site.forget, Oracle.forget, hforget]

theorem augmented_eq_self {body : List Statement} (hwrites : options.readonly = false)
    (hsite : siteOf project options file source = .ok site)
    (hbody : augmentStatements site source.body = .ok body) :
    augmented project options file key { source with body } = .ok { source with body }
      ↔ ∀ s ∈ body, Fixed site s := by
  obtain ⟨site', hsite', hforget⟩ := siteOf_updated hsite hbody
  rw [augmented_eq hwrites hsite', augmentStatements_of_forget hforget, ← augmentStatements_eq_self]
  constructor
  · intro h
    obtain ⟨again, hagain, h⟩ := map_eq_ok.1 h
    rw [hagain]
    exact congrArg (fun found : Module => Except.ok found.body) h
  · intro h
    exact map_eq_ok.2 ⟨body, h, rfl⟩

end

/-! ## The third run -/

theorem settled_withFactory (site : Site) (head : ClassHead) (metadata : Expr) (body : Suite) :
    Settled site (head, withFactory metadata body) := by
  refine classMap_of_outline ?_ site head
  rw [Suite.relaid, statements_withFactory, statements_withFactory, List.filter_append,
    List.filter_filter]
  have hlast : [factoryFor metadata].filter (fun s => !isFactory s) = [] := rfl
  simp only [Bool.and_self, List.map_append, hlast, List.append_nil]
  rfl

theorem modelsOfSuite_eq (site : Site) (replaces : Bool) (body : Suite) :
    modelsOfSuite site replaces body = modelsOfAll site replaces body.statements := by
  cases body with
  | block tail step statements footer => rfl
  | «inline» gap line => simp [modelsOfSuite, Suite.statements, modelsOfAll, modelsOf]

theorem modelsOfAll_replaced (site : Site) (metadata : Expr) (statements : List Statement) :
    modelsOfAll site true
        (statements.filter (fun statement => !isFactory statement) ++ [factoryFor metadata])
      = modelsOfAll site true statements := by
  induction statements with
  | nil => rfl
  | cons statement rest ih =>
    cases hfactory : isFactory statement with
    | true => simpa [modelsOfAll, hfactory] using ih
    | false => simpa [modelsOfAll, hfactory] using ih

mutual

theorem settled_of_augmentStatement {site : Site} {statement updated : Statement}
    (hupdated : augmentStatement site statement = .ok updated) :
    ∀ found ∈ modelsOf site updated, Settled site found := by
  cases statement with
  | line above line =>
    cases hupdated
    exact fun _ => nofun
  | classDef head body =>
    obtain ⟨inner, hinner, hupdated⟩ := bind_eq_ok.1 hupdated
    obtain ⟨outer, houter, hupdated⟩ := bind_eq_ok.1 hupdated
    cases hupdated
    cases hmodel : isModel site head.positionalBases with
    | error fault =>
      unfold augmentClass at houter
      rw [hmodel] at houter
      cases houter
    | ok model =>
      cases model with
      | true =>
        rw [augmentClass_model hmodel] at houter
        obtain ⟨metadata, hmap, rfl⟩ := map_eq_ok.1 houter
        have hsuite := settled_of_augmentSuite true hinner
        rw [modelsOf, hmodel]
        refine List.forall_mem_cons.2 ⟨settled_withFactory .., ?_⟩
        rwa [modelsOfSuite_eq, statements_withFactory, modelsOfAll_replaced, ← modelsOfSuite_eq]
      | false =>
        rw [augmentClass_other hmodel] at houter
        cases houter
        rw [modelsOf, hmodel]
        exact settled_of_augmentSuite false hinner
  | functionDef head body =>
    obtain ⟨inner, hinner, hupdated⟩ := bind_eq_ok.1 hupdated
    cases hupdated
    exact settled_of_augmentSuite false hinner
  | compound clauses =>
    obtain ⟨inner, hinner, hupdated⟩ := bind_eq_ok.1 hupdated
    cases hupdated
    exact settled_of_augmentClauses hinner
termination_by structural statement

theorem settled_of_augmentStatements {site : Site} (replaces : Bool)
    {statements updated : List Statement}
    (hupdated : augmentStatements site statements = .ok updated) :
    ∀ found ∈ modelsOfAll site replaces updated, Settled site found := by
  cases statements with
  | nil =>
    cases hupdated
    exact fun _ => nofun
  | cons statement rest =>
    obtain ⟨first, hfirst, hupdated⟩ := bind_eq_ok.1 hupdated
    obtain ⟨others, hothers, hupdated⟩ := bind_eq_ok.1 hupdated
    cases hupdated
    rw [modelsOfAll, List.forall_mem_append]
    refine ⟨?_, settled_of_augmentStatements replaces hothers⟩
    split
    · exact fun _ => nofun
    · exact settled_of_augmentStatement hfirst
termination_by structural statements

theorem settled_of_augmentClauses {site : Site} {clauses updated : List Clause}
    (hupdated : augmentClauses site clauses = .ok updated) :
    ∀ found ∈ modelsOfClauses site updated, Settled site found := by
  match clauses with
  | [] =>
    cases hupdated
    exact fun _ => nofun
  | .mk above head body :: rest =>
    obtain ⟨first, hfirst, hupdated⟩ := bind_eq_ok.1 hupdated
    obtain ⟨others, hothers, hupdated⟩ := bind_eq_ok.1 hupdated
    cases hupdated
    rw [modelsOfClauses, List.forall_mem_append]
    exact ⟨settled_of_augmentSuite false hfirst, settled_of_augmentClauses hothers⟩
termination_by structural clauses

theorem settled_of_augmentSuite {site : Site} (replaces : Bool) {body updated : Suite}
    (hupdated : augmentSuite site body = .ok updated) :
    ∀ found ∈ modelsOfSuite site replaces updated, Settled site found := by
  cases body with
  | block tail step statements footer =>
    obtain ⟨inner, hinner, hupdated⟩ := bind_eq_ok.1 hupdated
    cases hupdated
    exact settled_of_augmentStatements replaces hinner
  | «inline» gap line =>
    cases hupdated
    exact fun _ => nofun
termination_by structural body

end

/-- What two runs have made of a tree is final. -/
theorem third_run {project : Option ProjectIndex} {options : Options} {file : String}
    {key : Except Fault String} {source once twice : Module} (hwrites : options.readonly = false)
    (honce : augmented project options file key source = .ok once)
    (htwice : augmented project options file key once = .ok twice) :
    augmented project options file key twice = .ok twice := by
  obtain ⟨site, hsite, -⟩ := bind_eq_ok.1 honce
  rw [augmented_eq hwrites hsite] at honce
  obtain ⟨body, hbody, rfl⟩ := map_eq_ok.1 honce
  obtain ⟨site', hsite', hforget⟩ := siteOf_updated hsite hbody
  rw [augmented_eq hwrites hsite'] at htwice
  obtain ⟨body', hbody', rfl⟩ := map_eq_ok.1 htwice
  rw [← augmentStatements_of_forget hforget] at hbody
  refine (augmented_eq_self hwrites hsite' hbody').2 ?_
  have hfixed := (fixedAll_iff_settled false hbody').2 (settled_of_augmentStatements false hbody)
  exact fun s hs => hfixed s hs rfl

/-! ## The exact condition -/

/-- A tree that a run has updated is left alone by the next run exactly when all models of the tree
before are settled. -/
theorem rerun_eq_iff_settled {project : Option ProjectIndex} {options : Options} {file : String}
    {key : Except Fault String} {source updated : Module} {site : Site}
    (hwrites : options.readonly = false)
    (hsite : siteOf project options file source = .ok site)
    (hupdated : augmented project options file key source = .ok updated) :
    augmented project options file key updated = .ok updated
      ↔ ∀ found ∈ modelsOfAll site false source.body, Settled site found := by
  rw [augmented_eq hwrites hsite] at hupdated
  obtain ⟨body, hbody, rfl⟩ := map_eq_ok.1 hupdated
  rw [augmented_eq_self hwrites hsite hbody, ← fixedAll_iff_settled false hbody]
  simp only [Bool.false_and, true_implies]

namespace Interposed

def code : String :=
  "class A:\n    x: int\n    def _OPENAPI_METADATA_FACTORY(): return \x7b\x7d\n    'doc'\n"

def factory : FunctionHead where
  preamble := {}
  keywords := [⟨[], "def"⟩]
  beforeName := Gap.space
  name := factoryName
  signature := [⟨[], "("⟩, ⟨[], ")"⟩, ⟨[], ":"⟩]

def body : Suite :=
  .block {} (some "    ")
    [.ofSmall (.annotated (.name "x") [] Gap.space (.name "int") none),
     .functionDef factory (.inline Gap.space ⟨[⟨.returning Gap.space (.dict [] []), none⟩], {}⟩),
     .ofSmall (.expr (.string "'doc'"))] []

def head : ClassHead where
  preamble := {}
  afterClass := Gap.space
  name := "A"
  parameters := []
  bases := none
  beforeColon := []

/-- The tree of `code`. -/
def source : Module := { body := [.classDef head body] }

def options : Options := { introspectComments := true }

def site : Site where
  oracle := { host := { moduleName := "m", classes := ⟨[("A", ⟨"A", [], []⟩)]⟩ }, project := none }
  options := options
  file := "m.py"

def property (docstring : Option String) : Declaration :=
  { name := some "x", typeHint := .name "int", docstring }

/-- The map of a class with the one property, whose documentation has the entries `docs`. -/
def mapWith (docs : Descriptor) : Expr :=
  Descriptor.display
    [("x", Descriptor.display
      ([(requiredKey, boolLiteral true), (typeKey, Expr.thunk (.name "int"))] ++ docs))]

def once : Module := { body := [.classDef head (withFactory (mapWith []) body)] }

theorem siteOf_source : siteOf none options "m.py" source = .ok site := by cbv

theorem unwrap_int : site.oracle.unwrap (.name "int") = .ok { type := .name "int" } := by
  unfold Oracle.unwrap
  rw [unwrapFrom]
  rfl

theorem shape_int : site.oracle.shape (.name "int") = .ok (.named (.name "int")) := by
  unfold Oracle.shape
  rw [Oracle.core]
  rfl

theorem typeOf_int : site.oracle.typeOf (.name "int") = .ok (some (.builtin "int")) := by
  have hanswer := (Oracle.adequate_within site.oracle 20).resolve .host [] (.name "int") (by decide)
  exact (Option.some.inj hanswer).symm

theorem typeEntries_int (options : Options) (scope existing : List String) :
    typeEntries { site with options, scope } existing (.name "int")
      = if existing.contains typeKey then pure []
        else pure [(typeKey, Expr.thunk (.name "int"))] := by
  have hreference : (ResolvedType.builtin "int").reference
      = { name := some "int", named := some (.builtin "int") } := by
    unfold ResolvedType.builtin
    rw [ResolvedType.reference]
    rfl
  rw [typeEntries_eq, ofExcept_bind shape_int]
  unfold shapeEntries namedEntries
  dsimp only
  rw [ofExcept_bind typeOf_int]
  simp only [Option.map_some, Option.getD_some, hreference]
  rfl

theorem domainEntries_int (options : Options) (scope existing : List String) :
    domainEntries { site with options, scope } existing (.name "int") = pure [] := by
  have hnone : (ResolvedType.builtin "int").propertyDomain? = none := rfl
  unfold domainEntries
  split
  · rfl
  rw [ofExcept_bind typeOf_int]
  simp only [Option.bind_some, hnone]

theorem classMap_int {body : Suite} {docs : Descriptor} (docstring : Option String)
    (hproperties : body.properties = .ok [property docstring])
    (hdocs : documentationEntries options (property docstring) [] = .ok docs)
    (hdistinct : Descriptor.distinct
        ([(requiredKey, boolLiteral true), (typeKey, Expr.thunk (.name "int"))] ++ docs)
      = [(requiredKey, boolLiteral true), (typeKey, Expr.thunk (.name "int"))] ++ docs) :
    classMap site head body = .ok (mapWith docs) := by
  have hassemble (scope : List String) :
      assembleUnwrapped { site with scope } (property docstring) { type := .name "int" }
        = pure ([(requiredKey, boolLiteral true), (typeKey, Expr.thunk (.name "int"))] ++ docs) := by
    rw [assembleUnwrapped]
    simp only [typeEntries_int, domainEntries_int]
    change (do
      let docs ← Describe.ofExcept (documentationEntries options (property docstring) [])
      pure (Descriptor.distinct ([(requiredKey, boolLiteral true),
        (typeKey, Expr.thunk (.name "int"))] ++ docs ++ [] ++ [] ++ []))) = _
    rw [ofExcept_bind hdocs]
    simp only [List.append_nil, hdistinct]
  have hdescribe (scope : List String) :
      describeProperty { site with scope } head.name (property docstring)
        = pure (some ([(requiredKey, boolLiteral true), (typeKey, Expr.thunk (.name "int"))]
            ++ docs)) := by
    refine (ofExcept_bind unwrap_int _).trans ?_
    exact congrArg (some <$> ·) (hassemble scope)
  unfold classMap classMetadata
  rw [ofExcept_bind hproperties]
  unfold classDescriptors
  rw [List.foldlM_cons]
  unfold addProperty
  simp only [hdescribe]
  rfl

theorem classMap_body : classMap site head body = .ok (mapWith []) :=
  classMap_int none rfl (by cbv) rfl

theorem classMap_relaid :
    classMap site head body.relaid = .ok (mapWith [("description", textLiteral "doc")]) :=
  classMap_int (some "doc") (by cbv) (by cbv) rfl

theorem augmentStatements_source : augmentStatements site source.body = .ok once.body := by
  refine bind_eq_ok.2 ⟨_, bind_eq_ok.2 ⟨body, rfl, bind_eq_ok.2 ⟨_, ?_, rfl⟩⟩, rfl⟩
  rw [augmentClass_model rfl, classMap_body]
  rfl

theorem augmented_source (key : Except Fault String) :
    augmented none options "m.py" key source = .ok once := by
  rw [augmented_eq rfl siteOf_source, augmentStatements_source]
  rfl

theorem not_settled : ¬ Settled site (head, body) := by
  intro h
  rw [Settled, classMap_body, classMap_relaid] at h
  have hentries := congrArg Expr.text (Except.ok.inj h)
  revert hentries
  decide

end Interposed

/-- The string follows the property only where the factory is gone from between them: the next run
reads it as documentation. -/
theorem rerun_changes_interposed :
    Interposed.source.render = Interposed.code
      ∧ augmented none Interposed.options "m.py" (.ok "./m.py") Interposed.source
          = .ok Interposed.once
      ∧ augmented none Interposed.options "m.py" (.ok "./m.py") Interposed.once
          ≠ .ok Interposed.once := by
  refine ⟨by decide +kernel, Interposed.augmented_source _, fun h => Interposed.not_settled ?_⟩
  have hself := (augmented_eq_self rfl Interposed.siteOf_source
    Interposed.augmentStatements_source).1 h
  have hfixed := hself _ List.mem_cons_self
  exact ((fixed_updated rfl rfl Interposed.classMap_body).1 hfixed).2

end ModelMetadata
