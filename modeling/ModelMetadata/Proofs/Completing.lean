import ModelMetadata.Proofs.Collected
import ModelMetadata.Proofs.Evaluating
import ModelMetadata.Proofs.Rerunning

/-!
Runs that give a result. No property keeps a run from ending: what goes wrong with one costs no more
than its own descriptor. Only five things are read without such a guard, and a run gives a result
exactly when they can be read: the list of exported names, the tables of a source tree that were not
given, the bases of each class, the strings behind the properties of a class that is emitted, and the
key of the file when a class is collected.
-/
set_option autoImplicit false
namespace ModelMetadata

open Source

/-! ## Steps that give a result -/

/-- A step that gives a result exactly when something holds, whatever state it begins in. -/
abbrev Completes {σ α : Type} (step : ExceptT Fault (StateM σ) α) (p : Prop) : Prop :=
  Ends (fun _ => True) step (fun _ _ => p) fun _ _ => ¬ p

namespace Completes

variable {σ α β : Type} {p q : Prop} {step : ExceptT Fault (StateM σ) α}
  {f : α → ExceptT Fault (StateM σ) β}

theorem of (h : ∀ state, Succeeds (step state).1 ↔ p) : Completes step p where
  ok _ a ha := (h _).1 ⟨a, ha⟩
  error _ fault hfault hp := not_succeeds_error fault (hfault ▸ (h _).2 hp)

theorem iff (h : Completes step p) (state : σ) : Succeeds (step state).1 ↔ p := by
  cases hend : (step state).1 with
  | ok a => exact iff_of_true (succeeds_ok a) (h.ok trivial hend)
  | error fault => exact iff_of_false (not_succeeds_error fault) (h.error trivial hend)

theorem congr (h : Completes step p) (hiff : p ↔ q) : Completes step q :=
  (h.imp fun _ _ => hiff.1).blame fun _ _ => mt hiff.2

theorem ofGives {result : Except Fault α} (h : Gives step result) :
    Completes step (Succeeds result) :=
  of fun state => by rw [h.gives]

theorem pure (a : α) : Completes (Pure.pure a : ExceptT Fault (StateM σ) α) True :=
  Ends.pure fun _ _ => trivial

theorem bind (hstep : Completes step p) (hf : ∀ a, Completes (f a) q) :
    Completes (step >>= f) (p ∧ q) := by
  refine Ends.bind (hstep.blame fun _ _ => mt And.left) fun a => ?_
  refine (Ends.assume fun hp => ?_).weaken fun _ h => ⟨h, trivial⟩
  exact (hf a).congr (and_iff_right hp).symm

/-- A step that always gives a result can be passed over. -/
theorem andThen (hstep : Completes step True) (hf : ∀ a, Completes (f a) q) :
    Completes (step >>= f) q :=
  (hstep.bind hf).congr (by simp)

/-- A step that always gives a result can come last. -/
theorem finish (hstep : Completes step p) (hf : ∀ a, Completes (f a) True) :
    Completes (step >>= f) p :=
  (hstep.bind hf).congr (by simp)

/-- What follows a known result is all that counts. -/
theorem after {a : α} (hstep : Gives step (.ok a)) (hf : Completes (f a) q) :
    Completes (step >>= f) q := by
  refine Ends.bind (hstep.blame nofun) fun found => ?_
  refine (Ends.assume fun hsame => ?_).weaken fun _ h => ⟨h, trivial⟩
  cases hsame
  exact hf

theorem describe {step : Describe α} (h : Completes step p) : Completes (Pass.describe step) p :=
  of fun state => h.iff state.journal

theorem caught (step : Describe α) : Completes step.caught True :=
  of fun _ => iff_true_intro (succeeds_ok _)

theorem foldlM {P : α → Prop} {f : β → α → ExceptT Fault (StateM σ) β}
    (hf : ∀ b a, Completes (f b a) (P a)) (xs : List α) (start : β) :
    Completes (xs.foldlM f start) (∀ x ∈ xs, P x) := by
  induction xs generalizing start with
  | nil => exact (Completes.pure start).congr (by simp)
  | cons x rest ih =>
    rw [List.foldlM_cons, List.forall_mem_cons]
    exact (hf start x).bind ih

end Completes

/-! ## Classes -/

/-- What goes wrong with a property stays with it. -/
theorem addProperty_completes (site : Site) (className : String) (table : Table Descriptor)
    (declaration : Declaration) : Completes (addProperty site className table declaration) True := by
  refine (Completes.caught _).andThen fun result => ?_
  split
  · exact .pure _
  · exact .pure _
  · exact .after (.note ..) (.pure table)

theorem classMetadata_completes (site : Site) (head : ClassHead) (body : Suite) :
    Completes (classMetadata site head body) (Succeeds body.properties) := by
  have hproperties : Completes (Describe.ofExcept body.properties) (Succeeds body.properties) :=
    .ofGives (.ofExcept _)
  refine hproperties.finish fun declarations => ?_
  have htable := Completes.foldlM (P := fun _ => True)
    (addProperty_completes { site with scope := body.scopeNames } head.name) declarations {}
  exact (htable.congr (by simp)).andThen fun table => .pure _

def emissionFor (site : Site) (head : ClassHead) (isModuleLevel : Bool) :
    Except Fault ClassEmission := do
  if !(← isModel site head.positionalBases) then return .skip
  else if !site.options.readonly then return .augment
  else if isModuleLevel && site.oracle.host.isExported head.name then return .collect
  else return .skip

theorem emissionOf_gives_for (site : Site) (head : ClassHead) (isModuleLevel : Bool) :
    Gives (emissionOf site head isModuleLevel) (emissionFor site head isModuleLevel) := by
  refine .bind (.ofExcept (isModel site head.positionalBases)) fun model => ?_
  split
  · exact .andThen (.note ..) (.pure ClassEmission.skip)
  · split
    · exact .pure ClassEmission.augment
    · split
      · exact .pure ClassEmission.collect
      · exact .andThen (.note ..) (.pure ClassEmission.skip)

/-- What a class gets, by its bases, its name and its place. -/
theorem emissionFor_eq_ok {site : Site} {head : ClassHead} {isModuleLevel : Bool}
    {emission : ClassEmission} (h : emissionFor site head isModuleLevel = .ok emission) :
    (emission = .augment
        ↔ site.options.readonly = false ∧ isModel site head.positionalBases = .ok true)
      ∧ (emission = .collect
        ↔ site.options.readonly = true ∧ isModel site head.positionalBases = .ok true
          ∧ isModuleLevel = true ∧ site.oracle.host.isExported head.name = true) := by
  obtain ⟨model, hmodel, h⟩ := bind_eq_ok.1 h
  cases model with
  | false =>
    cases h
    simp [hmodel]
  | true =>
    cases hreadonly : site.options.readonly with
    | false =>
      simp only [hreadonly] at h
      cases h
      simp [hmodel]
    | true =>
      simp only [hreadonly] at h
      change (if isModuleLevel && site.oracle.host.isExported head.name then
        Except.ok ClassEmission.collect else .ok .skip) = _ at h
      split at h
      · rename_i hexported
        cases h
        simpa [hmodel] using hexported
      · rename_i hexported
        cases h
        simpa [hmodel] using hexported

/-- Only the bases of a class can keep it from being known what is done with it. -/
theorem emissionFor_succeeds (site : Site) (head : ClassHead) (isModuleLevel : Bool) :
    Succeeds (emissionFor site head isModuleLevel)
      ↔ Succeeds (isModel site head.positionalBases) := by
  refine (succeeds_bind Iff.rfl fun model => iff_true_intro ?_).trans (and_iff_left trivial)
  split
  · exact succeeds_ok _
  · split
    · exact succeeds_ok _
    · split
      · exact succeeds_ok _
      · exact succeeds_ok _

/-- A class whose bases can be read and, when it is emitted, the strings in its body and its key. -/
def ClassReadable (site : Site) (key : Except Fault String) (visit : Bool × ClassHead × Suite) :
    Prop :=
  ∃ emission, emissionFor site visit.2.1 visit.1 = .ok emission
    ∧ (emission ≠ .skip → Succeeds visit.2.2.properties)
    ∧ (emission = .collect → Succeeds key)

/-- The owner of a base is part of it. -/
theorem isModel_succeeds {site : Site} (haliases : site.oracle.AliasesEvaluate) {bases : List Expr}
    (hbases : ∀ base ∈ bases, Evaluates base) : Succeeds (isModel site bases) := by
  induction bases with
  | nil => exact succeeds_ok true
  | cons base rest ih =>
    have hrest := ih fun other hother => hbases other (List.mem_cons_of_mem base hother)
    have hbare := (hbases base List.mem_cons_self).bare
    unfold isModel
    dsimp only
    split
    case' h_1 owner _ _ _ hsubscript =>
      rw [hsubscript] at hbare
      replace hbare := hbare.part List.mem_cons_self
    all_goals
      split
      · exact succeeds_ok false
      · refine (Oracle.typeOf_succeeds haliases hbare).bind fun t? => ?_
        split
        · split
          · exact succeeds_ok false
          · exact hrest
        · exact hrest

/-- A class with literals that can be evaluated. -/
theorem classReadable_of_evaluates {site : Site} (haliases : site.oracle.AliasesEvaluate)
    {key : Except Fault String} {visit : Bool × ClassHead × Suite}
    (hbases : ∀ base ∈ visit.2.1.positionalBases, Evaluates base)
    (hdocs : Succeeds visit.2.2.properties) (hkey : site.options.readonly = true → Succeeds key) :
    ClassReadable site key visit := by
  obtain ⟨emission, hemission⟩ := (emissionFor_succeeds site visit.2.1 visit.1).2
    (isModel_succeeds haliases hbases)
  refine ⟨emission, hemission, fun _ => hdocs, fun hcollect => hkey ?_⟩
  exact ((emissionFor_eq_ok (hcollect ▸ hemission)).2.1 rfl).1

theorem collectClass_completes (site : Site) (key : Except Fault String) (className : String)
    (metadata : Expr) : Completes (collectClass site key className metadata) (Succeeds key) := by
  have hkey : Completes (Pass.describe (Describe.ofExcept key)) (Succeeds key) :=
    .ofGives (.describe (.ofExcept key))
  refine hkey.finish fun key => ?_
  split
  · exact .of fun _ => iff_true_intro (succeeds_ok _)
  · exact (Completes.ofGives (.describe (.note ..))).congr (iff_true_intro (succeeds_ok _))

theorem emitClass_completes (site : Site) (key : Except Fault String) (outer : List String)
    (isModuleLevel : Bool) (head : ClassHead) (body updated : Suite) :
    Completes (emitClass site key outer isModuleLevel head body updated)
      (ClassReadable site key (isModuleLevel, head, body)) := by
  have hemission := (emissionOf_gives_for site head isModuleLevel).describe
  have hmetadata := (classMetadata_completes site head body).describe
  cases hfor : emissionFor site head isModuleLevel with
  | error fault =>
    rw [hfor] at hemission
    refine (Completes.ofGives (.stop hemission)).congr (iff_of_false (not_succeeds_error fault) ?_)
    rintro ⟨emission, h, _⟩
    rw [hfor] at h
    cases h
  | ok emission =>
    rw [hfor] at hemission
    have hreadable : ClassReadable site key (isModuleLevel, head, body)
        ↔ (emission ≠ .skip → Succeeds body.properties) ∧ (emission = .collect → Succeeds key) := by
      unfold ClassReadable
      simp only [hfor, Except.ok.injEq, exists_eq_left']
    refine .after hemission (.after (.emit ..) ?_)
    cases emission with
    | skip =>
      exact (Completes.pure updated).congr (by simp [hreadable])
    | augment =>
      refine (hmetadata.bind fun metadata => .pure _).congr ?_
      simp [hreadable]
    | collect =>
      refine (hmetadata.bind fun metadata =>
        (collectClass_completes site key head.name metadata).bind fun _ => .pure updated).congr ?_
      simp [hreadable]

/-! ## The pass -/

section Pass

variable (site : Site) (key : Except Fault String)

def AllReadable (found : List (Bool × ClassHead × Suite)) : Prop :=
  ∀ visit ∈ found, ClassReadable site key visit

theorem allReadable_append (found more : List (Bool × ClassHead × Suite)) :
    AllReadable site key (found ++ more) ↔ AllReadable site key found ∧ AllReadable site key more :=
  List.forall_mem_append

mutual

theorem passStatement_completes (outer : List String) (isModuleLevel : Bool)
    (statement : Statement) :
    Completes (passStatement site key outer isModuleLevel statement)
      (AllReadable site key (visits isModuleLevel statement)) := by
  cases statement with
  | line above line => exact (Completes.pure _).congr (by simp [visits, AllReadable])
  | classDef head body =>
    have hsuite := passSuite_completes (outer ++ [head.name]) false body
    refine (hsuite.bind fun updated =>
      (emitClass_completes site key outer isModuleLevel head body updated).finish fun _ =>
        .pure _).congr ?_
    rw [visits, allReadable_append]
    simp [AllReadable]
  | functionDef head body =>
    exact (passSuite_completes outer false body).finish fun _ => .pure _
  | compound clauses =>
    exact (passClauses_completes outer isModuleLevel clauses).finish fun _ => .pure _
termination_by structural statement

theorem passStatements_completes (outer : List String) (isModuleLevel : Bool)
    (statements : List Statement) :
    Completes (passStatements site key outer isModuleLevel statements)
      (AllReadable site key (visitsOfAll isModuleLevel statements)) := by
  cases statements with
  | nil => exact (Completes.pure _).congr (by simp [visitsOfAll, AllReadable])
  | cons statement rest =>
    have hrest := passStatements_completes outer isModuleLevel rest
    refine ((passStatement_completes outer isModuleLevel statement).bind fun _ =>
      hrest.finish fun _ => .pure _).congr ?_
    rw [visitsOfAll, allReadable_append]
termination_by structural statements

theorem passClauses_completes (outer : List String) (isModuleLevel : Bool)
    (clauses : List Clause) :
    Completes (passClauses site key outer isModuleLevel clauses)
      (AllReadable site key (visitsOfClauses isModuleLevel clauses)) := by
  cases clauses with
  | nil => exact (Completes.pure _).congr (by simp [visitsOfClauses, AllReadable])
  | cons clause rest =>
    obtain ⟨above, head, body⟩ := clause
    have hrest := passClauses_completes outer isModuleLevel rest
    refine ((passSuite_completes outer isModuleLevel body).bind fun _ =>
      hrest.finish fun _ => .pure _).congr ?_
    rw [visitsOfClauses, allReadable_append]
termination_by structural clauses

theorem passSuite_completes (outer : List String) (isModuleLevel : Bool) (body : Suite) :
    Completes (passSuite site key outer isModuleLevel body)
      (AllReadable site key (visitsOfSuite isModuleLevel body)) := by
  cases body with
  | block tail step body footer =>
    exact (passStatements_completes outer isModuleLevel body).finish fun _ => .pure _
  | inline gap line => exact (Completes.pure _).congr (by simp [visitsOfSuite, AllReadable])
termination_by structural body

end

theorem passModule_completes (source : Module) :
    Completes (passModule site key source)
      (AllReadable site key (visitsOfAll true source.body)) :=
  (passStatements_completes site key [] true source.body).finish fun _ => .pure _

end Pass

/-! ## Exported names -/

theorem succeeds_foldlM {α β : Type} {f : β → α → Except Fault β} {P : α → Prop}
    (hf : ∀ b a, Succeeds (f b a) ↔ P a) (xs : List α) (start : β) :
    Succeeds (xs.foldlM f start) ↔ ∀ x ∈ xs, P x := by
  induction xs generalizing start with
  | nil => exact iff_of_true (succeeds_ok start) (by simp)
  | cons x rest ih =>
    rw [List.foldlM_cons, List.forall_mem_cons]
    exact succeeds_bind (hf start x) ih

def exportValue? : Small → Option Expr
  | .assign [target] value =>
    if ModuleSymbols.targetName? target.target = some ModuleSymbols.exportsName then some value
    else none
  | .augmented target _ _ _ value =>
    if ModuleSymbols.targetName? target = some ModuleSymbols.exportsName then some value else none
  | .annotated target _ _ typeHint (some assigned) =>
    if ModuleSymbols.targetName? target = some ModuleSymbols.exportsName
        ∧ typeHint.lastName ≠ "TypeAlias" then some assigned.value
    else none
  | _ => none

def exportValuesOfLine (line : SmallLine) : List Expr :=
  line.entries.filterMap fun entry => exportValue? entry.statement

mutual

def exportValues : Statement → List Expr
  | .line _ line => exportValuesOfLine line
  | .classDef _ _ => []
  | .functionDef _ _ => []
  | .compound clauses => exportValuesOfClauses clauses

def exportValuesOfAll : List Statement → List Expr
  | [] => []
  | statement :: rest => exportValues statement ++ exportValuesOfAll rest

def exportValuesOfClauses : List Clause → List Expr
  | [] => []
  | .mk _ _ body :: rest => exportValuesOfSuite body ++ exportValuesOfClauses rest

def exportValuesOfSuite : Suite → List Expr
  | .block _ _ body _ => exportValuesOfAll body
  | .inline _ line => exportValuesOfLine line

end

namespace ModuleSymbols

theorem collectSmall_succeeds (typeOnly : Bool) (symbols : ModuleSymbols) (small : Small) :
    Succeeds (collectSmall typeOnly symbols small)
      ↔ ∀ value ∈ exportValue? small, Succeeds (stringItems value) := by
  have hitems (value : Expr) (f : List String → ModuleSymbols) :
      Succeeds (stringItems value >>= fun items => Except.ok (f items))
        ↔ Succeeds (stringItems value) :=
    (succeeds_bind Iff.rfl fun _ => iff_true_intro (succeeds_ok _)).trans (and_iff_left trivial)
  unfold collectSmall
  split
  · exact iff_of_true (succeeds_ok _) (by simp [exportValue?])
  · exact iff_of_true (succeeds_ok _) (by simp [exportValue?])
  · rename_i target value
    simp only [exportValue?]
    split
    · rename_i hname
      exact iff_of_true (succeeds_ok _) (by simp [hname])
    · rename_i name hname
      by_cases hexports : name = exportsName
      · simp only [hname, hexports, BEq.rfl, if_true]
        exact (hitems value _).trans (by simp)
      · simp only [hname, hexports, beq_eq_false_iff_ne.2 hexports, Option.some.injEq, if_false,
          Bool.false_eq_true]
        split
        · exact iff_of_true (succeeds_ok _) (by simp)
        · exact iff_of_true (succeeds_ok _) (by simp)
  · rename_i target _ _ _ value
    simp only [exportValue?]
    by_cases hexports : targetName? target = some exportsName
    · simp only [hexports, BEq.rfl, if_true]
      exact (hitems value _).trans (by simp)
    · simp only [hexports, beq_eq_false_iff_ne.2 hexports, if_false, Bool.false_eq_true]
      exact iff_of_true (succeeds_ok _) (by simp)
  · rename_i target _ _ typeHint assigned
    simp only [exportValue?]
    split
    · rename_i hname
      exact iff_of_true (succeeds_ok _) (by simp [hname])
    · rename_i name hname
      by_cases halias : typeHint.lastName = "TypeAlias"
      · simp only [halias, BEq.rfl, if_true]
        exact iff_of_true (succeeds_ok _) (by simp)
      · by_cases hexports : name = exportsName
        · simp only [hname, hexports, halias, beq_eq_false_iff_ne.2 halias, BEq.rfl, if_true, if_false,
            Bool.false_eq_true, ne_eq, not_false_eq_true, and_self]
          exact (hitems assigned.value _).trans (by simp)
        · simp only [hname, hexports, beq_eq_false_iff_ne.2 halias, beq_eq_false_iff_ne.2 hexports,
            Option.some.injEq, false_and, if_false, Bool.false_eq_true]
          exact iff_of_true (succeeds_ok _) (by simp)
  · exact iff_of_true (succeeds_ok _) (by simp [exportValue?])
  · rename_i hassign haugmented hannotated _
    have hnone : exportValue? small = none := by
      unfold exportValue?
      split
      · exact (hassign _ _ rfl).elim
      · exact (haugmented _ _ _ _ _ rfl).elim
      · exact (hannotated _ _ _ _ _ rfl).elim
      · rfl
    exact iff_of_true (succeeds_ok _) (by simp [hnone])

theorem collectLine_succeeds (typeOnly : Bool) (symbols : ModuleSymbols) (line : SmallLine) :
    Succeeds (collectLine typeOnly symbols line)
      ↔ ∀ value ∈ exportValuesOfLine line, Succeeds (stringItems value) := by
  unfold collectLine
  rw [succeeds_foldlM fun symbols entry => collectSmall_succeeds typeOnly symbols entry.statement]
  simp only [exportValuesOfLine, List.mem_filterMap, forall_exists_index, and_imp, Option.mem_def]
  exact ⟨fun h value entry hentry hvalue => h entry hentry value hvalue,
    fun h entry hentry value hvalue => h value entry hentry hvalue⟩

mutual

theorem collectStatement_succeeds (typeOnly : Bool) (symbols : ModuleSymbols)
    (statement : Statement) :
    Succeeds (collectStatement typeOnly symbols statement)
      ↔ ∀ value ∈ exportValues statement, Succeeds (stringItems value) := by
  cases statement with
  | line above line => exact collectLine_succeeds typeOnly symbols line
  | classDef head body => exact iff_of_true (succeeds_ok _) (by simp [exportValues])
  | functionDef head body => exact iff_of_true (succeeds_ok _) (by simp [exportValues])
  | compound clauses => exact collectClauses_succeeds typeOnly symbols clauses

theorem collectStatements_succeeds (typeOnly : Bool) (symbols : ModuleSymbols)
    (statements : List Statement) :
    Succeeds (collectStatements typeOnly symbols statements)
      ↔ ∀ value ∈ exportValuesOfAll statements, Succeeds (stringItems value) := by
  cases statements with
  | nil => exact iff_of_true (succeeds_ok _) (by simp [exportValuesOfAll])
  | cons statement rest =>
    rw [exportValuesOfAll, List.forall_mem_append]
    exact succeeds_bind (collectStatement_succeeds typeOnly symbols statement) fun symbols =>
      collectStatements_succeeds typeOnly symbols rest

theorem collectClauses_succeeds (typeOnly : Bool) (symbols : ModuleSymbols)
    (clauses : List Clause) :
    Succeeds (collectClauses typeOnly symbols clauses)
      ↔ ∀ value ∈ exportValuesOfClauses clauses, Succeeds (stringItems value) := by
  cases clauses with
  | nil => exact iff_of_true (succeeds_ok _) (by simp [exportValuesOfClauses])
  | cons clause rest =>
    obtain ⟨above, head, body⟩ := clause
    rw [exportValuesOfClauses, List.forall_mem_append]
    exact succeeds_bind (collectSuite_succeeds _ symbols body) fun symbols =>
      collectClauses_succeeds typeOnly symbols rest

theorem collectSuite_succeeds (typeOnly : Bool) (symbols : ModuleSymbols) (body : Suite) :
    Succeeds (collectSuite typeOnly symbols body)
      ↔ ∀ value ∈ exportValuesOfSuite body, Succeeds (stringItems value) := by
  cases body with
  | block tail step body footer => exact collectStatements_succeeds typeOnly symbols body
  | inline gap line => exact collectLine_succeeds typeOnly symbols line

end

theorem collect_succeeds (source : Module) (moduleName : String) (isPackage : Bool) :
    Succeeds (collect source moduleName isPackage)
      ↔ ∀ value ∈ exportValuesOfAll source.body, Succeeds (stringItems value) :=
  collectStatements_succeeds false _ source.body

end ModuleSymbols

/-! ## Runs -/

theorem runPass_completes {α : Type} {pass : Pass α} {p : Prop} (h : Completes pass p) :
    Completes (runPass pass) p := by
  refine .of fun state => ?_
  let start : PassState :=
    { journal := { typeImports := state.1.typeImports, log := state.2 }, registry := state.1.registry }
  change Succeeds ((pass start).1.map fun a => (a, (pass start).2.emissions)) ↔ p
  rw [← h.iff start]
  cases (pass start).1 with
  | error fault => exact iff_of_false (not_succeeds_error fault) (not_succeeds_error fault)
  | ok a => exact iff_of_true (succeeds_ok _) (succeeds_ok a)

/-- A file that does not keep the tables of its source tree from being read: it is no module and the console
can show so, or it is one whose exported names can be read. -/
inductive Indexable (console : Console) (tree : FileTree) (root file : Path) : Prop
  | skipped (hnone : fileSymbols tree root file = .ok none)
    (hshown : console.refusal? (skippedFile file).message = none)
  | module {text : String} {source : Module} (hread : tree.readText file = .ok text)
    (hparse : Module.parse text = .ok source)
    (hexports : ∀ value ∈ exportValuesOfAll source.body, Succeeds (ModuleSymbols.stringItems value))

theorem fileSymbols_module {tree : FileTree} {root file : Path} {text : String} {source : Module}
    (hread : tree.readText file = .ok text) (hparse : Module.parse text = .ok source) :
    fileSymbols tree root file = some <$> ModuleSymbols.collect source (moduleNameFor (some root) file).1
      (moduleNameFor (some root) file).2 := by
  unfold fileSymbols
  rw [hread]
  dsimp only
  rw [hparse]

theorem module_of_fileSymbols {tree : FileTree} {root file : Path} {symbols : ModuleSymbols}
    (h : fileSymbols tree root file = .ok (some symbols)) :
    ∃ text source, tree.readText file = .ok text ∧ Module.parse text = .ok source := by
  unfold fileSymbols at h
  split at h
  · cases h
  · cases h
  · rename_i text hread
    split at h
    · cases h
    · cases h
    · rename_i source hparse
      exact ⟨text, source, hread, hparse⟩

theorem indexedFile_succeeds (console : Console) (tree : FileTree) (root : Path) (index : ProjectIndex)
    (file : Path) :
    Succeeds (indexedFile console tree root index file) ↔ Indexable console tree root file := by
  unfold indexedFile
  constructor
  · rintro ⟨indexed, h⟩
    obtain ⟨symbols?, hsymbols, h⟩ := bind_eq_ok.1 h
    cases symbols? with
    | none =>
      refine .skipped hsymbols (Option.eq_none_iff_forall_ne_some.2 fun words hwords => ?_)
      dsimp only at h
      rw [hwords] at h
      cases h
    | some symbols =>
      obtain ⟨text, source, hread, hparse⟩ := module_of_fileSymbols hsymbols
      rw [fileSymbols_module hread hparse] at hsymbols
      obtain ⟨found, hfound, -⟩ := map_eq_ok.1 hsymbols
      exact .module hread hparse ((ModuleSymbols.collect_succeeds ..).1 ⟨found, hfound⟩)
  · rintro (⟨hnone, hshown⟩ | ⟨hread, hparse, hexports⟩)
    · rw [hnone]
      dsimp only [bind, Except.bind]
      rw [hshown]
      exact succeeds_ok index
    · obtain ⟨found, hfound⟩ := (ModuleSymbols.collect_succeeds _ (moduleNameFor (some root) file).1
        (moduleNameFor (some root) file).2).2 hexports
      rw [fileSymbols_module hread hparse, hfound]
      exact succeeds_ok (index.add found)

/-- The tables that were given or that need no tree are always at hand, and those of a tree when no file
keeps them from being read. -/
theorem projectIndex_succeeds (tree : FileTree) (before : Engine × List LogRecord) :
    Succeeds (projectIndex tree before).1
      ↔ ∀ root, before.1.project = none → before.1.options.pathToSource = some root →
        tree.isDirectory root → ∀ file ∈ tree.programFiles root,
          Indexable before.1.console tree root file := by
  obtain ⟨engine, log⟩ := before
  obtain ⟨project, log', hindex, -⟩ := projectIndex_tablesIn tree engine log
  rw [hindex]
  unfold Engine.tablesIn
  dsimp only
  cases hproject : engine.project with
  | some index => exact iff_of_true (succeeds_ok _) (by simp)
  | none =>
    cases hroot : engine.options.pathToSource with
    | none => exact iff_of_true (succeeds_ok _) (by simp)
    | some root =>
      simp only [Option.some.injEq, forall_eq', true_implies]
      by_cases hdirectory : tree.isDirectory root = true
      · simp only [hdirectory, if_true, true_implies]
        refine Iff.trans ?_ (succeeds_foldlM
          (indexedFile_succeeds engine.console tree root) (tree.programFiles root) {})
        exact (succeeds_bind Iff.rfl fun _ => iff_true_intro (succeeds_ok _)).trans (and_iff_left trivial)
      · simp only [hdirectory, if_false, Bool.false_eq_true, false_implies]
        exact iff_of_true (succeeds_ok none) trivial

theorem fileKey_succeeds (tree : FileTree) (options : Options) (file : String) :
    Succeeds (fileKey tree options file) ↔ options.pathToSource.isSome ∧ file ≠ "" := by
  unfold fileKey
  split
  · rename_i root hroot
    unfold registryKey
    by_cases hempty : file = ""
    · simp [hempty, not_succeeds_error]
    · simp [hempty, hroot, succeeds_ok]
  · rename_i hroot
    simp [hroot, not_succeeds_error]

/-- A module that nothing keeps a run from going through: its exported names, the tables of the source
tree and all its classes can be read. -/
structure Readable (tree : FileTree) (before : Engine × List LogRecord) (file : String)
    (source : Module) : Prop where
  exports : ∀ value ∈ exportValuesOfAll source.body, Succeeds (ModuleSymbols.stringItems value)
  index (root : Path) (hproject : before.1.project = none)
    (hroot : before.1.options.pathToSource = some root) (hdirectory : tree.isDirectory root) :
    ∀ file ∈ tree.programFiles root, Indexable before.1.console tree root file
  classes (project : Option ProjectIndex) (site : Site)
    (hproject : (projectIndex tree before).1 = .ok project)
    (hsite : siteOf project before.1.options file source = .ok site) :
    AllReadable site (fileKey tree before.1.options file) (visitsOfAll true source.body)

/-- Texts whose literals can be evaluated can be read. When metadata is collected, their file needs a
path below a source root. -/
theorem readable_of_evaluates {tree : FileTree} {before : Engine × List LogRecord} {file : String}
    {source : Module}
    (hexports : ∀ value ∈ exportValuesOfAll source.body, Succeeds (ModuleSymbols.stringItems value))
    (hindex : Succeeds (projectIndex tree before).1)
    (haliases : ∀ project site, (projectIndex tree before).1 = .ok project →
      siteOf project before.1.options file source = .ok site → site.oracle.AliasesEvaluate)
    (hbases : ∀ visit ∈ visitsOfAll true source.body, ∀ base ∈ visit.2.1.positionalBases,
      Evaluates base)
    (hdocs : ∀ visit ∈ visitsOfAll true source.body, Succeeds visit.2.2.properties)
    (hkey : before.1.options.readonly = true →
      before.1.options.pathToSource.isSome ∧ file ≠ "") :
    Readable tree before file source where
  exports := hexports
  index := (projectIndex_succeeds tree before).1 hindex
  classes project site hproject hsite := by
    intro visit hvisit
    apply classReadable_of_evaluates (haliases project site hproject hsite) (hbases visit hvisit)
      (hdocs visit hvisit)
    rw [siteOf_options hsite, fileKey_succeeds]
    exact hkey

section Runs

variable (tree : FileTree) {code : String} (file : String) (before : Engine × List LogRecord)

theorem run_malformed (hparse : Module.parse code = .error .malformed) :
    run tree code file before
      = (.ok { code, errors := [parseErrorText], success := false }, before) := by
  unfold run
  rw [hparse]
  rfl

theorem run_invalid (hparse : Module.parse code = .error .invalid) :
    (run tree code file before).1 = .error .invalidNode := by
  unfold run
  rw [hparse]
  rfl

theorem run_parsed {source : Module} (hparse : Module.parse code = .ok source) :
    Maintains (fun _ => True) (run tree code file) fun result => result.success = true := by
  have hany {α : Type} (step : EngineStep α) : Maintains (fun _ => True) step fun _ => True :=
    .trivially step
  unfold run
  rw [hparse]
  refine (hany get).andThen fun state => (hany _).andThen fun host => ?_
  exact (hany _).andThen fun project => (hany _).andThen fun updated => .pure rfl

theorem run_parsed_succeeds {source : Module} (hparse : Module.parse code = .ok source) :
    Succeeds (run tree code file before).1 ↔ Readable tree before file source := by
  have hexports := ModuleSymbols.collect_succeeds source
    (moduleNameFor before.1.options.pathToSource (Path.parse file)).1
    (moduleNameFor before.1.options.pathToSource (Path.parse file)).2
  rcases run_cases hparse file before with ⟨fault, hhost, hrun⟩ | ⟨fault, middle, hindex, hrun⟩
    | ⟨project, middle, site, hindex, hsite, hrun⟩
  · rw [hrun]
    rw [hhost] at hexports
    apply iff_of_false (not_succeeds_error fault)
    intro h
    exact not_succeeds_error fault (hexports.2 h.exports)
  · rw [hrun]
    apply iff_of_false (not_succeeds_error fault)
    intro h
    have hsome := (projectIndex_succeeds tree before).2 h.index
    rw [hindex] at hsome
    exact not_succeeds_error fault hsome
  · have hpass := passModule_completes site (fileKey tree before.1.options file) source
    rw [hrun, ((runPass_completes hpass).finish fun passed => .pure _).iff middle]
    constructor
    · intro hclasses
      obtain ⟨host, hhost, -⟩ := bind_eq_ok.1 hsite
      refine ⟨hexports.1 ⟨host, hhost⟩, (projectIndex_succeeds tree before).1 ?_, ?_⟩
      · rw [hindex]
        exact succeeds_ok project
      · intro project' site' hproject' hsite'
        rw [hindex] at hproject'
        cases hproject'
        rw [hsite] at hsite'
        cases hsite'
        exact hclasses
    · intro h
      exact h.classes project site (by rw [hindex]) hsite

/-- A run gives a result for a text that is no module and for a module that can be read through, and for no
other text, unless it stops at half of a surrogate pair, which no text here can hold. Only the first is called
a failure, and it leaves everything as it was. -/
theorem run_returns (code : String) :
    ((run tree code file before).1 ≠ .error .loneSurrogate →
        (Succeeds (run tree code file before).1
          ↔ Module.parse code = .error .malformed
            ∨ ∃ source, Module.parse code = .ok source ∧ Readable tree before file source))
      ∧ ∀ result, (run tree code file before).1 = .ok result →
        (result.success = false ↔ Module.parse code = .error .malformed)
          ∧ (result.success = false →
            result.code = code ∧ result.classes = [] ∧ (run tree code file before).2 = before) := by
  cases hparse : Module.parse code with
  | error reason =>
    cases reason with
    | malformed =>
      rw [run_malformed tree file before hparse]
      refine ⟨fun _ => iff_of_true (succeeds_ok _) (.inl rfl), fun result h => ?_⟩
      cases h
      simp
    | invalid =>
      rw [run_invalid tree file before hparse]
      refine ⟨fun _ => iff_of_false (not_succeeds_error _) (by simp), fun result h => ?_⟩
      cases h
  | ok source =>
    have hreturns := run_parsed_succeeds tree file before hparse
    refine ⟨fun _ => hreturns.trans (by simp), fun result h => ?_⟩
    have hsuccess := (run_parsed tree file hparse).result trivial h
    simp [hsuccess]

end Runs

theorem linked_readable :
    Readable Linked.job.tree ({ options := Linked.options }, []) Linked.job.file Linked.source := by
  have hindex : projectIndex Linked.job.tree ({ options := Linked.options }, [])
      = (.ok none, { options := Linked.options }, []) := by cbv
  have hsite : siteOf none Linked.options Linked.job.file Linked.source = .ok Linked.site := by cbv
  refine ⟨by simp [exportValuesOfAll, exportValues, Linked.source], ?_, ?_⟩
  · refine (projectIndex_succeeds ..).1 ?_
    rw [hindex]
    exact succeeds_ok none
  · intro project site hproject hfound
    rw [hindex] at hproject
    cases hproject
    cases hsite.symm.trans hfound
    intro visit hvisit
    obtain rfl : visit = (true, Linked.head, Linked.body) := List.mem_singleton.1 hvisit
    have hemission : emissionFor Linked.site Linked.head true = .ok .collect := by cbv
    have hkey : fileKey Linked.job.tree Linked.options Linked.job.file = .ok "./m.py" := by cbv
    exact ⟨.collect, hemission, fun _ => ⟨[Linked.property], rfl⟩, fun _ => ⟨"./m.py", hkey⟩⟩

theorem run_returns_of_linked :
    ∃ result, (run Linked.job.tree Linked.code Linked.job.file ({ options := Linked.options }, [])).1
        = .ok result ∧ result.success = true := by
  have hreturns := run_returns Linked.job.tree Linked.job.file ({ options := Linked.options }, []) Linked.code
  have hcharacters : (run Linked.job.tree Linked.code Linked.job.file
      ({ options := Linked.options }, [])).1 ≠ .error .loneSurrogate := by
    obtain ⟨result, hresult⟩ := (run_parsed_succeeds _ _ _ Linked.parse_code).2 linked_readable
    rw [hresult]
    nofun
  obtain ⟨result, hresult⟩ :=
    (hreturns.1 hcharacters).2 (.inr ⟨Linked.source, Linked.parse_code, linked_readable⟩)
  refine ⟨result, hresult, ?_⟩
  have hfailure := (hreturns.2 result hresult).1
  rw [Linked.parse_code] at hfailure
  simpa using hfailure

namespace Truncated

def code : String := "__all__ = [\"\\x\"]\n"

def names : Expr := .list [.mk [] (.value (.string "\"\\x\"")) none] []

/-- The tree of `code`. -/
def source : Module :=
  { body := [.ofSmall (.assign [⟨.name "__all__", Gap.space, Gap.space⟩] names)] }

theorem parse_code : Module.parse code = .ok source := by cbv

end Truncated

/-- The text is a module, and still a run over it gives no result. -/
theorem run_stops_at_truncated :
    Module.parse Truncated.code = .ok Truncated.source
      ∧ ¬ Succeeds (run Linked.job.tree Truncated.code "m.py" ({}, [])).1 := by
  refine ⟨Truncated.parse_code, ?_⟩
  rw [run_parsed_succeeds _ _ _ Truncated.parse_code]
  intro hreadable
  have hvalue : Truncated.names ∈ exportValuesOfAll Truncated.source.body := List.mem_singleton_self _
  have hitems : ModuleSymbols.stringItems Truncated.names = .error .malformedLiteral := by cbv
  have hsucceeds := hreadable.exports Truncated.names hvalue
  rw [hitems] at hsucceeds
  exact not_succeeds_error _ hsucceeds

end ModelMetadata
