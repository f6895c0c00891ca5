import ModelMetadata.Proofs.Augmenting

/-!
What the pass leaves alone where it writes factories. The tree it returns is grown out of the one it was
given: lines, heads and clauses are the old ones, a class that is no model keeps its statements, and a
model keeps all but its own factories and ends with the one new factory, whose map is that of the class
as it was written. The reports of the pass name the classes of the old tree, inner ones first, those
inside factories that go included. Without the factories of models, both trees are the same.
-/
set_option autoImplicit false
namespace ModelMetadata

open Source

abbrev Reports := List (String × ClassEmission)

def Source.Suite.withStatements (body : Suite) (statements : List Statement) : Suite :=
  match body with
  | .block tail step _ footer => .block tail step statements footer
  | .inline _ _ => .block {} none statements []

/-! ## Growing -/

mutual

/-- What becomes of a statement inside the classes `outer`, and the reports on its classes. -/
inductive Grown (site : Site) : List String → Statement → Statement → Reports → Prop where
  | line {outer : List String} (above : List EmptyLine) (line : SmallLine) :
    Grown site outer (.line above line) (.line above line) []
  | skipped {outer : List String} {head : ClassHead} {body updated : Suite} {reports : Reports}
    (hother : isModel site head.positionalBases = .ok false)
    (hbody : GrownSuite site false (outer ++ [head.name]) body updated reports) :
    Grown site outer (.classDef head body) (.classDef head updated)
      (reports ++ [(joinDots (outer ++ [head.name]), .skip)])
  | augmented {outer : List String} {head : ClassHead} {body kept : Suite} {metadata : Expr}
    {reports : Reports}
    (hmodel : isModel site head.positionalBases = .ok true)
    (hmap : classMap site head body = .ok metadata)
    (hkept : GrownSuite site true (outer ++ [head.name]) body kept reports)
    (hnone : ∀ statement ∈ kept.statements, isFactory statement = false) :
    Grown site outer (.classDef head body)
      (.classDef head (kept.withStatements (kept.statements ++ [factoryFor metadata])))
      (reports ++ [(joinDots (outer ++ [head.name]), .augment)])
  | function {outer : List String} {head : FunctionHead} {body updated : Suite} {reports : Reports}
    (hbody : GrownSuite site false outer body updated reports) :
    Grown site outer (.functionDef head body) (.functionDef head updated) reports
  | compound {outer : List String} {clauses updated : List Clause} {reports : Reports}
    (hclauses : GrownClauses site outer clauses updated reports) :
    Grown site outer (.compound clauses) (.compound updated) reports

/-- What becomes of statements, one by one and in order. Where factories are dropped, the classes
inside of one are reported all the same. -/
inductive GrownAll (site : Site) :
    Bool → List String → List Statement → List Statement → Reports → Prop where
  | nil {drops : Bool} {outer : List String} : GrownAll site drops outer [] [] []
  | kept {drops : Bool} {outer : List String} {statement updated : Statement}
    {rest others : List Statement} {reports later : Reports}
    (hstays : drops = true → isFactory statement = false)
    (hfirst : Grown site outer statement updated reports)
    (hrest : GrownAll site drops outer rest others later) :
    GrownAll site drops outer (statement :: rest) (updated :: others) (reports ++ later)
  | dropped {outer : List String} {factory updated : Statement} {rest others : List Statement}
    {reports later : Reports}
    (hfactory : isFactory factory = true)
    (hfirst : Grown site outer factory updated reports)
    (hrest : GrownAll site true outer rest others later) :
    GrownAll site true outer (factory :: rest) others (reports ++ later)

inductive GrownClauses (site : Site) :
    List String → List Clause → List Clause → Reports → Prop where
  | nil {outer : List String} : GrownClauses site outer [] [] []
  | cons {outer : List String} {above : List EmptyLine} {head : ClauseHead} {body updated : Suite}
    {rest others : List Clause} {reports later : Reports}
    (hbody : GrownSuite site false outer body updated reports)
    (hrest : GrownClauses site outer rest others later) :
    GrownClauses site outer (.mk above head body :: rest) (.mk above head updated :: others)
      (reports ++ later)

inductive GrownSuite (site : Site) : Bool → List String → Suite → Suite → Reports → Prop where
  | block {drops : Bool} {outer : List String} {statements updated : List Statement}
    {reports : Reports} (tail : LineTail) (step : Option String) (footer : List EmptyLine)
    (hstatements : GrownAll site drops outer statements updated reports) :
    GrownSuite site drops outer (.block tail step statements footer)
      (.block tail step updated footer) reports
  | «inline» {drops : Bool} {outer : List String} (gap : Gap) (line : SmallLine) :
    GrownSuite site drops outer (.inline gap line) (.inline gap line) []

end

/-! ## Dropping factories -/

theorem Grown.isFactory_eq {site : Site} {outer : List String} {statement updated : Statement}
    {reports : Reports} (h : Grown site outer statement updated reports) :
    isFactory updated = isFactory statement := by
  cases h <;> rfl

/-- Statements that have all grown, without the factories among them. -/
theorem GrownAll.withoutFactories {site : Site} {outer : List String}
    {statements updated : List Statement} {reports : Reports}
    (h : GrownAll site false outer statements updated reports) :
    GrownAll site true outer statements (updated.filter fun statement => !isFactory statement)
      reports := by
  induction statements generalizing updated reports with
  | nil =>
    cases h
    exact .nil
  | cons statement rest ih =>
    obtain _ | ⟨-, hfirst, hrest⟩ := h
    cases hfactory : isFactory statement with
    | true =>
      rw [List.filter_cons_of_neg (by simp [hfirst.isFactory_eq, hfactory])]
      exact .dropped hfactory hfirst (ih hrest)
    | false =>
      rw [List.filter_cons_of_pos (by simp [hfirst.isFactory_eq, hfactory])]
      exact .kept (fun _ => hfactory) hfirst (ih hrest)

def Source.Suite.withoutFactories : Suite → Suite
  | .block tail step body footer =>
    .block tail step (body.filter fun statement => !isFactory statement) footer
  | .inline gap line => .inline gap line

theorem GrownSuite.withoutFactories {site : Site} {outer : List String} {body updated : Suite}
    {reports : Reports} (h : GrownSuite site false outer body updated reports) :
    GrownSuite site true outer body updated.withoutFactories reports := by
  cases h with
  | block tail step footer hstatements => exact .block tail step footer hstatements.withoutFactories
  | «inline» gap line => exact .inline gap line

theorem isFactory_withoutFactories {body : Suite} {statement : Statement}
    (h : statement ∈ body.withoutFactories.statements) : isFactory statement = false := by
  cases body with
  | block tail step statements footer => simpa using (List.mem_filter.1 h).2
  | «inline» gap line =>
    cases List.mem_singleton.1 h
    rfl

theorem withFactory_eq (metadata : Expr) (body : Suite) :
    withFactory metadata body = body.withoutFactories.withStatements
      (body.withoutFactories.statements ++ [factoryFor metadata]) := by
  cases body <;> rfl

/-! ## The pass grows its tree -/

theorem describe_eq_ok {α : Type} {step : Describe α} {state state' : PassState} {a : α}
    (h : Pass.describe step state = (.ok a, state')) :
    (step state.journal).1 = .ok a ∧ state'.emissions = state.emissions
      ∧ state'.registry = state.registry := by
  obtain ⟨hresult, rfl⟩ := Prod.mk.inj h
  exact ⟨hresult, rfl, rfl⟩

/-- The emission of a class is a skip, or it is a model and gets a factory. -/
theorem emissionOf_eq_ok {site : Site} (hwrites : site.options.readonly = false) {head : ClassHead}
    {isModuleLevel : Bool} {journal : Journal} {emission : ClassEmission}
    (h : (emissionOf site head isModuleLevel journal).1 = .ok emission) :
    (isModel site head.positionalBases = .ok false ∧ emission = .skip)
      ∨ (isModel site head.positionalBases = .ok true ∧ emission = .augment) := by
  rw [(emissionOf_gives hwrites head isModuleLevel).gives] at h
  obtain ⟨model, hmodel, h⟩ := bind_eq_ok.1 h
  cases model with
  | false =>
    cases h
    exact .inl ⟨hmodel, rfl⟩
  | true =>
    cases h
    exact .inr ⟨hmodel, rfl⟩

theorem emitClass_grown {site : Site} (hwrites : site.options.readonly = false)
    {key : Except Fault String} {outer : List String} {isModuleLevel : Bool} {head : ClassHead}
    {body inner updated : Suite} {reports : Reports} {state state' : PassState}
    (hinner : GrownSuite site false (outer ++ [head.name]) body inner reports)
    (h : emitClass site key outer isModuleLevel head body inner state = (.ok updated, state')) :
    ∃ report, Grown site outer (.classDef head body) (.classDef head updated) (reports ++ [report])
      ∧ state'.emissions = state.emissions ++ [report] := by
  obtain ⟨emission, decided, hemission, h⟩ := step_bind_eq_ok h
  obtain ⟨hemission, hdecided, -⟩ := describe_eq_ok hemission
  obtain ⟨⟨⟩, reported, hreported, h⟩ := step_bind_eq_ok h
  cases hreported
  obtain ⟨hother, rfl⟩ | ⟨hmodel, rfl⟩ := emissionOf_eq_ok hwrites hemission
  · cases h
    exact ⟨_, .skipped hother hinner, congrArg (· ++ _) hdecided⟩
  · obtain ⟨metadata, described, hmetadata, h⟩ := step_bind_eq_ok h
    cases h
    obtain ⟨hmap, hdescribed, -⟩ := describe_eq_ok hmetadata
    rw [(Gives.ofSteady (Additive.classMetadata site head body).steady).gives] at hmap
    refine ⟨_, ?_, hdescribed.trans (congrArg (· ++ _) hdecided)⟩
    rw [withFactory_eq]
    exact .augmented hmodel hmap hinner.withoutFactories fun _ => isFactory_withoutFactories

mutual

theorem passStatement_grown {site : Site} (hwrites : site.options.readonly = false)
    {key : Except Fault String} {outer : List String} {isModuleLevel : Bool}
    (statement : Statement) {updated : Statement} {state state' : PassState}
    (h : passStatement site key outer isModuleLevel statement state = (.ok updated, state')) :
    ∃ reports, Grown site outer statement updated reports
      ∧ state'.emissions = state.emissions ++ reports := by
  cases statement with
  | line above line =>
    cases h
    exact ⟨[], .line above line, (List.append_nil _).symm⟩
  | classDef head body =>
    obtain ⟨inner, middle, hinner, h⟩ := step_bind_eq_ok h
    obtain ⟨outerBody, emitted, hemitted, h⟩ := step_bind_eq_ok h
    cases h
    obtain ⟨reports, hgrown, hreports⟩ := passSuite_grown hwrites body hinner
    obtain ⟨report, hclass, hreport⟩ := emitClass_grown hwrites hgrown hemitted
    exact ⟨_, hclass, by rw [hreport, hreports, List.append_assoc]⟩
  | functionDef head body =>
    obtain ⟨inner, middle, hinner, h⟩ := step_bind_eq_ok h
    cases h
    obtain ⟨reports, hgrown, hreports⟩ := passSuite_grown hwrites body hinner
    exact ⟨reports, .function hgrown, hreports⟩
  | compound clauses =>
    obtain ⟨inner, middle, hinner, h⟩ := step_bind_eq_ok h
    cases h
    obtain ⟨reports, hgrown, hreports⟩ := passClauses_grown hwrites clauses hinner
    exact ⟨reports, .compound hgrown, hreports⟩
termination_by structural statement

theorem passStatements_grown {site : Site} (hwrites : site.options.readonly = false)
    {key : Except Fault String} {outer : List String} {isModuleLevel : Bool}
    (statements : List Statement) {updated : List Statement} {state state' : PassState}
    (h : passStatements site key outer isModuleLevel statements state = (.ok updated, state')) :
    ∃ reports, GrownAll site false outer statements updated reports
      ∧ state'.emissions = state.emissions ++ reports := by
  cases statements with
  | nil =>
    cases h
    exact ⟨[], .nil, (List.append_nil _).symm⟩
  | cons statement rest =>
    obtain ⟨first, middle, hfirst, h⟩ := step_bind_eq_ok h
    obtain ⟨others, last, hothers, h⟩ := step_bind_eq_ok h
    cases h
    obtain ⟨reports, hgrown, hreports⟩ := passStatement_grown hwrites statement hfirst
    obtain ⟨later, hrest, hlater⟩ := passStatements_grown hwrites rest hothers
    exact ⟨_, .kept nofun hgrown hrest, by rw [hlater, hreports, List.append_assoc]⟩
termination_by structural statements

theorem passClauses_grown {site : Site} (hwrites : site.options.readonly = false)
    {key : Except Fault String} {outer : List String} {isModuleLevel : Bool}
    (clauses : List Clause) {updated : List Clause} {state state' : PassState}
    (h : passClauses site key outer isModuleLevel clauses state = (.ok updated, state')) :
    ∃ reports, GrownClauses site outer clauses updated reports
      ∧ state'.emissions = state.emissions ++ reports := by
  match clauses with
  | [] =>
    cases h
    exact ⟨[], .nil, (List.append_nil _).symm⟩
  | .mk above head body :: rest =>
    obtain ⟨first, middle, hfirst, h⟩ := step_bind_eq_ok h
    obtain ⟨others, last, hothers, h⟩ := step_bind_eq_ok h
    cases h
    obtain ⟨reports, hgrown, hreports⟩ := passSuite_grown hwrites body hfirst
    obtain ⟨later, hrest, hlater⟩ := passClauses_grown hwrites rest hothers
    exact ⟨_, .cons hgrown hrest, by rw [hlater, hreports, List.append_assoc]⟩
termination_by structural clauses

theorem passSuite_grown {site : Site} (hwrites : site.options.readonly = false)
    {key : Except Fault String} {outer : List String} {isModuleLevel : Bool} (body : Suite)
    {updated : Suite} {state state' : PassState}
    (h : passSuite site key outer isModuleLevel body state = (.ok updated, state')) :
    ∃ reports, GrownSuite site false outer body updated reports
      ∧ state'.emissions = state.emissions ++ reports := by
  cases body with
  | block tail step statements footer =>
    obtain ⟨inner, middle, hinner, h⟩ := step_bind_eq_ok h
    cases h
    obtain ⟨reports, hgrown, hreports⟩ := passStatements_grown hwrites statements hinner
    exact ⟨reports, .block tail step footer hgrown, hreports⟩
  | «inline» gap line =>
    cases h
    exact ⟨[], .inline gap line, (List.append_nil _).symm⟩
termination_by structural body

end

/-! ## Erasing the factories of models -/

def getsFactory (site : Site) (head : ClassHead) : Bool :=
  match isModel site head.positionalBases with
  | .ok model => model
  | .error _ => false

mutual

def erase (site : Site) : Statement → Statement
  | .line above line => .line above line
  | .classDef head body => .classDef head (eraseSuite site (getsFactory site head) body)
  | .functionDef head body => .functionDef head (eraseSuite site false body)
  | .compound clauses => .compound (eraseClauses site clauses)

def eraseAll (site : Site) (drops : Bool) : List Statement → List Statement
  | [] => []
  | statement :: rest =>
    if drops && isFactory statement then eraseAll site drops rest
    else erase site statement :: eraseAll site drops rest

def eraseClauses (site : Site) : List Clause → List Clause
  | [] => []
  | .mk above head body :: rest => .mk above head (eraseSuite site false body) :: eraseClauses site rest

def eraseSuite (site : Site) (drops : Bool) : Suite → Suite
  | .block tail step body footer => .block tail step (eraseAll site drops body) footer
  | .inline gap line =>
    if drops then .block {} none [.line [] ⟨line.entries, {}⟩] [] else .inline gap line

end

theorem eraseSuite_withFactory (site : Site) (metadata : Expr) (body : Suite) :
    eraseSuite site true (body.withStatements (body.statements ++ [factoryFor metadata]))
      = eraseSuite site true body := by
  have hfactory (statements : List Statement) :
      eraseAll site true (statements ++ [factoryFor metadata]) = eraseAll site true statements := by
    induction statements with
    | nil => rfl
    | cons statement rest ih => simp only [List.cons_append, eraseAll, ih]
  cases body with
  | block tail step statements footer => exact congrArg (Suite.block tail step · footer) (hfactory _)
  | «inline» gap line => exact congrArg (Suite.block {} none · []) (hfactory _)

mutual

theorem erase_of_grown {site : Site} {outer : List String} {updated : Statement}
    {reports : Reports} (statement : Statement) (h : Grown site outer statement updated reports) :
    erase site updated = erase site statement := by
  cases statement with
  | line above line =>
    cases h
    rfl
  | classDef head body =>
    cases h with
    | skipped hother hbody => simp only [erase, getsFactory, hother, eraseSuite_of_grown body hbody]
    | augmented hmodel hmap hkept hnone =>
      simp only [erase, getsFactory, hmodel, eraseSuite_withFactory, eraseSuite_of_grown body hkept]
  | functionDef head body =>
    obtain _ | _ | _ | hbody := h
    simp only [erase, eraseSuite_of_grown body hbody]
  | compound clauses =>
    obtain _ | _ | _ | _ | hclauses := h
    simp only [erase, eraseClauses_of_grown clauses hclauses]
termination_by structural statement

theorem eraseAll_of_grown {site : Site} {drops : Bool} {outer : List String}
    {updated : List Statement} {reports : Reports} (statements : List Statement)
    (h : GrownAll site drops outer statements updated reports) :
    eraseAll site drops updated = eraseAll site drops statements := by
  cases statements with
  | nil =>
    cases h
    rfl
  | cons statement rest =>
    cases h with
    | kept hstays hfirst hrest =>
      simp only [eraseAll, hfirst.isFactory_eq, erase_of_grown statement hfirst,
        eraseAll_of_grown rest hrest]
    | dropped hfactory hfirst hrest =>
      simp only [eraseAll, hfactory, eraseAll_of_grown rest hrest, Bool.and_self, if_true]
termination_by structural statements

theorem eraseClauses_of_grown {site : Site} {outer : List String} {updated : List Clause}
    {reports : Reports} (clauses : List Clause)
    (h : GrownClauses site outer clauses updated reports) :
    eraseClauses site updated = eraseClauses site clauses := by
  match clauses with
  | [] =>
    cases h
    rfl
  | .mk above head body :: rest =>
    obtain _ | ⟨hbody, hrest⟩ := h
    simp only [eraseClauses, eraseSuite_of_grown body hbody, eraseClauses_of_grown rest hrest]
termination_by structural clauses

theorem eraseSuite_of_grown {site : Site} {drops : Bool} {outer : List String} {updated : Suite}
    {reports : Reports} (body : Suite) (h : GrownSuite site drops outer body updated reports) :
    eraseSuite site drops updated = eraseSuite site drops body := by
  cases body with
  | block tail step statements footer =>
    obtain ⟨-, -, -, hstatements⟩ := h
    simp only [eraseSuite, eraseAll_of_grown statements hstatements]
  | «inline» gap line =>
    cases h
    rfl
termination_by structural body

end

/-! ## Modules -/

/-- Where factories are written, a module that comes through the pass has only gained them: its
statements grow as the pass reports, all else about it stays, and without the factories of models it
is the module that went in. -/
theorem passModule_grown {site : Site} {key : Except Fault String} {source updated : Module}
    {state state' : PassState} (hwrites : site.options.readonly = false)
    (h : passModule site key source state = (.ok updated, state')) :
    ∃ reports, GrownAll site false [] source.body updated.body reports
      ∧ state'.emissions = state.emissions ++ reports
      ∧ updated = { source with body := updated.body }
      ∧ eraseAll site false updated.body = eraseAll site false source.body := by
  obtain ⟨body, last, hbody, h⟩ := step_bind_eq_ok h
  cases h
  obtain ⟨reports, hgrown, hreports⟩ := passStatements_grown hwrites source.body hbody
  exact ⟨reports, hgrown, hreports, rfl, eraseAll_of_grown source.body hgrown⟩

namespace Regrown

def head (name : String) (bases : List Expr) : ClassHead where
  preamble := {}
  afterClass := Gap.space
  name := name
  parameters := []
  bases := some ⟨[], bases.map fun base => .mk [] (.value base) none, []⟩
  beforeColon := []

def line : SmallLine := ⟨[⟨.verbatim [⟨[], "pass"⟩], none⟩], {}⟩

def oneLine (name : String) (bases : List Expr) : Statement :=
  .classDef (head name bases) (.inline Gap.space line)

/-- A class that holds an old factory with a class in it, a typed dict, and a function with a class
on one line. -/
def source : Module where
  body :=
    [.classDef (head "A" []) (.block {} none
      [.function {} factoryName [oneLine "B" []], oneLine "C" [.name "TypedDict"],
       .function {} "f" [oneLine "D" []]] [])]

def site : Site where
  oracle.host :=
    { moduleName := "m"
      imports := ⟨[("TypedDict", { origin := "typing", imported := some "TypedDict" })]⟩ }
  options := {}
  file := "m.py"

def factory : Statement := factoryFor (Descriptor.display [])

def updated : Module where
  body :=
    [.classDef (head "A" []) (.block {} none
      [oneLine "C" [.name "TypedDict"],
       .function {} "f" [.classDef (head "D" []) (.block {} none [.line [] line, factory] [])],
       factory] [])]

def reports : Reports := [("A.B", .augment), ("A.C", .skip), ("A.D", .augment), ("A", .augment)]

theorem passModule_source (key : Except Fault String) :
    passModule site key source {} = (.ok updated, { emissions := reports }) := rfl

end Regrown

theorem passModule_grown_of_regrown :
    ∃ reports, GrownAll Regrown.site false [] Regrown.source.body Regrown.updated.body reports
      ∧ Regrown.reports = [] ++ reports
      ∧ Regrown.updated = { Regrown.source with body := Regrown.updated.body }
      ∧ eraseAll Regrown.site false Regrown.updated.body
          = eraseAll Regrown.site false Regrown.source.body :=
  passModule_grown rfl (Regrown.passModule_source (.ok "./m.py"))

end ModelMetadata
