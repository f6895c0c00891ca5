import ModelMetadata.Proofs.Accounting
import ModelMetadata.Proofs.Places

/-!
What is reported of the classes of a module. A pass reports every class once, inner ones before the class
around them and otherwise in the order of the text. A class is named with the classes that it stands in.
Where factories are written every model gets one, wherever it stands; where metadata is collected, just
the exported models at module level are: those that stand in clauses of compound statements at most.
-/
set_option autoImplicit false
namespace ModelMetadata

open Source

/-! ## Where a class stands -/

def Enclosure.className? : Enclosure → Option String
  | .ofClass name => some name
  | _ => none

def classNames (around : List Enclosure) : List String := around.filterMap Enclosure.className?

theorem classNames_inside_class (around : List Enclosure) (name : String) :
    classNames (around ++ [.ofClass name]) = classNames around ++ [name] := by
  simp [classNames, Enclosure.className?]

theorem classNames_inside_function (around : List Enclosure) :
    classNames (around ++ [.ofFunction]) = classNames around := by
  simp [classNames, Enclosure.className?]

theorem classNames_inside_clause (around : List Enclosure) (head : ClauseHead) :
    classNames (around ++ [.ofClause head]) = classNames around := by
  simp [classNames, Enclosure.className?]

/-! ## Reports -/

def Located.isClass (place : Located) : Bool :=
  match place.statement with
  | .classDef _ _ => true
  | _ => false

/-- A report on a class that stands in some enclosures: its dotted name, and what is done with it. -/
inductive Reported (site : Site) (around : List Enclosure) :
    Statement → String × ClassEmission → Prop where
  | of {head : ClassHead} {body : Suite} {emission : ClassEmission}
    (haugment : emission = .augment
      ↔ site.options.readonly = false ∧ isModel site head.positionalBases = .ok true)
    (hcollect : emission = .collect
      ↔ site.options.readonly = true ∧ isModel site head.positionalBases = .ok true
        ∧ isModuleLevel around = true ∧ site.oracle.host.isExported head.name = true) :
    Reported site around (.classDef head body)
      (joinDots (classNames around ++ [head.name]), emission)

theorem collectClass_emissions {site : Site} {key : Except Fault String} {className : String}
    {metadata : Expr} {state state' : PassState}
    (h : collectClass site key className metadata state = (.ok (), state')) :
    state'.emissions = state.emissions := by
  obtain ⟨found, middle, hkey, h⟩ := step_bind_eq_ok h
  obtain ⟨-, hsame, -⟩ := describe_eq_ok hkey
  split at h
  · cases h
    exact hsame
  · obtain ⟨-, hnoted, -⟩ := describe_eq_ok h
    exact hnoted.trans hsame

theorem emitClass_reports {site : Site} {key : Except Fault String} {around : List Enclosure}
    {head : ClassHead} {body inner updated : Suite} {state state' : PassState}
    (h : emitClass site key (classNames around) (isModuleLevel around) head body inner state
      = (.ok updated, state')) :
    ∃ report, Reported site around (.classDef head body) report
      ∧ state'.emissions = state.emissions ++ [report] := by
  obtain ⟨emission, decided, hdecided, h⟩ := step_bind_eq_ok h
  obtain ⟨hemission, hsame, -⟩ := describe_eq_ok hdecided
  rw [(emissionOf_gives_for site head _).gives] at hemission
  obtain ⟨haugment, hcollect⟩ := emissionFor_eq_ok hemission
  refine ⟨_, .of haugment hcollect, ?_⟩
  obtain ⟨⟨⟩, reported, hreported, h⟩ := step_bind_eq_ok h
  cases hreported
  rw [← hsame]
  cases emission with
  | skip =>
    cases h
    rfl
  | augment =>
    obtain ⟨metadata, described, hdescribed, h⟩ := step_bind_eq_ok h
    cases h
    exact (describe_eq_ok hdescribed).2.1
  | collect =>
    obtain ⟨metadata, described, hdescribed, h⟩ := step_bind_eq_ok h
    obtain ⟨⟨⟩, registered, hregistered, h⟩ := step_bind_eq_ok h
    cases h
    exact (collectClass_emissions hregistered).trans (describe_eq_ok hdescribed).2.1

/-! ## The pass -/

def ReportedAll (site : Site) (around : List Enclosure) (places : List Located)
    (reports : Reports) : Prop :=
  List.Forall₂ (fun place => Reported site (around ++ place.around) place.statement)
    (places.filter Located.isClass) reports

namespace ReportedAll

variable {site : Site} {around : List Enclosure} {places others : List Located}
  {reports later : Reports}

theorem nil : ReportedAll site around [] [] := List.Forall₂.nil

theorem append (h : ReportedAll site around places reports)
    (hothers : ReportedAll site around others later) :
    ReportedAll site around (places ++ others) (reports ++ later) := by
  rw [ReportedAll, List.filter_append]
  exact List.rel_append h hothers

theorem below (h : ReportedAll site around places reports) (index : Nat) :
    ReportedAll site around (places.map (Located.below index)) reports := by
  rw [ReportedAll, List.filter_map]
  exact List.forall₂_map_left_iff.2 h

theorem within {enclosure : Enclosure} (h : ReportedAll site (around ++ [enclosure]) places reports) :
    ReportedAll site around (places.map (Located.within enclosure)) reports := by
  rw [ReportedAll, List.filter_map]
  refine List.forall₂_map_left_iff.2 (List.Forall₂.imp (fun place report hreport => ?_) h)
  rwa [List.append_assoc] at hreport

end ReportedAll

mutual

theorem passStatement_reports {site : Site} {key : Except Fault String} (around : List Enclosure)
    (statement : Statement) {updated : Statement} {state state' : PassState}
    (h : passStatement site key (classNames around) (isModuleLevel around) statement state
      = (.ok updated, state')) :
    ∃ reports, ReportedAll site around statement.places reports
      ∧ state'.emissions = state.emissions ++ reports := by
  cases statement with
  | line above line =>
    cases h
    exact ⟨[], .nil, (List.append_nil _).symm⟩
  | classDef head body =>
    obtain ⟨inner, middle, hinner, h⟩ := step_bind_eq_ok h
    obtain ⟨outerBody, emitted, hemitted, h⟩ := step_bind_eq_ok h
    cases h
    rw [← classNames_inside_class] at hinner
    obtain ⟨reports, hreported, hreports⟩ := passSuite_reports (around ++ [.ofClass head.name]) body
      (by simpa [isModuleLevel_append, isModuleLevel] using hinner)
    obtain ⟨report, hclass, hreport⟩ := emitClass_reports hemitted
    refine ⟨reports ++ [report], hreported.within.append (.cons ?_ .nil), ?_⟩
    · rwa [List.append_nil]
    · rw [hreport, hreports, List.append_assoc]
  | functionDef head body =>
    obtain ⟨inner, middle, hinner, h⟩ := step_bind_eq_ok h
    cases h
    rw [← classNames_inside_function] at hinner
    obtain ⟨reports, hreported, hreports⟩ := passSuite_reports (around ++ [.ofFunction]) body
      (by simpa [isModuleLevel_append, isModuleLevel] using hinner)
    exact ⟨reports ++ [], hreported.within.append .nil, by rwa [List.append_nil]⟩
  | compound clauses =>
    obtain ⟨inner, middle, hinner, h⟩ := step_bind_eq_ok h
    cases h
    obtain ⟨reports, hreported, hreports⟩ := passClauses_reports around 0 clauses hinner
    exact ⟨reports ++ [], hreported.append .nil, by rwa [List.append_nil]⟩
termination_by structural statement

theorem passStatements_reports {site : Site} {key : Except Fault String} (around : List Enclosure)
    (index : Nat) (statements : List Statement) {updated : List Statement} {state state' : PassState}
    (h : passStatements site key (classNames around) (isModuleLevel around) statements state
      = (.ok updated, state')) :
    ∃ reports, ReportedAll site around (placesOf index statements) reports
      ∧ state'.emissions = state.emissions ++ reports := by
  cases statements with
  | nil =>
    cases h
    exact ⟨[], .nil, (List.append_nil _).symm⟩
  | cons statement rest =>
    obtain ⟨first, middle, hfirst, h⟩ := step_bind_eq_ok h
    obtain ⟨others, last, hothers, h⟩ := step_bind_eq_ok h
    cases h
    obtain ⟨reports, hreported, hreports⟩ := passStatement_reports around statement hfirst
    obtain ⟨later, hrest, hlater⟩ := passStatements_reports around (index + 1) rest hothers
    exact ⟨_, (hreported.below index).append hrest, by rw [hlater, hreports, List.append_assoc]⟩
termination_by structural statements

theorem passClauses_reports {site : Site} {key : Except Fault String} (around : List Enclosure)
    (index : Nat) (clauses : List Clause) {updated : List Clause} {state state' : PassState}
    (h : passClauses site key (classNames around) (isModuleLevel around) clauses state
      = (.ok updated, state')) :
    ∃ reports, ReportedAll site around (placesOfClauses index clauses) reports
      ∧ state'.emissions = state.emissions ++ reports := by
  match clauses with
  | [] =>
    cases h
    exact ⟨[], .nil, (List.append_nil _).symm⟩
  | .mk above head body :: rest =>
    obtain ⟨first, middle, hfirst, h⟩ := step_bind_eq_ok h
    obtain ⟨others, last, hothers, h⟩ := step_bind_eq_ok h
    cases h
    rw [← classNames_inside_clause around head] at hfirst
    obtain ⟨reports, hreported, hreports⟩ := passSuite_reports (around ++ [.ofClause head]) body
      (by simpa [isModuleLevel_append, isModuleLevel] using hfirst)
    obtain ⟨later, hrest, hlater⟩ := passClauses_reports around (index + 1) rest hothers
    have hclause := hreported.within.below index
    rw [List.map_map] at hclause
    exact ⟨_, hclause.append hrest, by rw [hlater, hreports, List.append_assoc]⟩
termination_by structural clauses

theorem passSuite_reports {site : Site} {key : Except Fault String} (around : List Enclosure)
    (body : Suite) {updated : Suite} {state state' : PassState}
    (h : passSuite site key (classNames around) (isModuleLevel around) body state
      = (.ok updated, state')) :
    ∃ reports, ReportedAll site around body.places reports
      ∧ state'.emissions = state.emissions ++ reports := by
  cases body with
  | block tail step statements footer =>
    obtain ⟨inner, middle, hinner, h⟩ := step_bind_eq_ok h
    cases h
    exact passStatements_reports around 0 statements hinner
  | «inline» gap line =>
    cases h
    exact ⟨[], .nil, (List.append_nil _).symm⟩
termination_by structural body

end

/-! ## Modules -/

/-- The reports on all classes of a module: one on each class statement, in the order of their places. -/
def ReportsOf (site : Site) (source : Module) (reports : Reports) : Prop :=
  ∃ places, Lists source (fun place => place.isClass = true) places
    ∧ List.Forall₂ (fun place => Reported site place.around place.statement) places reports

theorem passModule_reports {site : Site} {key : Except Fault String} {source updated : Module}
    {state state' : PassState} (h : passModule site key source state = (.ok updated, state')) :
    ∃ reports, ReportsOf site source reports ∧ state'.emissions = state.emissions ++ reports := by
  obtain ⟨body, last, hbody, h⟩ := step_bind_eq_ok h
  cases h
  obtain ⟨reports, hreported, hreports⟩ := passStatements_reports [] 0 source.body hbody
  exact ⟨reports, ⟨_, lists_filter source Located.isClass, hreported⟩, hreports⟩

/-- A pass that comes through a module reports each of its classes once, by its place. -/
theorem classes_reported {site : Site} {key : Except Fault String} {source updated : Module}
    {journal : Journal} {registry : Registry} {passed : PassState}
    (h : passModule site key source { journal, registry } = (.ok updated, passed)) :
    ReportsOf site source passed.emissions := by
  obtain ⟨reports, hreports, hemissions⟩ := passModule_reports h
  rwa [hemissions]

namespace Sheltered

/-- A clause with a class that holds a class and a function with a class, and a hidden class. -/
def source : Module where
  body :=
    [.compound [.mk [] (.test "if" Gap.space (.name "debug") []) (.block {} none
      [.classDef (Regrown.head "A" []) (.block {} none
        [Regrown.oneLine "B" [], .function {} "f" [Regrown.oneLine "C" []]] [])] [])],
     Regrown.oneLine "_D" []]

def site : Site where
  oracle.host := { moduleName := "m" }
  options := { readonly := true }
  file := "m.py"

def passed : PassState where
  registry := Registry.add {} "./m.py" "A" (Descriptor.display [])
  emissions := [("A.B", .skip), ("A.C", .skip), ("A", .collect), ("_D", .skip)]

theorem passModule_source : passModule site (.ok "./m.py") source {} = (.ok source, passed) := by cbv

end Sheltered

theorem classes_reported_of_sheltered :
    ReportsOf Sheltered.site Sheltered.source
      [("A.B", .skip), ("A.C", .skip), ("A", .collect), ("_D", .skip)] :=
  classes_reported Sheltered.passModule_source

/-- The classes that a run reports are those of its text. -/
theorem run_reports {tree : FileTree} {code file : String} {before : Engine × List LogRecord}
    {result : RunResult} {source : Module} (hparse : Module.parse code = .ok source)
    (hrun : (run tree code file before).1 = .ok result) :
    ∃ site, Reads tree before code file source site ∧ ReportsOf site source result.classes := by
  obtain ⟨site, journal, updated, passed, hreads, hpass, rfl, -⟩ := run_parsed_eq_ok hparse hrun
  obtain ⟨reports, hreports, hemissions⟩ := passModule_reports hpass
  exact ⟨site, hreads, by rwa [reportOf, hemissions]⟩

end ModelMetadata
