import Mathlib
import ModelMetadata.Source.Statement

/-!
The places of statements. A statement of a module has a position, the numbers of the statements and of the
clauses on the way to it, and stands in classes, functions and clauses. All statements of a module are
listed, those inside of a statement before it and otherwise in the order of the text: every statement is in
the list, and none is there twice.
-/
set_option autoImplicit false
namespace ModelMetadata

open Source

/-! ## Places -/

inductive Enclosure where
  | ofClass (name : String)
  | ofFunction
  | ofClause (head : ClauseHead)

/-- A statement in its place: its position, and what is around it from outside to inside. -/
structure Located where
  position : List Nat
  around : List Enclosure
  statement : Statement

/-- Whether what is around a statement leaves it at module level: clauses do, classes and functions do
not. -/
def isModuleLevel (around : List Enclosure) : Bool :=
  around.all fun enclosure =>
    match enclosure with
    | .ofClause _ => true
    | _ => false

theorem isModuleLevel_append (around more : List Enclosure) :
    isModuleLevel (around ++ more) = (isModuleLevel around && isModuleLevel more) :=
  List.all_append

namespace Located

def below (index : Nat) (place : Located) : Located := { place with position := index :: place.position }

def within (enclosure : Enclosure) (place : Located) : Located :=
  { place with around := enclosure :: place.around }

end Located

inductive StandsIn : List Statement → Located → Prop where
  | here {statements : List Statement} {index : Nat} {statement : Statement}
    (hstatement : statements[index]? = some statement) :
    StandsIn statements ⟨[index], [], statement⟩
  | inClass {statements : List Statement} {index : Nat} {head : ClassHead} {body : Suite} {place : Located}
    (hstatement : statements[index]? = some (.classDef head body))
    (hplace : StandsIn body.statements place) :
    StandsIn statements ((place.within (.ofClass head.name)).below index)
  | inFunction {statements : List Statement} {index : Nat} {head : FunctionHead} {body : Suite}
    {place : Located} (hstatement : statements[index]? = some (.functionDef head body))
    (hplace : StandsIn body.statements place) :
    StandsIn statements ((place.within .ofFunction).below index)
  | inClause {statements : List Statement} {index : Nat} {clauses : List Clause} {number : Nat}
    {above : List EmptyLine} {head : ClauseHead} {body : Suite} {place : Located}
    (hstatement : statements[index]? = some (.compound clauses))
    (hclause : clauses[number]? = some (.mk above head body))
    (hplace : StandsIn body.statements place) :
    StandsIn statements (((place.within (.ofClause head)).below number).below index)

/-! ## The list of places -/

mutual

def Source.Statement.places : Statement → List Located
  | .line above line => [⟨[], [], .line above line⟩]
  | .classDef head body =>
    body.places.map (Located.within (.ofClass head.name)) ++ [⟨[], [], .classDef head body⟩]
  | .functionDef head body =>
    body.places.map (Located.within .ofFunction) ++ [⟨[], [], .functionDef head body⟩]
  | .compound clauses => placesOfClauses 0 clauses ++ [⟨[], [], .compound clauses⟩]

/-- The places in a list of statements, the first of which has the number `index`. -/
def placesOf (index : Nat) : List Statement → List Located
  | [] => []
  | statement :: rest => statement.places.map (Located.below index) ++ placesOf (index + 1) rest

def placesOfClauses (index : Nat) : List Clause → List Located
  | [] => []
  | .mk _ head body :: rest =>
    body.places.map (fun place => (place.within (.ofClause head)).below index)
      ++ placesOfClauses (index + 1) rest

def Source.Suite.places : Suite → List Located
  | .block _ _ body _ => placesOf 0 body
  | .inline _ line => [⟨[0], [], .line [] ⟨line.entries, {}⟩⟩]

end

def Source.Module.places (source : Module) : List Located := placesOf 0 source.body

theorem Source.Suite.places_eq (body : Suite) : body.places = placesOf 0 body.statements := by
  cases body <;> rfl

theorem mem_placesOf {start : Nat} {statements : List Statement} {place : Located} :
    place ∈ placesOf start statements ↔ ∃ (index : Nat) (statement : Statement) (inner : Located),
      statements[index]? = some statement ∧ inner ∈ statement.places
        ∧ place = inner.below (start + index) := by
  induction statements generalizing start with
  | nil => simp [placesOf]
  | cons statement rest ih =>
    rw [placesOf, List.mem_append, List.mem_map, ih]
    constructor
    · rintro (⟨inner, hinner, rfl⟩ | ⟨index, other, inner, hother, hinner, rfl⟩)
      · exact ⟨0, statement, inner, rfl, hinner, rfl⟩
      · exact ⟨index + 1, other, inner, hother, hinner, by rw [Nat.add_right_comm, Nat.add_assoc]⟩
    · rintro ⟨index, other, inner, hother, hinner, rfl⟩
      cases index with
      | zero =>
        cases hother
        exact .inl ⟨inner, hinner, rfl⟩
      | succ index =>
        exact .inr ⟨index, other, inner, hother, hinner, by rw [Nat.add_right_comm, Nat.add_assoc]⟩

theorem mem_placesOfClauses {start : Nat} {clauses : List Clause} {place : Located} :
    place ∈ placesOfClauses start clauses ↔
      ∃ (number : Nat) (above : List EmptyLine) (head : ClauseHead) (body : Suite) (inner : Located),
        clauses[number]? = some (Clause.mk above head body) ∧ inner ∈ body.places
          ∧ place = (inner.within (.ofClause head)).below (start + number) := by
  induction clauses generalizing start with
  | nil => simp [placesOfClauses]
  | cons clause rest ih =>
    obtain ⟨above, head, body⟩ := clause
    rw [placesOfClauses, List.mem_append, List.mem_map, ih]
    constructor
    · rintro (⟨inner, hinner, rfl⟩ | ⟨number, above', head', body', inner, hclause, hinner, rfl⟩)
      · exact ⟨0, above, head, body, inner, rfl, hinner, rfl⟩
      · exact ⟨number + 1, above', head', body', inner, hclause, hinner,
          by rw [Nat.add_right_comm, Nat.add_assoc]⟩
    · rintro ⟨number, above', head', body', inner, hclause, hinner, rfl⟩
      cases number with
      | zero =>
        cases hclause
        exact .inl ⟨inner, hinner, rfl⟩
      | succ number =>
        exact .inr ⟨number, above', head', body', inner, hclause, hinner,
          by rw [Nat.add_right_comm, Nat.add_assoc]⟩

theorem Source.Statement.mem_places_self (statement : Statement) :
    ⟨[], [], statement⟩ ∈ statement.places := by
  cases statement <;> simp [places]

/-- Every place is in the list. -/
theorem StandsIn.mem_placesOf {statements : List Statement} {place : Located}
    (h : StandsIn statements place) : place ∈ placesOf 0 statements := by
  induction h with
  | @here statements index statement hstatement =>
    exact ModelMetadata.mem_placesOf.2
      ⟨index, statement, _, hstatement, statement.mem_places_self, by rw [Nat.zero_add]; rfl⟩
  | @inClass statements index head body place hstatement _ ih =>
    rw [← Suite.places_eq] at ih
    exact ModelMetadata.mem_placesOf.2
      ⟨index, _, _, hstatement, List.mem_append_left _ (List.mem_map_of_mem ih), by rw [Nat.zero_add]⟩
  | @inFunction statements index head body place hstatement _ ih =>
    rw [← Suite.places_eq] at ih
    exact ModelMetadata.mem_placesOf.2
      ⟨index, _, _, hstatement, List.mem_append_left _ (List.mem_map_of_mem ih), by rw [Nat.zero_add]⟩
  | @inClause statements index clauses number above head body place hstatement hclause _ ih =>
    rw [← Suite.places_eq] at ih
    have hmem : (place.within (.ofClause head)).below number ∈ placesOfClauses 0 clauses :=
      mem_placesOfClauses.2 ⟨number, above, head, body, place, hclause, ih, by rw [Nat.zero_add]⟩
    exact ModelMetadata.mem_placesOf.2
      ⟨index, _, _, hstatement, List.mem_append_left _ hmem, by rw [Nat.zero_add]⟩

mutual

theorem standsIn_of_mem_places {statements : List Statement} {index : Nat} (statement : Statement)
    (hstatement : statements[index]? = some statement) {place : Located}
    (hplace : place ∈ statement.places) : StandsIn statements (place.below index) := by
  cases statement with
  | line above line =>
    cases List.mem_singleton.1 hplace
    exact .here hstatement
  | classDef head body =>
    rcases List.mem_append.1 hplace with hinside | hself
    · obtain ⟨inner, hinner, rfl⟩ := List.mem_map.1 hinside
      exact .inClass hstatement (standsIn_of_mem_suite body hinner)
    · cases List.mem_singleton.1 hself
      exact .here hstatement
  | functionDef head body =>
    rcases List.mem_append.1 hplace with hinside | hself
    · obtain ⟨inner, hinner, rfl⟩ := List.mem_map.1 hinside
      exact .inFunction hstatement (standsIn_of_mem_suite body hinner)
    · cases List.mem_singleton.1 hself
      exact .here hstatement
  | compound clauses =>
    rcases List.mem_append.1 hplace with hinside | hself
    · exact standsIn_of_mem_clauses hstatement clauses (fun number => by rw [Nat.zero_add]) hinside
    · cases List.mem_singleton.1 hself
      exact .here hstatement
termination_by structural statement

/-- What is listed for the statements from a number on stands among all of them. -/
theorem standsIn_of_mem_placesOf {whole : List Statement} {start : Nat} (statements : List Statement)
    (hwhole : ∀ index, statements[index]? = whole[start + index]?) {place : Located}
    (hplace : place ∈ placesOf start statements) : StandsIn whole place := by
  cases statements with
  | nil => cases hplace
  | cons statement rest =>
    rcases List.mem_append.1 hplace with hfirst | hrest
    · obtain ⟨inner, hinner, rfl⟩ := List.mem_map.1 hfirst
      exact standsIn_of_mem_places statement (hwhole 0).symm hinner
    · refine standsIn_of_mem_placesOf rest (fun index => ?_) hrest
      have hnext := hwhole (index + 1)
      rwa [← Nat.add_assoc, Nat.add_right_comm] at hnext
termination_by structural statements

theorem standsIn_of_mem_clauses {statements : List Statement} {index : Nat} {whole : List Clause}
    (hstatement : statements[index]? = some (.compound whole)) {start : Nat} (clauses : List Clause)
    (hwhole : ∀ number, clauses[number]? = whole[start + number]?) {place : Located}
    (hplace : place ∈ placesOfClauses start clauses) : StandsIn statements (place.below index) := by
  match clauses with
  | [] => cases hplace
  | .mk above head body :: rest =>
    rcases List.mem_append.1 hplace with hfirst | hrest
    · obtain ⟨inner, hinner, rfl⟩ := List.mem_map.1 hfirst
      exact .inClause hstatement (hwhole 0).symm (standsIn_of_mem_suite body hinner)
    · refine standsIn_of_mem_clauses hstatement rest (fun number => ?_) hrest
      have hnext := hwhole (number + 1)
      rwa [← Nat.add_assoc, Nat.add_right_comm] at hnext
termination_by structural clauses

theorem standsIn_of_mem_suite (body : Suite) {place : Located} (hplace : place ∈ body.places) :
    StandsIn body.statements place := by
  cases body with
  | block tail step statements footer =>
    exact standsIn_of_mem_placesOf statements (fun index => by rw [Nat.zero_add]; rfl) hplace
  | «inline» gap line =>
    cases List.mem_singleton.1 hplace
    exact .here rfl
termination_by structural body

end

theorem mem_places_iff {source : Module} {place : Located} :
    place ∈ source.places ↔ StandsIn source.body place :=
  ⟨standsIn_of_mem_placesOf source.body fun index => by rw [Nat.zero_add], StandsIn.mem_placesOf⟩

/-! ## The order of places -/

/-- One position comes before another one: it leads into the other statement, or it parts from the way to it
at a smaller number. -/
def Precedes : List Nat → List Nat → Prop
  | [], _ => False
  | _ :: _, [] => True
  | index :: position, other :: way => index < other ∨ index = other ∧ Precedes position way

theorem not_precedes_self (position : List Nat) : ¬ Precedes position position := by
  induction position with
  | nil => exact id
  | cons index position ih => simp [Precedes, ih]

theorem precedes_of_mem_suite {body : Suite} {place : Located} (h : place ∈ body.places) :
    Precedes place.position [] := by
  rw [Suite.places_eq] at h
  obtain ⟨index, statement, inner, -, -, rfl⟩ := mem_placesOf.1 h
  exact trivial

mutual

theorem pairwise_places (statement : Statement) :
    statement.places.Pairwise fun place other => Precedes place.position other.position := by
  have hlast {inside : List Located} {last : Located}
      (hinside : inside.Pairwise fun place other => Precedes place.position other.position)
      (hbefore : ∀ place ∈ inside, Precedes place.position last.position) :
      (inside ++ [last]).Pairwise fun place other => Precedes place.position other.position := by
    rw [List.pairwise_append]
    exact ⟨hinside, List.pairwise_singleton .., by simpa using hbefore⟩
  cases statement with
  | line above line => exact List.pairwise_singleton ..
  | classDef head body =>
    refine hlast (List.pairwise_map.2 (pairwise_suite body)) ?_
    exact List.forall_mem_map.2 fun place hplace =>
      (precedes_of_mem_suite hplace : Precedes place.position [])
  | functionDef head body =>
    refine hlast (List.pairwise_map.2 (pairwise_suite body)) ?_
    exact List.forall_mem_map.2 fun place hplace =>
      (precedes_of_mem_suite hplace : Precedes place.position [])
  | compound clauses =>
    refine hlast (pairwise_placesOfClauses 0 clauses) fun place hplace => ?_
    obtain ⟨number, above, head, body, inner, -, -, rfl⟩ := mem_placesOfClauses.1 hplace
    exact trivial
termination_by structural statement

theorem pairwise_placesOf (start : Nat) (statements : List Statement) :
    (placesOf start statements).Pairwise fun place other => Precedes place.position other.position := by
  cases statements with
  | nil => exact .nil
  | cons statement rest =>
    rw [placesOf, List.pairwise_append, List.pairwise_map, List.forall_mem_map]
    refine ⟨(pairwise_places statement).imp fun h => .inr ⟨rfl, h⟩, pairwise_placesOf (start + 1) rest,
      fun place _ other hother => ?_⟩
    obtain ⟨index, statement', inner, -, -, rfl⟩ := mem_placesOf.1 hother
    exact .inl (by omega)
termination_by structural statements

theorem pairwise_placesOfClauses (start : Nat) (clauses : List Clause) :
    (placesOfClauses start clauses).Pairwise fun place other =>
      Precedes place.position other.position := by
  match clauses with
  | [] => exact .nil
  | .mk above head body :: rest =>
    rw [placesOfClauses, List.pairwise_append, List.pairwise_map, List.forall_mem_map]
    refine ⟨(pairwise_suite body).imp fun h => .inr ⟨rfl, h⟩, pairwise_placesOfClauses (start + 1) rest,
      fun place _ other hother => ?_⟩
    obtain ⟨number, above', head', body', inner, -, -, rfl⟩ := mem_placesOfClauses.1 hother
    exact .inl (by omega)
termination_by structural clauses

theorem pairwise_suite (body : Suite) :
    body.places.Pairwise fun place other => Precedes place.position other.position := by
  cases body with
  | block tail step statements footer => exact pairwise_placesOf 0 statements
  | «inline» gap line => exact List.pairwise_singleton ..
termination_by structural body

end

/-! ## Lists of some places -/

/-- A list of the statements of a module that are as `P` says, each once. -/
structure Lists (source : Module) (P : Located → Prop) (places : List Located) : Prop where
  mem (place : Located) : place ∈ places ↔ StandsIn source.body place ∧ P place
  nodup : places.Nodup
  ordered : places.Pairwise fun place other => Precedes place.position other.position

theorem lists_filter (source : Module) (p : Located → Bool) :
    Lists source (fun place => p place = true) (source.places.filter p) where
  mem place := by rw [List.mem_filter, mem_places_iff]
  nodup := by
    refine (List.Pairwise.filter p (pairwise_placesOf 0 source.body)).imp fun h hsame => ?_
    exact not_precedes_self _ (hsame ▸ h)
  ordered := List.Pairwise.filter p (pairwise_placesOf 0 source.body)

end ModelMetadata
