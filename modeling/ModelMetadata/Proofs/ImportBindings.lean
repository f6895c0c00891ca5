import ModelMetadata.Artifact
import ModelMetadata.Proofs.ModuleParts
import ModelMetadata.Proofs.Places

/-!
The imports of a module. The table of a module binds just the names that its imports outside of functions
and classes bind, those in the blocks of compound statements included; each name has the origin that the
last of these imports gives it. It is bound for type checkers alone where that import stands in a clause
that they alone run. What is inside of a function, or of a class in a class, makes no difference to the
table.
-/
set_option autoImplicit false
namespace ModelMetadata

open Source

/-! ## Places of imports -/

def Source.Statement.bindings (host : ModuleSymbols) (typeOnly : Bool) :
    Statement → List (String × ImportBinding)
  | .line _ smalls => smalls.bindings host typeOnly
  | _ => []

/-- Whether a clause runs for type checkers alone. An `elif` is a test of its own, an `else` is none. -/
def Enclosure.isTypeChecking : Enclosure → Bool
  | .ofClause (.test _ _ condition _) => condition.lastName == ModuleSymbols.typeCheckingFlag
  | _ => false

namespace Located

def isOuterLine (place : Located) : Bool :=
  isModuleLevel place.around &&
    match place.statement with
    | .line _ _ => true
    | _ => false

/-- Whether a statement stands, at any depth, in a clause that type checkers alone run. -/
def isTypeOnly (place : Located) : Bool := place.around.any Enclosure.isTypeChecking

def bindings (host : ModuleSymbols) (place : Located) : List (String × ImportBinding) :=
  place.statement.bindings host place.isTypeOnly

end Located

def outerBindings (host : ModuleSymbols) (typeOnly : Bool) (places : List Located) :
    List (String × ImportBinding) :=
  (places.filter Located.isOuterLine).flatMap fun place =>
    place.statement.bindings host (typeOnly || place.isTypeOnly)

section

variable {host : ModuleSymbols} {typeOnly : Bool}

theorem outerBindings_append (places others : List Located) :
    outerBindings host typeOnly (places ++ others)
      = outerBindings host typeOnly places ++ outerBindings host typeOnly others := by
  simp [outerBindings]

theorem outerBindings_line (position : List Nat) (above : List EmptyLine) (line : SmallLine) :
    outerBindings host typeOnly [⟨position, [], .line above line⟩] = line.bindings host typeOnly := by
  simp [outerBindings, Located.isOuterLine, Located.isTypeOnly, isModuleLevel, Statement.bindings]

theorem outerBindings_below (index : Nat) (places : List Located) :
    outerBindings host typeOnly (places.map (Located.below index))
      = outerBindings host typeOnly places := by
  rw [outerBindings, List.filter_map, List.flatMap_map]
  rfl

theorem outerBindings_clause (head : ClauseHead) (places : List Located) :
    outerBindings host typeOnly (places.map (Located.within (.ofClause head)))
      = outerBindings host (typeOnly || ModuleSymbols.isTypeOnlyClause head) places := by
  have hhead : (Enclosure.ofClause head).isTypeChecking = ModuleSymbols.isTypeOnlyClause head := by
    cases head <;> rfl
  rw [outerBindings, List.filter_map, List.flatMap_map, outerBindings]
  refine List.flatMap_congr fun place _ => ?_
  rw [← hhead, Bool.or_assoc]
  rfl

theorem outerBindings_definition {enclosure : Enclosure} (h : isModuleLevel [enclosure] = false)
    (places : List Located) :
    outerBindings host typeOnly (places.map (Located.within enclosure)) = [] := by
  have hinside : places.filter (Located.isOuterLine ∘ Located.within enclosure) = [] := by
    refine List.filter_eq_nil_iff.2 fun place _ => ?_
    rw [Function.comp_apply, Located.isOuterLine, Located.within, ← List.singleton_append,
      isModuleLevel_append, h]
    simp
  rw [outerBindings, List.filter_map, hinside, List.map_nil, List.flatMap_nil]

end

mutual

theorem bindings_parts (host : ModuleSymbols) (typeOnly : Bool) (statement : Statement) :
    (statement.parts typeOnly).flatMap (ModulePart.bindings host)
      = outerBindings host typeOnly statement.places := by
  cases statement with
  | line above line =>
    rw [Statement.places, outerBindings_line]
    exact List.append_nil _
  | classDef head body =>
    rw [Statement.places, outerBindings_append, outerBindings_definition rfl]
    rfl
  | functionDef head body =>
    rw [Statement.places, outerBindings_append, outerBindings_definition rfl]
    rfl
  | compound clauses =>
    rw [Statement.places, outerBindings_append, ← bindings_partsOfClauses host typeOnly 0 clauses]
    exact (List.append_nil _).symm
termination_by structural statement

theorem bindings_partsOf (host : ModuleSymbols) (typeOnly : Bool) (index : Nat)
    (statements : List Statement) :
    (partsOf typeOnly statements).flatMap (ModulePart.bindings host)
      = outerBindings host typeOnly (placesOf index statements) := by
  cases statements with
  | nil => rfl
  | cons statement rest =>
    rw [partsOf, placesOf, List.flatMap_append, outerBindings_append, outerBindings_below,
      bindings_parts host typeOnly statement, bindings_partsOf host typeOnly (index + 1) rest]
termination_by structural statements

theorem bindings_partsOfClauses (host : ModuleSymbols) (typeOnly : Bool) (index : Nat)
    (clauses : List Clause) :
    (partsOfClauses typeOnly clauses).flatMap (ModulePart.bindings host)
      = outerBindings host typeOnly (placesOfClauses index clauses) := by
  match clauses with
  | [] => rfl
  | .mk above head body :: rest =>
    rw [partsOfClauses, placesOfClauses, List.flatMap_append, outerBindings_append,
      bindings_partsOfSuite host _ body, bindings_partsOfClauses host typeOnly (index + 1) rest,
      ← outerBindings_clause, ← outerBindings_below index, List.map_map]
    rfl
termination_by structural clauses

theorem bindings_partsOfSuite (host : ModuleSymbols) (typeOnly : Bool) (body : Suite) :
    (body.parts typeOnly).flatMap (ModulePart.bindings host)
      = outerBindings host typeOnly body.places := by
  cases body with
  | block tail step statements footer => exact bindings_partsOf host typeOnly 0 statements
  | «inline» gap line => exact (List.append_nil _).trans (outerBindings_line [0] [] _).symm
termination_by structural body

end

/-! ## What a table does not read -/

def Source.Suite.hollow : Suite := .block {} none [] []

mutual

/-- The statement without the bodies of functions and of classes that stand in a class. -/
def Source.Statement.sketch (inClass : Bool) : Statement → Statement
  | .line above smalls => .line above smalls
  | .classDef head body => .classDef head (if inClass then .hollow else body.sketch true)
  | .functionDef head _ => .functionDef head .hollow
  | .compound clauses => .compound (sketchClauses inClass clauses)

def sketchAll (inClass : Bool) : List Statement → List Statement
  | [] => []
  | statement :: rest => statement.sketch inClass :: sketchAll inClass rest

def sketchClauses (inClass : Bool) : List Clause → List Clause
  | [] => []
  | .mk above head body :: rest => .mk above head (body.sketch inClass) :: sketchClauses inClass rest

def Source.Suite.sketch (inClass : Bool) : Suite → Suite
  | .block tail step body footer => .block tail step (sketchAll inClass body) footer
  | .inline gap smalls => .inline gap smalls

end

def Source.Module.sketch (source : Module) : Module :=
  { source with body := sketchAll false source.body }

namespace ModuleSymbols

/-- The members of a class are among the lines of its body. -/
theorem memberNames_sketch (body : Suite) : memberNames (body.sketch true) = memberNames body := by
  cases body with
  | «inline» gap line => rfl
  | block tail step statements footer =>
    rw [Suite.sketch, memberNames, memberNames]
    refine congrArg (List.filter _) ?_
    induction statements with
    | nil => rfl
    | cons statement rest ih =>
      rw [sketchAll, List.flatMap_cons, List.flatMap_cons, ih]
      cases statement <;> rfl

mutual

theorem collectStatement_sketch (typeOnly : Bool) (symbols : ModuleSymbols) (statement : Statement) :
    collectStatement typeOnly symbols (statement.sketch false)
      = collectStatement typeOnly symbols statement := by
  cases statement with
  | line above line => rfl
  | classDef head body =>
    have hmembers := memberNames_sketch body
    simp only [Statement.sketch, collectStatement, bindClass, Bool.false_eq_true, if_false, hmembers]
  | functionDef head body => rfl
  | compound clauses => exact collectClauses_sketch typeOnly symbols clauses
termination_by structural statement

theorem collectStatements_sketch (typeOnly : Bool) (symbols : ModuleSymbols)
    (statements : List Statement) :
    collectStatements typeOnly symbols (sketchAll false statements)
      = collectStatements typeOnly symbols statements := by
  cases statements with
  | nil => rfl
  | cons statement rest =>
    rw [sketchAll, collectStatements, collectStatements, collectStatement_sketch typeOnly symbols statement]
    exact bind_congr fun symbols => collectStatements_sketch typeOnly symbols rest
termination_by structural statements

theorem collectClauses_sketch (typeOnly : Bool) (symbols : ModuleSymbols) (clauses : List Clause) :
    collectClauses typeOnly symbols (sketchClauses false clauses)
      = collectClauses typeOnly symbols clauses := by
  match clauses with
  | [] => rfl
  | .mk above head body :: rest =>
    rw [sketchClauses, collectClauses, collectClauses, collectSuite_sketch _ symbols body]
    exact bind_congr fun symbols => collectClauses_sketch typeOnly symbols rest
termination_by structural clauses

theorem collectSuite_sketch (typeOnly : Bool) (symbols : ModuleSymbols) (body : Suite) :
    collectSuite typeOnly symbols (body.sketch false) = collectSuite typeOnly symbols body := by
  cases body with
  | block tail step statements footer => exact collectStatements_sketch typeOnly symbols statements
  | «inline» gap line => rfl
termination_by structural body

end

theorem collect_sketch (source : Module) (moduleName : String) (isPackage : Bool) :
    collect source.sketch moduleName isPackage = collect source moduleName isPackage :=
  collectStatements_sketch false _ source.body

end ModuleSymbols

/-! ## The table -/

def lastBinding (name : String) (entries : List (String × ImportBinding)) : Option ImportBinding :=
  ((entries.filter fun entry => entry.1 == name).map Prod.snd).getLast?

/-- The table of a module has the names that the imports bind that stand in no function and in no class,
each with the origin that it is given last; and a module that differs inside of functions, or of classes
in a class, has the same table. -/
theorem imports_of_module {source : Module} {moduleName : String} {isPackage : Bool}
    {symbols : ModuleSymbols}
    (h : ModuleSymbols.collect source moduleName isPackage = .ok symbols) :
    (∃ lines, Lists source (fun place => place.isOuterLine = true) lines
        ∧ ∀ name, symbols.imports.get? name
          = lastBinding name (lines.flatMap (Located.bindings { moduleName, isPackage })))
      ∧ ∀ other : Module, other.sketch = source.sketch →
        ModuleSymbols.collect other moduleName isPackage = .ok symbols := by
  constructor
  · refine ⟨_, lists_filter source Located.isOuterLine, fun name => ?_⟩
    have hplaces := bindings_partsOf { moduleName, isPackage } false 0 source.body
    rw [ModuleSymbols.imports_of_collect h, Table.get?_entered, Module.parts, hplaces]
    rfl
  · intro other hsketch
    rw [← ModuleSymbols.collect_sketch, hsketch, ModuleSymbols.collect_sketch, h]

namespace Rebound

def taking (moduleName name : String) : Statement :=
  .ofSmall (.importFrom [] (some (Gap.space, .name moduleName)) Gap.space
    (.plain [{ before := Gap.space, path := .name name, boundAs := none, comma := none }]))

def source : Module where
  body :=
    [taking "a" "X",
     .compound
       [.mk [] (.test "if" Gap.space (.name "TYPE_CHECKING") []) (.block {} none [taking "b" "X"] []),
        .mk [] (.verbatim [⟨[], "else"⟩, ⟨[], ":"⟩]) (.block {} none [taking "c" "Y"] [])],
     .function {} "f" [taking "d" "X"]]

def symbols : ModuleSymbols where
  moduleName := "m"
  imports := ⟨[("X", { origin := "b", imported := some "X", typeOnly := true }),
    ("Y", { origin := "c", imported := some "Y" })]⟩

theorem collect_source : ModuleSymbols.collect source "m" false = .ok symbols := by cbv

end Rebound

theorem imports_of_module_of_rebound :
    (∃ lines, Lists Rebound.source (fun place => place.isOuterLine = true) lines
        ∧ ∀ name, Rebound.symbols.imports.get? name
          = lastBinding name (lines.flatMap (Located.bindings { moduleName := "m" })))
      ∧ ∀ other : Module, other.sketch = Rebound.source.sketch →
        ModuleSymbols.collect other "m" false = .ok Rebound.symbols :=
  imports_of_module Rebound.collect_source

end ModelMetadata
