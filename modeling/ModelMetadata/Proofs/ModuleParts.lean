import ModelMetadata.Proofs.ModuleClasses

/-!
The parts of a module: the lines and the classes at its module level, those in the blocks of compound
statements included, and of each whether it stands in a block that type checkers alone read. The table of
a module is collected from its parts, one after the other; so whatever the table says of a name, some part
of the module says it.
-/
set_option autoImplicit false
namespace ModelMetadata

open Source

/-! ## Parts -/

inductive ModulePart where
  | line (typeOnly : Bool) (line : SmallLine)
  | classDef (typeOnly : Bool) (head : ClassHead) (body : Suite)

mutual

def Source.Statement.parts (typeOnly : Bool) : Statement → List ModulePart
  | .line _ line => [.line typeOnly line]
  | .classDef head body => [.classDef typeOnly head body]
  | .functionDef _ _ => []
  | .compound clauses => partsOfClauses typeOnly clauses

def partsOf (typeOnly : Bool) : List Statement → List ModulePart
  | [] => []
  | statement :: rest => statement.parts typeOnly ++ partsOf typeOnly rest

def partsOfClauses (typeOnly : Bool) : List Clause → List ModulePart
  | [] => []
  | .mk _ head body :: rest =>
    body.parts (typeOnly || ModuleSymbols.isTypeOnlyClause head) ++ partsOfClauses typeOnly rest

def Source.Suite.parts (typeOnly : Bool) : Suite → List ModulePart
  | .block _ _ body _ => partsOf typeOnly body
  | .inline _ line => [.line typeOnly line]

end

def Source.Module.parts (source : Module) : List ModulePart := partsOf false source.body

namespace Source

/-- The name that an imported module is bound to: the one given to it, else the first of its own. -/
def ImportName.boundModule (name : ImportName) : String :=
  match name.boundAs with
  | some (_, _, bound) => bound
  | none => (dotPieces name.path.dottedName).headD ""

def ImportName.boundAttribute (name : ImportName) : String :=
  match name.boundAs with
  | some (_, _, bound) => bound
  | none => name.path.dottedName

def Small.importedNames : Small → List String
  | .importModules names => names.map ImportName.boundModule
  | .importFrom _ _ _ names => (ModuleSymbols.importedNames names).map ImportName.boundAttribute
  | _ => []

def Small.importedModules : Small → List String
  | .importModules names => names.filterMap fun name =>
    if name.boundAs.isNone then some name.path.dottedName else none
  | _ => []

end Source

namespace ModulePart

def typeOnly : ModulePart → Bool
  | .line typeOnly _ => typeOnly
  | .classDef typeOnly _ _ => typeOnly

def names : ModulePart → List String
  | .line _ smalls => smalls.entries.flatMap fun entry => entry.statement.importedNames
  | .classDef _ head _ => [head.name]

def modules : ModulePart → List String
  | .line _ smalls => smalls.entries.flatMap fun entry => entry.statement.importedModules
  | .classDef _ _ _ => []

def collect (symbols : ModuleSymbols) : ModulePart → Except Fault ModuleSymbols
  | .line typeOnly smalls => ModuleSymbols.collectLine typeOnly symbols smalls
  | .classDef _ head body => .ok (symbols.bindClass head body)

/-- A module that is reached by its own dotted name is reached by the first name in it. -/
theorem head_mem_names {part : ModulePart} {moduleName : String} (h : moduleName ∈ part.modules) :
    (dotPieces moduleName).headD "" ∈ part.names := by
  cases part with
  | classDef => cases h
  | line typeOnly line =>
    obtain ⟨entry, hentry, hmodule⟩ := List.mem_flatMap.1 h
    refine List.mem_flatMap.2 ⟨entry, hentry, ?_⟩
    generalize entry.statement = small at hmodule
    cases small with
    | importModules names =>
      obtain ⟨name, hname, hsome⟩ := List.mem_filterMap.1 hmodule
      split at hsome
      · rename_i hbound
        cases hsome
        refine List.mem_map.2 ⟨name, hname, ?_⟩
        rw [ImportName.boundModule, Option.isNone_iff_eq_none.1 hbound]
      · cases hsome
    | _ => cases hmodule

end ModulePart

/-! ## Collection -/

namespace ModuleSymbols

theorem foldlM_collect_singleton (symbols : ModuleSymbols) (part : ModulePart) :
    [part].foldlM ModulePart.collect symbols = part.collect symbols := by
  rw [List.foldlM_cons]
  exact bind_pure _

mutual

theorem collectStatement_eq (typeOnly : Bool) (symbols : ModuleSymbols) (statement : Statement) :
    collectStatement typeOnly symbols statement
      = (statement.parts typeOnly).foldlM ModulePart.collect symbols := by
  cases statement with
  | line above line => exact (foldlM_collect_singleton symbols (.line typeOnly line)).symm
  | classDef head body => exact (foldlM_collect_singleton symbols (.classDef typeOnly head body)).symm
  | functionDef head body => rfl
  | compound clauses => exact collectClauses_eq typeOnly symbols clauses
termination_by structural statement

/-- The table of a module is collected part by part. -/
theorem collectStatements_eq (typeOnly : Bool) (symbols : ModuleSymbols) (statements : List Statement) :
    collectStatements typeOnly symbols statements
      = (partsOf typeOnly statements).foldlM ModulePart.collect symbols := by
  cases statements with
  | nil => rfl
  | cons statement rest =>
    rw [collectStatements, collectStatement_eq typeOnly symbols statement, partsOf, List.foldlM_append]
    exact bind_congr fun symbols => collectStatements_eq typeOnly symbols rest
termination_by structural statements

theorem collectClauses_eq (typeOnly : Bool) (symbols : ModuleSymbols) (clauses : List Clause) :
    collectClauses typeOnly symbols clauses
      = (partsOfClauses typeOnly clauses).foldlM ModulePart.collect symbols := by
  match clauses with
  | [] => rfl
  | .mk above head body :: rest =>
    rw [collectClauses, collectSuite_eq _ symbols body, partsOfClauses, List.foldlM_append]
    exact bind_congr fun symbols => collectClauses_eq typeOnly symbols rest
termination_by structural clauses

theorem collectSuite_eq (typeOnly : Bool) (symbols : ModuleSymbols) (body : Suite) :
    collectSuite typeOnly symbols body = (body.parts typeOnly).foldlM ModulePart.collect symbols := by
  cases body with
  | block tail step statements footer => exact collectStatements_eq typeOnly symbols statements
  | «inline» gap line => exact (foldlM_collect_singleton symbols (.line typeOnly line)).symm
termination_by structural body

end

end ModuleSymbols

/-! ## Bindings -/

/-- What an import binds: each name with its origin. Of the module `host` only the name and the kind
matter. -/
def Source.Small.bindings (host : ModuleSymbols) (typeOnly : Bool) :
    Small → List (String × ImportBinding)
  | .importModules names => names.map fun name =>
    let origin := if name.boundAs.isSome then name.path.dottedName else name.boundModule
    (name.boundModule, { origin, typeOnly })
  | .importFrom dots path _ names => (ModuleSymbols.importedNames names).map fun name =>
    (name.boundAttribute,
      { origin := host.importOrigin dots path, imported := some name.path.dottedName, typeOnly })
  | _ => []

def Source.SmallLine.bindings (host : ModuleSymbols) (typeOnly : Bool) (line : SmallLine) :
    List (String × ImportBinding) :=
  line.entries.flatMap fun entry => entry.statement.bindings host typeOnly

theorem Source.Small.mem_bindings {host : ModuleSymbols} {typeOnly : Bool} {small : Small}
    {entry : String × ImportBinding} (h : entry ∈ small.bindings host typeOnly) :
    entry.2.typeOnly = typeOnly ∧ entry.1 ∈ small.importedNames := by
  cases small with
  | importModules names =>
    obtain ⟨name, hname, rfl⟩ := List.mem_map.1 h
    exact ⟨rfl, List.mem_map_of_mem hname⟩
  | importFrom dots path beforeImport names =>
    obtain ⟨name, hname, rfl⟩ := List.mem_map.1 h
    exact ⟨rfl, List.mem_map_of_mem hname⟩
  | _ => cases h

def ModulePart.bindings (host : ModuleSymbols) : ModulePart → List (String × ImportBinding)
  | .line typeOnly smalls => smalls.bindings host typeOnly
  | .classDef _ _ _ => []

theorem ModulePart.mem_bindings {host : ModuleSymbols} {part : ModulePart}
    {entry : String × ImportBinding} (h : entry ∈ part.bindings host) :
    part.typeOnly = entry.2.typeOnly ∧ entry.1 ∈ part.names := by
  cases part with
  | line typeOnly smalls =>
    obtain ⟨small, hsmall, hentry⟩ := List.mem_flatMap.1 h
    obtain ⟨htype, hname⟩ := Small.mem_bindings hentry
    exact ⟨htype.symm, List.mem_flatMap.2 ⟨small, hsmall, hname⟩⟩
  | classDef typeOnly head body => cases h

namespace ModuleSymbols

/-- The table of the module `host` after some names were imported, one after the other. -/
structure Imports (host : ModuleSymbols) (entries : List (String × ImportBinding))
    (symbols : ModuleSymbols) : Prop where
  moduleName : symbols.moduleName = host.moduleName
  isPackage : symbols.isPackage = host.isPackage
  imports : symbols.imports = Table.entered entries

namespace Imports

variable {host symbols symbols' : ModuleSymbols} {entries : List (String × ImportBinding)}

theorem importOrigin_eq (h : Imports host entries symbols) (dots : List Word)
    (path : Option (Gap × Expr)) : symbols.importOrigin dots path = host.importOrigin dots path := by
  simp only [importOrigin, resolveRelative, h.moduleName, h.isPackage]

theorem foldl {bind : ModuleSymbols → ImportName → ModuleSymbols}
    {binding : ImportName → String × ImportBinding}
    (hbind : ∀ symbols name, bind symbols name = symbols.bindImport (binding name).1 (binding name).2)
    (h : Imports host entries symbols) (names : List ImportName) :
    Imports host (entries ++ names.map binding) (names.foldl bind symbols) := by
  induction names generalizing entries symbols with
  | nil => rwa [List.map_nil, List.append_nil]
  | cons name rest ih =>
    have hfirst : Imports host (entries ++ [binding name]) (bind symbols name) := by
      rw [hbind]
      refine ⟨h.moduleName, h.isPackage, ?_⟩
      rw [Table.entered_concat, ← h.imports]
      rfl
    have hrest := ih hfirst
    rwa [List.append_assoc] at hrest

theorem collectSmall {typeOnly : Bool} {small : Small} (h : Imports host entries symbols)
    (hsmall : symbols.collectSmall typeOnly small = .ok symbols') :
    Imports host (entries ++ small.bindings host typeOnly) symbols' := by
  obtain ⟨names, rfl, rfl⟩ | ⟨dots, path, _, names, rfl, rfl⟩ | ⟨hother, aliases, exports, rfl⟩ :=
    collectSmall_cases hsmall
  · refine h.foldl (fun symbols name => ?_) names
    unfold bindModule ImportName.boundModule
    cases name.boundAs <;> rfl
  · rw [h.importOrigin_eq]
    exact h.foldl (fun _ _ => rfl) (importedNames names)
  · have hnone : small.bindings host typeOnly = [] := by
      cases small with
      | importModules names => cases hother
      | importFrom dots path beforeImport names => cases hother
      | _ => rfl
    rw [hnone, List.append_nil]
    exact ⟨h.moduleName, h.isPackage, h.imports⟩

theorem foldlM {α : Type} {step : ModuleSymbols → α → Except Fault ModuleSymbols}
    {bindings : α → List (String × ImportBinding)}
    (hstep : ∀ {entries symbols symbols' a}, Imports host entries symbols →
      step symbols a = .ok symbols' → Imports host (entries ++ bindings a) symbols')
    (h : Imports host entries symbols) (as : List α)
    (has : as.foldlM step symbols = .ok symbols') :
    Imports host (entries ++ as.flatMap bindings) symbols' := by
  induction as generalizing entries symbols with
  | nil =>
    cases has
    rwa [List.flatMap_nil, List.append_nil]
  | cons a rest ih =>
    rw [List.foldlM_cons] at has
    obtain ⟨middle, hfirst, hrest⟩ := bind_eq_ok.1 has
    rw [List.flatMap_cons, ← List.append_assoc]
    exact ih (hstep h hfirst) hrest

end Imports

/-! ## What a table says -/

/-- The table of a module is made of what its parts bind. -/
theorem imports_of_collect {source : Module} {moduleName : String} {isPackage : Bool}
    {symbols : ModuleSymbols} (h : collect source moduleName isPackage = .ok symbols) :
    symbols.imports
      = Table.entered (source.parts.flatMap (ModulePart.bindings { moduleName, isPackage })) := by
  rw [collect, collectStatements_eq] at h
  refine (Imports.foldlM (fun {entries symbols symbols' part} hpart hcollect => ?_)
    (⟨rfl, rfl, rfl⟩ : Imports { moduleName, isPackage } [] _) _ h).imports
  cases part with
  | line typeOnly line =>
    change line.entries.foldlM (fun symbols entry => symbols.collectSmall typeOnly entry.statement)
      symbols = _ at hcollect
    exact hpart.foldlM (fun found hsmall => found.collectSmall hsmall) line.entries hcollect
  | classDef typeOnly head body =>
    cases hcollect
    rw [ModulePart.bindings, List.append_nil]
    exact ⟨hpart.moduleName, hpart.isPackage, hpart.imports⟩

/-- An import in the table of a module is by a part of it that runs just when the import says so. -/
theorem exists_part_of_import {source : Module} {moduleName : String} {isPackage : Bool}
    {symbols : ModuleSymbols} (h : collect source moduleName isPackage = .ok symbols) {name : String}
    {binding : ImportBinding} (himport : symbols.imports.get? name = some binding) :
    ∃ part ∈ source.parts, part.typeOnly = binding.typeOnly ∧ name ∈ part.names := by
  rw [imports_of_collect h, Table.get?_entered] at himport
  obtain ⟨entry, hentry, rfl⟩ := List.mem_map.1 (List.mem_of_getLast? himport)
  obtain ⟨hbound, hname⟩ := List.mem_filter.1 hentry
  obtain ⟨part, hpart, hmem⟩ := List.mem_flatMap.1 hbound
  obtain ⟨htype, hnamed⟩ := ModulePart.mem_bindings hmem
  exact ⟨part, hpart, htype, (beq_iff_eq.1 hname) ▸ hnamed⟩

/-- A class in the table of a module is one of its parts. -/
theorem exists_part_of_class {source : Module} {moduleName : String} {isPackage : Bool}
    {symbols : ModuleSymbols} (h : collect source moduleName isPackage = .ok symbols) {name : String}
    {found : ClassSymbol} (hclass : symbols.classes.get? name = some found) :
    ∃ typeOnly head body, ModulePart.classDef typeOnly head body ∈ source.parts ∧ head.name = name := by
  rw [collect, collectStatements_eq] at h
  refine foldlM_ok (P := fun table : ModuleSymbols => table.classes.get? name = some found →
      ∃ typeOnly head body, ModulePart.classDef typeOnly head body ∈ source.parts ∧ head.name = name)
    (fun before hbefore part hpart after hafter hclass => ?_) (fun hnone => by cases hnone) h hclass
  cases part with
  | line typeOnly line => exact hbefore (collectLine_classes hafter ▸ hclass)
  | classDef typeOnly head body =>
    cases hafter
    rw [bindClass, Table.get?_insert] at hclass
    split at hclass
    · rename_i hname
      exact ⟨typeOnly, head, body, hpart, hname⟩
    · exact hbefore hclass

end ModuleSymbols
end ModelMetadata
