import Mathlib
import ModelMetadata.Symbols

/-!
The classes of a module's table are the classes at its module level, those in the blocks of compound
statements included, each under its own name; of several classes of one name, the last one stays.
-/
set_option autoImplicit false
namespace ModelMetadata

open Source

/-! ## Tables entered one after the other -/

namespace Table

variable {α : Type}

def entered (entries : List (String × α)) : Table α :=
  entries.foldl (fun table entry => table.insert entry.1 entry.2) {}

theorem entered_concat (entries : List (String × α)) (name : String) (value : α) :
    entered (entries ++ [(name, value)]) = (entered entries).insert name value := by
  unfold entered
  rw [List.foldl_append]
  rfl

/-- A name has the value that was entered last under it. -/
theorem get?_entered (entries : List (String × α)) (name : String) :
    (entered entries).get? name = ((entries.filter (·.1 == name)).map Prod.snd).getLast? := by
  induction entries using List.reverseRecOn with
  | nil => rfl
  | append_singleton entries entry ih =>
    obtain ⟨other, value⟩ := entry
    rw [entered_concat, get?_insert, ih, List.filter_append]
    by_cases hsame : other = name
    · simp [hsame]
    · simp [hsame]

end Table

/-! ## Classes at module level -/

mutual

def Source.Statement.classes : Statement → List (ClassHead × Suite)
  | .line _ _ => []
  | .classDef head body => [(head, body)]
  | .functionDef _ _ => []
  | .compound clauses => classesOfClauses clauses

def classesOf : List Statement → List (ClassHead × Suite)
  | [] => []
  | statement :: rest => statement.classes ++ classesOf rest

def classesOfClauses : List Clause → List (ClassHead × Suite)
  | [] => []
  | .mk _ _ body :: rest => body.classes ++ classesOfClauses rest

def Source.Suite.classes : Suite → List (ClassHead × Suite)
  | .block _ _ body _ => classesOf body
  | .inline _ _ => []

end

def Source.Small.isImport : Small → Bool
  | .importModules _ => true
  | .importFrom _ _ _ _ => true
  | _ => false

namespace ModuleSymbols

def symbolOf (found : ClassHead × Suite) : ClassSymbol :=
  ⟨found.1.name, found.1.positionalBases, memberNames found.2⟩

def withClasses (table : Table ClassSymbol) (found : List (ClassHead × Suite)) :
    Table ClassSymbol :=
  found.foldl (fun table found => table.insert found.1.name (symbolOf found)) table

theorem withClasses_append (table : Table ClassSymbol) (found more : List (ClassHead × Suite)) :
    withClasses table (found ++ more) = withClasses (withClasses table found) more :=
  List.foldl_append

/-! ## Collection -/

theorem foldl_classes {α : Type} {bind : ModuleSymbols → α → ModuleSymbols}
    (hbind : ∀ symbols x, (bind symbols x).classes = symbols.classes) (xs : List α)
    (symbols : ModuleSymbols) : (xs.foldl bind symbols).classes = symbols.classes := by
  induction xs generalizing symbols with
  | nil => rfl
  | cons x rest ih => rw [List.foldl_cons, ih, hbind]

def importOrigin (symbols : ModuleSymbols) (dots : List Word) (path : Option (Gap × Expr)) : String :=
  let target := path.map fun (_, path) => path.dottedName
  if dots.isEmpty then target.getD "" else symbols.resolveRelative (dotCount dots) target

/-- What a small statement can do to a table: it imports modules, or attributes of a module, or leaves
all but the aliases and the exports as it is. -/
theorem collectSmall_cases {typeOnly : Bool} {symbols symbols' : ModuleSymbols} {small : Small}
    (h : collectSmall typeOnly symbols small = .ok symbols') :
    (∃ names, small = .importModules names ∧ symbols' = names.foldl (bindModule typeOnly) symbols)
      ∨ (∃ dots path beforeImport names, small = .importFrom dots path beforeImport names
        ∧ symbols' = (importedNames names).foldl
          (bindAttribute typeOnly (symbols.importOrigin dots path)) symbols)
      ∨ small.isImport = false
        ∧ ∃ aliases exports, symbols' = { symbols with aliases, exports } := by
  unfold collectSmall at h
  split at h
  · cases h
    exact .inl ⟨_, rfl, rfl⟩
  · cases h
    exact .inr (.inl ⟨_, _, _, _, rfl, rfl⟩)
  all_goals refine .inr (.inr ?_)
  · refine ⟨rfl, ?_⟩
    split at h
    · cases h
      exact ⟨_, _, rfl⟩
    split at h
    · obtain ⟨items, -, h⟩ := bind_eq_ok.1 h
      cases h
      exact ⟨_, _, rfl⟩
    split at h <;> cases h <;> exact ⟨_, _, rfl⟩
  · refine ⟨rfl, ?_⟩
    split at h
    · obtain ⟨items, -, h⟩ := bind_eq_ok.1 h
      cases h
      exact ⟨_, _, rfl⟩
    · cases h
      exact ⟨_, _, rfl⟩
  · refine ⟨rfl, ?_⟩
    split at h
    · cases h
      exact ⟨_, _, rfl⟩
    split at h
    · cases h
      exact ⟨_, _, rfl⟩
    split at h
    · obtain ⟨items, -, h⟩ := bind_eq_ok.1 h
      cases h
      exact ⟨_, _, rfl⟩
    · cases h
      exact ⟨_, _, rfl⟩
  · cases h
    exact ⟨rfl, _, _, rfl⟩
  · rename_i hmodules hfrom _ _ _ _
    cases h
    refine ⟨?_, _, _, rfl⟩
    cases small with
    | importModules names => exact (hmodules names rfl).elim
    | importFrom dots path beforeImport names => exact (hfrom dots path beforeImport names rfl).elim
    | _ => rfl

theorem collectSmall_classes {typeOnly : Bool} {symbols symbols' : ModuleSymbols} {small : Small}
    (h : collectSmall typeOnly symbols small = .ok symbols') : symbols'.classes = symbols.classes := by
  obtain ⟨names, -, rfl⟩ | ⟨dots, path, _, names, -, rfl⟩ | ⟨-, aliases, exports, rfl⟩ :=
    collectSmall_cases h
  · refine foldl_classes (fun symbols name => ?_) _ _
    unfold bindModule
    split <;> rfl
  · have hbind (found : ModuleSymbols) (name : ImportName) :
        (bindAttribute typeOnly (symbols.importOrigin dots path) found name).classes = found.classes := rfl
    exact foldl_classes hbind _ _
  · rfl

theorem collectLine_classes {typeOnly : Bool} {symbols symbols' : ModuleSymbols} {line : SmallLine}
    (h : collectLine typeOnly symbols line = .ok symbols') : symbols'.classes = symbols.classes := by
  unfold collectLine at h
  generalize line.entries = entries at h
  induction entries generalizing symbols with
  | nil =>
    cases h
    rfl
  | cons entry rest ih =>
    rw [List.foldlM_cons] at h
    obtain ⟨middle, hfirst, h⟩ := bind_eq_ok.1 h
    rw [ih h, collectSmall_classes hfirst]

mutual

theorem collectStatement_classes {typeOnly : Bool} {symbols symbols' : ModuleSymbols}
    (statement : Statement) (h : collectStatement typeOnly symbols statement = .ok symbols') :
    symbols'.classes = withClasses symbols.classes statement.classes := by
  cases statement with
  | line above line => exact collectLine_classes h
  | classDef head body =>
    cases h
    rfl
  | functionDef head body =>
    cases h
    rfl
  | compound clauses => exact collectClauses_classes clauses h
termination_by structural statement

theorem collectStatements_classes {typeOnly : Bool} {symbols symbols' : ModuleSymbols}
    (statements : List Statement) (h : collectStatements typeOnly symbols statements = .ok symbols') :
    symbols'.classes = withClasses symbols.classes (classesOf statements) := by
  cases statements with
  | nil =>
    cases h
    rfl
  | cons statement rest =>
    obtain ⟨middle, hfirst, h⟩ := bind_eq_ok.1 h
    rw [collectStatements_classes rest h, collectStatement_classes statement hfirst, classesOf,
      withClasses_append]
termination_by structural statements

theorem collectClauses_classes {typeOnly : Bool} {symbols symbols' : ModuleSymbols}
    (clauses : List Clause) (h : collectClauses typeOnly symbols clauses = .ok symbols') :
    symbols'.classes = withClasses symbols.classes (classesOfClauses clauses) := by
  match clauses with
  | [] =>
    cases h
    rfl
  | .mk above head body :: rest =>
    obtain ⟨middle, hfirst, h⟩ := bind_eq_ok.1 h
    rw [collectClauses_classes rest h, collectSuite_classes body hfirst, classesOfClauses,
      withClasses_append]
termination_by structural clauses

theorem collectSuite_classes {typeOnly : Bool} {symbols symbols' : ModuleSymbols}
    (body : Suite) (h : collectSuite typeOnly symbols body = .ok symbols') :
    symbols'.classes = withClasses symbols.classes body.classes := by
  cases body with
  | block tail step statements footer => exact collectStatements_classes statements h
  | «inline» gap line => exact collectLine_classes h
termination_by structural body

end

/-! ## Lookup -/

theorem get?_withClasses_of_not_mem {table : Table ClassSymbol} {found : List (ClassHead × Suite)}
    {name : String} (h : name ∉ found.map fun found => found.1.name) :
    (withClasses table found).get? name = table.get? name := by
  induction found generalizing table with
  | nil => rfl
  | cons first rest ih =>
    obtain ⟨hfirst, hrest⟩ := not_or.1 (mt List.mem_cons.2 h)
    change (withClasses (table.insert first.1.name (symbolOf first)) rest).get? name = _
    rw [ih hrest, Table.get?_insert, if_neg (Ne.symm hfirst)]

theorem get?_withClasses {table : Table ClassSymbol} {found : List (ClassHead × Suite)}
    (honce : (found.map fun found => found.1.name).Nodup) {one : ClassHead × Suite}
    (h : one ∈ found) : (withClasses table found).get? one.1.name = some (symbolOf one) := by
  induction found generalizing table with
  | nil => cases h
  | cons first rest ih =>
    obtain ⟨hfirst, hrest⟩ := List.nodup_cons.1 honce
    change (withClasses (table.insert first.1.name (symbolOf first)) rest).get? one.1.name = _
    obtain rfl | h := List.mem_cons.1 h
    · rw [get?_withClasses_of_not_mem hfirst, Table.get?_insert, if_pos rfl]
    · exact ih hrest h

/-- A class at module level whose name no other one has stands in the table. -/
theorem get?_classes_of_collect {source : Module} {moduleName : String} {isPackage : Bool}
    {symbols : ModuleSymbols} (h : collect source moduleName isPackage = .ok symbols)
    (honce : ((classesOf source.body).map fun found => found.1.name).Nodup)
    {head : ClassHead} {body : Suite} (hmem : (head, body) ∈ classesOf source.body) :
    symbols.classes.get? head.name = some ⟨head.name, head.positionalBases, memberNames body⟩ := by
  rw [collectStatements_classes source.body h]
  exact get?_withClasses honce hmem

end ModuleSymbols
end ModelMetadata
