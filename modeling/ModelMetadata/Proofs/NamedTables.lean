import ModelMetadata.Proofs.Blocks

/-!
Names in symbol tables. The table of a module that was read holds classes that are named by identifiers,
imported names of identifiers, and aliases for expressions that hold no other names.
-/
set_option autoImplicit false
namespace ModelMetadata

open Source

structure ModuleSymbols.WellNamed (symbols : ModuleSymbols) : Prop where
  classes {name : String} {found : ClassSymbol} (h : symbols.classes.get? name = some found) :
    Text.isIdentifier found.name.toList = true
  aliases {name : String} {value : Expr} (h : symbols.aliases.get? name = some value) :
    value.WellNamed
  imports {name imported : String} {binding : ImportBinding}
    (h : symbols.imports.get? name = some binding) (himported : binding.imported = some imported) :
    IsDottedName imported

namespace ModuleSymbols.WellNamed

variable {symbols symbols' : ModuleSymbols}

theorem empty (moduleName : String) (isPackage : Bool) :
    ({ moduleName, isPackage } : ModuleSymbols).WellNamed := by
  constructor <;> intros <;> contradiction

theorem bindImport (h : symbols.WellNamed) (name : String) {binding : ImportBinding}
    (hbinding : ∀ imported, binding.imported = some imported → IsDottedName imported) :
    (symbols.bindImport name binding).WellNamed where
  classes := h.classes
  aliases := h.aliases
  imports {other imported found} hfound himported := by
    rw [ModuleSymbols.bindImport, Table.get?_insert] at hfound
    split at hfound
    · cases hfound
      exact hbinding imported himported
    · exact h.imports hfound himported

theorem bindAlias (h : symbols.WellNamed) (name : String) {value : Expr} (hvalue : value.WellNamed) :
    (symbols.bindAlias name value).WellNamed where
  classes := h.classes
  aliases {other found} hfound := by
    rw [ModuleSymbols.bindAlias, Table.get?_insert] at hfound
    split at hfound
    · cases hfound
      exact hvalue
    · exact h.aliases hfound
  imports := h.imports

theorem bindClass (h : symbols.WellNamed) {head : ClassHead} (body : Suite)
    (hname : Text.isIdentifier head.name.toList = true) :
    (symbols.bindClass head body).WellNamed where
  classes {other found} hfound := by
    rw [ModuleSymbols.bindClass, Table.get?_insert] at hfound
    split at hfound
    · cases hfound
      exact hname
    · exact h.classes hfound
  aliases := h.aliases
  imports := h.imports

theorem withExports (h : symbols.WellNamed) (names : Option (List String)) :
    ({ symbols with exports := names } : ModuleSymbols).WellNamed where
  classes := h.classes
  aliases := h.aliases
  imports := h.imports

/-! ## Collection -/

theorem collectSmall {typeOnly : Bool} {small : Small} (hsmall : small.WellNamed)
    (h : symbols.WellNamed) (hcollect : collectSmall typeOnly symbols small = .ok symbols') :
    symbols'.WellNamed := by
  unfold ModuleSymbols.collectSmall at hcollect
  split at hcollect
  · cases hcollect
    refine List.foldlRecOn _ _ h fun symbols hsymbols name _ => ?_
    unfold bindModule
    split <;> exact hsymbols.bindImport _ nofun
  · cases hcollect
    refine List.foldlRecOn _ _ h fun symbols hsymbols name hname => ?_
    exact hsymbols.bindImport _ fun imported himported => Option.some.inj himported ▸ hsmall name hname
  · split at hcollect
    · cases hcollect
      exact h
    split at hcollect
    · obtain ⟨items, -, hcollect⟩ := bind_eq_ok.1 hcollect
      cases hcollect
      exact h.withExports _
    split at hcollect <;> cases hcollect
    · exact h.bindAlias _ hsmall
    · exact h
  · split at hcollect
    · obtain ⟨items, -, hcollect⟩ := bind_eq_ok.1 hcollect
      cases hcollect
      exact h.withExports _
    · cases hcollect
      exact h
  · split at hcollect
    · cases hcollect
      exact h
    split at hcollect
    · cases hcollect
      exact h.bindAlias _ (hsmall.2 _ rfl)
    split at hcollect
    · obtain ⟨items, -, hcollect⟩ := bind_eq_ok.1 hcollect
      cases hcollect
      exact h.withExports _
    · cases hcollect
      exact h
  · cases hcollect
    exact h.bindAlias _ hsmall
  · cases hcollect
    exact h

theorem collectLine {typeOnly : Bool} {line : SmallLine} (hline : line.WellNamed)
    (h : symbols.WellNamed) (hcollect : collectLine typeOnly symbols line = .ok symbols') :
    symbols'.WellNamed :=
  foldlM_ok (fun _ hsymbols entry hentry _ hstep => hsymbols.collectSmall (hline entry hentry) hstep) h
    hcollect

mutual

theorem collectStatement {typeOnly : Bool} {symbols symbols' : ModuleSymbols}
    (statement : Statement) (hstatement : statement.WellNamed) (h : symbols.WellNamed)
    (hcollect : collectStatement typeOnly symbols statement = .ok symbols') :
    symbols'.WellNamed := by
  cases statement with
  | line above line => exact h.collectLine hstatement hcollect
  | classDef head body =>
    cases hcollect
    exact h.bindClass body hstatement.1
  | functionDef head body =>
    cases hcollect
    exact h
  | compound clauses => exact collectClauses clauses hstatement h hcollect
termination_by structural statement

theorem collectStatements {typeOnly : Bool} {symbols symbols' : ModuleSymbols}
    (statements : List Statement) (hstatements : Statement.AllNamed statements)
    (h : symbols.WellNamed)
    (hcollect : collectStatements typeOnly symbols statements = .ok symbols') :
    symbols'.WellNamed := by
  cases statements with
  | nil =>
    cases hcollect
    exact h
  | cons statement rest =>
    obtain ⟨middle, hfirst, hcollect⟩ := bind_eq_ok.1 hcollect
    exact collectStatements rest hstatements.2
      (collectStatement statement hstatements.1 h hfirst) hcollect
termination_by structural statements

theorem collectClauses {typeOnly : Bool} {symbols symbols' : ModuleSymbols}
    (clauses : List Clause) (hclauses : Clause.AllNamed clauses) (h : symbols.WellNamed)
    (hcollect : collectClauses typeOnly symbols clauses = .ok symbols') :
    symbols'.WellNamed := by
  match clauses with
  | [] =>
    cases hcollect
    exact h
  | .mk above head body :: rest =>
    obtain ⟨middle, hfirst, hcollect⟩ := bind_eq_ok.1 hcollect
    exact collectClauses rest hclauses.2 (collectSuite body hclauses.1 h hfirst) hcollect
termination_by structural clauses

theorem collectSuite {typeOnly : Bool} {symbols symbols' : ModuleSymbols}
    (body : Suite) (hbody : body.WellNamed) (h : symbols.WellNamed)
    (hcollect : collectSuite typeOnly symbols body = .ok symbols') : symbols'.WellNamed := by
  cases body with
  | block tail step statements footer => exact collectStatements statements hbody h hcollect
  | «inline» gap line => exact h.collectLine hbody hcollect
termination_by structural body

end

/-- The table of a module that was read. -/
theorem of_collect {text : String} {source : Module} (hparse : Module.parse text = .ok source)
    {moduleName : String} {isPackage : Bool}
    (hcollect : collect source moduleName isPackage = .ok symbols) : symbols.WellNamed :=
  collectStatements source.body (Source.Module.allNamed_of_parse hparse) (.empty ..) hcollect

end ModuleSymbols.WellNamed

end ModelMetadata
