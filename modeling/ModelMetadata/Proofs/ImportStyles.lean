import ModelMetadata.Proofs.BoundReferences
import ModelMetadata.Proofs.Identities
import ModelMetadata.Proofs.Respelling

/-!
Styles of import. A name of a module may be imported by itself, under its own name or another one, or be
reached through its module, under the module's own name or another one. Each style binds one name, under
which the table keeps where to look; whatever is added to the way to the name, it is looked for in the same
module and under the same name. So the texts that begin with one way are exchanged for those that begin
with another one, and they name the same special forms.
-/
set_option autoImplicit false
namespace ModelMetadata

open Source Oracle

/-! ## Ways to a name -/

/-- How an imported name is written: the name that the import binds, and what is added to it. -/
structure Way where
  bound : String
  members : List String

def Way.path (way : Way) : List String := way.bound :: way.members

inductive Source.Small.Brings (origin : List String) (name : String) : Small → Way → Prop
  /-- The name by itself: `from origin import name` -/
  | taken {beforePath beforeImport : Gap} {path : Expr} {names : ImportNames} {imported : ImportName}
    (hpath : path.IsPath origin) (hnames : ModuleSymbols.importedNames names = [imported])
    (hname : imported.path = .name name) (hbound : imported.boundAs = none) :
    Brings origin name (.importFrom [] (some (beforePath, path)) beforeImport names) ⟨name, []⟩
  /-- The name under another one: `from origin import name as bound` -/
  | takenAs {beforePath beforeImport beforeAs afterAs : Gap} {path : Expr} {names : ImportNames}
    {imported : ImportName} {bound : String}
    (hpath : path.IsPath origin) (hnames : ModuleSymbols.importedNames names = [imported])
    (hname : imported.path = .name name) (hbound : imported.boundAs = some (beforeAs, afterAs, bound)) :
    Brings origin name (.importFrom [] (some (beforePath, path)) beforeImport names) ⟨bound, []⟩
  /-- The module under another name: `import origin as bound` -/
  | withinAs {imported : ImportName} {beforeAs afterAs : Gap} {bound : String}
    (hpath : imported.path.IsPath origin) (hbound : imported.boundAs = some (beforeAs, afterAs, bound)) :
    Brings origin name (.importModules [imported]) ⟨bound, [name]⟩
  /-- The module by itself: `import origin` -/
  | within {imported : ImportName} {first : String} {rest : List String} (horigin : origin = first :: rest)
    (hpath : imported.path.IsPath origin) (hbound : imported.boundAs = none) :
    Brings origin name (.importModules [imported]) ⟨first, rest ++ [name]⟩

def provided (origin : List String) (name : String) (nested : List String) : String × String :=
  (joinDots (origin ++ (name :: nested).dropLast), (name :: nested).getLast (List.cons_ne_nil _ _))

def owner? (origin : List String) : Way → Option (String × String)
  | ⟨_, _ :: _ :: _⟩ => origin.getLast?.map fun last => (joinDots origin.dropLast, last)
  | _ => none

/-- A binding by which a name of a module is looked for in some way. -/
structure ImportBinding.Leads (binding : ImportBinding) (origin : List String) (name : String) (way : Way) :
    Prop where
  target (nested : List String) :
    importTarget? binding (way.members ++ nested) = some (provided origin name nested)
  owner (hmembers : way.members ≠ []) : importTarget? binding way.members.dropLast = owner? origin way

theorem getLast?_append_cons (preceding : List String) (name : String) (nested : List String) :
    (preceding ++ name :: nested).getLast? = some ((name :: nested).getLast (List.cons_ne_nil _ _)) := by
  rw [List.getLast?_append_of_ne_nil _ (List.cons_ne_nil _ _),
    List.getLast?_eq_some_getLast (List.cons_ne_nil _ _)]

/-- A name that is imported by itself. -/
theorem leads_of_attribute {origin : List String} (horigin : origin ≠ []) (name bound : String)
    (typeOnly : Bool) :
    ImportBinding.Leads ⟨joinDots origin, some name, typeOnly⟩ origin name ⟨bound, []⟩ where
  target nested := by
    cases nested with
    | nil => simp [importTarget?, provided]
    | cons next rest =>
      have hlast := List.getLast?_eq_some_getLast (List.cons_ne_nil next rest)
      rw [List.nil_append, importTarget?, hlast]
      dsimp only
      rw [joinDots_joinDots horigin]
      rfl
  owner h := absurd rfl h

/-- A module that is imported under some name, the rest of its own following. -/
theorem leads_of_module {leading : List String} (hleading : leading ≠ []) (rest : List String)
    (name bound : String) (typeOnly : Bool) :
    ImportBinding.Leads ⟨joinDots leading, none, typeOnly⟩ (leading ++ rest) name ⟨bound, rest ++ [name]⟩ where
  target nested := by
    have hlast := getLast?_append_cons rest name nested
    simp only [importTarget?, List.append_assoc, List.singleton_append, hlast, provided]
    rw [joinDots_joinDots hleading, List.dropLast_append_of_ne_nil (List.cons_ne_nil name nested)]
  owner _ := by
    simp only [List.dropLast_concat]
    cases rest with
    | nil => rfl
    | cons next rest =>
      have hlast := List.getLast?_eq_some_getLast (List.cons_ne_nil next rest)
      have howner : owner? (leading ++ next :: rest) ⟨bound, next :: rest ++ [name]⟩
          = (leading ++ next :: rest).getLast?.map
            fun last => (joinDots (leading ++ next :: rest).dropLast, last) := by
        cases rest <;> rfl
      rw [howner, getLast?_append_cons, List.dropLast_append_of_ne_nil (List.cons_ne_nil next rest),
        importTarget?, hlast]
      dsimp only
      rw [joinDots_joinDots hleading]
      rfl

namespace Source.Small.Brings

variable {origin : List String} {name : String} {small : Small} {way : Way}

/-- An import binds the first name of a way, and leads from there. -/
theorem exists_binding (h : small.Brings origin name way)
    (horigin : ∀ piece ∈ origin, Text.isIdentifier piece.toList = true) (typeOnly : Bool) :
    ∃ binding : ImportBinding, binding.typeOnly = typeOnly ∧ binding.Leads origin name way
      ∧ ∀ symbols, ModuleSymbols.collectSmall typeOnly symbols small
        = .ok (symbols.bindImport way.bound binding) := by
  cases h with
  | @taken beforePath beforeImport path names imported hpath hnames hname hbound =>
    refine ⟨_, rfl, leads_of_attribute hpath.ne_nil name name typeOnly, fun symbols => ?_⟩
    simp only [ModuleSymbols.collectSmall, hnames, List.foldl_cons, List.foldl_nil,
      ModuleSymbols.bindAttribute, hbound, hname, Expr.dottedName, Option.map_some,
      hpath.dottedName horigin]
    rfl
  | @takenAs beforePath beforeImport beforeAs afterAs path names imported bound hpath hnames hname hbound =>
    refine ⟨_, rfl, leads_of_attribute hpath.ne_nil name bound typeOnly, fun symbols => ?_⟩
    simp only [ModuleSymbols.collectSmall, hnames, List.foldl_cons, List.foldl_nil,
      ModuleSymbols.bindAttribute, hbound, hname, Expr.dottedName, Option.map_some,
      hpath.dottedName horigin]
    rfl
  | @withinAs imported beforeAs afterAs bound hpath hbound =>
    have hleads := leads_of_module hpath.ne_nil [] name bound typeOnly
    rw [List.append_nil] at hleads
    refine ⟨_, rfl, hleads, fun symbols => ?_⟩
    simp only [ModuleSymbols.collectSmall, List.foldl_cons, List.foldl_nil, ModuleSymbols.bindModule,
      hbound, hpath.dottedName horigin]
    rfl
  | @within imported first rest hfirst hpath hbound =>
    have hleads := leads_of_module (List.cons_ne_nil first []) rest name first typeOnly
    subst hfirst
    refine ⟨_, rfl, hleads, fun symbols => ?_⟩
    simp only [ModuleSymbols.collectSmall, List.foldl_cons, List.foldl_nil, ModuleSymbols.bindModule,
      hbound, hpath.dottedName horigin, dotPieces_joinDots (List.cons_ne_nil first rest) horigin]
    simp [joinDots]
    rfl

end Source.Small.Brings

/-! ## Texts in two ways -/

/-- A dotted name that begins with one way to a name, and the same one in another way, or a dotted name
that begins with the first name of neither. -/
inductive Renamed (way way' : Way) : String → String → Prop
  | other {dotted : String} (h : (dotPieces dotted).head? ≠ some way.bound)
    (h' : (dotPieces dotted).head? ≠ some way'.bound) : Renamed way way' dotted dotted
  | mention {dotted dotted' : String} (nested : List String) (h : dotPieces dotted = way.path ++ nested)
    (h' : dotPieces dotted' = way'.path ++ nested) : Renamed way way' dotted dotted'

theorem head?_of_mention {way : Way} {dotted : String} {nested : List String}
    (h : dotPieces dotted = way.path ++ nested) : (dotPieces dotted).head? = some way.bound := by
  rw [h]
  rfl

theorem oneToOne_renamed (way way' : Way) : OneToOne (Renamed way way') := by
  intro text other text' other' htext hother
  cases htext with
  | other h h' =>
    cases hother with
    | other => rfl
    | mention nested hmention hmention' =>
      refine iff_of_false ?_ ?_
      · rintro rfl
        exact h (head?_of_mention hmention)
      · rintro rfl
        exact h' (head?_of_mention hmention')
  | mention nested h h' =>
    cases hother with
    | other hother hother' =>
      refine iff_of_false ?_ ?_
      · rintro rfl
        exact hother (head?_of_mention h)
      · rintro rfl
        exact hother' (head?_of_mention h')
    | mention others hmention hmention' =>
      constructor
      · rintro rfl
        obtain rfl := List.append_cancel_left (h.symm.trans hmention)
        exact dotPieces_injective (h'.trans hmention'.symm)
      · rintro rfl
        obtain rfl := List.append_cancel_left (h'.symm.trans hmention')
        exact dotPieces_injective (h.trans hmention.symm)

/-! ## Tables -/

structure ModuleSymbols.Adds (base host : ModuleSymbols) (bound : String) (binding : ImportBinding) :
    Prop where
  moduleName : host.moduleName = base.moduleName
  isPackage : host.isPackage = base.isPackage
  classes : host.classes = base.classes
  aliases : host.aliases = base.aliases
  others (name : String) (h : name ≠ bound) : host.imports.get? name = base.imports.get? name
  bound (h : base.imports.get? bound = none) : host.imports.get? bound = some binding

structure ModuleSymbols.IsFree (symbols : ModuleSymbols) (name : String) : Prop where
  isIdentifier : Text.isIdentifier name.toList = true
  classes : symbols.classes.get? name = none
  aliases : symbols.aliases.get? name = none
  imports : symbols.imports.get? name = none

namespace ModuleSymbols.Adds

variable {base host : ModuleSymbols} {bound : String} {binding : ImportBinding}

theorem of_bindImport (symbols : ModuleSymbols) (bound : String) (binding : ImportBinding) :
    symbols.Adds (symbols.bindImport bound binding) bound binding where
  moduleName := rfl
  isPackage := rfl
  classes := rfl
  aliases := rfl
  others _ h := (Table.get?_insert ..).trans (if_neg h.symm)
  bound _ := (Table.get?_insert ..).trans (if_pos rfl)

theorem bindImport (h : base.Adds host bound binding) (name : String) (other : ImportBinding) :
    (base.bindImport name other).Adds (host.bindImport name other) bound binding where
  moduleName := h.moduleName
  isPackage := h.isPackage
  classes := h.classes
  aliases := h.aliases
  others found hfound := by
    simp only [ModuleSymbols.bindImport, Table.get?_insert, h.others found hfound]
  bound hnone := by
    simp only [ModuleSymbols.bindImport, Table.get?_insert] at hnone ⊢
    split at hnone
    · cases hnone
    · rename_i hname
      rw [if_neg hname, h.bound hnone]

/-- Names that begin otherwise are the same special forms. -/
theorem specialForm?_other (h : base.Adds host bound binding) {dotted : String}
    (hhead : (dotPieces dotted).head? ≠ some bound) :
    host.specialForm? dotted = base.specialForm? dotted := by
  unfold ModuleSymbols.specialForm?
  rw [h.classes, h.aliases]
  split
  · rfl
  split
  · rfl
  all_goals
    rename_i hpieces
    rw [hpieces] at hhead
    rw [h.others _ fun heq => hhead (congrArg some heq)]

theorem foldl_bind {bind : ModuleSymbols → ImportName → ModuleSymbols}
    (hbind : ∀ {base host}, base.Adds host bound binding → ∀ name,
      (bind base name).Adds (bind host name) bound binding)
    (h : base.Adds host bound binding) (names : List ImportName) :
    (names.foldl bind base).Adds (names.foldl bind host) bound binding := by
  induction names generalizing base host with
  | nil => exact h
  | cons name rest ih => exact ih (hbind h name)

theorem collectSmall (h : base.Adds host bound binding) (typeOnly : Bool) (small : Small) :
    Outcomes (fun base host => base.Adds host bound binding)
      (ModuleSymbols.collectSmall typeOnly base small) (ModuleSymbols.collectSmall typeOnly host small) := by
  have hexports (exports exports' : Option (List String)) :
      ({ base with exports } : ModuleSymbols).Adds { host with exports := exports' } bound binding :=
    ⟨h.moduleName, h.isPackage, h.classes, h.aliases, h.others, h.bound⟩
  have halias (name : String) (value : Expr) :
      (base.bindAlias name value).Adds (host.bindAlias name value) bound binding :=
    ⟨h.moduleName, h.isPackage, h.classes, congrArg (·.insert name value) h.aliases, h.others, h.bound⟩
  unfold ModuleSymbols.collectSmall
  split
  · refine .ok (foldl_bind (fun h _ => ?_) h _)
    unfold bindModule
    split <;> exact h.bindImport _ _
  · have hrelative (level : Int) (target : Option String) :
        host.resolveRelative level target = base.resolveRelative level target := by
      simp only [resolveRelative, h.moduleName, h.isPackage]
    simp only [hrelative]
    refine .ok (foldl_bind (fun h _ => ?_) h _)
    unfold bindAttribute
    exact h.bindImport _ _
  · split
    · exact .ok h
    split
    · exact Outcomes.bind (.self (fun _ => rfl) _) fun _ _ _ => .ok (hexports _ _)
    split
    · exact .ok (halias _ _)
    · exact .ok h
  · split
    · exact Outcomes.bind (.self (fun _ => rfl) _) fun _ _ _ => .ok (hexports _ _)
    · exact .ok h
  · split
    · exact .ok h
    split
    · exact .ok (halias _ _)
    split
    · exact Outcomes.bind (.self (fun _ => rfl) _) fun _ _ _ => .ok (hexports _ _)
    · exact .ok h
  · exact .ok (halias _ _)
  · exact .ok h

theorem foldlM {α : Type} {f : ModuleSymbols → α → Except Fault ModuleSymbols}
    (hf : ∀ {base host}, base.Adds host bound binding → ∀ a,
      Outcomes (fun base host => base.Adds host bound binding) (f base a) (f host a))
    (h : base.Adds host bound binding) (as : List α) :
    Outcomes (fun base host => base.Adds host bound binding) (as.foldlM f base) (as.foldlM f host) := by
  induction as generalizing base host with
  | nil => exact .ok h
  | cons a rest ih =>
    rw [List.foldlM_cons, List.foldlM_cons]
    exact (hf h a).bind fun _ _ h => ih h

theorem collectPart (h : base.Adds host bound binding) (part : ModulePart) :
    Outcomes (fun base host => base.Adds host bound binding) (part.collect base) (part.collect host) := by
  cases part with
  | line typeOnly line => exact foldlM (fun h entry => h.collectSmall typeOnly entry.statement) h _
  | classDef typeOnly head body =>
    have hclasses : (host.bindClass head body).classes = (base.bindClass head body).classes := by
      rw [ModuleSymbols.bindClass, ModuleSymbols.bindClass, h.classes]
    exact .ok ⟨h.moduleName, h.isPackage, hclasses, h.aliases, h.others, h.bound⟩

end ModuleSymbols.Adds

/-! ## Modules -/

/-- A module that makes a name available in some way, by an import on a line of its own. -/
structure Source.Module.ImportsBetween (source : Module) (before after : List ModulePart) (typeOnly : Bool)
    (origin : List String) (name : String) (way : Way) : Prop where
  parts : ∃ line entry, source.parts = before ++ .line typeOnly line :: after ∧ line.entries = [entry]
    ∧ entry.statement.Brings origin name way
  origin : ∀ piece ∈ origin, Text.isIdentifier piece.toList = true

def collectParts (moduleName : String) (isPackage : Bool) (parts : List ModulePart) :
    Except Fault ModuleSymbols :=
  parts.foldlM ModulePart.collect { moduleName, isPackage }

/-- With an import a module has the table that it has without, and one binding besides. -/
theorem Source.Module.ImportsBetween.exists_adds {source : Module} {before after : List ModulePart}
    {typeOnly : Bool} {origin : List String} {name : String} {way : Way}
    (h : source.ImportsBetween before after typeOnly origin name way) {moduleName : String} {isPackage : Bool}
    {base host : ModuleSymbols} (hbase : collectParts moduleName isPackage (before ++ after) = .ok base)
    (hhost : ModuleSymbols.collect source moduleName isPackage = .ok host) :
    ∃ binding, binding.typeOnly = typeOnly ∧ binding.Leads origin name way
      ∧ base.Adds host way.bound binding := by
  obtain ⟨line, entry, hparts, hentries, hbrings⟩ := h.parts
  obtain ⟨binding, htype, hleads, hcollect⟩ := hbrings.exists_binding h.origin typeOnly
  refine ⟨binding, htype, hleads, ?_⟩
  rw [ModuleSymbols.collect, ModuleSymbols.collectStatements_eq] at hhost
  change source.parts.foldlM _ _ = _ at hhost
  rw [hparts, List.foldlM_append] at hhost
  rw [collectParts, List.foldlM_append] at hbase
  cases hstart : before.foldlM ModulePart.collect { moduleName, isPackage } with
  | error fault =>
    rw [hstart] at hbase
    cases hbase
  | ok start =>
    rw [hstart] at hbase hhost
    have hline : ModulePart.collect start (.line typeOnly line)
        = .ok (start.bindImport way.bound binding) := by
      rw [ModulePart.collect, ModuleSymbols.collectLine, hentries, List.foldlM_cons, hcollect]
      rfl
    have hrest := ModuleSymbols.Adds.foldlM (fun h part => h.collectPart part)
      (.of_bindImport start way.bound binding) after
    change after.foldlM ModulePart.collect start = _ at hbase
    change (ModulePart.line typeOnly line :: after).foldlM ModulePart.collect start = _ at hhost
    rw [List.foldlM_cons, hline] at hhost
    change after.foldlM ModulePart.collect _ = _ at hhost
    rw [hbase, hhost] at hrest
    cases hrest with
    | ok hadds => exact hadds

/-! ## Hosts -/

/-- A host that leads to a name of a module in some way, by a binding besides those of a table. -/
structure Reaching (base host : ModuleSymbols) (origin : List String) (name : String) (way : Way)
    (binding : ImportBinding) : Prop where
  adds : base.Adds host way.bound binding
  leads : binding.Leads origin name way
  free : base.IsFree way.bound

def specialOf (target : String × String) : Option String :=
  if typingModules.contains target.1 then some target.2 else none

/-- A name that is imported is the special form that it is where it is looked for. -/
theorem specialForm?_of_import {symbols : ModuleSymbols} {dotted head : String} {rest : List String}
    {binding : ImportBinding} (hne : dotted.isEmpty = false) (hpieces : dotPieces dotted = head :: rest)
    (himport : symbols.imports.get? head = some binding) :
    symbols.specialForm? dotted = (importTarget? binding rest).bind specialOf := by
  unfold ModuleSymbols.specialForm? importTarget?
  simp only [hne, hpieces, Bool.false_eq_true, if_false]
  cases rest with
  | nil => cases himported : binding.imported <;> simp [himport, himported, specialOf]
  | cons next rest =>
    have hlast := List.getLast?_eq_some_getLast (List.cons_ne_nil next rest)
    cases himported : binding.imported <;> simp [himport, himported, hlast, specialOf]

namespace Reaching

variable {base host : ModuleSymbols} {origin : List String} {name : String} {way : Way}
  {binding : ImportBinding} {dotted : String} {nested : List String}

theorem classes (h : Reaching base host origin name way binding) : host.classes.get? way.bound = none :=
  h.adds.classes ▸ h.free.classes

theorem aliases (h : Reaching base host origin name way binding) : host.aliases.get? way.bound = none :=
  h.adds.aliases ▸ h.free.aliases

theorem imports (h : Reaching base host origin name way binding) :
    host.imports.get? way.bound = some binding :=
  h.adds.bound h.free.imports

theorem notAlias (h : Reaching base host origin name way binding) (rest : List String) :
    Oracle.bareAlias? host way.bound rest = none := by
  unfold Oracle.bareAlias?
  split
  · exact h.aliases
  · rfl

theorem isEmpty_of_pieces (h : Reaching base host origin name way binding) {rest : List String}
    (hpieces : dotPieces dotted = way.bound :: rest) : dotted.isEmpty = false :=
  isEmpty_of_dotPieces (Text.isEmpty_of_isIdentifier h.free.isIdentifier) hpieces

theorem specialForm?_mention (h : Reaching base host origin name way binding)
    (hpieces : dotPieces dotted = way.path ++ nested) :
    host.specialForm? dotted = specialOf (provided origin name nested) := by
  calc host.specialForm? dotted
      = (importTarget? binding (way.members ++ nested)).bind specialOf :=
        specialForm?_of_import (h.isEmpty_of_pieces hpieces) hpieces h.imports
    _ = specialOf (provided origin name nested) := by
      rw [h.leads.target]
      rfl

end Reaching

/-- A name that is restyled is the same special form. -/
theorem Renamed.specialForm?_eq {base first second : ModuleSymbols} {origin : List String} {name : String}
    {way way' : Way} {binding binding' : ImportBinding}
    (hfirst : Reaching base first origin name way binding)
    (hsecond : Reaching base second origin name way' binding') {dotted dotted' : String}
    (h : Renamed way way' dotted dotted') : first.specialForm? dotted = second.specialForm? dotted' := by
  cases h with
  | other h h' => rw [hfirst.adds.specialForm?_other h, hsecond.adds.specialForm?_other h']
  | mention nested h h' => rw [hfirst.specialForm?_mention h, hsecond.specialForm?_mention h']

end ModelMetadata
