import ModelMetadata.Proofs.Dotting
import ModelMetadata.Proofs.HintForms
import ModelMetadata.Proofs.ImportStyles

/-!
Names that a host both defines and imports. Wherever such a name is looked up the definition is found: as
the base of a class and as the owner of a literal member always, as an annotation whenever the name is no
special form. It is one when the import takes it from a typing module, whatever the host defines. But for
that, the import counts for the dotted names that begin with the name alone.
-/
set_option autoImplicit false
namespace ModelMetadata

open Source Oracle

/-! ## Oracles with the same lookups -/

/-- Two oracles of one project whose hosts define the same, know the same special forms, and lead to the
same names of other modules where they define nothing. -/
structure Oracle.SameLookups (first second : Oracle) : Prop where
  project : first.project = second.project
  moduleName : first.host.moduleName = second.host.moduleName
  classes : first.host.classes = second.host.classes
  aliases : first.host.aliases = second.host.aliases
  specialForm? : first.host.specialForm? = second.host.specialForm?
  imports {head : String} {rest : List String} (hclass : first.host.classes.get? head = none)
    (halias : bareAlias? first.host head rest = none) :
    Option.Rel (fun binding binding' => importTarget? binding rest = importTarget? binding' rest
      ∧ binding.typeOnly = binding'.typeOnly)
      (first.host.imports.get? head) (second.host.imports.get? head)

namespace Oracle.SameLookups

variable {first second : Oracle} (h : first.SameLookups second)
include h

theorem symbols_project (moduleName : String) :
    first.symbols (.project moduleName) = second.symbols (.project moduleName) := by
  simp only [Oracle.symbols, projectTable?, h.project]

theorem symbols_moduleName (scope : Scope) :
    (first.symbols scope).moduleName = (second.symbols scope).moduleName := by
  cases scope with
  | host => exact h.moduleName
  | project => rw [h.symbols_project]

theorem symbols_classes (scope : Scope) :
    (first.symbols scope).classes = (second.symbols scope).classes := by
  cases scope with
  | host => exact h.classes
  | project => rw [h.symbols_project]

theorem symbols_specialForm? (scope : Scope) :
    (first.symbols scope).specialForm? = (second.symbols scope).specialForm? := by
  cases scope with
  | host => exact h.specialForm?
  | project => rw [h.symbols_project]

theorem bareAlias?_eq (head : String) (rest : List String) :
    bareAlias? first.host head rest = bareAlias? second.host head rest := by
  unfold bareAlias?
  rw [h.aliases]

theorem stepResolve_eq (next : Resolver) : first.stepResolve next = second.stepResolve next := by
  funext scope seen e
  unfold stepResolve
  rw [h.symbols_specialForm? scope]

theorem stepDotted_eq (next : Resolver) : first.stepDotted next = second.stepDotted next := by
  funext scope seen dotted
  unfold stepDotted
  rw [h.symbols_specialForm? scope]

theorem stepName_eq (next : Resolver) : first.stepName next = second.stepName next := by
  funext scope seen dotted
  cases scope with
  | project => simp only [stepName, h.symbols_project]
  | host =>
    have hclassType (found : ClassSymbol) (spelling : Option String) (isEnum : Bool) :
        classType first.host found spelling isEnum = classType second.host found spelling isEnum := by
      simp only [classType, h.moduleName]
    simp only [stepName, Oracle.symbols, h.moduleName, h.bareAlias?_eq, hclassType]
    rw [h.classes]
    split
    · rfl
    split
    · rfl
    split
    · rfl
    rename_i head rest _ _ hclass
    split
    · rfl
    rename_i halias
    -- The imports are asked where neither host defines the name.
    have hbindings := h.imports (h.classes ▸ hclass) ((h.bareAlias?_eq head rest).trans halias)
    cases hfirst : first.host.imports.get? head with
    | none =>
      rw [hfirst] at hbindings
      cases hsecond : second.host.imports.get? head with
      | none => rfl
      | some => rw [hsecond] at hbindings; cases hbindings
    | some binding =>
      rw [hfirst] at hbindings
      cases hsecond : second.host.imports.get? head with
      | none => rw [hsecond] at hbindings; cases hbindings
      | some binding' =>
        rw [hsecond] at hbindings
        cases hbindings with
        | some hleads => simp only [hleads.1, hleads.2]

theorem stepExternal_eq (next : Resolver) : first.stepExternal next = second.stepExternal next := by
  funext seen origin name spelling
  simp only [stepExternal, projectTable?, h.project]

theorem stepEnumClass_eq (next : Resolver) : first.stepEnumClass next = second.stepEnumClass next := by
  funext scope seen className
  unfold stepEnumClass classKey
  rw [h.symbols_classes, h.symbols_moduleName]

/-- What is found within a depth is the same. -/
theorem within_eq (depth : Nat) : first.within depth = second.within depth := by
  induction depth with
  | zero => rfl
  | succ depth ih =>
    simp only [Oracle.within, Oracle.step, ih, h.stepResolve_eq, h.stepDotted_eq, h.stepName_eq,
      h.stepExternal_eq, h.stepEnumClass_eq]

/-- Every annotation denotes the same. -/
theorem typeOf_eq (e : Expr) : first.typeOf e = second.typeOf e := by
  let depth := first.reserve [] + second.reserve [] + e.weight + 6
  have hfirst := (adequate_within first depth).resolve .host [] e (by omega)
  have hsecond := (adequate_within second depth).resolve .host [] e (by omega)
  rw [h.within_eq] at hfirst
  exact Option.some.inj (hfirst.symm.trans hsecond)

end Oracle.SameLookups

/-! ## Definitions -/

/-- A name that a host both defines and imports. -/
structure Oracle.BindsTwice (oracle : Oracle) (name : String) (binding : ImportBinding) : Prop where
  nonempty : name.isEmpty = false
  single : dotPieces name = [name]
  notNone : name ≠ "None"
  imports : oracle.host.imports.get? name = some binding
  defines : oracle.host.classes.contains name = true ∨ oracle.host.aliases.contains name = true

/-- What a name denotes by its definition in the host: the class, else the expansion of the alias. -/
def Oracle.definition (oracle : Oracle) (seen : List Key) (name : String) :
    Except Fault (Option ResolvedType) :=
  match oracle.host.classes.get? name with
  | some found =>
    (fun isEnum => some (classType oracle.host found (some name) isEnum))
      <$> oracle.isEnumClass .host seen name
  | none =>
    match oracle.host.aliases.get? name with
    | some value =>
      if seen.contains (oracle.host.moduleName, name) then .ok none
      else oracle.resolve .host ((oracle.host.moduleName, name) :: seen) value
    | none => .ok none

def memberType (member : String) : Option ResolvedType → Option ResolvedType
  | some (.named t) => if t.isEnumeration then some (.enumMember t member) else none
  | _ => none

def denotesEnumeration : Option ResolvedType → Bool
  | some (.named t) => t.isEnumeration
  | _ => false

inductive Source.Expr.RefersTo (name : String) : Expr → Prop
  | bare : RefersTo name (.name name)
  | paren {e : Expr} {afterOpen beforeClose : Gap} (h : RefersTo name e) :
    RefersTo name (.paren afterOpen e beforeClose)
  | subscript {owner : Expr} {before close : Gap} {entries : List Entry} (h : RefersTo name owner) :
    RefersTo name (.subscript owner before entries close)

theorem Source.Expr.RefersTo.dottedName {name : String} {e : Expr} (h : e.RefersTo name) :
    e.dottedName = name ∨ e.dottedName = "" := by
  induction h with
  | bare => exact .inl rfl
  | paren _ ih => exact ih
  | subscript => exact .inr rfl

/-- A dotted name is no literal value. -/
theorem not_value_of_split {e : Expr} {owner member : String}
    (h : splitMember? e.dottedName = some (owner, member)) :
    e.isName "None" = false ∧ literalValue e = .ok none := by
  induction e using Expr.bare.induct with
  | case1 _ inner _ ih => exact ih h
  | case2 e hparen =>
    cases e with
    | paren afterOpen inner beforeClose => exact (hparen _ _ _ rfl).elim
    | name text =>
      have hword (word : String) (hnone : splitMember? word = none) : text ≠ word := by
        rintro rfl
        cases hnone.symm.trans h
      have hnone := hword "None" (by decide)
      have htrue := hword "True" (by decide)
      have hfalse := hword "False" (by decide)
      refine ⟨beq_eq_false_iff_ne.2 hnone, ?_⟩
      unfold literalValue
      split
      case h_5 heq => exact (htrue (Expr.name.inj heq)).elim
      case h_6 heq => exact (hfalse (Expr.name.inj heq)).elim
      case h_7 => rfl
      all_goals cases ‹_ = _›
    | «attribute» => exact ⟨rfl, rfl⟩
    | _ => cases h

namespace Oracle.BindsTwice

variable {oracle : Oracle} {name : String} {binding : ImportBinding}
  (h : oracle.BindsTwice name binding)
include h

theorem specialForm?_eq : oracle.host.specialForm? name
    = if typingModules.contains binding.origin then binding.imported else none := by
  simp only [ModuleSymbols.specialForm?, h.nonempty, h.single, h.imports, Bool.false_eq_true, if_false]

/-- Where no special forms are looked for, the definition is found. -/
theorem resolveName_eq (seen : List Key) :
    oracle.resolveName .host seen name = oracle.definition seen name := by
  unfold definition
  cases hclass : oracle.host.classes.get? name with
  | some found => exact resolveName_class h.nonempty h.single hclass
  | none =>
    have halias : ∃ value, oracle.host.aliases.get? name = some value := by
      refine Option.isSome_iff_exists.1 (h.defines.resolve_left ?_)
      simp [Table.contains, hclass]
    obtain ⟨value, halias⟩ := halias
    rw [halias]
    refine Option.some.inj (resolveName_eq_step.trans ?_)
    have hclass : (oracle.symbols .host).classes.get? name = none := hclass
    have halias : bareAlias? (oracle.symbols .host) name [] = some value := halias
    simp only [stepName, h.nonempty, h.single, hclass, halias, Bool.false_eq_true, if_false]
    change (if seen.contains (oracle.host.moduleName, name) then _ else _) = _
    split <;> rfl

/-- The base of a class is found by its definition. -/
theorem isEnumClass_eq {seen : List Key} {className : String} {found : ClassSymbol}
    (hclass : oracle.host.classes.get? className = some found)
    (hseen : seen.contains (classKey oracle.host className) = false) :
    oracle.isEnumClass .host seen className
      = found.bases.foldlM (fun isEnum base =>
          if isEnum then .ok true
          else denotesEnumeration <$>
            if baseName base = name then oracle.definition (classKey oracle.host className :: seen) name
            else oracle.resolveName .host (classKey oracle.host className :: seen) (baseName base))
          false := by
  unfold isEnumClass
  split
  case h_1 hnone => cases hclass.symm.trans hnone
  case h_2 other hother =>
    obtain rfl := Option.some.inj (hclass.symm.trans hother)
    have hseen : seen.contains (classKey (oracle.symbols .host) className) = false := hseen
    rw [dif_neg (by rw [hseen]; exact Bool.false_ne_true)]
    congr 1
    funext isEnum base
    split
    · rfl
    have hbase : oracle.resolveName .host (classKey oracle.host className :: seen) (baseName base)
        = if baseName base = name then oracle.definition (classKey oracle.host className :: seen) name
          else oracle.resolveName .host (classKey oracle.host className :: seen) (baseName base) := by
      split
      next heq => rw [heq, h.resolveName_eq]
      next => rfl
    rw [← hbase]
    change (oracle.resolveName .host (classKey oracle.host className :: seen) (baseName base) >>= _) = _
    cases oracle.resolveName .host (classKey oracle.host className :: seen) (baseName base) with
    | error => rfl
    | ok resolved =>
      cases resolved with
      | none => rfl
      | some t => cases t <;> rfl

/-- The owner of a literal member is found by its definition. -/
theorem resolveLiteral_eq (seen : List Key) {e : Expr} {member : String}
    (hsplit : splitMember? e.dottedName = some (name, member)) :
    oracle.resolveLiteral .host seen e = memberType member <$> oracle.definition seen name := by
  obtain ⟨hnone, hvalue⟩ := not_value_of_split hsplit
  rw [resolveLiteral, hnone, hvalue]
  simp only [hsplit]
  change (oracle.resolveName .host seen name >>= _) = _
  rw [h.resolveName_eq]
  cases oracle.definition seen name with
  | error => rfl
  | ok found =>
    cases found with
    | none => rfl
    | some t =>
      cases t with
      | named t =>
        change (if t.isEnumeration = true then Except.ok (some (ResolvedType.enumMember t member))
          else .ok none) = .ok (if t.isEnumeration then some (.enumMember t member) else none)
        split <;> rfl
      | _ => rfl

/-- An annotation that is a name is found by its definition when the name is no special form. -/
theorem resolve_eq (hplain : oracle.host.specialForm? name = none) (seen : List Key) {e : Expr}
    (he : e.RefersTo name) : oracle.resolve .host seen e = oracle.definition seen name := by
  induction he with
  | bare =>
    have hreference : (Expr.name name).isReference = true := bne_iff_ne.2 h.notNone
    refine Option.some.inj ((resolve_eq_step _).trans ?_)
    rw [stepResolve_reference hreference]
    have hplain : (oracle.symbols .host).specialForm? name = none := hplain
    exact congrArg reached ((resolveDotted_of_plain hplain).trans (h.resolveName_eq seen))
  | paren _ ih => rw [resolve_paren, ih]
  | @subscript owner before close entries howner ih =>
    have hspecial : (oracle.symbols .host).specialForm? owner.dottedName = none := by
      rcases howner.dottedName with hname | hempty
      · rw [hname]
        exact hplain
      · rw [hempty]
        rfl
    refine Option.some.inj ((resolve_eq_step _).trans ?_)
    simp only [stepResolve, hspecial]
    exact congrArg reached ih

end Oracle.BindsTwice

/-! ## The import -/

/-- A binding to a name, read as one to a module: dotted names lead where they led, and the bound name by
itself leads nowhere. -/
def ImportBinding.asModule (binding : ImportBinding) : ImportBinding :=
  { binding with origin := joinDots (binding.origin :: binding.imported.toList), imported := none }

theorem importTarget?_asModule (binding : ImportBinding) (rest : List String) :
    importTarget? binding.asModule rest = if rest.isEmpty then none else importTarget? binding rest := by
  cases rest with
  | nil => rfl
  | cons next rest =>
    have hlast := List.getLast?_eq_some_getLast (List.cons_ne_nil next rest)
    cases himported : binding.imported with
    | none => simp [importTarget?, ImportBinding.asModule, himported, hlast, joinDots]
    | some imported =>
      have hjoined := joinDots_joinDots (List.cons_ne_nil binding.origin [imported])
        (next :: rest).dropLast
      simp only [importTarget?, ImportBinding.asModule, himported, hlast, Option.toList, hjoined]
      rfl

def Oracle.importingModule (oracle : Oracle) (name : String) (binding : ImportBinding) : Oracle :=
  { oracle with host := oracle.host.bindImport name binding.asModule }

theorem Oracle.get?_importingModule (oracle : Oracle) (name : String) (binding : ImportBinding) :
    (oracle.importingModule name binding).host.imports.get? name = some binding.asModule :=
  (Table.get?_insert ..).trans (if_pos rfl)

section Import

variable {oracle : Oracle} {name : String} {binding : ImportBinding}

/-- A name with an import and nothing else that begins a dotted name has further names behind it. -/
theorem Oracle.BindsTwice.not_isEmpty_of_undefined (h : oracle.BindsTwice name binding)
    {rest : List String} (hclass : oracle.host.classes.get? name = none)
    (halias : bareAlias? oracle.host name rest = none) : rest.isEmpty = false := by
  refine Bool.eq_false_iff.2 fun hempty => ?_
  rw [bareAlias?, if_pos hempty] at halias
  rcases h.defines with hdefines | hdefines
  · simp [Table.contains, hclass] at hdefines
  · simp [Table.contains, halias] at hdefines

theorem Oracle.BindsTwice.sameLookups (h : oracle.BindsTwice name binding)
    (hplain : oracle.host.specialForm? name = none) :
    oracle.SameLookups (oracle.importingModule name binding) where
  project := rfl
  moduleName := rfl
  classes := rfl
  aliases := rfl
  specialForm? := by
    funext dotted
    have hadds := ModuleSymbols.Adds.of_bindImport oracle.host name binding.asModule
    by_cases hhead : (dotPieces dotted).head? = some name
    · obtain ⟨rest, hpieces⟩ := List.head?_eq_some_iff.1 hhead
      have hne := isEmpty_of_dotPieces h.nonempty hpieces
      rw [specialForm?_of_import hne hpieces h.imports,
        specialForm?_of_import hne hpieces (oracle.get?_importingModule name binding),
        importTarget?_asModule]
      cases rest with
      | nil =>
        obtain rfl := dotPieces_injective (hpieces.trans h.single.symm)
        rw [← specialForm?_of_import hne hpieces h.imports, hplain]
        rfl
      | cons => rfl
    · exact (hadds.specialForm?_other hhead).symm
  imports {head rest} hclass halias := by
    have hadds := ModuleSymbols.Adds.of_bindImport oracle.host name binding.asModule
    by_cases hhead : head = name
    · subst hhead
      rw [h.imports, oracle.get?_importingModule head binding]
      have hrest : rest.isEmpty = false := h.not_isEmpty_of_undefined hclass halias
      exact .some ⟨by rw [importTarget?_asModule, hrest]; rfl, rfl⟩
    · have hothers : (oracle.importingModule name binding).host.imports.get? head
          = oracle.host.imports.get? head := hadds.others head hhead
      rw [hothers]
      exact rel_self fun _ _ => ⟨rfl, rfl⟩

end Import

/-- A definition shadows an import. A name that a host defines and imports is found by its definition, the
class before the alias, as the base of a class and as the owner of a literal member. It is a special form if
and only if the import takes it from a typing module. If it is none, an annotation that is the name, bare or
with subscripts, denotes what the definition denotes, and every annotation denotes what it would if nothing
but names behind a dot were imported. -/
theorem definition_shadows_import {oracle : Oracle} {name : String} {binding : ImportBinding}
    (h : oracle.BindsTwice name binding) :
    (∀ e : Expr, e.dottedName = name → oracle.specialForm? e
        = if typingModules.contains binding.origin then binding.imported else none)
      ∧ (∀ seen, oracle.resolveName .host seen name = oracle.definition seen name)
      ∧ (∀ seen className found, oracle.host.classes.get? className = some found →
          seen.contains (classKey oracle.host className) = false →
          oracle.isEnumClass .host seen className
            = found.bases.foldlM (fun isEnum base =>
                if isEnum then .ok true
                else denotesEnumeration <$>
                  if baseName base = name then
                    oracle.definition (classKey oracle.host className :: seen) name
                  else oracle.resolveName .host (classKey oracle.host className :: seen) (baseName base))
                false)
      ∧ (∀ seen (e : Expr) member, splitMember? e.dottedName = some (name, member) →
          oracle.resolveLiteral .host seen e = memberType member <$> oracle.definition seen name)
      ∧ (oracle.host.specialForm? name = none →
          (∀ seen (e : Expr), e.RefersTo name → oracle.resolve .host seen e = oracle.definition seen name)
          ∧ ∀ e, oracle.typeOf e = (oracle.importingModule name binding).typeOf e) := by
  refine ⟨fun e he => ?_, h.resolveName_eq, fun _ _ _ => h.isEnumClass_eq,
    fun seen _ _ => h.resolveLiteral_eq seen, fun hplain => ⟨fun seen _ => h.resolve_eq hplain seen, ?_⟩⟩
  · rw [Oracle.specialForm?, he, h.specialForm?_eq]
  · exact (h.sameLookups hplain).typeOf_eq

namespace Twice

/-- A module that defines the class `Status`, an enumeration, and the alias `Current` of it, and that imports
both names from elsewhere, beside another class of its own. -/
def shop : Oracle where
  host :=
    { moduleName := "shop"
      imports := ⟨[("Enum", { origin := "enum", imported := some "Enum" }),
        ("Status", { origin := "models", imported := some "Status" }),
        ("Current", { origin := "models", imported := some "Current" })]⟩
      classes := ⟨[("Status", { name := "Status", bases := [.name "Enum"], members := ["OPEN"] })]⟩
      aliases := ⟨[("Current", .name "Status")]⟩ }

def status : ResolvedType :=
  .named { name := "Status", origin := "shop", spelling := some "Status", kind := .enumeration
           members := ["OPEN"] }

theorem bindsTwice : shop.BindsTwice "Current" { origin := "models", imported := some "Current" } where
  nonempty := rfl
  single := by decide
  notNone := by decide
  imports := rfl
  defines := .inr rfl

theorem definition_current : shop.definition [] "Current" = .ok (some status) := by
  have hanswer := (adequate_within shop 100).resolveName .host [] "Current" (by decide)
  rw [bindsTwice.resolveName_eq] at hanswer
  exact (Option.some.inj hanswer).symm

/-- A module that imports `List` from a typing module and defines a class of that name. -/
def list : Oracle where
  host :=
    { moduleName := "shop"
      imports := ⟨[("List", { origin := "typing", imported := some "List" })]⟩
      classes := ⟨[("List", { name := "List" })]⟩ }

theorem list_bindsTwice : list.BindsTwice "List" { origin := "typing", imported := some "List" } where
  nonempty := rfl
  single := by decide
  notNone := by decide
  imports := rfl
  defines := .inl rfl

theorem definition_list : list.definition [] "List"
    = .ok (some (.named { name := "List", origin := "shop", spelling := some "List" })) := by
  have hanswer := (adequate_within list 100).resolveName .host [] "List" (by decide)
  rw [list_bindsTwice.resolveName_eq] at hanswer
  exact (Option.some.inj hanswer).symm

theorem typeOf_list : list.typeOf (.name "List") = .ok (some (.builtin "list")) := by
  have hanswer := (adequate_within list 100).resolve .host [] (.name "List") (by decide)
  exact (Option.some.inj hanswer).symm

end Twice

open Twice in
theorem definition_shadows_import_of_alias :
    shop.host.specialForm? "Current" = none
      ∧ shop.resolve .host [] (.subscript (.name "Current") [] [] []) = .ok (some status)
      ∧ shop.resolveLiteral .host [] (.attribute (.name "Current") [] [] "OPEN")
        = .ok (memberType "OPEN" (some status)) := by
  obtain ⟨-, -, -, hmember, hplain⟩ := definition_shadows_import bindsTwice
  have hspecial : shop.host.specialForm? "Current" = none := by cbv
  refine ⟨hspecial, ?_, ?_⟩
  · exact ((hplain hspecial).1 [] _ (.subscript .bare)).trans definition_current
  · rw [hmember [] _ "OPEN" (by decide), definition_current]
    rfl

open Twice in
/-- A class is shadowed by the import of a special form of its name. -/
theorem definition_shadowed_by_special_form :
    list.host.classes.contains "List" = true
      ∧ list.specialForm? (.name "List") = some "List"
      ∧ list.typeOf (.name "List") = .ok (some (.builtin "list"))
      ∧ list.definition [] "List"
        = .ok (some (.named { name := "List", origin := "shop", spelling := some "List" })) :=
  ⟨rfl, by cbv, typeOf_list, definition_list⟩

end ModelMetadata
