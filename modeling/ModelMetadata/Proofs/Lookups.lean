import ModelMetadata.Proofs.Dotting
import ModelMetadata.Proofs.Resolution

/-!
What a lookup comes to. A name that a module of the project provides is a class, an alias or a name that
the module takes from another one; each case is one equation of the oracle. A name that the language gives
a meaning of its own is not looked up.
-/
set_option autoImplicit false
namespace ModelMetadata

open Source

/-- A name of a module to which the language gives no meaning of its own. -/
structure Ordinary (origin name : String) : Prop where
  typing : typingModules.contains origin = false
  builtins : (origin == builtinsModule) = false
  enumeration : (origin == enumModule && enumBases.contains name) = false

def ProjectIndex.Keyed (project : ProjectIndex) : Prop :=
  ∀ moduleName symbols, project.get? moduleName = some symbols → symbols.moduleName = moduleName

theorem ProjectIndex.Keyed.add {project : ProjectIndex} (h : project.Keyed) (symbols : ModuleSymbols) :
    (project.add symbols).Keyed := by
  intro moduleName found hfound
  rw [ProjectIndex.add, Table.get?_insert] at hfound
  split at hfound
  · rename_i heq
    obtain rfl := Option.some.inj hfound
    exact heq
  · exact h moduleName found hfound

/-- The index of some modules is keyed. -/
theorem ProjectIndex.keyed_of_modules (modules : List ModuleSymbols) :
    (modules.foldl ProjectIndex.add {}).Keyed := by
  have hempty : ProjectIndex.Keyed {} := nofun
  exact List.foldlRecOn modules _ hempty fun _ h symbols _ => h.add symbols

structure ModuleSymbols.Takes (symbols : ModuleSymbols) (name origin : String) (typeOnly : Bool) :
    Prop where
  classes : symbols.classes.get? name = none
  aliases : symbols.aliases.get? name = none
  imports : symbols.imports.get? name = some { origin, imported := some name, typeOnly }

def spellingOf (typeOnly : Bool) (text : String) : Option String := if typeOnly then none else some text

namespace Oracle

variable {oracle : Oracle}

def answers (oracle : Oracle) : Resolver where
  resolve scope seen e := reached (oracle.resolve scope seen e)
  resolveLiteral scope seen e := reached (oracle.resolveLiteral scope seen e)
  resolveDotted scope seen dotted := reached (oracle.resolveDotted scope seen dotted)
  resolveName scope seen dotted := reached (oracle.resolveName scope seen dotted)
  resolveExternal seen origin name spelling := reached (oracle.resolveExternal seen origin name spelling)
  isEnumClass scope seen className := reached (oracle.isEnumClass scope seen className)

theorem adequate_answers (oracle : Oracle) (depth : Nat) : Adequate oracle depth oracle.answers :=
  ⟨fun _ _ _ _ => rfl, fun _ _ _ _ => rfl, fun _ _ _ _ => rfl, fun _ _ _ _ => rfl,
    fun _ _ _ _ _ => rfl, fun _ _ _ _ => rfl⟩

/-! ## Modules of an index -/

section Index

variable {project : ProjectIndex} (hproject : oracle.project = some project) (moduleName : String)
include hproject

theorem projectTable?_of_project : oracle.projectTable? moduleName = project.get? moduleName := by
  simp only [projectTable?, hproject, Option.bind_some]

theorem symbols_of_project :
    oracle.symbols (.project moduleName) = (project.get? moduleName).getD { moduleName } := by
  simp only [Oracle.symbols, projectTable?_of_project hproject]

theorem moduleName_of_project (hkeyed : project.Keyed) :
    (oracle.symbols (.project moduleName)).moduleName = moduleName := by
  rw [symbols_of_project hproject]
  cases hget : project.get? moduleName with
  | none => rfl
  | some symbols => exact hkeyed _ _ hget

end Index

theorem reached_map {α β : Type} (result : Except Fault α) (f : α → β) :
    (reached result >>= fun a => reached (.ok (f a))) = reached (f <$> result) := by
  cases result <;> rfl

/-! ## Names of a module -/

section Names

variable {scope : Scope} {seen : List Key} {dotted head : String} {rest : List String}

theorem resolveName_eq_step : reached (oracle.resolveName scope seen dotted)
    = oracle.stepName oracle.answers scope seen dotted :=
  (stepName_eq (adequate_answers oracle _) (Nat.lt_succ_self _)).symm

theorem resolveName_class {found : ClassSymbol} (hne : dotted.isEmpty = false)
    (hpieces : dotPieces dotted = [head]) (hclass : (oracle.symbols scope).classes.get? head = some found) :
    oracle.resolveName scope seen dotted
      = (fun isEnum => some (classType (oracle.symbols scope) found (some head) isEnum))
        <$> oracle.isEnumClass scope seen head := by
  refine Option.some.inj (resolveName_eq_step.trans ?_)
  simp only [stepName, hne, hpieces, hclass, List.isEmpty_nil, Bool.false_eq_true, if_true, if_false]
  exact reached_map ..

/-- A name in a class is not looked up. -/
theorem resolveName_nested {found : ClassSymbol} (hne : dotted.isEmpty = false)
    (hpieces : dotPieces dotted = head :: rest) (hrest : rest ≠ [])
    (hclass : (oracle.symbols scope).classes.get? head = some found) :
    oracle.resolveName scope seen dotted = .ok (some (.named
      { name := dotted, origin := (oracle.symbols scope).moduleName, spelling := dotted })) := by
  have hempty : rest.isEmpty = false := by simpa using hrest
  refine Option.some.inj (resolveName_eq_step.trans ?_)
  simp only [stepName, hne, hpieces, hclass, hempty, Bool.false_eq_true, if_false]
  rfl

theorem resolveName_import {binding : ImportBinding} {origin name : String}
    (hne : dotted.isEmpty = false) (hpieces : dotPieces dotted = head :: rest)
    (hclass : (oracle.symbols scope).classes.get? head = none)
    (halias : bareAlias? (oracle.symbols scope) head rest = none)
    (himport : (oracle.symbols scope).imports.get? head = some binding)
    (htarget : importTarget? binding rest = some (origin, name)) :
    oracle.resolveName scope seen dotted
      = oracle.resolveExternal seen origin name (spellingOf binding.typeOnly dotted) := by
  refine Option.some.inj (resolveName_eq_step.trans ?_)
  simp only [stepName, hne, hpieces, hclass, halias, himport, htarget, Bool.false_eq_true, if_false]
  rfl

/-- What another module provides is no special form, unless that is a typing module. -/
theorem specialForm?_of_target {symbols : ModuleSymbols} {binding : ImportBinding}
    {origin name : String} (hne : dotted.isEmpty = false) (hpieces : dotPieces dotted = head :: rest)
    (himport : symbols.imports.get? head = some binding)
    (htarget : importTarget? binding rest = some (origin, name))
    (htyping : typingModules.contains origin = false) : symbols.specialForm? dotted = none := by
  unfold ModuleSymbols.specialForm? importTarget? at *
  cases rest with
  | nil =>
    cases himported : binding.imported with
    | none =>
      rw [himported] at htarget
      cases htarget
    | some imported =>
      rw [himported] at htarget
      cases htarget
      simp only [hne, hpieces, himport, htyping, Bool.false_eq_true, if_false]
  | cons next rest =>
    have hlast := List.getLast?_eq_some_getLast (List.cons_ne_nil next rest)
    have howner : joinDots (binding.origin :: binding.imported.toList ++ (next :: rest).dropLast)
        = origin := by
      cases himported : binding.imported <;>
        · rw [himported, hlast] at htarget
          exact congrArg Prod.fst (Option.some.inj htarget)
    simp only [hne, hpieces, himport, howner, htyping, Bool.false_eq_true, if_false]

theorem stepName_takes {next : Resolver} {name origin : String} {typeOnly : Bool}
    (hne : name.isEmpty = false) (hpieces : dotPieces name = [name])
    (htakes : (oracle.symbols scope).Takes name origin typeOnly) :
    oracle.stepName next scope seen name
      = next.resolveExternal seen origin name (spellingOf typeOnly name) := by
  have halias : bareAlias? (oracle.symbols scope) name [] = none := htakes.aliases
  simp only [stepName, hne, hpieces, htakes.classes, halias, htakes.imports, Bool.false_eq_true, if_false]
  rfl

end Names

/-! ## Names that a module provides -/

section Provided

variable {seen : List Key} {origin name : String} {spelling : Option String}

theorem resolveExternal_eq_step : reached (oracle.resolveExternal seen origin name spelling)
    = oracle.stepExternal oracle.answers seen origin name spelling :=
  (stepExternal_eq (adequate_answers oracle _) (Nat.lt_succ_self _)).symm

variable (h : Ordinary origin name)
include h

theorem resolveExternal_unknown (htable : oracle.projectTable? origin = none) :
    oracle.resolveExternal seen origin name spelling = .ok (some (.named { name, origin, spelling })) := by
  refine Option.some.inj (resolveExternal_eq_step.trans ?_)
  simp only [stepExternal, h.typing, h.builtins, h.enumeration, htable, Bool.false_eq_true, if_false]
  rfl

variable {external : ModuleSymbols} (htable : oracle.projectTable? origin = some external)
include htable

/-- A name that was passed before is a type of its own. -/
theorem stepExternal_seen (next : Resolver) (hseen : seen.contains (origin, name) = true) :
    oracle.stepExternal next seen origin name spelling
      = reached (.ok (some (.named { name, origin, spelling }))) := by
  simp only [stepExternal, h.typing, h.builtins, h.enumeration, htable, hseen, Bool.false_eq_true,
    if_false, if_true]

theorem stepExternal_takes (next : Resolver) (hseen : seen.contains (origin, name) = false)
    {source : String} {typeOnly : Bool} (htakes : external.Takes name source typeOnly) :
    oracle.stepExternal next seen origin name spelling
      = next.resolveName (.project origin) ((origin, name) :: seen) name
        >>= fun found => return found.map (respelled spelling) := by
  simp only [stepExternal, h.typing, h.builtins, h.enumeration, htable, hseen, htakes.classes,
    htakes.aliases, htakes.imports, Bool.false_eq_true, if_false]

theorem reached_seen {depth : Nat} (hseen : seen.contains (origin, name) = true)
    {found : Except Fault (Option ResolvedType)}
    (hfound : (oracle.within depth).resolveExternal seen origin name spelling = reached found) :
    found = .ok (some (.named { name, origin, spelling })) := by
  cases depth with
  | zero => cases hfound
  | succ depth =>
    change oracle.stepExternal _ seen origin name spelling = _ at hfound
    rw [stepExternal_seen h htable _ hseen] at hfound
    exact (Option.some.inj hfound).symm

/-- What is reached of a name that is passed on was reached where it is taken from. -/
theorem reached_takes {depth : Nat} (hseen : seen.contains (origin, name) = false) {source : String}
    {typeOnly : Bool} (hne : name.isEmpty = false) (hpieces : dotPieces name = [name])
    (htakes : external.Takes name source typeOnly) {found : Except Fault (Option ResolvedType)}
    (hfound : (oracle.within depth).resolveExternal seen origin name spelling = reached found) :
    ∃ depth inner, (oracle.within depth).resolveExternal ((origin, name) :: seen) source name
        (spellingOf typeOnly name) = reached inner
      ∧ found = Option.map (respelled spelling) <$> inner := by
  have hsymbols : oracle.symbols (.project origin) = external := by
    simp only [symbols, htable, Option.getD_some]
  cases depth with
  | zero => cases hfound
  | succ depth =>
    change oracle.stepExternal _ seen origin name spelling = _ at hfound
    rw [stepExternal_takes h htable _ hseen htakes] at hfound
    cases depth with
    | zero => cases hfound
    | succ depth =>
      change (oracle.stepName _ (.project origin) ((origin, name) :: seen) name >>= _) = _ at hfound
      rw [stepName_takes hne hpieces (hsymbols ▸ htakes)] at hfound
      cases hinner : (oracle.within depth).resolveExternal ((origin, name) :: seen) source name
          (spellingOf typeOnly name) with
      | none =>
        rw [hinner] at hfound
        cases hfound
      | some inner =>
        rw [hinner] at hfound
        exact ⟨depth, inner, hinner, (Option.some.inj ((reached_map ..).symm.trans hfound)).symm⟩

variable (hseen : seen.contains (origin, name) = false)
include hseen

theorem resolveExternal_class {found : ClassSymbol} (hclass : external.classes.get? name = some found) :
    oracle.resolveExternal seen origin name spelling
      = (fun isEnum => some (classType external found spelling isEnum))
        <$> oracle.isEnumClass (.project origin) ((origin, name) :: seen) name := by
  refine Option.some.inj (resolveExternal_eq_step.trans ?_)
  simp only [stepExternal, h.typing, h.builtins, h.enumeration, htable, hseen, hclass,
    Bool.false_eq_true, if_false]
  exact reached_map ..

theorem resolveExternal_alias {value : Expr} (hclass : external.classes.get? name = none)
    (halias : external.aliases.get? name = some value) :
    oracle.resolveExternal seen origin name spelling
      = (Option.map ResolvedType.unspelled)
        <$> oracle.resolve (.project origin) ((origin, name) :: seen) value := by
  refine Option.some.inj (resolveExternal_eq_step.trans ?_)
  simp only [stepExternal, h.typing, h.builtins, h.enumeration, htable, hseen, hclass, halias,
    Bool.false_eq_true, if_false]
  exact reached_map ..

/-- A name that is passed on is found where it is taken from, and spelled as in the host. -/
theorem resolveExternal_takes {source : String} {typeOnly : Bool} (hne : name.isEmpty = false)
    (hpieces : dotPieces name = [name]) (htakes : external.Takes name source typeOnly) :
    oracle.resolveExternal seen origin name spelling
      = (Option.map (respelled spelling))
        <$> oracle.resolveExternal ((origin, name) :: seen) source name (spellingOf typeOnly name) := by
  have hsymbols : oracle.symbols (.project origin) = external := by
    simp only [symbols, htable, Option.getD_some]
  have hname : oracle.resolveName (.project origin) ((origin, name) :: seen) name
      = oracle.resolveExternal ((origin, name) :: seen) source name (spellingOf typeOnly name) :=
    Option.some.inj (resolveName_eq_step.trans (stepName_takes hne hpieces (hsymbols ▸ htakes)))
  refine Option.some.inj (resolveExternal_eq_step.trans ?_)
  rw [stepExternal_takes h htable oracle.answers hseen htakes, ← hname]
  exact reached_map ..

end Provided

/-! ## Names of a host -/

theorem typeOf_name {name : String} (hnone : name ≠ "None") :
    oracle.typeOf (.name name) = oracle.resolveDotted .host [] name := by
  rw [typeOf, resolve]
  exact hnone

theorem resolveDotted_of_plain {scope : Scope} {seen : List Key} {dotted : String}
    (hplain : (oracle.symbols scope).specialForm? dotted = none) :
    oracle.resolveDotted scope seen dotted = oracle.resolveName scope seen dotted := by
  rw [resolveDotted, hplain]

/-- What a host takes from a module is what that module provides. -/
theorem typeOf_takes {name origin : String} {typeOnly : Bool} (hnone : name ≠ "None")
    (hname : Text.isIdentifier name.toList = true) (htakes : oracle.host.Takes name origin typeOnly) :
    oracle.typeOf (.name name)
      = oracle.resolveExternal [] origin name (spellingOf typeOnly name) := by
  have hne := Text.isEmpty_of_isIdentifier hname
  have hpieces := dotPieces_of_isIdentifier hname
  have hspecial : oracle.host.specialForm? name
      = if typingModules.contains origin then some name else none := by
    simp only [ModuleSymbols.specialForm?, hne, hpieces, htakes.imports, Bool.false_eq_true, if_false]
  rw [typeOf_name hnone]
  cases htyping : typingModules.contains origin with
  | true =>
    -- A name of a typing module is a special form; elsewhere it is looked up to the same end.
    rw [htyping] at hspecial
    have hform : oracle.resolveDotted .host [] name = .ok (bareSpecial name) := by
      rw [resolveDotted, show (oracle.symbols .host).specialForm? name = some name from hspecial]
    have hprovided : oracle.resolveExternal [] origin name (spellingOf typeOnly name)
        = .ok (bareSpecial name) := by
      refine Option.some.inj (resolveExternal_eq_step.trans ?_)
      simp only [stepExternal, htyping, if_true]
      rfl
    rw [hform, hprovided]
  | false =>
    rw [htyping] at hspecial
    have hplain : (oracle.symbols .host).specialForm? name = none := hspecial
    rw [resolveDotted_of_plain hplain]
    exact Option.some.inj (resolveName_eq_step.trans (stepName_takes hne hpieces htakes))

end Oracle
end ModelMetadata
