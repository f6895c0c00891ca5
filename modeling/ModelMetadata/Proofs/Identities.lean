import ModelMetadata.Proofs.Evaluating
import ModelMetadata.Proofs.Lookups

/-!
The identity of a class. A module that defines a class and the hosts that import it, by itself or with its
module, ask for it by different names. They find it under one dotted name, its module in front. Where the
module ends in that name and where the class begins is the same for a class of the module itself; for a
class within it the module tells the two apart, and a host that imports it takes all but the last name for
the module.
-/
set_option autoImplicit false
namespace ModelMetadata

open Source Oracle

/-! ## Paths -/

/-- An expression that is a name or a member of such an expression, with the names in it. -/
inductive Source.Expr.IsPath : Expr → List String → Prop where
  | name (text : String) : IsPath (.name text) [text]
  | member {owner : Expr} {path : List String} (h : IsPath owner path) (beforeDot afterDot : Gap)
    (attr : String) : IsPath (.attribute owner beforeDot afterDot attr) (path ++ [attr])

namespace Source.Expr.IsPath

variable {e : Expr} {path : List String}

theorem ne_nil (h : e.IsPath path) : path ≠ [] := by
  cases h with
  | name => exact List.cons_ne_nil _ _
  | member => simp

theorem dottedName (h : e.IsPath path) (hpath : ∀ piece ∈ path, Text.isIdentifier piece.toList = true) :
    e.dottedName = joinDots path := by
  induction h with
  | name text => simp [Expr.dottedName, joinDots]
  | member howner beforeDot afterDot attr ih =>
    have hall := fun piece hpiece => hpath piece (List.mem_append_left _ hpiece)
    rw [joinDots_concat howner.ne_nil, ← ih hall]
    have hempty := isEmpty_joinDots howner.ne_nil hall
    rw [← ih hall] at hempty
    simp only [Expr.dottedName, hempty, Bool.false_eq_true, if_false]

theorem typeOf (h : e.IsPath path) (hpath : ∀ piece ∈ path, Text.isIdentifier piece.toList = true)
    (hnone : path ≠ ["None"]) (oracle : Oracle) :
    oracle.typeOf e = oracle.resolveDotted .host [] (joinDots path) := by
  have hdotted := h.dottedName hpath
  cases h with
  | name text => 
    rw [← hdotted]
    exact typeOf_name fun h => hnone (by rw [h])
  | member _ beforeDot afterDot attr =>
    rw [← hdotted, Oracle.typeOf, resolve]
    rfl

/-- A path holds no literal. -/
theorem evaluates (h : e.IsPath path) : Evaluates e := by
  cases h with
  | name text =>
    have hvalue : Succeeds (literalValue (.name text)) := by
      by_cases htrue : text = "True"
      · subst htrue
        exact ⟨_, rfl⟩
      by_cases hfalse : text = "False"
      · subst hfalse
        exact ⟨_, rfl⟩
      rw [literalValue.eq_7 (.name text) nofun nofun nofun nofun (fun h => htrue (Expr.name.inj h))
        fun h => hfalse (Expr.name.inj h)]
      exact ⟨_, rfl⟩
    exact .mk ⟨_, rfl⟩ hvalue nofun nofun nofun
  | member => exact .mk ⟨_, rfl⟩ ⟨_, rfl⟩ nofun nofun nofun

end Source.Expr.IsPath

/-! ## Imported paths -/

def ModuleSymbols.LooksFor (host : ModuleSymbols) (path : List String) (origin name : String) : Prop :=
  ∃ head rest binding, path = head :: rest ∧ host.classes.get? head = none
    ∧ bareAlias? host head rest = none ∧ host.imports.get? head = some binding
    ∧ importTarget? binding rest = some (origin, name)

theorem ModuleSymbols.LooksFor.resolveDotted {oracle : Oracle} {path : List String}
    {origin name : String} (h : oracle.host.LooksFor path origin name)
    (hpath : ∀ piece ∈ path, Text.isIdentifier piece.toList = true)
    (htyping : typingModules.contains origin = false) :
    ∃ spelling, oracle.resolveDotted .host [] (joinDots path)
      = oracle.resolveExternal [] origin name spelling := by
  obtain ⟨head, rest, binding, rfl, hclass, halias, himport, htarget⟩ := h
  have hne := isEmpty_joinDots (List.cons_ne_nil head rest) hpath
  have hpieces := dotPieces_joinDots (List.cons_ne_nil head rest) hpath
  refine ⟨_, (resolveDotted_of_plain ?_).trans
    (resolveName_import hne hpieces hclass halias himport htarget)⟩
  exact specialForm?_of_target hne hpieces himport htarget htyping

/-! ## Ways to a class -/

/-- A path by which a host reaches a class of a module: the module itself by the name of the class, other
hosts by an import of the class or of the module. -/
inductive ModuleSymbols.Reaches (host symbols : ModuleSymbols) (className : String) :
    Bool → List String → Prop where
  | own (h : host = symbols) : Reaches host symbols className false [className]
  | taken {typeOnly : Bool} (h : host.Takes className symbols.moduleName typeOnly) :
    Reaches host symbols className true [className]
  | within {bound origin : String} {segments : List String} {typeOnly : Bool}
    (hclass : host.classes.get? bound = none)
    (himport : host.imports.get? bound = some { origin, typeOnly })
    (hmodule : joinDots (origin :: segments) = symbols.moduleName) :
    Reaches host symbols className true (bound :: segments ++ [className])

structure ProjectIndex.Defines (project : ProjectIndex) (symbols : ModuleSymbols) (className : String) :
    Prop where
  indexed : project.get? symbols.moduleName = some symbols
  once : symbols.imports.get? className = none
  named : ∃ found, symbols.classes.get? className = some found ∧ found.name = className

def ModuleSymbols.ownerOf (symbols : ModuleSymbols) (path : List String) : String :=
  joinDots (symbols.moduleName :: path.dropLast)

section Routes

variable {project : ProjectIndex} {host symbols : ModuleSymbols} {className : String}
  {nested path : List String} {imported : Bool}

theorem ModuleSymbols.Reaches.looksFor (h : host.Reaches symbols className true path)
    (nested : List String) :
    host.LooksFor (path ++ nested) (symbols.ownerOf (className :: nested))
      ((className :: nested).getLast (List.cons_ne_nil _ _)) := by
  cases h with
  | taken htakes =>
    refine ⟨className, nested, _, rfl, htakes.classes, ?_, htakes.imports, ?_⟩
    · cases nested with
      | nil => exact htakes.aliases
      | cons => rfl
    · cases nested with
      | nil => simp [importTarget?, ModuleSymbols.ownerOf, joinDots]
      | cons next rest =>
        simp only [importTarget?, List.getLast?_eq_some_getLast (List.cons_ne_nil next rest)]
        rfl
  | @within bound origin segments typeOnly hclass himport hmodule =>
    have hlast : (segments ++ className :: nested).getLast?
        = some ((className :: nested).getLast (List.cons_ne_nil _ _)) := by
      rw [List.getLast?_append_of_ne_nil _ (List.cons_ne_nil _ _),
        List.getLast?_eq_some_getLast (List.cons_ne_nil _ _)]
    refine ⟨bound, segments ++ className :: nested, _, by simp, hclass, ?_, himport, ?_⟩
    · simp [bareAlias?]
    · simp only [importTarget?, hlast, ModuleSymbols.ownerOf, ← hmodule,
        joinDots_joinDots (List.cons_ne_nil origin segments),
        List.dropLast_append_of_ne_nil (List.cons_ne_nil className nested), List.cons_append]

end Routes

/-! ## Identities -/

/-- The module and the name of the type that is found under a path to a class of a module, or within it. -/
def ModuleSymbols.identity (symbols : ModuleSymbols) (path : List String) (hne : path ≠ []) :
    Bool → String × String
  | false => (symbols.moduleName, joinDots path)
  | true => (symbols.ownerOf path, path.getLast hne)

section Identity

variable {project : ProjectIndex} {host symbols : ModuleSymbols} {className : String}
  {nested path : List String} {imported : Bool} {e : Expr}

/-- Hosts tell a class of a module by the same module and name, however they reach it. -/
theorem ModuleSymbols.identity_class (symbols : ModuleSymbols) (className : String) (imported : Bool) :
    symbols.identity [className] (List.cons_ne_nil _ _) imported = (symbols.moduleName, className) := by
  cases imported <;> simp [identity, ownerOf, joinDots]

theorem ModuleSymbols.joinDots_identity (symbols : ModuleSymbols) {path : List String} (hne : path ≠ [])
    (imported : Bool) :
    (symbols.identity path hne imported).1 ++ "." ++ (symbols.identity path hne imported).2
      = joinDots (symbols.moduleName :: path) := by
  cases imported with
  | false =>
    obtain ⟨first, rest, rfl⟩ := List.exists_cons_of_ne_nil hne
    exact (joinDots_cons symbols.moduleName first rest).symm
  | true =>
    simp only [identity, ownerOf]
    rw [← joinDots_concat (List.cons_ne_nil _ _), List.cons_append, List.dropLast_append_getLast hne]

/-- What is found of a class, once it can be told whether it is an enumeration. -/
theorem exists_classType {oracle : Oracle} (haliases : oracle.AliasesEvaluate) (he : e.IsPath path)
    {found : ClassSymbol} {spelling : Option String} {isEnum : Except Fault Bool}
    (h : oracle.typeOf e = (fun isEnum => some (classType symbols found spelling isEnum)) <$> isEnum) :
    ∃ t : NamedType, oracle.typeOf e = .ok (some (.named t)) ∧ t.origin = symbols.moduleName
      ∧ t.name = found.name := by
  obtain ⟨answer, hanswer⟩ := typeOf_succeeds haliases he.evaluates
  cases isEnum with
  | error fault =>
    rw [hanswer] at h
    cases h
  | ok isEnum => exact ⟨_, h, rfl, rfl⟩

variable (hdefines : project.Defines symbols className)
  (hnames : ∀ piece ∈ path ++ nested, Text.isIdentifier piece.toList = true)
  (haliases : nested = [] → ({ host, project := some project } : Oracle).AliasesEvaluate)
  (he : e.IsPath (path ++ nested))
include hdefines hnames haliases he

/-- A module finds its own classes. -/
theorem typeOf_own (hown : host = symbols) (hpath : path = [className]) (hnone : className ≠ "None") :
    ∃ t : NamedType, ({ host, project := some project } : Oracle).typeOf e = .ok (some (.named t))
      ∧ t.origin = symbols.moduleName ∧ t.name = joinDots (className :: nested) := by
  subst hown hpath
  obtain ⟨found, hclass, hfound⟩ := hdefines.named
  have hne := isEmpty_joinDots (List.cons_ne_nil className nested) hnames
  have hpieces := dotPieces_joinDots (List.cons_ne_nil className nested) hnames
  have hplain : host.specialForm? (joinDots (className :: nested)) = none := by
    cases nested <;>
      simp [ModuleSymbols.specialForm?, hne, hpieces, hdefines.once, Table.contains, hclass]
  have htype := (he.typeOf hnames (fun h => hnone (List.cons.inj h).1)
    { host, project := some project }).trans (resolveDotted_of_plain hplain)
  cases nested with
  | nil =>
    obtain ⟨t, ht, horigin, hname⟩ := exists_classType (haliases rfl) he
      (htype.trans (resolveName_class hne hpieces hclass))
    exact ⟨t, ht, horigin, hname.trans (hfound.trans (by simp [joinDots]))⟩
  | cons next rest =>
    exact ⟨_, htype.trans (resolveName_nested hne hpieces (List.cons_ne_nil next rest) hclass), rfl, rfl⟩

variable (hordinary : Ordinary (symbols.ownerOf (className :: nested))
    ((className :: nested).getLast (List.cons_ne_nil _ _)))
  (hunknown : nested ≠ [] → project.get? (symbols.ownerOf (className :: nested)) = none)
include hordinary hunknown

/-- A host finds the classes that it imports. -/
theorem typeOf_imported (hreaches : host.Reaches symbols className true path)
    (hnone : className ≠ "None") :
    ∃ t : NamedType, ({ host, project := some project } : Oracle).typeOf e = .ok (some (.named t))
      ∧ t.origin = symbols.ownerOf (className :: nested)
      ∧ t.name = (className :: nested).getLast (List.cons_ne_nil _ _) := by
  obtain ⟨found, hclass, hfound⟩ := hdefines.named
  have hpath : path ++ nested ≠ ["None"] := by
    cases hreaches with
    | taken => exact fun h => hnone (List.cons.inj h).1
    | within => simp
  have hlooks : ({ host, project := some project } : Oracle).host.LooksFor (path ++ nested) _ _ :=
    hreaches.looksFor nested
  obtain ⟨spelling, hprovided⟩ := hlooks.resolveDotted hnames hordinary.typing
  have htype := (he.typeOf hnames hpath { host, project := some project }).trans hprovided
  by_cases hnested : nested = []
  · subst hnested
    have howner : symbols.ownerOf [className] = symbols.moduleName := by
      simp [ModuleSymbols.ownerOf, joinDots]
    have htable : ({ host, project := some project } : Oracle).projectTable? symbols.moduleName
        = some symbols := hdefines.indexed
    rw [howner] at hordinary htype ⊢
    obtain ⟨t, ht, horigin, hname⟩ := exists_classType (haliases rfl) he
      (htype.trans (resolveExternal_class hordinary htable rfl hclass))
    exact ⟨t, ht, horigin, hname.trans hfound⟩
  · exact ⟨_, htype.trans (resolveExternal_unknown hordinary (hunknown hnested)), rfl, rfl⟩

/-- A class is found with the identity that is due. -/
theorem typeOf_reached (hreaches : host.Reaches symbols className imported path)
    (hnone : className ≠ "None") :
    ∃ t : NamedType, ({ host, project := some project } : Oracle).typeOf e = .ok (some (.named t))
      ∧ (t.origin, t.name) = symbols.identity (className :: nested) (List.cons_ne_nil _ _) imported := by
  cases imported with
  | false =>
    obtain ⟨hown, hpath⟩ : host = symbols ∧ path = [className] := by
      cases hreaches with
      | own h => exact ⟨h, rfl⟩
    obtain ⟨t, ht, horigin, hname⟩ := typeOf_own hdefines hnames haliases he hown hpath hnone
    exact ⟨t, ht, Prod.ext horigin hname⟩
  | true =>
    obtain ⟨t, ht, horigin, hname⟩ :=
      typeOf_imported hdefines hnames haliases he hordinary hunknown hreaches hnone
    exact ⟨t, ht, Prod.ext horigin hname⟩

end Identity

section Agreement

variable {project : ProjectIndex} {symbols first second : ModuleSymbols} {className : String}
  {nested path path' : List String} {imported imported' : Bool} {e e' : Expr}

/-- A class has one identity. Hosts that reach a class of a module, the module itself among them, find a
type of the same module and name. They find any class within it under the same dotted name, its module in
front, and where both import the class, under the same module and name; the module itself tells its own
name from the names of its classes, which a host that imports them does not. -/
theorem class_identified (hdefines : project.Defines symbols className) (hnone : className ≠ "None")
    (hordinary : Ordinary (symbols.ownerOf (className :: nested))
      ((className :: nested).getLast (List.cons_ne_nil _ _)))
    (hunknown : nested ≠ [] → project.get? (symbols.ownerOf (className :: nested)) = none)
    (hfirst : first.Reaches symbols className imported path)
    (hsecond : second.Reaches symbols className imported' path')
    (hnames : ∀ piece ∈ path ++ nested, Text.isIdentifier piece.toList = true)
    (hnames' : ∀ piece ∈ path' ++ nested, Text.isIdentifier piece.toList = true)
    (haliases : nested = [] → ({ host := first, project := some project } : Oracle).AliasesEvaluate
      ∧ ({ host := second, project := some project } : Oracle).AliasesEvaluate)
    (he : e.IsPath (path ++ nested)) (he' : e'.IsPath (path' ++ nested)) :
    ∃ s t : NamedType,
      ({ host := first, project := some project } : Oracle).typeOf e = .ok (some (.named s))
      ∧ ({ host := second, project := some project } : Oracle).typeOf e' = .ok (some (.named t))
      ∧ s.canonicalName = joinDots (symbols.moduleName :: className :: nested)
      ∧ t.canonicalName = s.canonicalName
      ∧ (imported' = imported → t.origin = s.origin ∧ t.name = s.name)
      ∧ (nested = [] → s.origin = symbols.moduleName ∧ t.origin = symbols.moduleName
        ∧ s.name = className ∧ t.name = className) := by
  obtain ⟨s, hs, hsame⟩ := typeOf_reached hdefines hnames (fun h => (haliases h).1) he hordinary
    hunknown hfirst hnone
  obtain ⟨t, ht, hsame'⟩ := typeOf_reached hdefines hnames' (fun h => (haliases h).2) he' hordinary
    hunknown hsecond hnone
  have hcanonical {t : NamedType} {imported : Bool}
      (h : (t.origin, t.name) = symbols.identity (className :: nested) (List.cons_ne_nil _ _) imported) :
      t.canonicalName = joinDots (symbols.moduleName :: className :: nested) := by
    rw [← symbols.joinDots_identity (List.cons_ne_nil _ _) imported, ← h]
    rfl
  refine ⟨s, t, hs, ht, hcanonical hsame, (hcanonical hsame').trans (hcanonical hsame).symm, ?_, ?_⟩
  · rintro rfl
    exact Prod.ext_iff.1 (hsame'.trans hsame.symm)
  · rintro rfl
    rw [ModuleSymbols.identity_class] at hsame hsame'
    obtain ⟨horigin, hname⟩ := Prod.ext_iff.1 hsame
    obtain ⟨horigin', hname'⟩ := Prod.ext_iff.1 hsame'
    exact ⟨horigin, horigin', hname, hname'⟩

end Agreement

namespace Nesting

/-- `class Outer` -/
def source : ModuleSymbols where
  moduleName := "a"
  classes := ⟨[("Outer", { name := "Outer" })]⟩

def project : ProjectIndex := [source].foldl ProjectIndex.add {}

def host (bound : String) (imported : Option String) : ModuleSymbols where
  moduleName := "b"
  imports := ⟨[(bound, { origin := "a", imported })]⟩

def oracle (host : ModuleSymbols) : Oracle where
  host
  project := some project

/-- `Outer.Inner` -/
def inner : Expr := (Expr.name "Outer").member "Inner"

def named (origin name : String) : NamedType where
  name
  origin
  spelling := some "Outer.Inner"

theorem defines : project.Defines source "Outer" where
  indexed := rfl
  once := rfl
  named := ⟨_, rfl, rfl⟩

theorem takes : (host "Outer" (some "Outer")).Takes "Outer" "a" false where
  classes := rfl
  aliases := rfl
  imports := rfl

theorem reaches_within : (host "m" none).Reaches source "Outer" true ("m" :: [] ++ ["Outer"]) :=
  .within rfl rfl rfl

theorem aliasesEvaluate {host : ModuleSymbols} (h : host.aliases = {}) :
    (oracle host).AliasesEvaluate := by
  have hempty (scope : Scope) : ((oracle host).symbols scope).aliases = {} := by
    cases scope with
    | host => exact h
    | project moduleName =>
      by_cases hname : "a" = moduleName
      · subst hname
        rfl
      · have hget : project.get? moduleName = none := if_neg hname
        simp only [Oracle.symbols, projectTable?, oracle, Option.bind_some, hget, Option.getD_none]
  intro scope name value hvalue
  rw [hempty] at hvalue
  cases hvalue

theorem typeOf_own : (oracle source).typeOf inner = .ok (some (.named (named "a" "Outer.Inner"))) := by
  have hanswer := (adequate_within (oracle source) 100).resolve .host [] inner (by decide)
  exact (Option.some.inj hanswer).symm

theorem typeOf_taken : (oracle (host "Outer" (some "Outer"))).typeOf inner
    = .ok (some (.named (named "a.Outer" "Inner"))) := by
  have hanswer := (adequate_within (oracle (host "Outer" (some "Outer"))) 100).resolve .host [] inner
    (by decide)
  exact (Option.some.inj hanswer).symm

end Nesting

theorem class_identified_of_nesting :
    (∃ s t : NamedType, (Nesting.oracle Nesting.source).typeOf (.name "Outer") = .ok (some (.named s))
        ∧ (Nesting.oracle (Nesting.host "m" none)).typeOf ((Expr.name "m").member "Outer")
          = .ok (some (.named t))
        ∧ s.origin = "a" ∧ t.origin = "a" ∧ s.name = "Outer" ∧ t.name = "Outer")
      ∧ ∃ s t : NamedType,
        (Nesting.oracle (Nesting.host "Outer" (some "Outer"))).typeOf Nesting.inner = .ok (some (.named s))
        ∧ (Nesting.oracle (Nesting.host "m" none)).typeOf
          (((Expr.name "m").member "Outer").member "Inner") = .ok (some (.named t))
        ∧ s.canonicalName = "a.Outer.Inner" ∧ t.origin = s.origin ∧ t.name = s.name := by
  constructor
  · obtain ⟨s, t, hs, ht, -, -, -, hsame⟩ := @class_identified Nesting.project Nesting.source
      Nesting.source (Nesting.host "m" none) "Outer" [] ["Outer"] ["m", "Outer"] false true _ _
      Nesting.defines (by decide) ⟨by decide, by decide, by decide⟩ (fun h => absurd rfl h) (.own rfl)
      Nesting.reaches_within (by decide) (by decide)
      (fun _ => ⟨Nesting.aliasesEvaluate rfl, Nesting.aliasesEvaluate rfl⟩)
      (.name "Outer") (.member (.name "m") [] [] "Outer")
    exact ⟨s, t, hs, ht, hsame rfl⟩
  · obtain ⟨s, t, hs, ht, hcanonical, -, hsame, -⟩ := @class_identified Nesting.project Nesting.source
      (Nesting.host "Outer" (some "Outer")) (Nesting.host "m" none) "Outer" ["Inner"] ["Outer"]
      ["m", "Outer"] true true _ _ Nesting.defines (by decide) ⟨by decide, by decide, by decide⟩
      (fun _ => rfl) (.taken Nesting.takes) Nesting.reaches_within (by decide) (by decide) nofun
      (.member (.name "Outer") [] [] "Inner")
      (.member (.member (.name "m") [] [] "Outer") [] [] "Inner")
    exact ⟨s, t, hs, ht, hcanonical, hsame rfl⟩

/-- A class within a class is found with another module and name by a host that imports the class around
it: all but its last name is taken for the module. -/
theorem class_split :
    Nesting.project.Defines Nesting.source "Outer"
      ∧ (Nesting.host "Outer" (some "Outer")).Reaches Nesting.source "Outer" true ["Outer"]
      ∧ (Nesting.oracle Nesting.source).typeOf Nesting.inner
        = .ok (some (.named (Nesting.named "a" "Outer.Inner")))
      ∧ (Nesting.oracle (Nesting.host "Outer" (some "Outer"))).typeOf Nesting.inner
        = .ok (some (.named (Nesting.named "a.Outer" "Inner"))) :=
  ⟨Nesting.defines, .taken Nesting.takes, Nesting.typeOf_own, Nesting.typeOf_taken⟩

end ModelMetadata
