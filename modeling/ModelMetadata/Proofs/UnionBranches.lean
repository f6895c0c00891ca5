import ModelMetadata.Proofs.Expanding
import ModelMetadata.Proofs.UnionTypes

/-!
Unions in place and behind aliases. A union that stands in an annotation is described by its branches as
they are written; behind an alias it is described by what it denotes. Both come to the same type, or to
none, unless branches that are written apart have one name together: the same type twice, several literals
of one base, or a `None` that is not written as one beside another type.
-/
set_option autoImplicit false
namespace ModelMetadata

open Source

/-! ## Entries -/

def typeEntry (site : Site) (existing : List String) (e : Expr) : Describe (Option Expr) :=
  List.lookup typeKey <$> typeEntries site existing e

def referredEntries (site : Site) (reference : TypeReference) : Describe Descriptor :=
  match reference.name.filter fun name => !name.isEmpty with
  | none => return []
  | some _ => do
    let e ← reference.refer site.options.readonly site.host
    return [(typeKey, Expr.thunk e)]

theorem namedEntries_eq (site : Site) (core : Expr) :
    namedEntries site core = Describe.ofExcept (site.oracle.typeOf core) >>= fun t =>
      referredEntries site ((t.map ResolvedType.reference).getD {}) := rfl

theorem referredEntries_of_nameless {reference : TypeReference} (h : reference.name = none) (site : Site) :
    referredEntries site reference = pure [] := by
  rw [referredEntries, h]
  rfl

namespace Oracle

/-- Of the branches that are not recognised as `None`, if there are several, the types can be told, and
they do not have one name together. -/
def NamedApart (oracle : Oracle) (branches : List Expr) : Prop :=
  ∀ kept, oracle.nonNull branches = .ok kept → 2 ≤ kept.length →
    ∃ types?, oracle.typesOf kept = .ok types?
      ∧ ∀ types, types? = some types → ¬ ResolvedType.NamedAlike (membersOf types)

variable {oracle : Oracle} {e : Expr}

theorem core_of_named {found : Expr} (h : oracle.shape e = .ok (.named found)) :
    oracle.core e = .ok found := by
  obtain ⟨core, hcore, h⟩ := bind_eq_ok.1 h
  unfold coreShape at h
  split at h
  · obtain ⟨members, -, h⟩ := bind_eq_ok.1 h
    cases h
  split at h
  · obtain ⟨members, -, h⟩ := bind_eq_ok.1 h
    cases h
  split at h
  · cases h
  · cases h
    exact hcore

theorem core_of_union {branches : List Expr} (h : oracle.shape e = .ok (.union branches)) :
    ∃ core, oracle.core e = .ok core ∧ branches = unionBranches oracle core := by
  obtain ⟨core, hcore, h⟩ := bind_eq_ok.1 h
  unfold coreShape at h
  split at h
  · obtain ⟨members, -, h⟩ := bind_eq_ok.1 h
    cases h
  split at h
  · obtain ⟨members, -, h⟩ := bind_eq_ok.1 h
    cases h
  split at h
  · cases h
    exact ⟨core, hcore, rfl⟩
  · cases h

theorem shape_name (name : String) : oracle.shape (.name name) = .ok (.named (.name name)) := by
  have hcore : oracle.core (.name name) = .ok (.name name) := by
    rw [core]
    rfl
  rw [shape, hcore]
  rfl

/-- Branches are told from `None` once it is told what is quoted in them. -/
theorem exists_nonNull {branches : List Expr}
    (h : ∀ branch ∈ branches, ∃ text?, stringValue branch = .ok text?) :
    ∃ kept, oracle.nonNull branches = .ok kept := by
  induction branches with
  | nil => exact ⟨[], rfl⟩
  | cons branch rest ih =>
    obtain ⟨⟨text?, htext⟩, hrest⟩ := List.forall_mem_cons.1 h
    obtain ⟨kept, hkept⟩ := ih hrest
    have hnull : ∃ isNull, oracle.isNullBranch branch = .ok isNull := by
      unfold isNullBranch
      split
      · exact ⟨true, rfl⟩
      rw [htext]
      change ∃ isNull, (if text? == some "None" then _ else _) = _
      split
      · exact ⟨true, rfl⟩
      · split <;> exact ⟨_, rfl⟩
    obtain ⟨isNull, hnull⟩ := hnull
    exact ⟨_, by rw [nonNull, hnull, hkept]; rfl⟩

/-- Branches whose shape can be told can be told from `None`. -/
theorem nonNull_of_named {branches : List Expr}
    (h : ∀ branch ∈ branches, ∃ core, oracle.shape branch = .ok (.named core)) :
    ∃ kept, oracle.nonNull branches = .ok kept := by
  refine exists_nonNull fun branch hbranch => ?_
  obtain ⟨core, hshape⟩ := h branch hbranch
  have hcore := core_of_named hshape
  rw [Oracle.core] at hcore
  obtain ⟨text?, htext, -⟩ := bind_eq_ok.1 hcore
  exact ⟨text?, htext⟩

end Oracle

theorem typeEntries_named {site : Site} {existing : List String} {e core : Expr}
    (hexisting : existing.contains typeKey = false) (hshape : site.oracle.shape e = .ok (.named core)) :
    typeEntries site existing e = Describe.ofExcept (site.oracle.typeOf e) >>= fun t =>
      referredEntries site ((t.map ResolvedType.reference).getD {}) := by
  rw [typeEntries_eq, hexisting, hshape, ← Oracle.typeOf_core (Oracle.core_of_named hshape)]
  rfl

/-- A type is described in the same way where it may be `None` besides. -/
theorem lookup_nullable (step : Describe Descriptor) (single : Bool) :
    List.lookup typeKey <$> (do
      let entries ← step
      if single then return entries else return entries ++ [(nullableKey, boolLiteral true)])
    = List.lookup typeKey <$> step := by
  rw [map_bind, map_eq_pure_bind]
  refine bind_congr fun entries => ?_
  cases single with
  | true => rfl
  | false =>
    have hother : List.lookup typeKey [(nullableKey, boolLiteral true)] = none := by decide
    simp [List.lookup_append, hother]

/-- Where the members of a union are called nothing, the union has no entry. -/
theorem described_apart {found : Except Fault (Option ResolvedType)}
    {types : Except Fault (Option (List ResolvedType))}
    (h : Outcomes (Option.Rel fun t us =>
      t.reference = ResolvedType.called (ResolvedType.distinct (Oracle.membersOf us))) found types)
    {types? : Option (List ResolvedType)} (htypes : types = .ok types?)
    (hname : ∀ us, types? = some us →
      (ResolvedType.called (ResolvedType.distinct (Oracle.membersOf us))).name = none) (site : Site) :
    (Describe.ofExcept found >>= fun t =>
      referredEntries site ((t.map ResolvedType.reference).getD {})) = pure [] := by
  subst htypes
  cases h with
  | ok hrel =>
    refine (ofExcept_bind rfl _).trans ?_
    cases hrel with
    | none => exact referredEntries_of_nameless rfl site
    | @some t us ht =>
      refine referredEntries_of_nameless ?_ site
      rw [Option.map_some, Option.getD_some, ht]
      exact hname us rfl

/-- A union in place and the same union behind an alias are described by the same type, or neither is by
any: whatever the module and the project, if the alias does not come back to itself, the branches are no
inline shapes and hide no other unions, and those that are not recognised as `None` do not have one name
together. -/
theorem union_behind_alias (site : Site) (existing : List String) (name : String) (e : Expr)
    (branches : List Expr) (halias : site.oracle.host.Abbreviates name e)
    (hback : ¬ site.oracle.ComesTo (.hint .host e) (site.oracle.host.moduleName, name))
    (hshape : site.oracle.shape e = .ok (.union branches))
    (hnamed : ∀ branch ∈ branches, ∃ core, site.oracle.shape branch = .ok (.named core))
    (hnames : site.oracle.NamedApart branches) :
    typeEntry site existing e = typeEntry site existing (.name name) := by
  cases hexisting : existing.contains typeKey with
  | true =>
    have hempty (e : Expr) : typeEntries site existing e = pure [] := by
      rw [typeEntries_eq, hexisting]
      rfl
    rw [typeEntry, typeEntry, hempty, hempty]
  | false =>
    have hexpanded : site.oracle.typeOf (.name name) = site.oracle.typeOf e := by
      unfold Oracle.typeOf
      rw [Oracle.resolve_alias .host halias rfl]
      exact Oracle.resolve_of_not_comesTo hback []
    obtain ⟨core, hcore, rfl⟩ := Oracle.core_of_union hshape
    obtain ⟨kept, hkept⟩ := Oracle.nonNull_of_named hnamed
    have hmembers := Oracle.reference_of_branches hkept
    rw [Oracle.typeOf_core hcore] at hmembers
    rw [typeEntry, typeEntry, typeEntries_named hexisting (Oracle.shape_name name), hexpanded,
      typeEntries_eq, hexisting, hshape]
    simp only [Bool.false_eq_true, if_false]
    rw [ofExcept_bind rfl, shapeEntries, ofExcept_bind hkept]
    cases kept with
    | nil =>
      have hnil : site.oracle.typesOf [] = .ok (some []) := rfl
      rw [described_apart hmembers hnil fun us hus => by cases hus; rfl]
    | cons branch rest =>
    cases rest with
    | nil =>
      obtain ⟨found, hbranch⟩ := hnamed branch (Oracle.mem_of_mem_nonNull hkept List.mem_cons_self).1
      have hreference := Oracle.reference_of_branch hkept
      rw [Oracle.typeOf_core hcore] at hreference
      refine (lookup_nullable _ _).trans ?_
      rw [typeEntries_named hexisting hbranch]
      generalize site.oracle.typeOf e = found at hreference
      generalize site.oracle.typeOf branch = found' at hreference
      cases hreference with
      | fault => rfl
      | ok hrel =>
        cases hrel with
        | none => rfl
        | some hrel =>
          rw [ofExcept_bind rfl, ofExcept_bind rfl, Option.map_some, Option.map_some, hrel]
    | cons second rest =>
      obtain ⟨types?, htypes, hapart⟩ := hnames _ hkept (by simp)
      have hname : ∀ us, types? = some us →
          (ResolvedType.called (ResolvedType.distinct (Oracle.membersOf us))).name = none := by
        intro us hus
        by_contra hname
        exact hapart us hus (ResolvedType.namedAlike_of_called hname)
      rw [described_apart hmembers htypes hname]

namespace Widening

def site : Site := { oracle }

theorem shape_body : site.oracle.shape body = .ok (.union [.name "Base", .name "None"]) := by cbv

theorem branches_named : ∀ branch ∈ [Expr.name "Base", .name "None"],
    ∃ core, site.oracle.shape branch = .ok (.named core) := by
  intro branch hbranch
  rcases List.mem_cons.1 hbranch with rfl | hbranch
  · exact ⟨_, Oracle.shape_name "Base"⟩
  · obtain rfl := List.mem_singleton.1 hbranch
    exact ⟨_, Oracle.shape_name "None"⟩

theorem namedApart : site.oracle.NamedApart [.name "Base", .name "None"] := by
  intro kept hkept hlength
  have honly : site.oracle.nonNull [.name "Base", .name "None"] = .ok [.name "Base"] := by cbv
  rw [honly] at hkept
  obtain rfl := Except.ok.inj hkept
  exact absurd hlength (by decide)

end Widening

theorem union_behind_alias_of_widening :
    typeEntry Widening.site [] Widening.body = typeEntry Widening.site [] (.name "Wide") :=
  union_behind_alias Widening.site [] "Wide" Widening.body _ Widening.abbreviates Widening.not_comesTo
    Widening.shape_body Widening.branches_named Widening.namedApart

namespace Hiding

/-- `Literal[None]` -/
def hidden : Expr := .subscript (.name "Literal") [] [.mk [] (.value (.name "None")) none] []

/-- `int | Literal[None]` -/
def body : Expr :=
  .binary (.name "int") [] "|" []
    hidden

/-- A module with `A = int | Literal[None]` -/
def host : ModuleSymbols where
  moduleName := "m"
  imports := ⟨[("Literal", { origin := "typing", imported := some "Literal" })]⟩
  aliases := ⟨[("A", body)]⟩

def site : Site := { oracle := { host } }

theorem abbreviates : host.Abbreviates "A" body where
  isIdentifier := by decide
  notNone := by decide
  classes := rfl
  aliases := rfl
  imports := rfl

theorem typeOf_alias : site.oracle.typeOf (.name "A")
    = .ok (some (.union [.builtin "int", .none])) := by
  have hanswer := (Oracle.adequate_within site.oracle 100).resolve .host [] (.name "A") (by decide)
  exact (Option.some.inj hanswer).symm

theorem special_literal : site.oracle.specialForm? (.name "Literal") = some "Literal" := by decide

theorem parts_body : unionParts? site.oracle body = some ([.name "int", hidden], false) := rfl

theorem parts_hidden : unionParts? site.oracle hidden = none := by
  simp only [unionParts?, hidden, Expr.bare, special_literal]
  rfl

theorem described_in_place : (typeEntry site [] body {}).1 = .ok none := by
  have hcore : site.oracle.core body = .ok body := by
    rw [Oracle.core]
    rfl
  have hbranches : unionBranches site.oracle body = [.name "int", hidden] := by
    have hint : unionBranches site.oracle (.name "int") = [.name "int"] := by
      rw [Oracle.unionBranches_eq]
      rfl
    have hhidden : unionBranches site.oracle hidden = [hidden] := by
      rw [Oracle.unionBranches_eq, parts_hidden]
    rw [Oracle.unionBranches_eq, parts_body]
    simp only [List.flatMap_cons, hint, hhidden]
    rfl
  have hshape : site.oracle.shape body = .ok (.union [.name "int", hidden]) := by
    rw [Oracle.shape, hcore, ← hbranches]
    rfl
  have hkept : site.oracle.nonNull [.name "int", hidden] = .ok [.name "int", hidden] := by rfl
  rw [typeEntry, typeEntries_eq, if_neg (by decide), ofExcept_bind hshape, shapeEntries,
    ofExcept_bind hkept]
  rfl

theorem reference_int : (ResolvedType.union [.builtin "int", .none]).reference
    = { name := some "int", named := some (.builtin "int") } := by
  have hflat : (ResolvedType.union [.builtin "int", .none]).Flat := by
    simp [ResolvedType.Flat, ResolvedType.branches, ResolvedType.builtin, ResolvedType.isUnion]
  have hrest : ResolvedType.rest (ResolvedType.union [.builtin "int", .none]).branches
      = [.builtin "int"] := rfl
  rw [ResolvedType.reference_eq_called hflat, hrest]
  change (ResolvedType.builtin "int").reference = _
  rw [ResolvedType.builtin, ResolvedType.reference]
  rfl

theorem described_behind : (typeEntry site [] (.name "A") {}).1 = .ok (some (Expr.thunk (.name "int"))) := by
  rw [typeEntry, typeEntries_named rfl (Oracle.shape_name "A"), ofExcept_bind typeOf_alias,
    Option.map_some, Option.getD_some, reference_int]
  rfl

end Hiding

/-- A branch that denotes `None` without being written as one counts as another branch in place, and as
`None` behind an alias. -/
theorem union_changed_behind_alias :
    Hiding.site.oracle.host.Abbreviates "A" Hiding.body
      ∧ (typeEntry Hiding.site [] Hiding.body {}).1 = .ok none
      ∧ (typeEntry Hiding.site [] (.name "A") {}).1 = .ok (some (Expr.thunk (.name "int"))) :=
  ⟨Hiding.abbreviates, Hiding.described_in_place, Hiding.described_behind⟩

end ModelMetadata
