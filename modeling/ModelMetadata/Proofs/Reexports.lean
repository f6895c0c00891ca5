import Mathlib
import ModelMetadata.Proofs.Chains
import ModelMetadata.Proofs.Comparing
import ModelMetadata.Proofs.Lookups

/-!
Names that modules pass on. A class that a host takes from a module which only passes it on is found as if
the host took it from the module that defines it. The resolution through the chain has passed a key for
each module of the chain; where these keys are met once more, the class is not found to be an enumeration
by way of itself, nor is it without them. An alias is found alike so long as its module does not lead back
into the chain, but for its spelling: a module that passes a type on gives it the spelling of the host, and
the module of the alias gives it none.
-/
set_option autoImplicit false
namespace ModelMetadata

open Source Oracle

/-! ## Chains of modules -/

/-- A module of the project takes a name from another one only to provide it. -/
def ProjectIndex.PassesOn (project : ProjectIndex) (name origin next : String) : Prop :=
  Ordinary origin name ∧ ∃ (external : ModuleSymbols) (typeOnly : Bool),
    project.get? origin = some external ∧ external.Takes name next typeOnly

/-- A chain of modules, each of which passes a name on from the one after it, the last one from the
target. -/
inductive ProjectIndex.Relays (project : ProjectIndex) (name : String) :
    List String → String → String → Prop where
  | target (origin : String) : Relays project name [] origin origin
  | link {origin next target : String} {modules : List String} (h : project.PassesOn name origin next)
    (rest : Relays project name modules next target) :
    Relays project name (origin :: modules) origin target

namespace ProjectIndex

variable {project : ProjectIndex} {name origin target : String} {modules : List String}

theorem PassesOn.unique {next other : String} (h : project.PassesOn name origin next)
    (h' : project.PassesOn name origin other) : next = other := by
  obtain ⟨-, external, typeOnly, htable, htakes⟩ := h
  obtain ⟨-, external', typeOnly', htable', htakes'⟩ := h'
  obtain rfl := Option.some.inj (htable.symm.trans htable')
  have himport := Option.some.inj (htakes.imports.symm.trans htakes'.imports)
  exact congrArg ImportBinding.origin himport

namespace Relays

theorem unique (h : project.Relays name modules origin target) {others : List String}
    (h' : project.Relays name others origin target)
    (hend : ∀ next, ¬ project.PassesOn name target next) : modules = others := by
  induction h generalizing others with
  | target origin =>
    cases h' with
    | target => rfl
    | link hlink => exact absurd hlink (hend _)
  | link hlink _ ih =>
    cases h' with
    | target => exact absurd hlink (hend _)
    | link hlink' rest =>
      obtain rfl := hlink.unique hlink'
      rw [ih rest hend]

/-- The chain from one of its modules on. -/
theorem suffix (h : project.Relays name modules origin target) {moduleName : String}
    (hmem : moduleName ∈ modules) :
    ∃ rest, project.Relays name (moduleName :: rest) moduleName target
      ∧ rest.length < modules.length := by
  induction h with
  | target => cases hmem
  | link hlink rest ih =>
    obtain rfl | hmem := List.mem_cons.1 hmem
    · exact ⟨_, .link hlink rest, Nat.lt_succ_self _⟩
    · obtain ⟨others, hothers, hlength⟩ := ih hmem
      exact ⟨others, hothers, Nat.lt_succ_of_lt hlength⟩

/-- No module is twice on a chain. -/
theorem not_mem {next : String} (h : project.PassesOn name origin next)
    (hrest : project.Relays name modules next target)
    (hend : ∀ next, ¬ project.PassesOn name target next) : origin ∉ modules := by
  intro hmem
  obtain ⟨others, hothers, hlength⟩ := hrest.suffix hmem
  have heq := (Relays.link h hrest).unique hothers hend
  have := congrArg List.length heq
  simp only [List.length_cons] at this
  omega

theorem passesOn (h : project.Relays name modules origin target) {moduleName : String}
    (hmem : moduleName ∈ modules) : ∃ next, project.PassesOn name moduleName next := by
  induction h with
  | target => cases hmem
  | link hlink _ ih =>
    obtain rfl | hmem := List.mem_cons.1 hmem
    · exact ⟨_, hlink⟩
    · exact ih hmem

end Relays
end ProjectIndex

/-! ## Types passed on -/

namespace ResolvedType

theorem unspelledName_unspelledName (t : NamedType) :
    unspelledName (unspelledName t) = unspelledName t := by
  unfold unspelledName
  cases hbuiltin : t.isBuiltin with
  | true => simp [hbuiltin]
  | false =>
    have hother : ({ t with spelling := Option.none } : NamedType).isBuiltin = false := hbuiltin
    simp [hother]

mutual

theorem unspelled_unspelled (t : ResolvedType) : t.unspelled.unspelled = t.unspelled := by
  cases t with
  | named t => exact congrArg named (unspelledName_unspelledName t)
  | array element => exact congrArg array (unspelled_unspelled element)
  | enumMember owner member =>
    exact congrArg (enumMember · member) (unspelledName_unspelledName owner)
  | union members => exact congrArg union (unspelledAll_unspelledAll members)
  | literal value base => rfl
  | none => rfl
termination_by structural t

theorem unspelledAll_unspelledAll (members : List ResolvedType) :
    unspelledAll (unspelledAll members) = unspelledAll members := by
  cases members with
  | nil => rfl
  | cons t rest =>
    simp only [unspelledAll, unspelled_unspelled t, unspelledAll_unspelledAll rest]
termination_by structural members

end

end ResolvedType

/-- Of several spellings that modules give a type in turn, the last one stays. -/
theorem respelled_respelled (spelling inner : Option String) (t : ResolvedType) :
    respelled spelling (respelled inner t) = respelled spelling t := by
  cases t with
  | named t =>
    simp only [respelled]
    cases hbuiltin : t.isBuiltin with
    | true => simp [hbuiltin]
    | false =>
      have hother : ({ t with spelling := inner } : NamedType).isBuiltin = false := hbuiltin
      simp [hother]
  | _ => exact ResolvedType.unspelled_unspelled _

def relayKeys (name : String) (modules : List String) : List Key :=
  modules.reverse.map fun moduleName => (moduleName, name)

theorem mem_relayKeys {name : String} {modules : List String} {key : Key} :
    key ∈ relayKeys name modules ↔ key.1 ∈ modules ∧ key.2 = name := by
  obtain ⟨moduleName, found⟩ := key
  simp only [relayKeys, List.mem_map, List.mem_reverse, Prod.mk.injEq]
  constructor
  · rintro ⟨_, hmem, rfl, rfl⟩
    exact ⟨hmem, rfl⟩
  · rintro ⟨hmem, rfl⟩
    exact ⟨_, hmem, rfl, rfl⟩

/-- What is found through a chain is what its target provides, behind the keys of the chain. -/
theorem resolveExternal_relayed {oracle : Oracle} {project : ProjectIndex}
    (hproject : oracle.project = some project) {name : String} (hne : name.isEmpty = false)
    (hpieces : dotPieces name = [name]) {first origin target : String} {modules : List String}
    (hfirst : project.PassesOn name first origin) (h : project.Relays name modules origin target)
    (hend : ∀ next, ¬ project.PassesOn name target next) {seen : List Key}
    (hseen : ∀ moduleName ∈ first :: modules, (moduleName, name) ∉ seen) (spelling : Option String) :
    ∃ inner, oracle.resolveExternal seen first name spelling
      = (Option.map (respelled spelling)) <$> oracle.resolveExternal
          (relayKeys name (first :: modules) ++ seen) target name inner := by
  have htable := projectTable?_of_project hproject
  induction h generalizing first seen spelling with
  | target origin =>
    obtain ⟨hordinary, external, typeOnly, hknown, htakes⟩ := hfirst
    exact ⟨_, resolveExternal_takes hordinary ((htable _).trans hknown) (by simpa using hseen) hne
      hpieces htakes⟩
  | @link origin next target modules hlink rest ih =>
    have hnot := (ProjectIndex.Relays.link hlink rest).not_mem hfirst hend
    obtain ⟨hordinary, external, typeOnly, hknown, htakes⟩ := hfirst
    have hfresh : ∀ moduleName ∈ origin :: modules, (moduleName, name) ∉ (first, name) :: seen := by
      intro moduleName hmem hkey
      obtain heq | hkey := List.mem_cons.1 hkey
      · exact hnot ((Prod.mk.inj heq).1 ▸ hmem)
      · exact hseen moduleName (List.mem_cons_of_mem _ hmem) hkey
    obtain ⟨inner, hinner⟩ := ih hlink hend hfresh (spellingOf typeOnly name)
    refine ⟨inner, ?_⟩
    rw [resolveExternal_takes hordinary ((htable _).trans hknown)
      (by simpa using hseen first List.mem_cons_self) hne hpieces htakes, hinner]
    have hkeys : relayKeys name (first :: origin :: modules) ++ seen
        = relayKeys name (origin :: modules) ++ (first, name) :: seen := by
      simp [relayKeys]
    rw [hkeys]
    cases oracle.resolveExternal (relayKeys name (origin :: modules) ++ (first, name) :: seen) target
      name inner with
    | error fault => rfl
    | ok found =>
      cases found with
      | none => rfl
      | some t => exact congrArg (Except.ok ∘ some) (respelled_respelled spelling _ t)

/-- Behind the key of the target a chain leads to no more than a name. -/
theorem plain_of_relayed {oracle : Oracle} {project : ProjectIndex}
    (hproject : oracle.project = some project) {name : String} (hne : name.isEmpty = false)
    (hpieces : dotPieces name = [name]) {origin target : String} {modules : List String}
    (h : project.Relays name modules origin target) (hordinary : Ordinary target name)
    {symbols : ModuleSymbols} (htarget : project.get? target = some symbols) {depth : Nat}
    {seen : List Key} (hseen : (target, name) ∈ seen) {spelling : Option String}
    {found : Except Fault (Option ResolvedType)}
    (hfound : (oracle.within depth).resolveExternal seen origin name spelling = reached found) :
    ∃ t : NamedType, found = .ok (some (.named t)) ∧ t.kind = .plain := by
  have htable := projectTable?_of_project hproject
  induction h generalizing depth seen spelling found with
  | target origin =>
    exact ⟨_, reached_seen hordinary ((htable _).trans htarget) (by simpa using hseen) hfound, rfl⟩
  | @link origin next target modules hlink rest ih =>
    obtain ⟨hlinkOrdinary, external, typeOnly, hknown, htakes⟩ := hlink
    cases hmet : seen.contains (origin, name) with
    | true => exact ⟨_, reached_seen hlinkOrdinary ((htable _).trans hknown) hmet hfound, rfl⟩
    | false =>
      obtain ⟨_, inner, hinner, rfl⟩ :=
        reached_takes hlinkOrdinary ((htable _).trans hknown) hmet hne hpieces htakes hfound
      obtain ⟨t, rfl, ht⟩ := ih hordinary htarget (List.mem_cons_of_mem _ hseen) hinner
      refine ⟨_, rfl, ?_⟩
      split <;> exact ht

/-! ## Resolution behind the keys of a chain -/

def ProjectIndex.Imports (project : ProjectIndex) (moduleName origin : String) : Prop :=
  ∃ symbols head binding rest name, project.get? moduleName = some symbols
    ∧ symbols.imports.get? head = some binding ∧ importTarget? binding rest = some (origin, name)

/-- Two resolutions from the target of a chain, the second of which has passed the keys of the chain as
well. -/
def behind (first second : Oracle) (name target : String) (modules : List String)
    (Inside : String → Prop) (R : ResolvedType → ResolvedType → Prop) : Comparison where
  first := first
  second := second
  Inside scope := ∃ moduleName, scope = .project moduleName ∧ Inside moduleName
  Seen seen seen' := (target, name) ∈ seen
    ∧ ∀ key, key ∈ seen' ↔ key ∈ seen ∨ key ∈ relayKeys name modules
  Rel _ := R
  Provided _ := R

/-- A relation that types passed on keep, which holds between plain names in the modules of a chain. -/
structure Passable (R : ResolvedType → ResolvedType → Prop) (Met : String → Prop) : Prop where
  built : Built R
  refl (t : NamedType) : R (.named t) (.named t)
  unspelled {s t : ResolvedType} (h : R s t) : R s.unspelled t.unspelled
  respelled {s t : ResolvedType} (h : R s t) (spelling : Option String) :
    R (respelled spelling s) (respelled spelling t)
  met {moduleName : String} (hmet : Met moduleName) {s t : NamedType} (hs : s.kind = .plain)
    (ht : t.kind = .plain) : R (.named s) (.named t)

section Behind

variable {project : ProjectIndex} {first second : Oracle} {name origin target : String}
  {modules : List String} {Inside : String → Prop} {R : ResolvedType → ResolvedType → Prop}

variable (hsecond : second.project = some project) (hname : Text.isIdentifier name.toList = true)
  (hrelays : project.Relays name modules origin target)

/-- Other keys than those of the chain both have passed, or neither. -/
theorem contains_behind {seen seen' : List Key}
    (hseen : (behind first second name target modules Inside R).Seen seen seen') {key : Key}
    (hkey : key ∉ relayKeys name modules) : seen.contains key = seen'.contains key := by
  refine Bool.eq_iff_iff.2 ?_
  rw [List.contains_iff_mem, List.contains_iff_mem, hseen.2 key]
  simp only [hkey, or_false]

include hname in
/-- The key of the bases of a class is no identifier. -/
theorem classKey_notMem_relayKeys (symbols : ModuleSymbols) (className : String) :
    classKey symbols className ∉ relayKeys name modules := by
  intro hkey
  have hcolon : ':' ∉ name.toList := Text.not_mem_of_isIdentifier hname (by decide)
  refine hcolon ?_
  rw [← (mem_relayKeys.1 hkey).2]
  simp [classKey]

include hsecond hrelays in
/-- A module of the chain binds the name to an import alone. -/
theorem alias_notMem_relayKeys (hkeyed : project.Keyed) {moduleName found : String} {value : Expr}
    (halias : (second.symbols (.project moduleName)).aliases.get? found = some value) :
    ((second.symbols (.project moduleName)).moduleName, found) ∉ relayKeys name modules := by
  intro hkey
  rw [moduleName_of_project hsecond moduleName hkeyed, mem_relayKeys] at hkey
  obtain ⟨hmem, rfl⟩ := hkey
  obtain ⟨next, -, external, typeOnly, hexternal, htakes⟩ := hrelays.passesOn hmem
  rw [symbols_of_project hsecond, hexternal, Option.getD_some, htakes.aliases] at halias
  cases halias

variable (hfirst : first.project = some project)
include hsecond hname hrelays hfirst

/-- Where only the second resolution has passed a key of the chain, both find no more than a name. -/
theorem met_behind (hordinary : Ordinary target name) {symbols : ModuleSymbols}
    (htarget : project.get? target = some symbols)
    (hR : Passable R fun moduleName => Inside moduleName ∧ moduleName ∈ modules)
    {moduleName found : String} (hmodule : Inside moduleName) {seen seen' : List Key}
    (hseen : (behind first second name target modules Inside R).Seen seen seen')
    (hkey : (moduleName, found) ∈ relayKeys name modules) (depth : Nat) (spelling : Option String) :
    Agree (Option.Rel R) ((first.within depth).resolveExternal seen moduleName found spelling)
      ((second.within depth).resolveExternal seen' moduleName found spelling) := by
  intro r s hr hs
  obtain ⟨hmem, rfl⟩ := mem_relayKeys.1 hkey
  obtain ⟨next, hlink, external, typeOnly, hexternal, htakes⟩ := hrelays.passesOn hmem
  have hmet : seen'.contains (moduleName, found) = true :=
    List.contains_iff_mem.2 ((hseen.2 _).2 (.inr hkey))
  obtain rfl := reached_seen hlink ((projectTable?_of_project hsecond _).trans hexternal) hmet hs
  obtain ⟨rest, hrest, -⟩ := hrelays.suffix hmem
  obtain ⟨t, rfl, ht⟩ := plain_of_relayed hfirst (Text.isEmpty_of_isIdentifier hname)
    (dotPieces_of_isIdentifier hname) hrest hordinary htarget hseen.1 hr
  exact .ok (.some (hR.met ⟨hmodule, hmem⟩ ht rfl))

theorem holds_behind (hkeyed : project.Keyed) (hordinary : Ordinary target name)
    {symbols : ModuleSymbols} (htarget : project.get? target = some symbols)
    (hinside : ∀ moduleName origin, Inside moduleName → project.Imports moduleName origin →
      Inside origin)
    (hR : Passable R fun moduleName => Inside moduleName ∧ moduleName ∈ modules) :
    (behind first second name target modules Inside R).Holds where
  symbols := by
    rintro _ ⟨moduleName, rfl, -⟩
    exact (symbols_of_project hfirst _).trans (symbols_of_project hsecond _).symm
  projectTable? _ := (projectTable?_of_project hfirst _).trans (projectTable?_of_project hsecond _).symm
  built _ := hR.built
  ofClass {_} _ {_ _ _ _ _} _ _ _ _ _ := hR.refl _
  ofImport {_} _ {_ _ _ _ _ _} _ _ _ {_ _} h := h
  inside := by
    rintro _ ⟨moduleName, rfl, hmodule⟩ head origin found rest binding himport hfound
    rw [show (behind first second name target modules Inside R).second = second from rfl,
      symbols_of_project hsecond] at himport
    cases hget : project.get? moduleName with
    | none =>
      rw [hget] at himport
      cases himport
    | some symbols =>
      rw [hget] at himport
      exact ⟨origin, rfl, hinside _ _ hmodule ⟨symbols, head, binding, rest, found, hget, himport,
        hfound⟩⟩
  named _ _ _ := hR.refl _
  builtin h _ := hR.built.builtin h
  unspelled {_} _ {_ _} h _ := hR.unspelled h
  respelled {_} _ {_ _} h spelling := hR.respelled h spelling
  seenCons := by
    rintro seen seen' ⟨hmem, hkeys⟩ key
    refine ⟨List.mem_cons_of_mem _ hmem, fun other => ?_⟩
    rw [List.mem_cons, List.mem_cons, hkeys, or_assoc]
  seenAlias := by
    rintro _ ⟨moduleName, rfl, -⟩ seen seen' hseen found value halias
    exact contains_behind hseen (alias_notMem_relayKeys hsecond hrelays hkeyed halias)
  seenClass {_} _ {_ _} hseen className :=
    contains_behind hseen (classKey_notMem_relayKeys hname _ className)
  seenProvided := by
    rintro moduleName ⟨_, heq, hmodule⟩ seen seen' hseen found hdiffer depth spelling
    obtain rfl := Scope.project.inj heq
    have hkey : (moduleName, found) ∈ relayKeys name modules :=
      Classical.byContradiction fun hkey => hdiffer (contains_behind hseen hkey)
    exact met_behind hsecond hname hrelays hfirst hordinary htarget hR hmodule hseen hkey depth spelling

end Behind

/-! ## Relations that types passed on keep -/

theorem passable_eq {Met : String → Prop} (h : ∀ moduleName, ¬ Met moduleName) : Passable Eq Met where
  built := built_eq
  refl _ := rfl
  unspelled h := congrArg _ h
  respelled h _ := congrArg _ h
  met hmet := absurd hmet (h _)

/-- Types that are the same unless neither of them is made of enumerations. -/
structure Kin (s t : ResolvedType) : Prop where
  first : s.isFull = true
  second : t.isFull = true
  same : s = t ∨ s.isEnumerative = false ∧ t.isEnumerative = false

namespace Kin

variable {s t : ResolvedType}

theorem refl (h : s.isFull = true) : Kin s s := ⟨h, h, .inl rfl⟩

theorem isEnumerative (h : Kin s t) : s.isEnumerative = t.isEnumerative := by
  obtain rfl | ⟨hs, ht⟩ := h.same
  · rfl
  · exact hs.trans ht.symm

/-- Kin types from which the same is made. -/
theorem map (h : Kin s t) {f : ResolvedType → ResolvedType} (hfull : ∀ t, (f t).isFull = t.isFull)
    (hf : ∀ t, (f t).isEnumerative = t.isEnumerative) : Kin (f s) (f t) where
  first := (hfull s).trans h.first
  second := (hfull t).trans h.second
  same := h.same.imp (congrArg f) fun ⟨hs, ht⟩ => ⟨(hf s).trans hs, (hf t).trans ht⟩

/-- Types that are made of kin types and are no enumerations. -/
theorem outside {s' t' : ResolvedType} (hs : s'.isFull = true ∧ s'.isEnumerative = false)
    (ht : t'.isFull = true ∧ t'.isEnumerative = false) : Kin s' t' :=
  ⟨hs.1, ht.1, .inr ⟨hs.2, ht.2⟩⟩

theorem named {s t : NamedType} (h : s.isEnumeration = false) (h' : t.isEnumeration = false) :
    Kin (.named s) (.named t) := outside ⟨rfl, h⟩ ⟨rfl, h'⟩

/-- Lists of kin types are the same, or else some type in each of them is no enumeration. -/
theorem same_or_exists {ss ts : List ResolvedType} (h : List.Forall₂ Kin ss ts) :
    ss = ts ∨ (∃ s ∈ ss, s.isEnumerative = false) ∧ ∃ t ∈ ts, t.isEnumerative = false := by
  induction h with
  | nil => exact .inl rfl
  | @cons s t ss ts hst _ ih =>
    obtain rfl | ⟨hs, ht⟩ := hst.same
    · refine ih.imp (congrArg (s :: ·)) ?_
      rintro ⟨⟨s', hmem, hs⟩, t', hmem', ht⟩
      exact ⟨⟨s', List.mem_cons_of_mem _ hmem, hs⟩, t', List.mem_cons_of_mem _ hmem', ht⟩
    · exact .inr ⟨⟨s, List.mem_cons_self, hs⟩, t, List.mem_cons_self, ht⟩

theorem full_of_forall {ss ts : List ResolvedType} (h : List.Forall₂ Kin ss ts) :
    (∀ s ∈ ss, s.isFull = true) ∧ ∀ t ∈ ts, t.isFull = true := by
  induction h with
  | nil => exact ⟨nofun, nofun⟩
  | cons hst _ ih =>
    exact ⟨List.forall_mem_cons.2 ⟨hst.first, ih.1⟩, List.forall_mem_cons.2 ⟨hst.second, ih.2⟩⟩

theorem not_isEnumerative_ofMembers {members : List ResolvedType} (hne : members ≠ [])
    (hfull : ∀ t ∈ members, t.isFull = true) (h : ∃ t ∈ members, t.isEnumerative = false) :
    (ResolvedType.ofMembers members).isEnumerative = false := by
  obtain ⟨t, ht, hfalse⟩ := h
  refine Bool.eq_false_iff.2 fun htrue => ?_
  have := (ResolvedType.isEnumerative_ofMembers hne hfull).1 htrue t ht
  rw [hfalse] at this
  cases this

theorem ofMembers {ss ts : List ResolvedType} (hne : ss ≠ []) (h : List.Forall₂ Kin ss ts) :
    Kin (.ofMembers ss) (.ofMembers ts) := by
  obtain ⟨hss, hts⟩ := full_of_forall h
  have hne' : ts ≠ [] := by
    rintro rfl
    cases h
    exact hne rfl
  obtain rfl | ⟨hs, ht⟩ := same_or_exists h
  · exact refl (ResolvedType.isFull_ofMembers hne hss)
  · exact outside ⟨ResolvedType.isFull_ofMembers hne hss, not_isEnumerative_ofMembers hne hss hs⟩
      ⟨ResolvedType.isFull_ofMembers hne' hts, not_isEnumerative_ofMembers hne' hts ht⟩

theorem isEnumeration (h : Kin s t) : s.isEnumeration = t.isEnumeration := by
  obtain rfl | ⟨hs, ht⟩ := h.same
  · rfl
  · have hnot {t : ResolvedType} (h : t.isEnumerative = false) : t.isEnumeration = false := by
      cases t with
      | named t => exact h
      | _ => rfl
    exact (hnot hs).trans (hnot ht).symm

theorem built : Built Kin where
  none := refl rfl
  builtin _ := refl rfl
  array _ := outside ⟨rfl, rfl⟩ ⟨rfl, rfl⟩
  enumMember _ _ := outside ⟨rfl, rfl⟩ ⟨rfl, rfl⟩
  ofMembers := ofMembers
  literal _ := refl rfl
  isEnumeration := isEnumeration

theorem passable (Met : String → Prop) : Passable Kin Met where
  built := built
  refl _ := refl rfl
  unspelled h := h.map ResolvedType.isFull_unspelled ResolvedType.isEnumerative_unspelled
  respelled h _ := h.map (isFull_respelled _) (isEnumerative_respelled _)
  met {_} _ {_ _} hs ht := named (by rw [NamedType.isEnumeration, hs]; rfl)
    (by rw [NamedType.isEnumeration, ht]; rfl)

end Kin

/-! ## Hosts -/

/-- A name that has a meaning of its own is the same behind any keys, but for its spelling. -/
theorem respelled_of_not_ordinary {name target : String} (h : ¬ Ordinary target name)
    (oracle other : Oracle) (seen seen' : List Key) (inner spelling : Option String) :
    (Option.map (respelled spelling)) <$> oracle.resolveExternal seen target name inner
      = other.resolveExternal seen' target name spelling := by
  have hspecial {found : Option ResolvedType}
      (hfound : found = none ∨ ∃ name, found = some (.builtin name)) :
      found.map (respelled spelling) = found := by
    obtain rfl | ⟨name, rfl⟩ := hfound <;> rfl
  refine Option.some.inj ((reached_map ..).symm.trans (Eq.trans ?_ resolveExternal_eq_step.symm))
  rw [resolveExternal_eq_step]
  unfold stepExternal
  dsimp only
  split
  · refine congrArg (fun found => reached (.ok found)) (hspecial ?_)
    exact (bareSpecial_builtin name).imp_right fun ⟨found, _, h⟩ => ⟨found, h⟩
  rename_i htyping
  split
  · refine congrArg (fun found => reached (.ok found)) (hspecial ?_)
    split
    · exact .inr ⟨name, rfl⟩
    · exact .inl rfl
  rename_i hbuiltins
  split
  · rfl
  rename_i henum
  exact absurd ⟨Bool.eq_false_iff.2 htyping, Bool.eq_false_iff.2 hbuiltins, Bool.eq_false_iff.2 henum⟩ h

section Hosts

variable {project : ProjectIndex} {name first target : String} {modules : List String}
  {symbols host direct : ModuleSymbols} {typeOnly : Bool}

/-- A module that binds a name to a class or to an alias does not pass it on. -/
theorem not_passesOn (htarget : project.get? target = some symbols)
    (h : symbols.classes.contains name = true ∨ symbols.aliases.contains name = true) (next : String) :
    ¬ project.PassesOn name target next := by
  rintro ⟨-, external, _, htable, htakes⟩
  obtain rfl := Option.some.inj (htarget.symm.trans htable)
  simp only [Table.contains, htakes.classes, htakes.aliases, Option.isSome_none, Bool.false_eq_true,
    or_false] at h

/-- What a host finds through a chain. -/
theorem typeOf_relayed (hname : Text.isIdentifier name.toList = true) (hnone : name ≠ "None")
    (hrelays : project.Relays name (first :: modules) first target)
    (hend : ∀ next, ¬ project.PassesOn name target next) (hhost : host.Takes name first typeOnly) :
    ∃ inner, ({ host, project := some project } : Oracle).typeOf (.name name)
      = (Option.map (respelled (spellingOf typeOnly name)))
        <$> ({ host, project := some project } : Oracle).resolveExternal
          (relayKeys name (first :: modules)) target name inner := by
  rw [typeOf_takes hnone hname hhost]
  cases hrelays with
  | link hfirst rest =>
    have hproject : ({ host, project := some project } : Oracle).project = some project := rfl
    obtain ⟨inner, hinner⟩ := resolveExternal_relayed hproject (Text.isEmpty_of_isIdentifier hname)
      (dotPieces_of_isIdentifier hname) hfirst rest hend (fun _ _ => List.not_mem_nil)
      (spellingOf typeOnly name)
    exact ⟨inner, by rw [hinner, List.append_nil]⟩

/-- The keys of a chain and that of its target. -/
theorem behind_seen (first second : Oracle) (Inside : String → Prop)
    (R : ResolvedType → ResolvedType → Prop) (keys : List String) :
    (behind first second name target keys Inside R).Seen [(target, name)]
      ((target, name) :: relayKeys name keys) :=
  ⟨List.mem_cons_self, fun key => by simp⟩

variable (hkeyed : project.Keyed) (hname : Text.isIdentifier name.toList = true)
  (hnone : name ≠ "None") (hrelays : project.Relays name (first :: modules) first target)
  (htarget : project.get? target = some symbols) (hhost : host.Takes name first typeOnly)
  (hdirect : direct.Takes name target typeOnly)
include hrelays

theorem unseen_of_relays (hend : ∀ next, ¬ project.PassesOn name target next) :
    (relayKeys name (first :: modules)).contains (target, name) = false := by
  refine Bool.eq_false_iff.2 fun hkey => ?_
  obtain ⟨hmem, -⟩ := mem_relayKeys.1 (List.contains_iff_mem.1 hkey)
  obtain ⟨next, hlink⟩ := hrelays.passesOn hmem
  exact hend next hlink

include hkeyed hname hnone htarget hhost hdirect

/-- A class is found through a chain as it is found in its own module. -/
theorem typeOf_relayed_class {found : ClassSymbol} (hclass : symbols.classes.get? name = some found) :
    ({ host, project := some project } : Oracle).typeOf (.name name)
      = ({ host := direct, project := some project } : Oracle).typeOf (.name name) := by
  have hend := not_passesOn htarget (.inl (Option.isSome_iff_exists.2 ⟨found, hclass⟩))
  obtain ⟨inner, hinner⟩ := typeOf_relayed hname hnone hrelays hend hhost
  rw [hinner, typeOf_takes hnone hname hdirect]
  by_cases hordinary : Ordinary target name
  swap
  · exact respelled_of_not_ordinary hordinary ..
  have hholds : (behind { host := direct, project := some project } { host, project := some project }
      name target (first :: modules) (fun _ => True) Kin).Holds :=
    holds_behind rfl hname hrelays rfl hkeyed hordinary htarget (fun _ _ _ _ => trivial)
      (Kin.passable _)
  have henum := (hholds.isEnumClass ⟨target, rfl, trivial⟩ (behind_seen ..) name).eq
  have htable (host : ModuleSymbols) :
      ({ host, project := some project } : Oracle).projectTable? target = some symbols := htarget
  rw [resolveExternal_class hordinary (htable direct) rfl hclass,
    resolveExternal_class hordinary (htable host) (unseen_of_relays hrelays hend) hclass]
  refine Eq.trans (congrArg _ (congrArg _ henum.symm)) ?_
  change (Option.map _) <$> (_ <$> Oracle.isEnumClass { host := direct, project := some project } _ _ _) = _
  cases ({ host := direct, project := some project } : Oracle).isEnumClass (.project target)
    [(target, name)] name with
  | error fault => rfl
  | ok isEnum => cases isEnum <;> rfl

/-- An alias is found through a chain as it is found in its own module, but with the spelling that it has
in the host, so long as its module does not lead back into the chain. -/
theorem typeOf_relayed_alias {value : Expr} (hclass : symbols.classes.get? name = none)
    (halias : symbols.aliases.get? name = some value)
    (hapart : ∀ moduleName ∈ first :: modules, ¬ Relation.ReflTransGen project.Imports target moduleName) :
    ({ host, project := some project } : Oracle).typeOf (.name name)
      = (Option.map (respelled (spellingOf typeOnly name)))
        <$> ({ host := direct, project := some project } : Oracle).typeOf (.name name) := by
  have hend := not_passesOn htarget (.inr (Option.isSome_iff_exists.2 ⟨value, halias⟩))
  obtain ⟨inner, hinner⟩ := typeOf_relayed hname hnone hrelays hend hhost
  rw [hinner, typeOf_takes hnone hname hdirect]
  by_cases hordinary : Ordinary target name
  swap
  · let direct : Oracle := { host := direct, project := some project }
    exact (respelled_of_not_ordinary hordinary _ direct _ [] inner _).trans
      (respelled_of_not_ordinary hordinary direct direct [] [] _ _).symm
  have hholds : (behind { host := direct, project := some project } { host, project := some project }
      name target (first :: modules) (Relation.ReflTransGen project.Imports target) Eq).Holds :=
    holds_behind rfl hname hrelays rfl hkeyed hordinary htarget (fun _ _ h himports => h.tail himports)
      (passable_eq fun moduleName hmet => hapart _ hmet.2 hmet.1)
  have hvalue := hholds.resolve ⟨target, rfl, .refl⟩ (behind_seen ..) value
  have hsame := (hvalue.mono fun _ _ => eq_of_rel).eq
  have htable (host : ModuleSymbols) :
      ({ host, project := some project } : Oracle).projectTable? target = some symbols := htarget
  rw [resolveExternal_alias hordinary (htable direct) rfl hclass halias,
    resolveExternal_alias hordinary (htable host) (unseen_of_relays hrelays hend) hclass halias]
  exact congrArg _ (congrArg _ hsame.symm)

omit hnone in
/-- Modules that pass a name on change nothing about its type, the spelling of an alias aside. Through a
chain of such modules a class is found as it is found in the module that defines it. So is the type of an
alias whose module does not lead back into the chain, but a named type then has the spelling of the host,
where the alias by itself gives it none. -/
theorem reexport_transparent :
    (symbols.classes.contains name = true →
        ({ host, project := some project } : Oracle).typeOf (.name name)
          = ({ host := direct, project := some project } : Oracle).typeOf (.name name))
      ∧ (symbols.classes.contains name = false → symbols.aliases.contains name = true →
        (∀ moduleName ∈ first :: modules, ¬ Relation.ReflTransGen project.Imports target moduleName) →
        ({ host, project := some project } : Oracle).typeOf (.name name)
          = (Option.map (respelled (spellingOf typeOnly name)))
            <$> ({ host := direct, project := some project } : Oracle).typeOf (.name name)) := by
  by_cases hnone : name = "None"
  · subst hnone
    have htypeOf (host : ModuleSymbols) :
        ({ host, project := some project } : Oracle).typeOf (.name "None") = .ok (some .none) := by
      rw [typeOf, resolve]
    refine ⟨fun _ => (htypeOf host).trans (htypeOf direct).symm, fun _ _ _ => ?_⟩
    rw [htypeOf, htypeOf]
    rfl
  constructor
  · intro hclass
    obtain ⟨found, hfound⟩ := Option.isSome_iff_exists.1 hclass
    exact typeOf_relayed_class hkeyed hname hnone hrelays htarget hhost hdirect hfound
  · intro hclass halias hapart
    obtain ⟨value, hvalue⟩ := Option.isSome_iff_exists.1 halias
    exact typeOf_relayed_alias hkeyed hname hnone hrelays htarget hhost hdirect
      (Option.isSome_eq_false_iff.1 hclass |> Option.isNone_iff_eq_none.1) hvalue hapart

end Hosts

namespace Passing

/-- `class User` and `X = User` -/
def source : ModuleSymbols where
  moduleName := "b"
  classes := ⟨[("User", { name := "User" })]⟩
  aliases := ⟨[("X", .name "User")]⟩

def taking (moduleName origin name : String) : ModuleSymbols where
  moduleName
  imports := ⟨[(name, { origin, imported := some name })]⟩

def project (name : String) : ProjectIndex :=
  [source, taking "a" "b" name].foldl ProjectIndex.add {}

def user (spelling : Option String) : NamedType where
  name := "User"
  origin := "b"
  spelling

theorem takes (moduleName origin name : String) :
    (taking moduleName origin name).Takes name origin false where
  classes := rfl
  aliases := rfl
  imports := if_pos rfl

theorem relays {name : String} : (project name).Relays name ["a"] "a" "b" :=
  .link ⟨⟨by decide, by decide, by simp [enumModule]⟩, taking "a" "b" name, false, rfl, takes ..⟩
    (.target "b")

theorem not_leads {name : String} :
    ∀ moduleName ∈ ["a"], ¬ Relation.ReflTransGen (project name).Imports "b" moduleName := by
  intro moduleName hmem hleads
  obtain rfl := List.mem_singleton.1 hmem
  obtain heq | ⟨_, ⟨symbols, head, binding, _, _, htable, himport, -⟩, -⟩ := hleads.cases_head
  · exact absurd heq (by decide)
  · obtain rfl : source = symbols := Option.some.inj htable
    cases himport

def oracle (origin name : String) : Oracle where
  host := taking "h" origin name
  project := some (project name)

theorem typeOf_passed : (oracle "a" "X").typeOf (.name "X") = .ok (some (.named (user (some "X")))) := by
  have hanswer := (adequate_within (oracle "a" "X") 100).resolve .host [] (.name "X") (by decide)
  exact (Option.some.inj hanswer).symm

theorem typeOf_direct : (oracle "b" "X").typeOf (.name "X") = .ok (some (.named (user none))) := by
  have hanswer := (adequate_within (oracle "b" "X") 100).resolve .host [] (.name "X") (by decide)
  exact (Option.some.inj hanswer).symm

end Passing

theorem reexport_transparent_of_user :
    (Passing.oracle "a" "User").typeOf (.name "User") = (Passing.oracle "b" "User").typeOf (.name "User")
      ∧ (Passing.oracle "a" "X").typeOf (.name "X")
        = (Option.map (respelled (some "X"))) <$> (Passing.oracle "b" "X").typeOf (.name "X") :=
  ⟨(reexport_transparent (ProjectIndex.keyed_of_modules _) (by decide) Passing.relays rfl
      (Passing.takes ..) (Passing.takes ..)).1 rfl,
    (reexport_transparent (ProjectIndex.keyed_of_modules _) (by decide) Passing.relays rfl
      (Passing.takes ..) (Passing.takes ..)).2 rfl rfl Passing.not_leads⟩

/-- An alias that a host takes from a module that passes it on is spelled as in the host, which binds the
name to whatever the alias is; taken from its own module, it is not spelled. -/
theorem reexport_spelled :
    (Passing.project "X").Relays "X" ["a"] "a" "b"
      ∧ (Passing.oracle "a" "X").host.Takes "X" "a" false
      ∧ (Passing.oracle "b" "X").host.Takes "X" "b" false
      ∧ Passing.source.aliases.contains "X" = true
      ∧ (Passing.oracle "a" "X").typeOf (.name "X") = .ok (some (.named (Passing.user (some "X"))))
      ∧ (Passing.oracle "b" "X").typeOf (.name "X") = .ok (some (.named (Passing.user none)))
      ∧ Passing.user (some "X") ≠ Passing.user none :=
  ⟨Passing.relays, Passing.takes .., Passing.takes .., rfl, Passing.typeOf_passed,
    Passing.typeOf_direct, by decide⟩

end ModelMetadata
