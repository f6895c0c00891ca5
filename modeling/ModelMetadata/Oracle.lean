import ModelMetadata.Source.Weight
import ModelMetadata.Symbols
import ModelMetadata.Types

/-!
The type oracle. It answers which type an annotation denotes and which special form of the typing
modules an expression names, from the symbol table of the host module and, where imports lead
elsewhere, from the tables of the project. A bare name is looked up among the classes of its module,
then its aliases, its imports, and the builtin types; whatever cannot be represented has no type.

Resolution follows aliases, imports and base classes, which may form cycles. Each step of this kind
passes a key that was not passed before; the keys of all tables are finitely many, and between two
such steps the expression at hand loses weight.
-/
set_option autoImplicit false
namespace ModelMetadata

open Source

/-! ## Special forms -/

def typingModules : List String :=
  ["typing", "typing_extensions", "collections.abc", "collections"]

def enumModule : String := "enum"

def enumBases : List String := ["Enum", "IntEnum", "StrEnum", "Flag", "IntFlag", "ReprEnum"]

def builtinTypes : List String :=
  ["str", "int", "float", "bool", "bytes", "bytearray", "complex", "object", "dict", "list", "set",
   "frozenset", "tuple", "type"]

def arrayForms : List String :=
  ["list", "List", "Sequence", "MutableSequence", "Iterable", "Collection", "set", "Set",
   "MutableSet", "AbstractSet", "frozenset", "FrozenSet", "deque", "Deque"]

def mappingForms : List String :=
  ["dict", "Dict", "Mapping", "MutableMapping", "DefaultDict", "defaultdict", "OrderedDict",
   "Counter", "TypedDict"]

def tupleForms : List String := ["tuple", "Tuple"]

def wrapperForms : List String :=
  ["Annotated", "NotRequired", "Required", "ReadOnly", "Final", "ClassVar"]

/-- The special form that a dotted name denotes in a module. -/
def ModuleSymbols.specialForm? (symbols : ModuleSymbols) (dotted : String) : Option String :=
  if dotted.isEmpty then none
  else
    match dotPieces dotted with
    | [] => none
    | [head] =>
      match symbols.imports.get? head with
      | some binding =>
        if typingModules.contains binding.origin then binding.imported else none
      | none =>
        if symbols.classes.contains head || symbols.aliases.contains head then none
        else if builtinTypes.contains head then some head
        else none
    | head :: rest =>
      match symbols.imports.get? head with
      | some binding =>
        let owner := binding.origin :: binding.imported.toList ++ rest.dropLast
        if typingModules.contains (joinDots owner) then rest.getLast? else none
      | none => none

def bareSpecial (special : String) : Option ResolvedType :=
  if special == "Any" || special == "object" then some (.builtin "object")
  else if mappingForms.contains special then some (.builtin "dict")
  else if arrayForms.contains special || tupleForms.contains special then some (.builtin "list")
  else if builtinTypes.contains special then some (.builtin special)
  else none

/-! ## Tables and keys -/

structure Oracle where
  host : ModuleSymbols
  project : Option ProjectIndex := none
deriving Inhabited

/-- Whose names are looked up: the host's, or those of a module of the project. -/
inductive Scope where
  | host
  | project (moduleName : String)
deriving Repr, DecidableEq, Inhabited

/-- A step of resolution that must not be repeated: a name of a module. -/
abbrev Key := String × String

namespace Oracle

def projectTable? (oracle : Oracle) (moduleName : String) : Option ModuleSymbols :=
  oracle.project.bind fun index => index.get? moduleName

def symbols (oracle : Oracle) : Scope → ModuleSymbols
  | .host => oracle.host
  | .project moduleName => (oracle.projectTable? moduleName).getD { moduleName }

def classKey (symbols : ModuleSymbols) (className : String) : Key :=
  (symbols.moduleName, "class:" ++ className)

/-- The keys that resolution within a module can pass. -/
def innerKeys (symbols : ModuleSymbols) : List Key :=
  symbols.aliases.names.map (fun name => (symbols.moduleName, name))
    ++ symbols.classes.names.map (classKey symbols)

/-- The keys that resolution from outside can pass into a module. -/
def outerKeys (moduleName : String) (symbols : ModuleSymbols) : List Key :=
  (symbols.classes.names ++ symbols.aliases.names ++ symbols.imports.names).map
    fun name => (moduleName, name)

def projectEntries (oracle : Oracle) : List (String × ModuleSymbols) :=
  (oracle.project.map Table.entries).getD []

def keys (oracle : Oracle) : List Key :=
  innerKeys oracle.host ++ oracle.projectEntries.flatMap fun (moduleName, symbols) =>
    innerKeys symbols ++ outerKeys moduleName symbols

/-- How many keys have not been passed. -/
def unseen (oracle : Oracle) (seen : List Key) : Nat :=
  (oracle.keys.filter fun key => !seen.contains key).length

theorem filter_length_le (passed : Key → Bool) (key : Key) (keys : List Key) :
    (keys.filter fun k => !(k == key) && !passed k).length
      ≤ (keys.filter fun k => !passed k).length := by
  induction keys with
  | nil => simp
  | cons k rest ih =>
    simp only [List.filter_cons]
    cases k == key <;> cases passed k <;> simp <;> omega

theorem filter_length_lt (passed : Key → Bool) (key : Key) (hp : passed key = false)
    (keys : List Key) (hk : key ∈ keys) :
    (keys.filter fun k => !(k == key) && !passed k).length
      < (keys.filter fun k => !passed k).length := by
  induction keys with
  | nil => simp at hk
  | cons k rest ih =>
    simp only [List.filter_cons]
    by_cases hkey : k = key
    · have := filter_length_le passed key rest
      subst hkey
      simp [hp]
      omega
    · have hr := ih (by simpa [Ne.symm hkey] using hk)
      have hne : (k == key) = false := by simpa using hkey
      cases passed k <;> simp [hne] <;> omega

theorem unseen_lt {oracle : Oracle} {seen : List Key} {key : Key} (hk : key ∈ oracle.keys)
    (hs : seen.contains key = false) : oracle.unseen (key :: seen) < oracle.unseen seen := by
  unfold unseen
  simp only [List.contains_cons, Bool.not_or]
  exact filter_length_lt (fun k => seen.contains k) key hs oracle.keys hk

theorem mem_names_of_get? {α : Type} {table : Table α} {name : String} {value : α}
    (h : table.get? name = some value) : name ∈ table.names := by
  obtain ⟨entries⟩ := table
  simp only [Table.get?, Table.names] at *
  induction entries with
  | nil => simp [Table.lookup] at h
  | cons entry rest ih =>
    obtain ⟨found, old⟩ := entry
    simp only [Table.lookup] at h
    split at h
    · rename_i heq; simp [heq]
    · simp [ih h]

theorem mem_entries_of_get? {α : Type} {table : Table α} {name : String} {value : α}
    (h : table.get? name = some value) : (name, value) ∈ table.entries := by
  obtain ⟨entries⟩ := table
  simp only [Table.get?] at *
  induction entries with
  | nil => simp [Table.lookup] at h
  | cons entry rest ih =>
    obtain ⟨found, old⟩ := entry
    simp only [Table.lookup] at h
    split at h
    · rename_i heq; simp_all
    · simp [ih h]

theorem projectEntries_of_table {oracle : Oracle} {moduleName : String} {symbols : ModuleSymbols}
    (h : oracle.projectTable? moduleName = some symbols) :
    (moduleName, symbols) ∈ oracle.projectEntries := by
  unfold projectTable? at h
  unfold projectEntries
  cases hp : oracle.project with
  | none => simp [hp] at h
  | some index =>
    simp only [hp, Option.bind_some] at h
    simpa using mem_entries_of_get? h

theorem innerKeys_subset (oracle : Oracle) (scope : Scope) {key : Key}
    (h : key ∈ innerKeys (oracle.symbols scope)) : key ∈ oracle.keys := by
  cases scope with
  | host => exact List.mem_append_left _ h
  | project moduleName =>
    simp only [symbols] at h
    cases ht : oracle.projectTable? moduleName with
    | none => simp [ht, innerKeys, Table.names] at h
    | some found =>
      simp only [ht, Option.getD_some] at h
      apply List.mem_append_right
      exact List.mem_flatMap.2
        ⟨_, projectEntries_of_table ht, List.mem_append_left _ h⟩

theorem outerKeys_subset {oracle : Oracle} {moduleName name : String} {symbols : ModuleSymbols}
    (ht : oracle.projectTable? moduleName = some symbols)
    (h : (moduleName, name) ∈ outerKeys moduleName symbols) :
    (moduleName, name) ∈ oracle.keys := by
  apply List.mem_append_right
  exact List.mem_flatMap.2 ⟨_, projectEntries_of_table ht, List.mem_append_right _ h⟩

theorem aliasKey_mem {oracle : Oracle} {scope : Scope} {name : String} {value : Expr}
    (h : (oracle.symbols scope).aliases.get? name = some value) :
    ((oracle.symbols scope).moduleName, name) ∈ oracle.keys :=
  innerKeys_subset oracle scope
    (List.mem_append_left _ (List.mem_map.2 ⟨name, mem_names_of_get? h, rfl⟩))

theorem classKey_mem {oracle : Oracle} {scope : Scope} {name : String} {value : ClassSymbol}
    (h : (oracle.symbols scope).classes.get? name = some value) :
    classKey (oracle.symbols scope) name ∈ oracle.keys :=
  innerKeys_subset oracle scope
    (List.mem_append_right _ (List.mem_map.2 ⟨name, mem_names_of_get? h, rfl⟩))

theorem outerKey_mem_of_class {oracle : Oracle} {moduleName name : String} {symbols : ModuleSymbols}
    {value : ClassSymbol} (ht : oracle.projectTable? moduleName = some symbols)
    (h : symbols.classes.get? name = some value) : (moduleName, name) ∈ oracle.keys :=
  outerKeys_subset ht (by
    refine List.mem_map.2 ⟨name, ?_, rfl⟩
    simp [mem_names_of_get? h])

theorem outerKey_mem_of_alias {oracle : Oracle} {moduleName name : String} {symbols : ModuleSymbols}
    {value : Expr} (ht : oracle.projectTable? moduleName = some symbols)
    (h : symbols.aliases.get? name = some value) : (moduleName, name) ∈ oracle.keys :=
  outerKeys_subset ht (by
    refine List.mem_map.2 ⟨name, ?_, rfl⟩
    simp [mem_names_of_get? h])

theorem outerKey_mem_of_import {oracle : Oracle} {moduleName name : String}
    {symbols : ModuleSymbols} {value : ImportBinding}
    (ht : oracle.projectTable? moduleName = some symbols)
    (h : symbols.imports.get? name = some value) : (moduleName, name) ∈ oracle.keys :=
  outerKeys_subset ht (by
    refine List.mem_map.2 ⟨name, ?_, rfl⟩
    simp [mem_names_of_get? h])

/-! ## Quoted annotations -/

/-- The annotation that a string literal quotes, when it follows the grammar. It weighs less than
its quotation. -/
def quoted? (e : Expr) (text : String) : Except Fault (Option { inner : Expr // inner.weight < e.weight }) :=
  match Expr.parse (Text.trimmed text) with
  | .ok inner => if h : inner.weight < e.weight then .ok (some ⟨inner, h⟩) else .ok none
  | .error .malformed => .ok none
  | .error .invalid => .error .invalidNode

def splitMember? (dotted : String) : Option (String × String) :=
  match (dotPieces dotted).reverse with
  | member :: owner :: rest => some (joinDots (owner :: rest).reverse, member)
  | _ => none

/-! ## Names -/

/-- The alias that a name without further segments is bound to. -/
def bareAlias? (symbols : ModuleSymbols) (head : String) (rest : List String) : Option Expr :=
  if rest.isEmpty then symbols.aliases.get? head else none

theorem get?_of_bareAlias? {symbols : ModuleSymbols} {head : String} {rest : List String}
    {value : Expr} (h : bareAlias? symbols head rest = some value) :
    symbols.aliases.get? head = some value := by
  unfold bareAlias? at h
  split at h
  · exact h
  · simp at h

/-- The module and the name that a dotted name with an imported head means; a module itself is no
type. -/
def importTarget? (binding : ImportBinding) (rest : List String) : Option (String × String) :=
  match binding.imported, rest.getLast? with
  | none, none => none
  | none, some last => some (joinDots (binding.origin :: rest.dropLast), last)
  | some imported, none => some (binding.origin, imported)
  | some imported, some last => some (joinDots (binding.origin :: imported :: rest.dropLast), last)

def classType (symbols : ModuleSymbols) (found : ClassSymbol) (spelling : Option String)
    (isEnum : Bool) : ResolvedType :=
  .named
    { name := found.name, origin := symbols.moduleName, spelling
      kind := if isEnum then .enumeration else .plain
      members := if isEnum then found.members else [] }

/-- A type that a module passes on, with the spelling it has in the host. -/
def respelled (spelling : Option String) : ResolvedType → ResolvedType
  | .named t => .named (if t.isBuiltin then t else { t with spelling })
  | t => t.unspelled

def baseName (base : Expr) : String :=
  match base.bare with
  | .subscript owner _ _ _ => owner.dottedName
  | e => e.dottedName

/-! ## Resolution -/

mutual

def resolve (oracle : Oracle) (scope : Scope) (seen : List Key) (e : Expr) :
    Except Fault (Option ResolvedType) :=
  match e with
  | .paren _ inner _ => oracle.resolve scope seen inner
  | .name "None" => .ok (some .none)
  | .name text => oracle.resolveDotted scope seen text
  | .attribute owner _ _ attr =>
    oracle.resolveDotted scope seen (Expr.attribute owner [] [] attr).dottedName
  | .binary left _ "|" _ right => do
    let s ← oracle.resolve scope seen left
    let t ← oracle.resolve scope seen right
    return do
      let s ← s
      let t ← t
      some (ResolvedType.ofMembers [s, t])
  | .subscript owner before entries close =>
    match (oracle.symbols scope).specialForm? owner.dottedName with
    | none => oracle.resolve scope seen owner
    | some special => do
      match h : Entry.indices entries with
      | [] => return none
      | first :: rest =>
        have hf : first.weight < (Expr.subscript owner before entries close).weight :=
          Expr.weight_lt_subscript (h ▸ List.mem_cons_self)
        if wrapperForms.contains special then oracle.resolve scope seen first
        else if arrayForms.contains special then
          return (← oracle.resolve scope seen first).map .array
        else if tupleForms.contains special then
          match rest.map Expr.bare with
          | [.ellipsis] => return (← oracle.resolve scope seen first).map .array
          | _ => return none
        else if mappingForms.contains special then return some (.builtin "dict")
        else if special == "Optional" then
          return (← oracle.resolve scope seen first).map fun t => ResolvedType.ofMembers [t, .none]
        else if special == "Union" then
          let members ← (Entry.indices entries).attach.mapM fun ⟨member, hm⟩ =>
            have : member.weight < (Expr.subscript owner before entries close).weight :=
              Expr.weight_lt_subscript hm
            oracle.resolve scope seen member
          return (members.mapM id).map ResolvedType.ofMembers
        else if special == "Literal" then
          let members ← (Entry.indices entries).attach.foldlM (fun before? ⟨member, hm⟩ =>
            have : member.weight < (Expr.subscript owner before entries close).weight :=
              Expr.weight_lt_subscript hm
            match before? with
            | none => return none
            | some found => return (← oracle.resolveLiteral scope seen member).map (found ++ [·]))
            (some [])
          return members.map ResolvedType.ofMembers
        else if special == "type" || special == "Type" then return some (.builtin "type")
        else return none
  | .call callee _ entries _ =>
    let special := (oracle.symbols scope).specialForm? callee.dottedName
    let ofNone := match entries with
      | [entry] => (entry.item.argument.map fun e => e.isName "None").getD false
      | _ => false
    if special == some "type" && ofNone then .ok (some .none)
    else if special == some "TypedDict" then .ok (some (.builtin "dict"))
    else .ok none
  | .dict _ _ => .ok (some (.builtin "dict"))
  | e => do
    match ← stringValue e with
    | none => return none
    | some text =>
      match ← quoted? e text with
      | none => return none
      | some ⟨inner, _⟩ => oracle.resolve scope seen inner
termination_by (oracle.unseen seen, e.weight + 5)
decreasing_by
  all_goals refine Prod.Lex.right _ ?_
  all_goals try simp only [Expr.weight, length_bar] at *
  all_goals omega

/-- The type of a member of a literal type: `None`, a primitive value or an enumeration member. -/
def resolveLiteral (oracle : Oracle) (scope : Scope) (seen : List Key) (e : Expr) :
    Except Fault (Option ResolvedType) := do
  if e.isName "None" then return some .none
  match ← literalValue e with
  | some value => return some (.literal value (.builtin value.typeName))
  | none =>
    match splitMember? e.dottedName with
    | none => return none
    | some (owner, member) =>
      match ← oracle.resolveName scope seen owner with
      | some (.named t) =>
        if t.isEnumeration then return some (.enumMember t member) else return none
      | _ => return none
termination_by (oracle.unseen seen, e.weight + 4)

def resolveDotted (oracle : Oracle) (scope : Scope) (seen : List Key) (dotted : String) :
    Except Fault (Option ResolvedType) :=
  match (oracle.symbols scope).specialForm? dotted with
  | some special => .ok (bareSpecial special)
  | none => oracle.resolveName scope seen dotted
termination_by (oracle.unseen seen, 4)

/-- The type of a dotted name that is no special form. -/
def resolveName (oracle : Oracle) (scope : Scope) (seen : List Key) (dotted : String) :
    Except Fault (Option ResolvedType) :=
  if dotted.isEmpty then .ok none
  else
    match dotPieces dotted with
    | [] => .ok none
    | head :: rest =>
      match (oracle.symbols scope).classes.get? head with
      | some found =>
        if rest.isEmpty then do
          let isEnum ← oracle.isEnumClass scope seen head
          return some (classType (oracle.symbols scope) found (some head) isEnum)
        else
          .ok (some (.named
            { name := dotted, origin := (oracle.symbols scope).moduleName, spelling := dotted }))
      | none =>
        match ha : bareAlias? (oracle.symbols scope) head rest with
        | some value =>
          if hs : seen.contains ((oracle.symbols scope).moduleName, head) then .ok none
          else
            have := unseen_lt (aliasKey_mem (get?_of_bareAlias? ha)) (Bool.eq_false_iff.2 hs)
            oracle.resolve scope (((oracle.symbols scope).moduleName, head) :: seen) value
        | none =>
          match (oracle.symbols scope).imports.get? head with
          | some binding =>
            match importTarget? binding rest with
            | some (origin, name) =>
              oracle.resolveExternal seen origin name
                (if binding.typeOnly then none else some dotted)
            | none => .ok none
          | none =>
            if rest.isEmpty && builtinTypes.contains head then .ok (some (.builtin head))
            else .ok none
termination_by (oracle.unseen seen, 3)

/-- The type of a name that another module provides. Where the project does not know the module, or
the name in it, or has passed it before, the name itself is the type. -/
def resolveExternal (oracle : Oracle) (seen : List Key) (origin name : String)
    (spelling : Option String) : Except Fault (Option ResolvedType) :=
  let unknown : ResolvedType := .named { name, origin, spelling }
  if typingModules.contains origin then .ok (bareSpecial name)
  else if origin == builtinsModule then
    .ok (if builtinTypes.contains name then some (.builtin name) else none)
  else if origin == enumModule && enumBases.contains name then
    .ok (some (.named { name, origin, spelling, kind := .enumeration }))
  else
    match ht : oracle.projectTable? origin with
    | none => .ok (some unknown)
    | some external =>
      if hs : seen.contains (origin, name) then .ok (some unknown)
      else
        match hc : external.classes.get? name with
        | some found => do
          have := unseen_lt (outerKey_mem_of_class ht hc) (Bool.eq_false_iff.2 hs)
          let isEnum ← oracle.isEnumClass (.project origin) ((origin, name) :: seen) name
          return some (classType external found spelling isEnum)
        | none =>
          match ha : external.aliases.get? name with
          | some value => do
            have := unseen_lt (outerKey_mem_of_alias ht ha) (Bool.eq_false_iff.2 hs)
            let found ← oracle.resolve (.project origin) ((origin, name) :: seen) value
            return found.map ResolvedType.unspelled
          | none =>
            match hi : external.imports.get? name with
            | some _ => do
              have := unseen_lt (outerKey_mem_of_import ht hi) (Bool.eq_false_iff.2 hs)
              let found ← oracle.resolveName (.project origin) ((origin, name) :: seen) name
              return found.map (respelled spelling)
            | none => .ok (some unknown)
termination_by (oracle.unseen seen, 2)

/-- Whether one of the bases of a class is an enumeration. A class among its own bases is none. -/
def isEnumClass (oracle : Oracle) (scope : Scope) (seen : List Key) (className : String) :
    Except Fault Bool :=
  match hc : (oracle.symbols scope).classes.get? className with
  | none => .ok false
  | some found =>
    if hs : seen.contains (classKey (oracle.symbols scope) className) then .ok false
    else
      found.bases.foldlM (fun isEnum base =>
        if isEnum then .ok true
        else do
          have := unseen_lt (classKey_mem hc) (Bool.eq_false_iff.2 hs)
          let resolved ← oracle.resolveName scope
            (classKey (oracle.symbols scope) className :: seen) (baseName base)
          match resolved with
          | some (.named t) => return t.isEnumeration
          | _ => return false) false
termination_by (oracle.unseen seen, 1)

end

def typeOf (oracle : Oracle) (typeHint : Expr) : Except Fault (Option ResolvedType) :=
  oracle.resolve .host [] typeHint

/-- The special form that an expression of the host module names. -/
def specialForm? (oracle : Oracle) (e : Expr) : Option String :=
  oracle.host.specialForm? e.dottedName

end Oracle
end ModelMetadata
