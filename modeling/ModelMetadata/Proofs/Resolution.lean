import ModelMetadata.Proofs.Quotation

/-!
Resolution always ends. The functions of the oracle call each other across tables, and quoted
annotations are read anew, so no expression shrinks along the calls. Here the same functions take a
depth instead of a proof: a call that finds the depth spent gives nothing. A depth that only
depends on the keys not passed, on the heaviest alias and on the annotation at hand is never spent,
and what is then found is the oracle's answer.
-/
set_option autoImplicit false
namespace ModelMetadata

open Source

/-! ## Resolution with a depth -/

/-- A result or a fault, or nothing when the depth is spent. -/
abbrev Attempt := ExceptT Fault Option

def reached {α : Type} (result : Except Fault α) : Attempt α := ExceptT.mk (some result)

theorem reached_ok_bind {α β : Type} {result : Except Fault α} {a : α} (h : result = .ok a)
    (f : α → Attempt β) : (reached result >>= f) = f a := by
  rw [h]
  rfl

theorem reached_bind_eq_ok {α β : Type} {x : Attempt α} {f : α → Attempt β} {b : β}
    (h : (x >>= f) = reached (.ok b)) : ∃ a, x = reached (.ok a) ∧ f a = reached (.ok b) := by
  cases x with
  | none => cases h
  | some result =>
    cases result with
    | error fault => cases h
    | ok a => exact ⟨a, rfl, h⟩

/-- The type that was reached; any type where there is none. -/
def reachedType (x : Attempt (Option ResolvedType)) : ResolvedType :=
  match x with
  | some (.ok (some t)) => t
  | _ => .none

theorem reached_members {α : Type} {f : α → Attempt (Option ResolvedType)} {xs : List α}
    {found : List (Option ResolvedType)} {types : List ResolvedType}
    (h : xs.mapM f = reached (.ok found)) (htypes : found.mapM id = some types) :
    types = xs.map (fun x => reachedType (f x))
      ∧ ∀ x ∈ xs, f x = reached (.ok (some (reachedType (f x)))) := by
  induction xs generalizing found types with
  | nil =>
    cases h
    cases htypes
    simp
  | cons x rest ih =>
    rw [List.mapM_cons] at h
    obtain ⟨first, hfirst, h⟩ := reached_bind_eq_ok h
    obtain ⟨others, hothers, h⟩ := reached_bind_eq_ok h
    cases h
    simp only [List.mapM_cons, id, Option.bind_eq_bind, Option.bind_eq_some_iff, Option.pure_def,
      Option.some.injEq] at htypes
    obtain ⟨t, rfl, ts, hts, rfl⟩ := htypes
    obtain ⟨rfl, hall⟩ := ih hothers hts
    have htype : reachedType (f x) = t := by rw [hfirst]; rfl
    refine ⟨by rw [List.map_cons, htype], List.forall_mem_cons.2 ⟨?_, hall⟩⟩
    rw [htype]
    exact hfirst

/-- What the functions of the oracle answer. -/
structure Resolver where
  resolve : Scope → List Key → Expr → Attempt (Option ResolvedType)
  resolveLiteral : Scope → List Key → Expr → Attempt (Option ResolvedType)
  resolveDotted : Scope → List Key → String → Attempt (Option ResolvedType)
  resolveName : Scope → List Key → String → Attempt (Option ResolvedType)
  resolveExternal : List Key → String → String → Option String → Attempt (Option ResolvedType)
  isEnumClass : Scope → List Key → String → Attempt Bool

def quotedIn? (text : String) : Except Fault (Option Expr) :=
  match Expr.parse (Text.trimmed text) with
  | .ok inner => .ok (some inner)
  | .error .malformed => .ok none
  | .error .invalid => .error .invalidNode

namespace Oracle

variable (oracle : Oracle) (next : Resolver)

/-- The members of a literal type with one more, none as soon as one has no type. -/
def addLiteral (scope : Scope) (seen : List Key) (before? : Option (List ResolvedType))
    (member : Expr) : Attempt (Option (List ResolvedType)) :=
  match before? with
  | none => return none
  | some found => return (← next.resolveLiteral scope seen member).map (found ++ [·])

def stepResolve (scope : Scope) (seen : List Key) (e : Expr) : Attempt (Option ResolvedType) :=
  match e with
  | .paren _ inner _ => next.resolve scope seen inner
  | .name "None" => reached (.ok (some .none))
  | .name text => next.resolveDotted scope seen text
  | .attribute owner _ _ attr =>
    next.resolveDotted scope seen (Expr.attribute owner [] [] attr).dottedName
  | .binary left _ "|" _ right => do
    let s ← next.resolve scope seen left
    let t ← next.resolve scope seen right
    return do
      let s ← s
      let t ← t
      some (ResolvedType.ofMembers [s, t])
  | .subscript owner _ entries _ =>
    match (oracle.symbols scope).specialForm? owner.dottedName with
    | none => next.resolve scope seen owner
    | some special => do
      match Entry.indices entries with
      | [] => return none
      | first :: rest =>
        if wrapperForms.contains special then next.resolve scope seen first
        else if arrayForms.contains special then
          return (← next.resolve scope seen first).map .array
        else if tupleForms.contains special then
          match rest.map Expr.bare with
          | [.ellipsis] => return (← next.resolve scope seen first).map .array
          | _ => return none
        else if mappingForms.contains special then return some (.builtin "dict")
        else if special == "Optional" then
          return (← next.resolve scope seen first).map fun t => ResolvedType.ofMembers [t, .none]
        else if special == "Union" then
          let members ← (Entry.indices entries).mapM (next.resolve scope seen)
          return (members.mapM id).map ResolvedType.ofMembers
        else if special == "Literal" then
          let members ← (Entry.indices entries).foldlM (addLiteral next scope seen) (some [])
          return members.map ResolvedType.ofMembers
        else if special == "type" || special == "Type" then return some (.builtin "type")
        else return none
  | .call callee _ entries _ =>
    let special := (oracle.symbols scope).specialForm? callee.dottedName
    let ofNone := match entries with
      | [entry] => (entry.item.argument.map fun e => e.isName "None").getD false
      | _ => false
    if special == some "type" && ofNone then reached (.ok (some .none))
    else if special == some "TypedDict" then reached (.ok (some (.builtin "dict")))
    else reached (.ok none)
  | .dict _ _ => reached (.ok (some (.builtin "dict")))
  | e => do
    match ← reached (stringValue e) with
    | none => return none
    | some text =>
      match ← reached (quotedIn? text) with
      | none => return none
      | some inner => next.resolve scope seen inner

def stepLiteral (scope : Scope) (seen : List Key) (e : Expr) : Attempt (Option ResolvedType) := do
  if e.isName "None" then return some .none
  match ← reached (literalValue e) with
  | some value => return some (.literal value (.builtin value.typeName))
  | none =>
    match splitMember? e.dottedName with
    | none => return none
    | some (owner, member) =>
      match ← next.resolveName scope seen owner with
      | some (.named t) =>
        if t.isEnumeration then return some (.enumMember t member) else return none
      | _ => return none

def stepDotted (scope : Scope) (seen : List Key) (dotted : String) :
    Attempt (Option ResolvedType) :=
  match (oracle.symbols scope).specialForm? dotted with
  | some special => reached (.ok (bareSpecial special))
  | none => next.resolveName scope seen dotted

def stepName (scope : Scope) (seen : List Key) (dotted : String) :
    Attempt (Option ResolvedType) :=
  if dotted.isEmpty then reached (.ok none)
  else
    match dotPieces dotted with
    | [] => reached (.ok none)
    | head :: rest =>
      match (oracle.symbols scope).classes.get? head with
      | some found =>
        if rest.isEmpty then do
          let isEnum ← next.isEnumClass scope seen head
          return some (classType (oracle.symbols scope) found (some head) isEnum)
        else
          reached (.ok (some (.named
            { name := dotted, origin := (oracle.symbols scope).moduleName, spelling := dotted })))
      | none =>
        match bareAlias? (oracle.symbols scope) head rest with
        | some value =>
          if seen.contains ((oracle.symbols scope).moduleName, head) then reached (.ok none)
          else next.resolve scope (((oracle.symbols scope).moduleName, head) :: seen) value
        | none =>
          match (oracle.symbols scope).imports.get? head with
          | some binding =>
            match importTarget? binding rest with
            | some (origin, name) =>
              next.resolveExternal seen origin name (if binding.typeOnly then none else some dotted)
            | none => reached (.ok none)
          | none =>
            if rest.isEmpty && builtinTypes.contains head then
              reached (.ok (some (.builtin head)))
            else reached (.ok none)

def stepExternal (seen : List Key) (origin name : String) (spelling : Option String) :
    Attempt (Option ResolvedType) :=
  let unknown : ResolvedType := .named { name, origin, spelling }
  if typingModules.contains origin then reached (.ok (bareSpecial name))
  else if origin == builtinsModule then
    reached (.ok (if builtinTypes.contains name then some (.builtin name) else none))
  else if origin == enumModule && enumBases.contains name then
    reached (.ok (some (.named { name, origin, spelling, kind := .enumeration })))
  else
    match oracle.projectTable? origin with
    | none => reached (.ok (some unknown))
    | some external =>
      if seen.contains (origin, name) then reached (.ok (some unknown))
      else
        match external.classes.get? name with
        | some found => do
          let isEnum ← next.isEnumClass (.project origin) ((origin, name) :: seen) name
          return some (classType external found spelling isEnum)
        | none =>
          match external.aliases.get? name with
          | some value => do
            let found ← next.resolve (.project origin) ((origin, name) :: seen) value
            return found.map ResolvedType.unspelled
          | none =>
            match external.imports.get? name with
            | some _ => do
              let found ← next.resolveName (.project origin) ((origin, name) :: seen) name
              return found.map (respelled spelling)
            | none => reached (.ok (some unknown))

def stepEnumClass (scope : Scope) (seen : List Key) (className : String) : Attempt Bool :=
  match (oracle.symbols scope).classes.get? className with
  | none => reached (.ok false)
  | some found =>
    if seen.contains (classKey (oracle.symbols scope) className) then reached (.ok false)
    else
      found.bases.foldlM (fun isEnum base =>
        if isEnum then reached (.ok true)
        else do
          let resolved ← next.resolveName scope
            (classKey (oracle.symbols scope) className :: seen) (baseName base)
          match resolved with
          | some (.named t) => return t.isEnumeration
          | _ => return false) false

def step : Resolver where
  resolve := oracle.stepResolve next
  resolveLiteral := stepLiteral next
  resolveDotted := oracle.stepDotted next
  resolveName := oracle.stepName next
  resolveExternal := oracle.stepExternal next
  isEnumClass := oracle.stepEnumClass next

def within : Nat → Resolver
  | 0 =>
    { resolve := fun _ _ _ => ExceptT.mk none
      resolveLiteral := fun _ _ _ => ExceptT.mk none
      resolveDotted := fun _ _ _ => ExceptT.mk none
      resolveName := fun _ _ _ => ExceptT.mk none
      resolveExternal := fun _ _ _ _ => ExceptT.mk none
      isEnumClass := fun _ _ _ => ExceptT.mk none }
  | depth + 1 => oracle.step (within depth)

/-! ## The depth that is enough -/

def aliasWeights (symbols : ModuleSymbols) : List Nat := symbols.aliases.values.map Expr.weight

def heaviest : Nat :=
  (aliasWeights oracle.host ++ oracle.projectEntries.flatMap fun (_, symbols) =>
    aliasWeights symbols).foldr max 0

/-- A bound of what the keys that have not been passed can add. -/
def reserve (seen : List Key) : Nat := oracle.unseen seen * (oracle.heaviest + 6)

theorem le_foldr_max {weights : List Nat} {weight : Nat} (h : weight ∈ weights) :
    weight ≤ weights.foldr max 0 := by
  induction weights with
  | nil => cases h
  | cons first rest ih =>
    rw [List.foldr_cons]
    rcases List.mem_cons.1 h with rfl | hrest
    · exact Nat.le_max_left ..
    · exact Nat.le_trans (ih hrest) (Nat.le_max_right ..)

variable {oracle} {next}

theorem weight_le_heaviest (scope : Scope) {name : String} {value : Expr}
    (h : (oracle.symbols scope).aliases.get? name = some value) :
    value.weight ≤ oracle.heaviest := by
  have hvalue {symbols : ModuleSymbols} (hentry : symbols.aliases.get? name = some value) :
      value.weight ∈ aliasWeights symbols :=
    List.mem_map_of_mem (List.mem_map_of_mem (mem_entries_of_get? hentry))
  refine le_foldr_max ?_
  cases scope with
  | host => exact List.mem_append_left _ (hvalue h)
  | project moduleName =>
    simp only [symbols] at h
    cases ht : oracle.projectTable? moduleName with
    | none => simp [ht, Table.get?, Table.lookup] at h
    | some found =>
      rw [ht, Option.getD_some] at h
      exact List.mem_append_right _
        (List.mem_flatMap.2 ⟨_, projectEntries_of_table ht, hvalue h⟩)

/-- A key that is passed leaves room for the heaviest alias. -/
theorem reserve_cons {seen : List Key} {key : Key} (hkey : key ∈ oracle.keys)
    (hseen : seen.contains key = false) :
    oracle.reserve (key :: seen) + (oracle.heaviest + 6) ≤ oracle.reserve seen := by
  have hlt := unseen_lt hkey hseen
  calc oracle.reserve (key :: seen) + (oracle.heaviest + 6)
      = (oracle.unseen (key :: seen) + 1) * (oracle.heaviest + 6) := (Nat.succ_mul ..).symm
    _ ≤ oracle.reserve seen := Nat.mul_le_mul_right _ hlt

/-! ## What is reached -/

/-- A result is reached when both of its parts are. -/
theorem reached_bind {α β : Type} {x : Except Fault α} {f : α → Attempt β}
    {g : α → Except Fault β} (h : ∀ a, x = .ok a → f a = reached (g a)) :
    (reached x >>= f) = reached (x >>= g) := by
  cases x with
  | error fault => rfl
  | ok a => exact h a rfl

theorem reached_mapM {α β : Type} {f : α → Attempt β} {g : α → Except Fault β} {xs : List α}
    (h : ∀ x ∈ xs, f x = reached (g x)) : xs.mapM f = reached (xs.mapM g) := by
  induction xs with
  | nil => rfl
  | cons x rest ih =>
    rw [List.mapM_cons, List.mapM_cons, h x List.mem_cons_self,
      ih fun y hy => h y (List.mem_cons_of_mem _ hy)]
    exact reached_bind fun _ _ => reached_bind fun _ _ => rfl

theorem reached_foldlM {α β : Type} {f : β → α → Attempt β} {g : β → α → Except Fault β}
    {xs : List α} (h : ∀ b, ∀ x ∈ xs, f b x = reached (g b x)) (start : β) :
    xs.foldlM f start = reached (xs.foldlM g start) := by
  induction xs generalizing start with
  | nil => rfl
  | cons x rest ih =>
    rw [List.foldlM_cons, List.foldlM_cons, h start x List.mem_cons_self]
    exact reached_bind fun b _ => ih (fun b y hy => h b y (List.mem_cons_of_mem _ hy)) b

/-- What the functions of the oracle answer is reached within a depth. -/
structure Adequate (oracle : Oracle) (depth : Nat) (next : Resolver) : Prop where
  resolve (scope seen e) : oracle.reserve seen + e.weight + 5 < depth →
    next.resolve scope seen e = reached (oracle.resolve scope seen e)
  resolveLiteral (scope seen e) : oracle.reserve seen + e.weight + 4 < depth →
    next.resolveLiteral scope seen e = reached (oracle.resolveLiteral scope seen e)
  resolveDotted (scope seen dotted) : oracle.reserve seen + 4 < depth →
    next.resolveDotted scope seen dotted = reached (oracle.resolveDotted scope seen dotted)
  resolveName (scope seen dotted) : oracle.reserve seen + 3 < depth →
    next.resolveName scope seen dotted = reached (oracle.resolveName scope seen dotted)
  resolveExternal (seen origin name spelling) : oracle.reserve seen + 2 < depth →
    next.resolveExternal seen origin name spelling
      = reached (oracle.resolveExternal seen origin name spelling)
  isEnumClass (scope seen className) : oracle.reserve seen + 1 < depth →
    next.isEnumClass scope seen className = reached (oracle.isEnumClass scope seen className)

variable {depth : Nat} (h : Adequate oracle depth next)
include h

theorem stepDotted_eq {scope : Scope} {seen : List Key} {dotted : String}
    (hdepth : oracle.reserve seen + 4 < depth + 1) :
    oracle.stepDotted next scope seen dotted
      = reached (oracle.resolveDotted scope seen dotted) := by
  rw [resolveDotted]
  split
  · simp only [stepDotted, *]
  · simp only [stepDotted, *]
    exact h.resolveName _ _ _ (by omega)

theorem stepName_eq {scope : Scope} {seen : List Key} {dotted : String}
    (hdepth : oracle.reserve seen + 3 < depth + 1) :
    oracle.stepName next scope seen dotted = reached (oracle.resolveName scope seen dotted) := by
  rw [resolveName]
  split
  · simp only [stepName, *, ↓reduceIte]
  split
  · simp only [stepName, *, Bool.false_eq_true, ↓reduceIte]
  split
  · split
    · simp only [stepName, *, Bool.false_eq_true, ↓reduceIte]
      rw [h.isEnumClass _ _ _ (by omega)]
      exact reached_bind fun _ _ => rfl
    · simp only [stepName, *, Bool.false_eq_true, ↓reduceIte]
  split
  · rename_i value hvalue
    split
    · simp only [stepName, *, Bool.false_eq_true, ↓reduceIte]
    · rename_i hseen
      have halias := get?_of_bareAlias? hvalue
      have hweight := weight_le_heaviest scope halias
      have hreserve := reserve_cons (aliasKey_mem halias) (Bool.eq_false_iff.2 hseen)
      simp only [stepName, *, Bool.false_eq_true, ↓reduceIte]
      exact h.resolve _ _ _ (by omega)
  split
  · split
    · simp only [stepName, *, Bool.false_eq_true, ↓reduceIte]
      exact h.resolveExternal _ _ _ _ (by omega)
    · simp only [stepName, *, Bool.false_eq_true, ↓reduceIte]
  · split <;> simp only [stepName, *, Bool.false_eq_true, ↓reduceIte]

theorem stepExternal_eq {seen : List Key} {origin name : String} {spelling : Option String}
    (hdepth : oracle.reserve seen + 2 < depth + 1) :
    oracle.stepExternal next seen origin name spelling
      = reached (oracle.resolveExternal seen origin name spelling) := by
  rw [resolveExternal]
  dsimp only
  split
  · simp only [stepExternal, *, ↓reduceIte]
  split
  · simp only [stepExternal, *, Bool.false_eq_true, ↓reduceIte]
  split
  · simp only [stepExternal, *, Bool.false_eq_true, ↓reduceIte]
  split
  · simp only [stepExternal, *, Bool.false_eq_true, ↓reduceIte]
  rename_i external hexternal
  split
  · simp only [stepExternal, *, Bool.false_eq_true, ↓reduceIte]
  rename_i hseen
  split
  · rename_i found hfound
    have hreserve := reserve_cons (outerKey_mem_of_class hexternal hfound)
      (Bool.eq_false_iff.2 hseen)
    simp only [stepExternal, *, Bool.false_eq_true, ↓reduceIte]
    rw [h.isEnumClass _ _ _ (by omega)]
    exact reached_bind fun _ _ => rfl
  split
  · rename_i value hvalue
    have hreserve := reserve_cons (outerKey_mem_of_alias hexternal hvalue)
      (Bool.eq_false_iff.2 hseen)
    have hweight : value.weight ≤ oracle.heaviest :=
      weight_le_heaviest (.project origin) (by simpa [symbols, hexternal] using hvalue)
    simp only [stepExternal, *, Bool.false_eq_true, ↓reduceIte]
    rw [h.resolve _ _ _ (by omega)]
    exact reached_bind fun _ _ => rfl
  split
  · rename_i himport
    have hreserve := reserve_cons (outerKey_mem_of_import hexternal himport)
      (Bool.eq_false_iff.2 hseen)
    simp only [stepExternal, *, Bool.false_eq_true, ↓reduceIte]
    rw [h.resolveName _ _ _ (by omega)]
    exact reached_bind fun _ _ => rfl
  · simp only [stepExternal, *, Bool.false_eq_true, ↓reduceIte]

theorem stepEnumClass_eq {scope : Scope} {seen : List Key} {className : String}
    (hdepth : oracle.reserve seen + 1 < depth + 1) :
    oracle.stepEnumClass next scope seen className
      = reached (oracle.isEnumClass scope seen className) := by
  rw [isEnumClass]
  split
  · simp only [stepEnumClass, *]
  rename_i found hfound
  split
  · simp only [stepEnumClass, *, ↓reduceIte]
  rename_i hseen
  have hreserve := reserve_cons (classKey_mem hfound) (Bool.eq_false_iff.2 hseen)
  simp only [stepEnumClass, *, Bool.false_eq_true, ↓reduceIte]
  refine reached_foldlM (fun isEnum base _ => ?_) false
  split
  · rfl
  · rw [h.resolveName _ _ _ (by omega)]
    refine reached_bind fun resolved _ => ?_
    cases resolved with
    | none => rfl
    | some t => cases t <;> rfl

theorem stepLiteral_eq {scope : Scope} {seen : List Key} {e : Expr}
    (hdepth : oracle.reserve seen + e.weight + 4 < depth + 1) :
    stepLiteral next scope seen e = reached (oracle.resolveLiteral scope seen e) := by
  rw [resolveLiteral, stepLiteral]
  split
  · rfl
  refine reached_bind fun value _ => ?_
  cases value with
  | some value => rfl
  | none =>
    cases hmember : splitMember? e.dottedName with
    | none => rfl
    | some found =>
      dsimp only
      rw [h.resolveName _ _ _ (by omega)]
      refine reached_bind fun owner _ => ?_
      cases owner with
      | none => rfl
      | some t =>
        cases t with
        | named t => dsimp only; split <;> rfl
        | _ => rfl

omit h in
/-- The check on quoted annotations only tells resolution that it ends; it refuses none. -/
theorem quoted?_eq {e : Expr} {text : String} (htext : stringValue e = .ok (some text)) :
    quotedIn? text = (fun inner => inner.map Subtype.val) <$> quoted? e text := by
  have hweight inner := @weight_lt_of_quoted e inner text htext
  unfold quoted? quotedIn?
  generalize Expr.parse (Text.trimmed text) = parsed at hweight
  match parsed, hweight with
  | .ok inner, hweight =>
    dsimp only
    rw [dif_pos (hweight inner rfl)]
    rfl
  | .error .malformed, _ => rfl
  | .error .invalid, _ => rfl

/-- What is neither a name nor an operation nor a display is read as a quotation. -/
theorem stepQuotation_eq {scope : Scope} {seen : List Key} {e : Expr}
    (hdepth : oracle.reserve seen + e.weight + 5 < depth + 1) :
    (do
      match ← reached (stringValue e) with
      | none => return none
      | some text =>
        match ← reached (quotedIn? text) with
        | none => return none
        | some inner => next.resolve scope seen inner : Attempt (Option ResolvedType))
    = reached (do
      match ← stringValue e with
      | none => return none
      | some text =>
        match ← quoted? e text with
        | none => return none
        | some ⟨inner, _⟩ => oracle.resolve scope seen inner) := by
  refine reached_bind fun found hfound => ?_
  cases found with
  | none => rfl
  | some text =>
    dsimp only
    rw [quoted?_eq hfound]
    cases quoted? e text with
    | error fault => rfl
    | ok inner =>
      cases inner with
      | none => rfl
      | some inner =>
        have hlight := inner.property
        exact h.resolve scope seen inner.val (by omega)

theorem stepSubscript_eq {scope : Scope} {seen : List Key} {owner : Expr} {before close : Gap}
    {entries : List Entry}
    (hdepth : oracle.reserve seen + (Expr.subscript owner before entries close).weight + 5
      < depth + 1) :
    oracle.stepResolve next scope seen (.subscript owner before entries close)
      = reached (oracle.resolve scope seen (.subscript owner before entries close)) := by
  have hmember {member : Expr} (hm : member ∈ Entry.indices entries) :
      oracle.reserve seen + member.weight + 5 < depth := by
    have hlight : member.weight < (Expr.subscript owner before entries close).weight :=
      Expr.weight_lt_subscript hm
    omega
  have howner : oracle.reserve seen + owner.weight + 5 < depth := by
    simp only [Expr.weight] at hdepth
    omega
  rw [resolve]
  split
  · rename_i hspecial
    rw [stepResolve]
    simp only [hspecial]
    exact h.resolve _ _ _ howner
  · rename_i special hspecial
    split
    · rename_i hnil
      rw [stepResolve]
      simp only [hspecial, hnil]
      rfl
    · rename_i first rest hfirst
      have hinner := h.resolve scope seen first (hmember (hfirst ▸ List.mem_cons_self))
      simp only [List.mapM_subtype, List.foldlM_subtype, List.unattach_attach]
      rw [stepResolve]
      simp only [hspecial, hfirst]
      split
      · exact hinner
      split
      · rw [hinner]
        exact reached_bind fun _ _ => rfl
      split
      · generalize rest.map Expr.bare = bares
        rcases bares with _ | ⟨e, _ | ⟨other, more⟩⟩
        · rfl
        · cases e with
          | ellipsis =>
            rw [hinner]
            exact reached_bind fun _ _ => rfl
          | _ => rfl
        · cases e <;> rfl
      split
      · rfl
      split
      · rw [hinner]
        exact reached_bind fun _ _ => rfl
      split
      · rw [reached_mapM fun member hm => h.resolve scope seen member (hmember (hfirst ▸ hm))]
        exact reached_bind fun _ _ => rfl
      split
      · rw [reached_foldlM (fun before? member hm => ?_) (some [])]
        · exact reached_bind fun _ _ => rfl
        · cases before? with
          | none => rfl
          | some found =>
            have := hmember (hfirst ▸ hm)
            simp only [addLiteral]
            rw [h.resolveLiteral scope seen member (by omega)]
            exact reached_bind fun _ _ => rfl
      split <;> rfl

theorem stepResolve_eq {scope : Scope} {seen : List Key} {e : Expr}
    (hdepth : oracle.reserve seen + e.weight + 5 < depth + 1) :
    oracle.stepResolve next scope seen e = reached (oracle.resolve scope seen e) := by
  unfold stepResolve
  split
  case h_1 afterOpen inner beforeClose =>
    rw [resolve]
    simp only [Expr.weight] at hdepth
    exact h.resolve _ _ _ (by omega)
  case h_2 => rw [resolve]
  case h_3 text htext =>
    rw [resolve]
    · exact h.resolveDotted _ _ _ (by omega)
    · exact htext
  case h_4 =>
    rw [resolve]
    exact h.resolveDotted _ _ _ (by omega)
  case h_5 left _ _ right =>
    rw [resolve]
    simp only [Expr.weight, length_bar] at hdepth
    rw [h.resolve _ _ left (by omega)]
    refine reached_bind fun s _ => ?_
    rw [h.resolve _ _ right (by omega)]
    exact reached_bind fun t _ => rfl
  case h_6 => exact stepSubscript_eq h hdepth
  case h_7 =>
    rw [resolve.eq_def]
    exact ((apply_ite reached _ _ _).trans (congrArg (ite _ _) (apply_ite reached _ _ _))).symm
  case h_8 => rw [resolve]
  case h_9 =>
    rw [resolve]
    · exact stepQuotation_eq h hdepth
    all_goals assumption

omit h in
/-- Every depth is adequate for what it covers. -/
theorem adequate_within (oracle : Oracle) (depth : Nat) :
    Adequate oracle depth (oracle.within depth) := by
  induction depth with
  | zero => constructor <;> intros <;> omega
  | succ depth ih =>
    exact
      { resolve := fun _ _ _ hdepth => stepResolve_eq ih hdepth
        resolveLiteral := fun _ _ _ hdepth => stepLiteral_eq ih hdepth
        resolveDotted := fun _ _ _ hdepth => stepDotted_eq ih hdepth
        resolveName := fun _ _ _ hdepth => stepName_eq ih hdepth
        resolveExternal := fun _ _ _ _ hdepth => stepExternal_eq ih hdepth
        isEnumClass := fun _ _ _ hdepth => stepEnumClass_eq ih hdepth }

omit h in
/-- Resolution always ends: whatever the tables, the keys passed before and the annotation, calls
are nested no deeper than the keys not passed and the weight of the annotation allow, and from that
depth on the answer is the same. -/
theorem resolution_ends (oracle : Oracle) (seen : List Key) (extra : Nat) :
    (∀ scope e, (oracle.within (oracle.reserve seen + e.weight + 6 + extra)).resolve scope seen e
      = reached (oracle.resolve scope seen e))
    ∧ (∀ scope dotted, (oracle.within (oracle.reserve seen + 4 + extra)).resolveName scope seen dotted
      = reached (oracle.resolveName scope seen dotted))
    ∧ (∀ origin name spelling,
      (oracle.within (oracle.reserve seen + 3 + extra)).resolveExternal seen origin name spelling
        = reached (oracle.resolveExternal seen origin name spelling))
    ∧ (∀ scope className,
      (oracle.within (oracle.reserve seen + 2 + extra)).isEnumClass scope seen className
        = reached (oracle.isEnumClass scope seen className)) :=
  ⟨fun scope e => (adequate_within ..).resolve scope seen e (by omega),
    fun scope dotted => (adequate_within ..).resolveName scope seen dotted (by omega),
    fun origin name spelling =>
      (adequate_within ..).resolveExternal seen origin name spelling (by omega),
    fun scope className => (adequate_within ..).isEnumClass scope seen className (by omega)⟩

end Oracle
end ModelMetadata
