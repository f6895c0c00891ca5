import ModelMetadata.Proofs.Resolution
import ModelMetadata.Reference

/-!
Types without the member names of their enumerations. The names follow from the definitions of the
classes and are no part of a type's identity: forgetting them in all tables changes no answer of the
oracle but by the same names, and no reference to a type at all. A class whose body is laid out anew
therefore leaves every answer as it was.
-/
set_option autoImplicit false
namespace ModelMetadata

open Source

/-! ## Types -/

def NamedType.forget (t : NamedType) : NamedType := { t with members := [] }

namespace NamedType

@[simp] theorem forget_name (t : NamedType) : t.forget.name = t.name := rfl

@[simp] theorem forget_origin (t : NamedType) : t.forget.origin = t.origin := rfl

@[simp] theorem forget_spelling (t : NamedType) : t.forget.spelling = t.spelling := rfl

@[simp] theorem forget_kind (t : NamedType) : t.forget.kind = t.kind := rfl

@[simp] theorem forget_isBuiltin (t : NamedType) : t.forget.isBuiltin = t.isBuiltin := by
  cases t
  rfl

@[simp] theorem forget_isEnumeration (t : NamedType) :
    t.forget.isEnumeration = t.isEnumeration := by
  cases t
  rfl

@[simp] theorem same_forget (s t : NamedType) : s.forget.same t.forget = s.same t := rfl

@[simp] theorem builtin_forget (name : String) : (builtin name).forget = builtin name := rfl

end NamedType

namespace ResolvedType

mutual

def forget : ResolvedType → ResolvedType
  | .named t => .named t.forget
  | .array element => .array element.forget
  | .literal value base => .literal value base.forget
  | .enumMember owner member => .enumMember owner.forget member
  | .union members => .union (forgetAll members)
  | .none => .none

def forgetAll : List ResolvedType → List ResolvedType
  | [] => []
  | t :: rest => t.forget :: forgetAll rest

end

theorem forgetAll_eq_map (members : List ResolvedType) : forgetAll members = members.map forget := by
  induction members with
  | nil => rfl
  | cons t rest ih => simp [forgetAll, ih]

mutual

@[simp] theorem same_forget (s t : ResolvedType) : s.forget.same t.forget = s.same t := by
  cases s <;> cases t <;> simp [forget, same, same_forget, sameAll_forgetAll]

theorem sameAll_forgetAll (ss ts : List ResolvedType) :
    sameAll (forgetAll ss) (forgetAll ts) = sameAll ss ts := by
  cases ss <;> cases ts <;> simp [forgetAll, sameAll, same_forget, sameAll_forgetAll]

end

@[simp] theorem isNone_forget (t : ResolvedType) : t.forget.isNone = t.isNone := by
  cases t <;> rfl

@[simp] theorem isUnion_forget (t : ResolvedType) : t.forget.isUnion = t.isUnion := by
  cases t <;> rfl

@[simp] theorem isEnumeration_forget (t : ResolvedType) :
    t.forget.isEnumeration = t.isEnumeration := by
  cases t <;> rfl

theorem branches_forget (t : ResolvedType) : t.forget.branches = t.branches.map forget := by
  cases t <;> simp [forget, branches, forgetAll_eq_map]

theorem distinct_forget (members : List ResolvedType) :
    distinct (members.map forget) = (distinct members).map forget := by
  suffices ∀ kept : List ResolvedType,
      (members.map forget).foldl
        (fun kept t => if kept.any fun s => t.same s then kept else kept ++ [t]) (kept.map forget)
      = (members.foldl
        (fun kept t => if kept.any fun s => t.same s then kept else kept ++ [t]) kept).map forget by
    exact this []
  induction members with
  | nil => exact fun _ => rfl
  | cons t rest ih =>
    intro kept
    have hany : (kept.map forget).any (fun s => t.forget.same s) = kept.any fun s => t.same s := by
      simp [List.any_map, Function.comp_def]
    rw [List.map_cons, List.foldl_cons, List.foldl_cons, hany, ← ih]
    split <;> simp

theorem flatMap_branches_forget (members : List ResolvedType) :
    (members.map forget).flatMap branches = (members.flatMap branches).map forget := by
  simp [List.flatMap_map, List.map_flatMap, branches_forget]

theorem ofMembers_forget (members : List ResolvedType) :
    ofMembers (members.map forget) = (ofMembers members).forget := by
  unfold ofMembers
  rw [flatMap_branches_forget, distinct_forget]
  match distinct (members.flatMap branches) with
  | [] => rfl
  | [only] => rfl
  | first :: second :: rest => simp [forget, forgetAll_eq_map]

theorem unspelledName_forget (t : NamedType) :
    unspelledName t.forget = (unspelledName t).forget := by
  unfold unspelledName
  rw [NamedType.forget_isBuiltin]
  split <;> rfl

mutual

theorem unspelled_forget (t : ResolvedType) : t.forget.unspelled = t.unspelled.forget := by
  cases t <;>
    simp [forget, unspelled, unspelledName_forget, unspelled_forget, unspelledAll_forgetAll]

theorem unspelledAll_forgetAll (members : List ResolvedType) :
    unspelledAll (forgetAll members) = forgetAll (unspelledAll members) := by
  cases members <;> simp [forgetAll, unspelledAll, unspelled_forget, unspelledAll_forgetAll]

end

end ResolvedType

/-! ## References -/

def TypeReference.forget (reference : TypeReference) : TypeReference :=
  { reference with named := reference.named.map NamedType.forget }

namespace TypeReference

theorem ofNamed_forget (t : NamedType) : ofNamed t.forget = (ofNamed t).forget := by
  unfold ofNamed
  rw [NamedType.forget_isEnumeration]
  split <;> rfl

theorem array_forget (inner : TypeReference) : inner.forget.array = inner.array.forget := by
  obtain ⟨name, named, depth⟩ := inner
  cases name <;> rfl

end TypeReference

namespace ResolvedType

theorem filter_forget (members : List ResolvedType) :
    (members.map forget).filter (fun t => !t.isNone)
      = (members.filter fun t => !t.isNone).map forget := by
  simp [List.filter_map, Function.comp_def]

theorem withoutNone?_forget (members : List ResolvedType) :
    withoutNone? (members.map forget) = (withoutNone? members).map forget := by
  unfold withoutNone?
  rw [filter_forget]
  cases members.filter fun t => !t.isNone with
  | nil => rfl
  | cons first rest => exact congrArg some (ofMembers_forget (first :: rest))

theorem hasBase_forget (base : NamedType) (t : ResolvedType) :
    hasBase base.forget t.forget = hasBase base t := by
  cases t <;> rfl

theorem commonBase?_forget (members : List ResolvedType) :
    commonBase? (members.map forget) = (commonBase? members).map NamedType.forget := by
  cases members with
  | nil => rfl
  | cons first rest =>
    cases first with
    | literal value base =>
      have hall : (rest.map forget).all (hasBase base.forget) = rest.all (hasBase base) := by
        simp [List.all_map, Function.comp_def, hasBase_forget]
      simp only [List.map_cons, forget, commonBase?, hall]
      split <;> rfl
    | _ => rfl

theorem literalBase?_forget (t : ResolvedType) :
    literalBase? t.forget = (literalBase? t).map NamedType.forget := by
  cases t with
  | union members =>
    simp only [forget, literalBase?, forgetAll_eq_map, commonBase?_forget]
  | _ => rfl

theorem onlyBranch?_val (members : List ResolvedType) :
    (onlyBranch? members).map Subtype.val
      = match distinct ((members.filter fun t => !t.isNone).flatMap branches) with
        | [only] => some only
        | _ => Option.none := by
  unfold onlyBranch?
  split
  · rename_i only honly
    simp [honly]
  · rename_i hother
    split
    · rename_i only honly
      exact absurd honly (hother only)
    · rfl

theorem onlyBranch?_forget (members : List ResolvedType) :
    (onlyBranch? (members.map forget)).map Subtype.val
      = ((onlyBranch? members).map Subtype.val).map forget := by
  rw [onlyBranch?_val, onlyBranch?_val, filter_forget, flatMap_branches_forget, distinct_forget]
  generalize distinct ((members.filter fun t => !t.isNone).flatMap branches) = kept
  match kept with
  | [] => rfl
  | [only] => rfl
  | first :: second :: rest => rfl

theorem literalBase?_withoutNone?_forget (members : List ResolvedType) :
    literalBase? ((withoutNone? (members.map forget)).getD (.union (members.map forget)))
      = (literalBase? ((withoutNone? members).getD (.union members))).map NamedType.forget := by
  rw [withoutNone?_forget, ← literalBase?_forget]
  cases withoutNone? members with
  | none => simp [forget, forgetAll_eq_map]
  | some t => rfl

theorem reference_forget (t : ResolvedType) : t.forget.reference = t.reference.forget := by
  induction hn : sizeOf t using Nat.strongRecOn generalizing t with
  | ind n ih =>
    subst hn
    cases t with
    | named t => simp [forget, reference, TypeReference.ofNamed_forget]
    | array element =>
      have hinner := ih (sizeOf element) (by simp) element rfl
      simp [forget, reference, hinner, TypeReference.array_forget]
    | literal value base => simp [forget, reference, TypeReference.ofNamed_forget]
    | enumMember owner member => simp [forget, reference, TypeReference.forget]
    | none => simp [forget, reference, TypeReference.forget]
    | union members =>
      have honly := onlyBranch?_forget members
      rw [forget, forgetAll_eq_map, reference, reference, literalBase?_withoutNone?_forget]
      cases literalBase? ((withoutNone? members).getD (.union members)) with
      | some base => exact TypeReference.ofNamed_forget base
      | none =>
        dsimp only [Option.map_none]
        cases hfound : onlyBranch? members with
        | none =>
          rw [hfound] at honly
          cases hforgot : onlyBranch? (members.map forget) with
          | none => rfl
          | some only => simp [hforgot] at honly
        | some only =>
          rw [hfound] at honly
          cases hforgot : onlyBranch? (members.map forget) with
          | none => simp [hforgot] at honly
          | some forgot =>
            have hval : forgot.val = only.val.forget := by simpa [hforgot] using honly
            have hinner := ih (sizeOf only.val) (by simpa using only.property) only.val rfl
            obtain ⟨only, hlt⟩ := only
            obtain ⟨forgot, hforgotlt⟩ := forgot
            simp only at hval hinner
            subst hval
            simp only [isUnion_forget, hinner]
            split <;> rfl

end ResolvedType

/-! ## Tables -/

namespace Table

variable {α β : Type}

def map (f : α → β) (table : Table α) : Table β :=
  ⟨table.entries.map fun (name, value) => (name, f value)⟩

@[simp] theorem get?_map (f : α → β) (table : Table α) (name : String) :
    (table.map f).get? name = (table.get? name).map f := by
  obtain ⟨entries⟩ := table
  simp only [get?, map]
  induction entries with
  | nil => rfl
  | cons entry rest ih =>
    obtain ⟨found, value⟩ := entry
    simp only [List.map_cons, lookup, ih]
    split <;> rfl

@[simp] theorem contains_map (f : α → β) (table : Table α) (name : String) :
    (table.map f).contains name = table.contains name := by
  simp [contains]

end Table

def ClassSymbol.forget (found : ClassSymbol) : ClassSymbol := { found with members := [] }

def ModuleSymbols.forget (symbols : ModuleSymbols) : ModuleSymbols :=
  { symbols with classes := symbols.classes.map ClassSymbol.forget }

def Oracle.forget (oracle : Oracle) : Oracle where
  host := oracle.host.forget
  project := oracle.project.map fun index => Table.map ModuleSymbols.forget index

namespace ModuleSymbols

@[simp] theorem forget_moduleName (symbols : ModuleSymbols) :
    symbols.forget.moduleName = symbols.moduleName := rfl

@[simp] theorem forget_imports (symbols : ModuleSymbols) :
    symbols.forget.imports = symbols.imports := rfl

@[simp] theorem forget_aliases (symbols : ModuleSymbols) :
    symbols.forget.aliases = symbols.aliases := rfl

@[simp] theorem get?_forget_classes (symbols : ModuleSymbols) (name : String) :
    symbols.forget.classes.get? name = (symbols.classes.get? name).map ClassSymbol.forget :=
  Table.get?_map ..

@[simp] theorem specialForm?_forget (symbols : ModuleSymbols) (dotted : String) :
    symbols.forget.specialForm? dotted = symbols.specialForm? dotted := by
  simp only [specialForm?, forget, Table.contains_map]

end ModuleSymbols

namespace Oracle

@[simp] theorem host_forget (oracle : Oracle) : oracle.forget.host = oracle.host.forget := rfl

theorem projectTable?_forget (oracle : Oracle) (moduleName : String) :
    oracle.forget.projectTable? moduleName
      = (oracle.projectTable? moduleName).map ModuleSymbols.forget := by
  unfold projectTable? forget
  cases oracle.project with
  | none => rfl
  | some index => exact Table.get?_map _ index moduleName

theorem symbols_forget (oracle : Oracle) (scope : Scope) :
    oracle.forget.symbols scope = (oracle.symbols scope).forget := by
  cases scope with
  | host => rfl
  | project moduleName =>
    simp only [symbols, projectTable?_forget]
    cases oracle.projectTable? moduleName <;> rfl

@[simp] theorem specialForm?_forget (oracle : Oracle) :
    oracle.forget.specialForm? = oracle.specialForm? :=
  funext fun _ => ModuleSymbols.specialForm?_forget ..

/-! ## Answers -/

theorem bind_map_eq {α β γ δ : Type} {x : Attempt α} {f : α → Attempt γ} {f' : β → Attempt δ}
    {g : α → β} {k : γ → δ} (h : ∀ a, f' (g a) = k <$> f a) : (g <$> x >>= f') = k <$> (x >>= f) := by
  simp [h]

theorem mapM_map_eq {α β γ : Type} {f : α → Attempt β} {f' : α → Attempt γ} {k : β → γ}
    (h : ∀ a, f' a = k <$> f a) (xs : List α) : xs.mapM f' = List.map k <$> xs.mapM f := by
  induction xs with
  | nil => rfl
  | cons x rest ih => simp [List.mapM_cons, h, ih]

theorem foldlM_map_eq {α β γ : Type} {f : β → α → Attempt β} {f' : γ → α → Attempt γ} {k : β → γ}
    (h : ∀ b a, f' (k b) a = k <$> f b a) (xs : List α) (start : β) :
    xs.foldlM f' (k start) = k <$> xs.foldlM f start := by
  induction xs generalizing start with
  | nil => rfl
  | cons x rest ih => simp [List.foldlM_cons, h, ih]

theorem mapM_id_forget (members : List (Option ResolvedType)) :
    (members.map (Option.map ResolvedType.forget)).mapM id
      = (members.mapM id).map (List.map ResolvedType.forget) := by
  induction members with
  | nil => rfl
  | cons member rest ih =>
    cases member with
    | none => rfl
    | some t =>
      simp only [List.map_cons, List.mapM_cons, ih]
      cases rest.mapM id <;> rfl

/-- One family of answers is the other without the member names. -/
structure Forgets (next forgetful : Resolver) : Prop where
  resolve (scope seen e) : forgetful.resolve scope seen e
    = Option.map ResolvedType.forget <$> next.resolve scope seen e
  resolveLiteral (scope seen e) : forgetful.resolveLiteral scope seen e
    = Option.map ResolvedType.forget <$> next.resolveLiteral scope seen e
  resolveDotted (scope seen dotted) : forgetful.resolveDotted scope seen dotted
    = Option.map ResolvedType.forget <$> next.resolveDotted scope seen dotted
  resolveName (scope seen dotted) : forgetful.resolveName scope seen dotted
    = Option.map ResolvedType.forget <$> next.resolveName scope seen dotted
  resolveExternal (seen origin name spelling) : forgetful.resolveExternal seen origin name spelling
    = Option.map ResolvedType.forget <$> next.resolveExternal seen origin name spelling
  isEnumClass (scope seen className) :
    forgetful.isEnumClass scope seen className = next.isEnumClass scope seen className

theorem bareSpecial_forget (special : String) :
    (bareSpecial special).map ResolvedType.forget = bareSpecial special := by
  unfold bareSpecial ResolvedType.builtin
  split
  · rfl
  split
  · rfl
  split
  · rfl
  split <;> rfl

theorem classType_forget (symbols : ModuleSymbols) (found : ClassSymbol)
    (spelling : Option String) (isEnum : Bool) :
    classType symbols.forget found.forget spelling isEnum
      = (classType symbols found spelling isEnum).forget := by
  cases isEnum <;> rfl

theorem respelled_forget (spelling : Option String) (t : ResolvedType) :
    respelled spelling t.forget = (respelled spelling t).forget := by
  cases t with
  | named t =>
    simp only [ResolvedType.forget, respelled, NamedType.forget_isBuiltin]
    split <;> rfl
  | _ => exact ResolvedType.unspelled_forget _

theorem classKey_forget (symbols : ModuleSymbols) (className : String) :
    classKey symbols.forget className = classKey symbols className := rfl

theorem bareAlias?_forget (symbols : ModuleSymbols) (head : String) (rest : List String) :
    bareAlias? symbols.forget head rest = bareAlias? symbols head rest := rfl

@[simp] theorem map_reached {α β : Type} (f : α → β) (x : Except Fault α) :
    f <$> reached x = reached (f <$> x) := by
  cases x <;> rfl

section

variable {oracle : Oracle} {next forgetful : Resolver} (h : Forgets next forgetful)
include h

theorem stepDotted_forget (scope : Scope) (seen : List Key) (dotted : String) :
    oracle.forget.stepDotted forgetful scope seen dotted
      = Option.map ResolvedType.forget <$> oracle.stepDotted next scope seen dotted := by
  unfold stepDotted
  rw [symbols_forget, ModuleSymbols.specialForm?_forget]
  cases (oracle.symbols scope).specialForm? dotted with
  | none => exact h.resolveName ..
  | some special =>
    rw [map_reached]
    exact congrArg (fun t => reached (.ok t)) (bareSpecial_forget special).symm

theorem stepName_forget (scope : Scope) (seen : List Key) (dotted : String) :
    oracle.forget.stepName forgetful scope seen dotted
      = Option.map ResolvedType.forget <$> oracle.stepName next scope seen dotted := by
  unfold stepName
  simp only [symbols_forget, ModuleSymbols.forget_moduleName, ModuleSymbols.forget_imports,
    ModuleSymbols.get?_forget_classes, bareAlias?_forget]
  split
  · rfl
  cases dotPieces dotted with
  | nil => rfl
  | cons head rest =>
    dsimp only
    cases (oracle.symbols scope).classes.get? head with
    | some found =>
      dsimp only [Option.map_some]
      split
      · rw [h.isEnumClass]
        simp [classType_forget]
      · rfl
    | none =>
      dsimp only [Option.map_none]
      cases bareAlias? (oracle.symbols scope) head rest with
      | some value =>
        dsimp only
        split
        · rfl
        · exact h.resolve ..
      | none =>
        dsimp only
        cases (oracle.symbols scope).imports.get? head with
        | some binding =>
          dsimp only
          cases importTarget? binding rest with
          | some target => exact h.resolveExternal ..
          | none => rfl
        | none =>
          dsimp only
          split <;> rfl

theorem stepExternal_forget (seen : List Key) (origin name : String) (spelling : Option String) :
    oracle.forget.stepExternal forgetful seen origin name spelling
      = Option.map ResolvedType.forget <$> oracle.stepExternal next seen origin name spelling := by
  unfold stepExternal
  simp only [projectTable?_forget]
  split
  · rw [map_reached]
    exact congrArg (fun t => reached (.ok t)) (bareSpecial_forget name).symm
  split
  · split <;> rfl
  split
  · rfl
  cases oracle.projectTable? origin with
  | none => rfl
  | some external =>
    dsimp only [Option.map_some]
    simp only [ModuleSymbols.forget_aliases, ModuleSymbols.forget_imports,
      ModuleSymbols.get?_forget_classes]
    split
    · rfl
    cases external.classes.get? name with
    | some found =>
      dsimp only [Option.map_some]
      rw [h.isEnumClass]
      simp [classType_forget]
    | none =>
      dsimp only [Option.map_none]
      cases external.aliases.get? name with
      | some value =>
        dsimp only
        rw [h.resolve]
        exact bind_map_eq fun found => by
          cases found <;> simp [ResolvedType.unspelled_forget]
      | none =>
        dsimp only
        cases external.imports.get? name with
        | some binding =>
          dsimp only
          rw [h.resolveName]
          exact bind_map_eq fun found => by cases found <;> simp [respelled_forget]
        | none => rfl

theorem stepEnumClass_forget (scope : Scope) (seen : List Key) (className : String) :
    oracle.forget.stepEnumClass forgetful scope seen className
      = oracle.stepEnumClass next scope seen className := by
  unfold stepEnumClass
  simp only [symbols_forget, ModuleSymbols.get?_forget_classes, classKey_forget]
  cases (oracle.symbols scope).classes.get? className with
  | none => rfl
  | some found =>
    dsimp only [Option.map_some]
    split
    · rfl
    change List.foldlM _ false found.bases = _
    congr
    funext isEnum base
    split
    · rfl
    rw [h.resolveName]
    simp only [bind_map_left]
    congr
    funext resolved
    cases resolved with
    | none => rfl
    | some t => cases t <;> rfl

theorem stepLiteral_forget (scope : Scope) (seen : List Key) (e : Expr) :
    stepLiteral forgetful scope seen e
      = Option.map ResolvedType.forget <$> stepLiteral next scope seen e := by
  unfold stepLiteral
  split
  · rfl
  rw [map_bind]
  congr
  funext value
  cases value with
  | some value => rfl
  | none =>
    dsimp only
    cases splitMember? e.dottedName with
    | none => rfl
    | some found =>
      dsimp only
      rw [h.resolveName]
      refine bind_map_eq fun owner => ?_
      cases owner with
      | none => rfl
      | some t =>
        cases t with
        | named t =>
          simp only [Option.map_some, ResolvedType.forget, NamedType.forget_isEnumeration]
          split <;> rfl
        | _ => rfl

theorem addLiteral_forget (scope : Scope) (seen : List Key)
    (before? : Option (List ResolvedType)) (member : Expr) :
    addLiteral forgetful scope seen (before?.map (List.map ResolvedType.forget)) member
      = Option.map (List.map ResolvedType.forget) <$> addLiteral next scope seen before? member := by
  cases before? with
  | none => rfl
  | some found =>
    simp only [addLiteral, Option.map_some]
    rw [h.resolveLiteral]
    refine bind_map_eq fun t => ?_
    cases t <;> simp

theorem stepResolve_forget (scope : Scope) (seen : List Key) (e : Expr) :
    oracle.forget.stepResolve forgetful scope seen e
      = Option.map ResolvedType.forget <$> oracle.stepResolve next scope seen e := by
  unfold stepResolve
  simp only [symbols_forget, ModuleSymbols.specialForm?_forget]
  split
  case h_1 => exact h.resolve ..
  case h_2 => rfl
  case h_3 => exact h.resolveDotted ..
  case h_4 => exact h.resolveDotted ..
  case h_5 =>
    rw [h.resolve, h.resolve]
    refine bind_map_eq fun s => bind_map_eq fun t => ?_
    cases s with
    | none => rfl
    | some s =>
      cases t with
      | none => rfl
      | some t => exact congrArg (fun t => reached (.ok (some t))) (ResolvedType.ofMembers_forget [s, t])
  case h_6 owner _ entries _ =>
    cases (oracle.symbols scope).specialForm? owner.dottedName with
    | none => exact h.resolve ..
    | some special =>
      dsimp only
      cases Entry.indices entries with
      | nil => rfl
      | cons first rest =>
        dsimp only
        split
        · exact h.resolve ..
        split
        · rw [h.resolve]
          refine bind_map_eq fun t => ?_
          cases t <;> rfl
        split
        · split
          · rw [h.resolve]
            refine bind_map_eq fun t => ?_
            cases t <;> rfl
          · rfl
        split
        · rfl
        split
        · rw [h.resolve]
          refine bind_map_eq fun t => ?_
          cases t with
          | none => rfl
          | some t =>
            exact congrArg (fun t => reached (.ok (some t))) (ResolvedType.ofMembers_forget [t, .none])
        split
        · rw [mapM_map_eq fun member => h.resolve scope seen member]
          refine bind_map_eq fun members => ?_
          rw [mapM_id_forget]
          cases members.mapM id with
          | none => rfl
          | some members =>
            exact congrArg (fun t => reached (.ok (some t))) (ResolvedType.ofMembers_forget members)
        split
        · have hfold := foldlM_map_eq (addLiteral_forget h scope seen) (first :: rest) (some [])
          simp only [Option.map_some, List.map_nil] at hfold
          rw [hfold]
          refine bind_map_eq fun members => ?_
          cases members with
          | none => rfl
          | some members =>
            exact congrArg (fun t => reached (.ok (some t))) (ResolvedType.ofMembers_forget members)
        split <;> rfl
  case h_7 =>
    simp only [apply_ite (Functor.map (Option.map ResolvedType.forget))]
    rfl
  case h_8 => rfl
  case h_9 e _ _ _ _ _ _ _ _ =>
    rw [map_bind]
    congr
    funext text
    cases text with
    | none => rfl
    | some text =>
      dsimp only
      rw [map_bind]
      congr
      funext inner
      cases inner with
      | none => rfl
      | some inner => exact h.resolve ..

end

theorem within_forget (oracle : Oracle) (depth : Nat) :
    Forgets (oracle.within depth) (oracle.forget.within depth) := by
  induction depth with
  | zero => constructor <;> intros <;> rfl
  | succ depth ih =>
    exact
      { resolve := stepResolve_forget ih
        resolveLiteral := stepLiteral_forget ih
        resolveDotted := stepDotted_forget ih
        resolveName := stepName_forget ih
        resolveExternal := stepExternal_forget ih
        isEnumClass := stepEnumClass_forget ih }

theorem resolve_forget (oracle : Oracle) (scope : Scope) (seen : List Key) (e : Expr) :
    oracle.forget.resolve scope seen e
      = Option.map ResolvedType.forget <$> oracle.resolve scope seen e := by
  -- a depth that both oracles can do with
  let depth := oracle.reserve seen + oracle.forget.reserve seen + e.weight + 6
  have hforgetful := (adequate_within oracle.forget depth).resolve scope seen e (by omega)
  have hanswer := (adequate_within oracle depth).resolve scope seen e (by omega)
  rw [(within_forget oracle depth).resolve, hanswer, map_reached] at hforgetful
  exact (Option.some.inj hforgetful).symm

theorem typeOf_forget (oracle : Oracle) (e : Expr) :
    oracle.forget.typeOf e = Option.map ResolvedType.forget <$> oracle.typeOf e :=
  oracle.resolve_forget .host [] e

end Oracle
end ModelMetadata
