import ModelMetadata.Journal
import ModelMetadata.Literal
import ModelMetadata.Text.Dotted
import ModelMetadata.Text.Identifier
import ModelMetadata.Types

/-!
References to types. A type that has a printable name is referred to by an expression that finds it
where the metadata is evaluated. In the class's own module that is the spelling bound there, or, when
nothing is bound, an import in place; in the collected module it is a member of the table of imported
modules. Every reference across modules, and every one in the collected module, is recorded.
-/
set_option autoImplicit false
namespace ModelMetadata

open Source

def importsBinding : String := "t"

/-! ## Printable names -/

/-- What a type is called: a printable name and the named type below some levels of arrays. A type
without a printable name is referred to by nothing. -/
structure TypeReference where
  name : Option String := none
  named : Option NamedType := none
  depth : Nat := 0
deriving Repr, DecidableEq, Inhabited

/-- The reference of a type that is printed under its own name. Enumerations have none. -/
def TypeReference.ofNamed (t : NamedType) : TypeReference :=
  if t.isEnumeration then {} else { name := some t.name, named := some t }

/-- The reference of an array of something: the name in brackets. -/
def TypeReference.array (inner : TypeReference) : TypeReference :=
  match inner.name with
  | some name =>
    { name := some ("[" ++ name ++ "]"), named := inner.named, depth := inner.depth + 1 }
  | none => {}

namespace ResolvedType

theorem mem_of_mem_distinct {t : ResolvedType} {members : List ResolvedType}
    (h : t ∈ distinct members) : t ∈ members := by
  suffices ∀ kept : List ResolvedType,
      t ∈ members.foldl (fun kept t => if kept.any fun s => t.same s then kept else kept ++ [t]) kept
        → t ∈ kept ∨ t ∈ members by
    simpa using this [] h
  clear h
  induction members with
  | nil => intro kept h; exact .inl h
  | cons first rest ih =>
    intro kept h
    simp only [List.foldl_cons] at h
    rcases ih _ h with h | h
    · split at h
      · exact .inl h
      · rcases List.mem_append.1 h with h | h
        · exact .inl h
        · exact .inr (by simp_all)
    · exact .inr (List.mem_cons_of_mem _ h)

theorem sizeOf_branch_le {t member : ResolvedType} (h : t ∈ member.branches) :
    sizeOf t ≤ sizeOf member := by
  unfold branches at h
  split at h
  · rename_i members
    have := List.sizeOf_lt_of_mem h
    simp only [union.sizeOf_spec]
    omega
  · simp_all

theorem forall_branches {P : ResolvedType → Prop} {t : ResolvedType} (h : P t)
    (hunion : ∀ members, t = union members → ∀ s ∈ members, P s) : ∀ branch ∈ t.branches, P branch := by
  cases t with
  | union members => exact hunion members rfl
  | _ => exact List.forall_mem_singleton.2 h

/-- The members of a union other than `None`, as one type. -/
def withoutNone? (members : List ResolvedType) : Option ResolvedType :=
  match members.filter fun t => !t.isNone with
  | [] => Option.none
  | rest => some (ofMembers rest)

/-- The one type that stands beside `None` in a union. -/
def onlyBranch? (members : List ResolvedType) :
    Option { t : ResolvedType // sizeOf t < sizeOf (union members) } :=
  match h : distinct ((members.filter fun t => !t.isNone).flatMap branches) with
  | [only] =>
    have hlt : sizeOf only < sizeOf (union members) := by
      have hm := mem_of_mem_distinct (h ▸ List.mem_singleton_self only)
      obtain ⟨member, hmember, hbranch⟩ := List.mem_flatMap.1 hm
      have h1 := sizeOf_branch_le hbranch
      have h2 := List.sizeOf_lt_of_mem (List.mem_filter.1 hmember).1
      simp only [union.sizeOf_spec]
      omega
    some ⟨only, hlt⟩
  | _ => Option.none

def hasBase (base : NamedType) : ResolvedType → Bool
  | .literal _ other => base.same other
  | _ => false

/-- The base that literals have in common; other types have none. -/
def commonBase? (members : List ResolvedType) : Option NamedType :=
  match members with
  | .literal _ base :: rest => if rest.all (hasBase base) then some base else Option.none
  | _ => Option.none

/-- The base of a literal, or of a union of literals that share it. -/
def literalBase? : ResolvedType → Option NamedType
  | .literal _ base => some base
  | .union members => commonBase? members
  | _ => Option.none

def isUnion : ResolvedType → Bool
  | .union _ => true
  | _ => false

/-- The printable reference of a type. Enumerations and their members, `None`, and unions that keep
more than one branch besides `None` have none; literals are named by their base. -/
def reference : ResolvedType → TypeReference
  | .named t => .ofNamed t
  | .literal _ base => .ofNamed base
  | .array element => element.reference.array
  | .enumMember _ _ => {}
  | .none => {}
  | .union members =>
    match literalBase? ((withoutNone? members).getD (.union members)) with
    | some base => .ofNamed base
    | Option.none =>
      match onlyBranch? members with
      | some ⟨only, hlt⟩ =>
        have : sizeOf only < 1 + sizeOf members := by simpa using hlt
        if only.isUnion then {} else only.reference
      | Option.none => {}
termination_by t => sizeOf t

/-! ## Enumerable domains -/

def isEnumeration : ResolvedType → Bool
  | .named t => t.isEnumeration
  | _ => false

/-- Whether a type is a union of `None` and one other type. -/
def isOptional : ResolvedType → Bool
  | .union members => members.length == 2 && members.any isNone
  | _ => false

/-- The element of an array and whether the type is one. -/
def element : ResolvedType → ResolvedType × Bool
  | .array element => (element, true)
  | t => (t, false)

def isLiteral : ResolvedType → Bool
  | .literal _ _ => true
  | _ => false

def hasOwner (owner : NamedType) : ResolvedType → Bool
  | .enumMember other _ => owner.same other
  | _ => false

def commonOwner? (members : List ResolvedType) : Option NamedType :=
  match members with
  | .enumMember owner _ :: rest => if rest.all (hasOwner owner) then some owner else Option.none
  | _ => Option.none

def flatDomain? (t : ResolvedType) : Option ResolvedType :=
  match t with
  | .literal value base => some (.literal value base)
  | .union members =>
    if members.all isLiteral then some (.union members) else (commonOwner? members).map .named
  | _ => Option.none

/-- The enumerable domain that literals make: a literal, a union of literals, or the enumeration
whose members occur. `None` does not count, and arrays keep their level. -/
def domain? : ResolvedType → Option ResolvedType
  | .array element => element.domain?.map .array
  | .union members => (withoutNone? members).bind flatDomain?
  | t => flatDomain? t

end ResolvedType

/-! ## Expressions -/

/-- An identifier as an expression; other texts are none. -/
def nameExpr (text : String) : Except Fault Expr :=
  if Text.isIdentifier text.toList then .ok (.name text) else .error .invalidNode

def memberExpr (owner : Expr) (text : String) : Except Fault Expr :=
  if Text.isIdentifier text.toList then .ok (owner.member text) else .error .invalidNode

def dottedExpr (dotted : String) : Except Fault Expr :=
  match dotPieces dotted with
  | [] => .error .invalidNode
  | first :: rest => do rest.foldlM memberExpr (← nameExpr first)

/-- The text of a reference to a type that is not built in. -/
def NamedType.referenceText (readonly : Bool) (t : NamedType) : String :=
  if readonly then importsBinding ++ "[" ++ Text.quote t.origin ++ "]." ++ t.name
  else
    match t.spelling with
    | some spelling => spelling
    | none =>
      let head := (t.name.toList.takeWhile (· != '.'))
      "__import__(" ++ Text.quote t.origin ++ ", fromlist=[" ++ Text.quote (String.ofList head) ++ "])."
        ++ t.name

/-- The expression that refers to a type from a module, and the record of it. -/
def NamedType.refer (readonly : Bool) (host : String) (t : NamedType) : Describe Expr := do
  if t.isBuiltin then Describe.ofExcept (nameExpr t.name)
  else
    if t.origin != host || readonly then Describe.recordImport t.canonicalName t.origin
    Describe.ofExcept (readExpr (t.referenceText readonly))

def TypeReference.displayedName (reference : TypeReference) : String :=
  match reference.name with
  | some name => Text.display name
  | none => Value.none.display

def nested : Nat → Expr → Expr
  | 0, e => e
  | depth + 1, e => nested depth (Expr.ofList [e])

def TypeReference.refer (readonly : Bool) (host : String) (reference : TypeReference) :
    Describe Expr :=
  match reference.named with
  | some t => nested reference.depth <$> t.refer readonly host
  | none => Describe.ofExcept (.error (.namesNoType reference.displayedName))

def referMember (readonly : Bool) (host : String) (owner : NamedType) (member : String) :
    Describe Expr := do
  let e ← owner.refer readonly host
  Describe.ofExcept (memberExpr e member)

end ModelMetadata
