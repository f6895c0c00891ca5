import ModelMetadata.Value

/-!
Resolved types: what annotations denote, independent of how they are written. A union holds its
members once each, in the order of declaration; unions of unions are flat.
-/
set_option autoImplicit false
namespace ModelMetadata

inductive TypeKind where
  | builtin
  | plain
  | enumeration
deriving Repr, DecidableEq, Inhabited

structure NamedType where
  name : String
  /-- The module that defines the type. -/
  origin : String
  /-- The text that is bound to the type in the host module, if there is one. -/
  spelling : Option String := none
  kind : TypeKind := .plain
  /-- The member names of an enumeration. They follow from the definition and are no part of the
  type's identity. -/
  members : List String := []
deriving Repr, DecidableEq, Inhabited

def builtinsModule : String := "builtins"

def NamedType.builtin (name : String) : NamedType :=
  { name, origin := builtinsModule, spelling := some name, kind := .builtin }

def NamedType.isBuiltin (t : NamedType) : Bool := t.kind == .builtin

def NamedType.isEnumeration (t : NamedType) : Bool := t.kind == .enumeration

/-- The dotted name of a type with its module in front. -/
def NamedType.canonicalName (t : NamedType) : String := t.origin ++ "." ++ t.name

def NamedType.same (s t : NamedType) : Bool :=
  s.name == t.name && s.origin == t.origin && s.spelling == t.spelling && s.kind == t.kind

inductive ResolvedType where
  | named (type : NamedType)
  | array (element : ResolvedType)
  /-- A single primitive value, with the builtin type it belongs to. -/
  | literal (value : Primitive) (base : NamedType)
  | enumMember (owner : NamedType) (member : String)
  | union (members : List ResolvedType)
  | none

instance : Inhabited ResolvedType := ⟨.none⟩

namespace ResolvedType

def builtin (name : String) : ResolvedType := .named (.builtin name)

mutual

def same : ResolvedType → ResolvedType → Bool
  | .named s, .named t => s.same t
  | .array s, .array t => s.same t
  | .literal x s, .literal y t => x.same y && s.same t
  | .enumMember s x, .enumMember t y => s.same t && x == y
  | .union ss, .union ts => sameAll ss ts
  | .none, .none => true
  | _, _ => false

def sameAll : List ResolvedType → List ResolvedType → Bool
  | [], [] => true
  | s :: ss, t :: ts => s.same t && sameAll ss ts
  | _, _ => false

end

def isNone : ResolvedType → Bool
  | .none => true
  | _ => false

def branches : ResolvedType → List ResolvedType
  | .union members => members
  | t => [t]

/-- Members without repetition, the first of each kept. -/
def distinct (members : List ResolvedType) : List ResolvedType :=
  members.foldl (fun kept t => if kept.any fun s => t.same s then kept else kept ++ [t]) []

/-- The union of some types, or the only type among them. -/
def ofMembers (members : List ResolvedType) : ResolvedType :=
  match distinct (members.flatMap branches) with
  | [only] => only
  | members => .union members

/-- A type as seen from another module, where it has no spelling. -/
def unspelledName (t : NamedType) : NamedType :=
  if t.isBuiltin then t else { t with spelling := Option.none }

mutual

/-- A type found in another module, without the spellings it has there. -/
def unspelled : ResolvedType → ResolvedType
  | .named t => .named (unspelledName t)
  | .array element => .array element.unspelled
  | .enumMember owner member => .enumMember (unspelledName owner) member
  | .union members => .union (unspelledAll members)
  | .literal value base => .literal value base
  | .none => .none

def unspelledAll : List ResolvedType → List ResolvedType
  | [] => []
  | t :: rest => t.unspelled :: unspelledAll rest

end

end ResolvedType
end ModelMetadata
