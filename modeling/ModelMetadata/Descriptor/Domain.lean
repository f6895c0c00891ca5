import ModelMetadata.Descriptor.Basic

/-!
Entries for enumerable domains: an enumeration, one of its members, or the primitives of a literal
type, and whether the property is an array of them. One optional level and one array level around
the domain are taken off, and one more array level around literals.
-/
set_option autoImplicit false
namespace ModelMetadata

open Source

def enumKey : String := "enum"

def isArrayKey : String := "isArray"

namespace ResolvedType

/-- The type beside `None` in an optional type, any other type itself. -/
def withoutOptional (t : ResolvedType) : ResolvedType :=
  match t with
  | .union members => if t.isOptional then (members.find? fun m => !m.isNone).getD t else t
  | t => t

/-- Whether a type is an enumeration or one of the members of one. -/
def isEnumerated : ResolvedType → Bool
  | .named t => t.isEnumeration
  | .enumMember _ _ => true
  | _ => false

/-- The domain of a property's type and whether arrays are around it. -/
def propertyDomain? (t : ResolvedType) : Option (ResolvedType × Bool) :=
  let (t, isArray) := t.withoutOptional.element
  if t.isEnumerated then some (t, isArray)
  else t.domain?.map fun domain => (domain.element.1, isArray || domain.element.2)

def literalValue? : ResolvedType → Option Primitive
  | .literal value _ => some value
  | _ => Option.none

def literalValues? : ResolvedType → Option (List Primitive)
  | .literal value _ => some [value]
  | .union members => members.mapM literalValue?
  | _ => Option.none

end ResolvedType

def domainExpr (site : Site) (domain : ResolvedType) : Describe (Option Expr) := do
  match domain with
  | .named t => if t.isEnumeration then return some (← site.refer t) else return none
  | .enumMember owner member =>
    return some (← referMember site.options.readonly site.host owner member)
  | domain =>
    match domain.literalValues? with
    | some values =>
      return some (Expr.ofList (← Describe.ofExcept (values.mapM Primitive.literal)))
    | none => return none

def domainEntries (site : Site) (existing : List String) (e : Expr) : Describe Descriptor := do
  if existing.contains enumKey then return []
  else
    let t ← Describe.ofExcept (site.oracle.typeOf e)
    match t.bind ResolvedType.propertyDomain? with
    | none => return []
    | some (domain, isArray) =>
      match ← domainExpr site domain with
      | none => return []
      | some value =>
        return (enumKey, value) :: if isArray then [(isArrayKey, boolLiteral true)] else []

end ModelMetadata
