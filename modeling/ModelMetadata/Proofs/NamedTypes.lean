import ModelMetadata.Descriptor.Assembly
import ModelMetadata.Proofs.NamedTables
import ModelMetadata.Proofs.Resolution
import ModelMetadata.Proofs.TypeParts

/-!
Names of the types that are found. Where the tables of the oracle are those of modules that were read, a
type that an annotation of such a module denotes is a builtin type or has a name of identifiers, and so
have all types in it. That holds of every answer of a resolver, call by call.
-/
set_option autoImplicit false
namespace ModelMetadata

open Source Oracle

/-! ## Types -/

structure NamedType.WellNamed (t : NamedType) : Prop where
  builtin (h : t.isBuiltin = true) : t.name ∈ builtinTypes
  other (h : t.isBuiltin = false) : IsDottedName t.name

inductive ResolvedType.WellNamed : ResolvedType → Prop where
  | named {t : NamedType} (h : t.WellNamed) : WellNamed (.named t)
  | array {element : ResolvedType} (h : element.WellNamed) : WellNamed (.array element)
  | literal {value : Primitive} {base : NamedType} (h : base.WellNamed) :
    WellNamed (.literal value base)
  | enumMember {owner : NamedType} {member : String} (h : owner.WellNamed) :
    WellNamed (.enumMember owner member)
  | union {members : List ResolvedType} (h : ∀ t ∈ members, t.WellNamed) : WellNamed (.union members)
  | none : WellNamed .none

namespace NamedType.WellNamed

theorem of_builtin {name : String} (h : name ∈ builtinTypes) : (NamedType.builtin name).WellNamed where
  builtin _ := h
  other hother := by cases hother

theorem of_name {t : NamedType} (hkind : t.isBuiltin = false) (h : IsDottedName t.name) :
    t.WellNamed where
  builtin hbuiltin := by
    rw [hkind] at hbuiltin
    cases hbuiltin
  other _ := h

end NamedType.WellNamed

theorem ResolvedType.wellNamed_iff_each {t : ResolvedType} :
    t.WellNamed ↔ t.Each NamedType.WellNamed NamedType.WellNamed := by
  constructor
  · intro h
    induction h with
    | named h => exact .named h
    | array _ ih => exact .array ih
    | literal h => exact .literal h
    | enumMember h => exact .enumMember h
    | union _ ih => exact .union ih
    | none => exact .none
  · intro h
    induction h with
    | named h => exact .named h
    | array _ ih => exact .array ih
    | literal h => exact .literal h
    | enumMember h => exact .enumMember h
    | union _ ih => exact .union ih
    | none => exact .none

theorem NamedType.WellNamed.spelled {s : NamedType} (h : s.WellNamed) (spelling : Option String) :
    (if s.isBuiltin then s else { s with spelling }).WellNamed := by
  split
  · exact h
  · exact ⟨h.builtin, h.other⟩

namespace ResolvedType.WellNamed

variable {t : ResolvedType} {members : List ResolvedType}

theorem builtin {name : String} (h : name ∈ builtinTypes) : (ResolvedType.builtin name).WellNamed :=
  .named (.of_builtin h)

theorem ofMembers (h : ∀ t ∈ members, t.WellNamed) : (ResolvedType.ofMembers members).WellNamed :=
  wellNamed_iff_each.2 (.ofMembers fun t ht => wellNamed_iff_each.1 (h t ht))

theorem unspelled (h : t.WellNamed) : t.unspelled.WellNamed :=
  wellNamed_iff_each.2 ((wellNamed_iff_each.1 h).unspelled fun _ hs => hs.spelled Option.none)

theorem respelled (h : t.WellNamed) (spelling : Option String) : (respelled spelling t).WellNamed :=
  wellNamed_iff_each.2 ((wellNamed_iff_each.1 h).respelled (fun _ hs => hs.spelled Option.none)
    fun _ hs => hs.spelled spelling)

/-- A type is referred to by a well named one. -/
theorem reference (h : t.WellNamed) {s : NamedType} (hs : t.reference.named = some s) :
    s.WellNamed :=
  or_self_iff.1 ((wellNamed_iff_each.1 h).reference hs)

theorem propertyDomain? (h : t.WellNamed) {domain : ResolvedType} {isArray : Bool}
    (hdomain : t.propertyDomain? = some (domain, isArray)) : domain.WellNamed :=
  wellNamed_iff_each.2 ((wellNamed_iff_each.1 h).propertyDomain? hdomain)

end ResolvedType.WellNamed

theorem wellNamed_bareSpecial {special : String} {t : ResolvedType}
    (h : bareSpecial special = some t) : t.WellNamed := by
  unfold bareSpecial at h
  split at h
  · exact Option.some.inj h ▸ .builtin (by decide)
  split at h
  · exact Option.some.inj h ▸ .builtin (by decide)
  split at h
  · exact Option.some.inj h ▸ .builtin (by decide)
  split at h
  · rename_i hbuiltin
    exact Option.some.inj h ▸ .builtin (List.contains_iff_mem.1 hbuiltin)
  · cases h

end ModelMetadata
