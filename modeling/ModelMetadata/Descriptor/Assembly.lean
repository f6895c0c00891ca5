import ModelMetadata.Descriptor.Documentation
import ModelMetadata.Descriptor.Domain
import ModelMetadata.Descriptor.Validation
import ModelMetadata.Shape

/-!
Assembly of descriptors. The entries come in a fixed order: what a seed marker gives, whether the
property must be present, its type, its documentation, its default, its enumerable domain and its
validation. No derived entry has a key that the seed names, and of two derived entries with one key
the first is kept.

The type of an inline shape holds the descriptors of its members, so types and descriptors are
described together. Members and branches weigh less than the annotation they are part of.
-/
set_option autoImplicit false
namespace ModelMetadata

open Source

def hideMarker : String := "ApiHideProperty"

def seedMarker : String := "ApiProperty"

def typeKey : String := "type"

def nullableKey : String := "nullable"

def requiredKey : String := "required"

def defaultKey : String := "default"

/-! ## Null branches -/

/-- Whether a branch of a union is `None`: by name, quoted, or as the type of it. -/
def Oracle.isNullBranch (oracle : Oracle) (e : Expr) : Except Fault Bool :=
  if e.isName "None" then .ok true
  else do
    if (← stringValue e) == some "None" then return true
    else
      match e.callee?.bind oracle.specialForm?, e.arguments with
      | some "type", [argument] =>
        return (argument.item.argument.map fun e => e.isName "None").getD false
      | _, _ => return false

/-- The branches that are not `None`. -/
def Oracle.nonNull (oracle : Oracle) : List Expr → Except Fault (List Expr)
  | [] => .ok []
  | branch :: rest => do
    let isNull ← oracle.isNullBranch branch
    let kept ← oracle.nonNull rest
    return if isNull then kept else branch :: kept

theorem Oracle.mem_of_mem_nonNull {oracle : Oracle} {branches kept : List Expr}
    (h : oracle.nonNull branches = .ok kept) {branch : Expr} (hm : branch ∈ kept) :
    branch ∈ branches ∧ branch ≠ impliedNone := by
  induction branches generalizing kept with
  | nil => cases h; simp at hm
  | cons first rest ih =>
    obtain ⟨isNull, hnull, h⟩ := bind_eq_ok.1 h
    obtain ⟨others, hothers, h⟩ := bind_eq_ok.1 h
    cases h
    cases isNull with
    | true => exact (ih hothers hm).imp_left (List.mem_cons_of_mem _)
    | false =>
      rcases List.mem_cons.1 hm with rfl | hm
      · refine ⟨List.mem_cons_self, ?_⟩
        rintro rfl
        simp [Oracle.isNullBranch, impliedNone, Expr.isName, Expr.bare] at hnull
      · exact (ih hothers hm).imp_left (List.mem_cons_of_mem _)

/-! ## Seeds -/

def Unwrapped.seed (found : Unwrapped) : List (String × Expr) :=
  ((findMarker? found.markers [seedMarker]).map Expr.keywordArguments).getD []

def seedEntries (site : Site) (subject : String) : List (String × Expr) → Describe Descriptor
  | [] => return []
  | (key, e) :: rest => do
    if ← site.isCopyable e then
      return (key, e) :: (← seedEntries site subject rest)
    else
      site.note ("Skipping seeded \"" ++ key ++ "\" value for " ++ subject ++ notReferenceable e)
      seedEntries site subject rest

/-! ## Defaults -/

def defaultEntries (site : Site) (subject : String) (existing : List String)
    (value : Option Expr) : Describe Descriptor := do
  if existing.contains defaultKey then return []
  else
    match value.bind site.oracle.defaultOf? with
    | none => return []
    | some initial =>
      let copied ← Describe.ofExcept (toCopy initial)
      if ← site.isCopyable copied then return [(defaultKey, copied)]
      else
        site.note ("Skipping registering default value for " ++ subject ++ notReferenceable copied)
        return []

/-! ## Skipped properties -/

def skipReason (declaration : Declaration) (found : Unwrapped) : Option String :=
  if declaration.name.isNone then some "its name is computed"
  else if (findMarker? found.markers [hideMarker]).isSome then
    some ("it is marked with " ++ hideMarker)
  else if found.classVar then some "it is a ClassVar"
  else none

/-! ## Types and descriptors -/

mutual

def typeEntries (site : Site) (existing : List String) (e : Expr) : Describe Descriptor :=
  if existing.contains typeKey then return []
  else
    match h : site.oracle.shape e with
    | .error fault => throw fault
    | .ok (.inline members) => do
      let entries ← members.attach.mapM fun ⟨member, hm⟩ => do
        match member.name with
        | none => return none
        | some name =>
          match hu : site.oracle.unwrap member.typeHint with
          | .error fault => throw fault
          | .ok found =>
            if (skipReason member found).isSome then return none
            else
              have := Nat.lt_of_le_of_lt (Oracle.weight_unwrap_le hu)
                (Oracle.weight_lt_of_inline h hm)
              return some (name, (← assembleUnwrapped site member found).display)
      return [(typeKey, Expr.thunk (Descriptor.display (entries.filterMap id)))]
    | .ok (.union branches) =>
      match hn : site.oracle.nonNull branches with
      | .error fault => throw fault
      | .ok [branch] => do
        have := (Oracle.weight_lt_of_union h
          (Oracle.mem_of_mem_nonNull hn List.mem_cons_self).1).resolve_right
          (Oracle.mem_of_mem_nonNull hn List.mem_cons_self).2
        let entries ← typeEntries site existing branch
        if branches.length == 1 then return entries
        else return entries ++ [(nullableKey, boolLiteral true)]
      | .ok _ => return []
    | .ok (.named core) => do
      let t ← Describe.ofExcept (site.oracle.typeOf core)
      let reference := (t.map ResolvedType.reference).getD {}
      match reference.name.filter fun name => !name.isEmpty with
      | none => return []
      | some _ =>
        let e ← reference.refer site.options.readonly site.host
        return [(typeKey, Expr.thunk e)]
termination_by 2 * e.weight

def assembleUnwrapped (site : Site) (declaration : Declaration) (found : Unwrapped) :
    Describe Descriptor := do
  let subject := site.subject declaration.name
  let seed := found.seed
  let existing := seed.map Prod.fst
  let seeded ← seedEntries site subject seed
  let required :=
    if existing.contains requiredKey then []
    else [(requiredKey, boolLiteral (found.isRequired declaration.optionalByDefault))]
  let type ← typeEntries site existing found.type
  let docs ← Describe.ofExcept (documentationEntries site.options declaration existing)
  let default ← defaultEntries site subject existing declaration.value
  let domain ← domainEntries site existing found.type
  let validation ←
    if site.options.classValidatorShim then validationEntries site subject found.markers
    else pure []
  return Descriptor.distinct (seeded ++ required ++ type ++ docs ++ default ++ domain ++ validation)
termination_by 2 * found.type.weight + 1

end

def assemble (site : Site) (declaration : Declaration) : Describe Descriptor := do
  let found ← Describe.ofExcept (site.oracle.unwrap declaration.typeHint)
  assembleUnwrapped site declaration found

end ModelMetadata
