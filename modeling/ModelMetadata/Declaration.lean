import ModelMetadata.Oracle

/-!
Declarations of properties. A declaration is an annotated target of a class body or a member of an
inline shape. Its annotation may be wrapped: metadata entries become the markers of the property,
the other wrappers say whether it must be present and whether it belongs to the class. Quoted layers
are read as if they stood without quotes.
-/
set_option autoImplicit false
namespace ModelMetadata

open Source

structure Declaration where
  /-- The identifier; computed targets and members without a text for a key have none. -/
  name : Option String
  typeHint : Expr
  /-- What is assigned in the declaration. -/
  value : Option Expr := none
  /-- The text of the string statement that follows. -/
  docstring : Option String := none
  /-- The texts of the documenting comments directly above. -/
  comments : List String := []
  /-- Whether the property may be absent when its annotation does not say. -/
  optionalByDefault : Bool := false
deriving Inhabited

/-! ## Wrappers -/

/-- An annotation without its wrappers, and what they said. -/
structure Unwrapped where
  type : Expr
  /-- Metadata entries, those of the outermost wrapper first. -/
  markers : List Expr := []
  /-- What the outermost wrapper about presence says. -/
  optional : Option Bool := none
  classVar : Bool := false
deriving Inhabited

def Unwrapped.isRequired (found : Unwrapped) (optionalByDefault : Bool) : Bool :=
  !found.optional.getD optionalByDefault

def classVarName : String := "ClassVar"

/-- What one more wrapper with its metadata adds; a name that wraps nothing adds no layer. -/
def Unwrapped.wrappedBy? (found : Unwrapped) (wrapper : String) (metadata : List Expr) :
    Option Unwrapped :=
  if wrapper == "Annotated" then some { found with markers := found.markers ++ metadata }
  else if wrapper == "NotRequired" then
    some { found with optional := some (found.optional.getD true) }
  else if wrapper == "Required" then
    some { found with optional := some (found.optional.getD false) }
  else if wrapper == classVarName then some { found with classVar := true }
  else if wrapper == "Final" || wrapper == "ReadOnly" then some found
  else none

/-- The name under which an expression may be a wrapper: its special form, else its last
identifier. -/
def Oracle.wrapperName (oracle : Oracle) (e : Expr) : String :=
  (oracle.specialForm? e).getD e.lastName

namespace Source

/-- A subscript that has indices: its owner, its first index and the others. -/
def Expr.indexed? (e : Expr) :
    Option (Expr × { first : Expr // first.weight < e.weight } × List Expr) :=
  match h : e.bare with
  | .subscript owner _ entries _ =>
    match hi : Entry.indices entries with
    | [] => none
    | first :: rest =>
      have hw : first.weight < e.weight :=
        Nat.lt_of_lt_of_le (Expr.weight_lt_subscript (hi ▸ List.mem_cons_self))
          (h ▸ e.weight_bare_le)
      some (owner, ⟨first, hw⟩, rest)
  | _ => none

def Expr.isSubscript (e : Expr) : Bool :=
  match e.bare with
  | .subscript .. => true
  | _ => false

end Source

/-- Takes layers off the annotation as long as they are quotes or wrappers. -/
def unwrapFrom (oracle : Oracle) (found : Unwrapped) : Except Fault Unwrapped := do
  match ← stringValue found.type with
  | some text =>
    match ← Oracle.quoted? found.type text with
    | some ⟨inner, _⟩ => unwrapFrom oracle { found with type := inner }
    | none => return found
  | none =>
    match found.type.indexed? with
    | some (owner, ⟨first, _⟩, metadata) =>
      match found.wrappedBy? (oracle.wrapperName owner) metadata with
      | some layer => unwrapFrom oracle { layer with type := first }
      | none => return found
    | none =>
      if found.type.isSubscript then return found
      else
        return { found with
          classVar := found.classVar || oracle.wrapperName found.type == classVarName }
termination_by found.type.weight

def Oracle.unwrap (oracle : Oracle) (typeHint : Expr) : Except Fault Unwrapped :=
  unwrapFrom oracle { type := typeHint }

theorem weight_of_unwrapFrom {oracle : Oracle} {found result : Unwrapped}
    (h : unwrapFrom oracle found = .ok result) : result.type.weight ≤ found.type.weight := by
  induction hn : found.type.weight using Nat.strongRecOn generalizing found with
  | ind n ih =>
    subst hn
    rw [unwrapFrom] at h
    obtain ⟨text?, -, h⟩ := bind_eq_ok.1 h
    cases text? with
    | some text =>
      obtain ⟨inner?, -, h⟩ := bind_eq_ok.1 h
      split at h
      · rename_i inner hlt
        exact Nat.le_of_lt (Nat.lt_of_le_of_lt (ih _ hlt h rfl) hlt)
      · cases h; exact Nat.le_refl _
    | none =>
      dsimp only at h
      split at h
      · rename_i owner first hlt metadata _
        split at h
        · exact Nat.le_of_lt (Nat.lt_of_le_of_lt (ih _ hlt h rfl) hlt)
        · cases h; exact Nat.le_refl _
      · split at h <;> cases h <;> exact Nat.le_refl _

theorem Oracle.weight_unwrap_le {oracle : Oracle} {typeHint : Expr} {result : Unwrapped}
    (h : oracle.unwrap typeHint = .ok result) : result.type.weight ≤ typeHint.weight :=
  weight_of_unwrapFrom h

/-! ## Markers -/

/-- The first marker, called or not, whose last identifier is one of some names. -/
def findMarker? (markers : List Expr) (names : List String) : Option Expr :=
  markers.find? fun marker => names.contains marker.lastName

namespace Source

def Expr.arguments (e : Expr) : List Entry :=
  match e.bare with
  | .call _ _ entries _ => entries
  | _ => []

def Expr.positionalArguments (e : Expr) : List Expr := Entry.positional e.arguments

def Expr.keywordArguments (e : Expr) : List (String × Expr) := Entry.keywords e.arguments

def Expr.isEllipsis (e : Expr) : Bool :=
  match e.bare with
  | .ellipsis => true
  | _ => false

def Expr.callee? (e : Expr) : Option Expr :=
  match e.bare with
  | .call callee _ _ _ => some callee
  | _ => none

end Source

/-! ## Defaults -/

/-- The default that the arguments of a field declaration give: the keyword decides, else the first
positional argument; an ellipsis is none. -/
def fieldDefault? (call : Expr) : Option Expr :=
  match call.keywordArguments.find? fun (keyword, _) => keyword == "default" with
  | some (_, value) => if value.isEllipsis then none else some value
  | none => call.positionalArguments.head?.filter fun value => !value.isEllipsis

/-- The default that an assigned value stands for: the value of a cast, what a field declaration
gives, or the value itself. -/
def Oracle.defaultOf? (oracle : Oracle) (value : Expr) : Option Expr :=
  match value.callee? with
  | none => some value
  | some callee =>
    let name := oracle.wrapperName callee
    if name == "cast" then
      match value.positionalArguments with
      | [_, inner] => some inner
      | _ => some value
    else if name == "field" || name == "Field" then fieldDefault? value
    else some value

end ModelMetadata
