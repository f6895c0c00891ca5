import ModelMetadata.Fault
import ModelMetadata.Value

/-!
Marker objects: what the entries of an annotation's metadata are when a model runs. A marker keeps
its arguments under the names of its fields. Markers that are alike are equal, but a seed of
descriptor entries is only equal to itself.
-/
set_option autoImplicit false
namespace ModelMetadata

/-- A kind of marker: its fields in order, with the defaults of those that may be left out. A seed
takes any keywords instead. -/
inductive MarkerKind where
  | seed
  | fields (names : List (String × Option Value))

instance : Inhabited MarkerKind := ⟨.seed⟩

def MarkerKind.single (name : String) : MarkerKind := .fields [(name, none)]

def markerKinds : List (String × MarkerKind) :=
  [("ApiProperty", .seed), ("ApiHideProperty", .fields []),
   ("Min", .single "value"), ("Max", .single "value"), ("MinLength", .single "value"),
   ("MaxLength", .single "value"), ("IsPositive", .fields []), ("IsNegative", .fields []),
   ("Length", .fields [("min", none), ("max", some Value.none)]),
   ("Matches", .single "pattern"), ("IsIn", .single "values")]

structure Marker where
  name : String
  fields : List (String × Value)
  /-- Whether it is equal to markers that are alike. -/
  isComparable : Bool
deriving Inhabited

/-- The values of fields: positional arguments first, then keywords, then defaults. -/
def bindFields : List (String × Option Value) → List Value → List (String × Value) →
    Option (List (String × Value))
  | [], [], _ => some []
  | [], _ :: _, _ => none
  | (name, _) :: rest, argument :: arguments, keywords =>
    if (keywords.lookup name).isSome then none
    else (bindFields rest arguments keywords).map ((name, argument) :: ·)
  | (name, default) :: rest, [], keywords =>
    match (keywords.lookup name).or default with
    | some value => (bindFields rest [] keywords).map ((name, value) :: ·)
    | none => none

def MarkerKind.construct (kind : MarkerKind) (name : String) (arguments : List Value)
    (keywords : List (String × Value)) : Except Fault Marker :=
  match kind with
  | .seed =>
    if arguments.isEmpty && (keywords.lookup "self").isNone then .ok ⟨name, keywords, false⟩
    else .error .wrongArguments
  | .fields names =>
    if keywords.all fun (keyword, _) => (names.lookup keyword).isSome then
      match bindFields names arguments keywords with
      | some bound => .ok ⟨name, bound, true⟩
      | none => .error .wrongArguments
    else .error .wrongArguments

def Marker.display (marker : Marker) : String :=
  marker.name ++ "("
    ++ ", ".intercalate (marker.fields.map fun (name, value) => name ++ "=" ++ value.display) ++ ")"

end ModelMetadata
