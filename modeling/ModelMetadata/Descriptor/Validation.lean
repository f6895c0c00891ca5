import ModelMetadata.Descriptor.Basic

/-!
Validation markers. Each row of the table gives the names of a kind of marker and what its first
marker adds to the descriptor. An argument that cannot be copied costs only its own entry.
-/
set_option autoImplicit false
namespace ModelMetadata

open Source

inductive MarkerRule where
  /-- The first argument under a key. -/
  | argument (key : String)
  /-- A fixed number under a key. -/
  | bound (key : String) (value : Int)
  /-- The first argument under one key, the second under another. -/
  | range (lower upper : String)
  /-- The text of a regular expression under a key. -/
  | pattern (key : String)
deriving Repr, DecidableEq, Inhabited

structure MarkerRow where
  names : List String
  rule : MarkerRule
deriving Repr, DecidableEq, Inhabited

/-- The row whose values are copied into the class's own module only. -/
def membershipRow : MarkerRow := ⟨["IsIn"], .argument "enum"⟩

def constraintRows : List MarkerRow :=
  [⟨["Min", "Ge"], .argument "minimum"⟩,
   ⟨["Max", "Le"], .argument "maximum"⟩,
   ⟨["MinLength", "MinLen"], .argument "minLength"⟩,
   ⟨["MaxLength", "MaxLen"], .argument "maxLength"⟩,
   ⟨["IsPositive"], .bound "minimum" 1⟩,
   ⟨["IsNegative"], .bound "maximum" (-1)⟩,
   ⟨["Length", "Len"], .range "minLength" "maxLength"⟩,
   ⟨["Matches"], .pattern "pattern"⟩]

def markerTable (readonly : Bool) : List MarkerRow :=
  if readonly then constraintRows else membershipRow :: constraintRows

/-- The text of a regular expression: a string, or the string that is compiled. -/
def patternText (e : Expr) : Except Fault (Option String) :=
  match e.callee? with
  | some callee =>
    if callee.lastName == "compile" then
      match e.positionalArguments with
      | first :: _ => stringValue first
      | [] => .ok none
    else .ok none
  | none => stringValue e

/-- An argument as it is copied; a note tells why it is not. -/
def copyArgument (site : Site) (subject : String) (e : Expr) : Describe (Option Expr) := do
  let copied ← Describe.ofExcept (toCopy e)
  if ← site.isCopyable copied then return some copied
  else
    site.note ("Skipping validation argument for " ++ subject ++ notReferenceable e)
    return none

def argumentEntry (site : Site) (subject key : String) (argument : Option Expr) :
    Describe Descriptor :=
  match argument with
  | none => return []
  | some e => return ((← copyArgument site subject e).map fun copied => (key, copied)).toList

def MarkerRule.entries (site : Site) (subject : String) (marker : Expr) :
    MarkerRule → Describe Descriptor
  | .argument key => argumentEntry site subject key marker.positionalArguments[0]?
  | .bound key value => do
    let literal ← Describe.ofExcept (Primitive.int value).literal
    return [(key, literal)]
  | .range lower upper => do
    match ← argumentEntry site subject lower marker.positionalArguments[0]? with
    | [] => return []
    | first => return first ++ (← argumentEntry site subject upper marker.positionalArguments[1]?)
  | .pattern key => do
    match marker.positionalArguments[0]? with
    | none => return []
    | some e =>
      let text ← Describe.ofExcept (patternText e)
      return (text.map fun text => (key, textLiteral text)).toList

def MarkerRow.entries (site : Site) (subject : String) (markers : List Expr) (row : MarkerRow) :
    Describe Descriptor :=
  match findMarker? markers row.names with
  | none => return []
  | some marker => row.rule.entries site subject marker

/-- The entries of all markers, in the order of the table. -/
def validationEntries (site : Site) (subject : String) (markers : List Expr) :
    Describe Descriptor := do
  return (← (markerTable site.options.readonly).mapM (MarkerRow.entries site subject markers)).flatten

end ModelMetadata
