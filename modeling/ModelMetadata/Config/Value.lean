import ModelMetadata.Number.Binary64
import ModelMetadata.Path

/-!
Values that options are given as: by a configuration file, by a caller, or by a command line.
-/
set_option autoImplicit false
namespace ModelMetadata

open Number

inductive ConfigValue where
  | none
  | bool (value : Bool)
  | int (value : Int)
  | float (value : Binary64)
  | text (value : String)
  /-- A path that is no longer a text. -/
  | path (value : Path)
  /-- A date, a time or both, as written. -/
  | moment (text : String)
  | array (items : List ConfigValue)
  | table (entries : List (String × ConfigValue))

instance : Inhabited ConfigValue := ⟨.none⟩

def ConfigValue.isNone : ConfigValue → Bool
  | .none => true
  | _ => false

end ModelMetadata
