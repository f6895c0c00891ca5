import ModelMetadata.Text.Lines

/-!
Dotted names: texts whose pieces are separated by single dots.
-/
set_option autoImplicit false
namespace ModelMetadata

def dotPieces (text : String) : List String :=
  (Text.splitAt '.' text.toList).map String.ofList

def joinDots (pieces : List String) : String := ".".intercalate pieces

end ModelMetadata
