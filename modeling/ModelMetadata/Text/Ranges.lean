/-!
Character classes as tables of inclusive ranges of code points.
-/
set_option autoImplicit false
namespace ModelMetadata.Text

def inRanges (ranges : List (Nat × Nat)) (c : Char) : Bool :=
  ranges.any fun (low, high) => low ≤ c.toNat && c.toNat ≤ high

end ModelMetadata.Text
