/-!
Floating point numbers of 64 bits as a sign and a magnitude. The magnitude is the bit pattern without
its sign bit, so the order of magnitudes is the order of natural numbers and rounding upwards out of
one binade reaches the next without a special case. Reading a decimal rounds to the nearest number
and a tie to the one with an even last bit; all arithmetic is exact on natural numbers.
-/
set_option autoImplicit false
namespace ModelMetadata.Number

structure Binary64 where
  negative : Bool
  magnitude : Nat
deriving Repr, DecidableEq, Inhabited

namespace Binary64

def infinityMagnitude : Nat := 0x7ff0000000000000

def isInfinite (x : Binary64) : Bool := x.magnitude == infinityMagnitude

def isNaN (x : Binary64) : Bool := infinityMagnitude < x.magnitude

def isFinite (x : Binary64) : Bool := x.magnitude < infinityMagnitude

def isZero (x : Binary64) : Bool := x.magnitude == 0

def zero : Binary64 := ⟨false, 0⟩

def one : Binary64 := ⟨false, 0x3ff0000000000000⟩

def infinity : Binary64 := ⟨false, infinityMagnitude⟩

def notANumber : Binary64 := ⟨false, 0x7ff8000000000000⟩

def neg (x : Binary64) : Binary64 := { x with negative := !x.negative }

def abs (x : Binary64) : Binary64 := { x with negative := false }

/-- Equality as numbers: both zeros are equal, and no NaN equals anything. -/
def equal (x y : Binary64) : Bool :=
  !x.isNaN && !y.isNaN && ((x.isZero && y.isZero) || x == y)

def isBelowZero (x : Binary64) : Bool := x.negative && !x.isZero && !x.isNaN

/-- The integer nearest to a quotient; a tie goes to the even one. -/
def roundQuotient (numerator denominator : Nat) : Nat :=
  let quotient := numerator / denominator
  let twice := 2 * (numerator % denominator)
  if twice < denominator then quotient
  else if denominator < twice then quotient + 1
  else if quotient % 2 == 0 then quotient else quotient + 1

/-- `m * 2 ^ k` over `d`, as a numerator and a denominator. -/
def scaled (m d : Nat) (k : Int) : Nat × Nat :=
  if 0 ≤ k then (m * Nat.pow 2 k.toNat, d) else (m, d * Nat.pow 2 (-k).toNat)

def magnitudeOfQuotient (numerator denominator : Nat) : Nat :=
  let guess : Int := (numerator.log2 : Int) - (denominator.log2 : Int) - 52
  let (n, d) := scaled numerator denominator (-guess)
  -- The guess leaves a significand between half and twice the wanted one.
  let exponent := if n < d * Nat.pow 2 52 then guess - 1 else guess
  let exponent := max exponent (-1074)
  let (n, d) := scaled numerator denominator (-exponent)
  let magnitude := (exponent + 1074).toNat * Nat.pow 2 52 + roundQuotient n d
  min magnitude infinityMagnitude

/-- The nearest number to `digits * 10 ^ exponent`. Exponents that no finite nonzero number has are
not computed with. -/
def ofDecimal (digits : Nat) (exponent : Int) : Binary64 :=
  if digits == 0 then zero
  else
    let size : Int := (Nat.toDigits 10 digits).length
    if 400 < size + exponent then infinity
    else if size + exponent < -400 then zero
    else if 0 ≤ exponent then ⟨false, magnitudeOfQuotient (digits * Nat.pow 10 exponent.toNat) 1⟩
    else ⟨false, magnitudeOfQuotient digits (Nat.pow 10 (-exponent).toNat)⟩

/-- A finite number as its significand and its exponent of two. -/
def decode (x : Binary64) : Nat × Int :=
  let fraction := x.magnitude % Nat.pow 2 52
  let biased : Nat := x.magnitude / Nat.pow 2 52
  if biased == 0 then (fraction, -1074) else (Nat.pow 2 52 + fraction, Int.ofNat biased - 1075)

def isInteger (x : Binary64) : Bool :=
  x.isFinite &&
    (let (significand, exponent) := x.decode
     0 ≤ exponent || significand % Nat.pow 2 (-exponent).toNat == 0)

def twoToThe63 : Binary64 := ofDecimal (Nat.pow 2 63) 0

example : ofDecimal 1 0 = one := by decide +kernel
example : ofDecimal 5 (-324) = ⟨false, 1⟩ := by decide +kernel
example : ofDecimal 2 (-324) = zero := by decide +kernel
example : ofDecimal 17976931348623159 292 = infinity := by decide +kernel

end Binary64
end ModelMetadata.Number
