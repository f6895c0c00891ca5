import ModelMetadata.Number.Binary64

/-!
The shortest decimal of a floating point number: of the decimals that round to it, one with the
fewest digits, and of those the nearest. The search tries 1, 2, ... digits and tests the two
neighbours of the number on each decimal grid, so it needs no table and no approximation.
-/
set_option autoImplicit false
namespace ModelMetadata.Number

/-- A decimal `digits * 10 ^ exponent`. -/
structure Decimal where
  digits : Nat
  exponent : Int
deriving Repr, DecidableEq, Inhabited

namespace Binary64

/-- The reals that round to a number, in quarters of its last place: the ends of the interval around
four times the significand, and whether they belong to it. -/
def neighbourhood (significand : Nat) (exponent : Int) : Nat × Nat × Bool :=
  let below := if significand == Nat.pow 2 52 && exponent != -1074 then 1 else 2
  (4 * significand - below, 4 * significand + 2, significand % 2 == 0)

/-- Whether `digits * 10 ^ k` lies between `low` and `high` quarters of `2 ^ exponent`. -/
def liesBetween (low high : Nat) (closed : Bool) (exponent : Int) (digits : Nat) (k : Int) : Bool :=
  let ten (n : Nat) : Nat := if 0 ≤ k then n * Nat.pow 10 k.toNat else n
  let tenBelow (n : Nat) : Nat := if 0 ≤ k then n else n * Nat.pow 10 (-k).toNat
  let e := exponent - 2
  let two (n : Nat) : Nat := if 0 ≤ e then n * Nat.pow 2 e.toNat else n
  let twoBelow (n : Nat) : Nat := if 0 ≤ e then n else n * Nat.pow 2 (-e).toNat
  let point := twoBelow (ten digits)
  let low := tenBelow (two low)
  let high := tenBelow (two high)
  if closed then low ≤ point && point ≤ high else low < point && point < high

/-- `significand * 2 ^ exponent / 10 ^ k` as a numerator and a denominator. -/
def onGrid (significand : Nat) (exponent k : Int) : Nat × Nat :=
  let (n, d) := scaled significand 1 exponent
  if 0 ≤ k then (n, d * Nat.pow 10 k.toNat) else (n * Nat.pow 10 (-k).toNat, d)

/-- The nearer neighbour on the grid of `10 ^ k` that rounds to the number, if one does. -/
def onGrid? (significand : Nat) (exponent k : Int) : Option Decimal :=
  let (low, high, closed) := neighbourhood significand exponent
  let (n, d) := onGrid significand exponent k
  let down := n / d
  let downIn := liesBetween low high closed exponent down k
  let upIn := liesBetween low high closed exponent (down + 1) k
  if downIn && (!upIn || 2 * (n % d) < d || (2 * (n % d) == d && down % 2 == 0)) then
    some ⟨down, k⟩
  else if upIn then some ⟨down + 1, k⟩
  else none

/-- The exponent of ten of the first digit of a positive number, or one more. -/
def leadingExponent (significand : Nat) (exponent : Int) : Int :=
  let (n, d) := scaled significand 1 exponent
  if d ≤ n then ((Nat.toDigits 10 (n / d)).length : Int) - 1
  else -((Nat.toDigits 10 (d / n)).length : Int) + 1

def searchGrids (significand : Nat) (exponent : Int) : Nat → Int → Decimal
  | 0, k => ⟨0, k⟩
  | fuel + 1, k =>
    match onGrid? significand exponent k with
    | some found => found
    | none => searchGrids significand exponent fuel (k - 1)

def trimZeros : Nat → Decimal → Decimal
  | 0, x => x
  | fuel + 1, x =>
    if x.digits != 0 && x.digits % 10 == 0 then trimZeros fuel ⟨x.digits / 10, x.exponent + 1⟩
    else x

/-- The shortest decimal of the absolute value of a finite number. Twenty grids from the one above
the first digit are more than any number needs. -/
def shortest (x : Binary64) : Decimal :=
  if x.isZero then ⟨0, 0⟩
  else
    let (significand, exponent) := x.decode
    trimZeros 20 (searchGrids significand exponent 20 (leadingExponent significand exponent + 1))

end Binary64

/-! ## Text -/

/-- How a decimal is written: positional text for exponents of the first digit from `low` up to but
not including `high`, scientific text beyond, and whether a whole number shows a zero fraction. -/
structure DecimalFormat where
  low : Int
  high : Int
  fraction : Bool

def zeros (n : Nat) : String := String.ofList (List.replicate n '0')

def exponentText (e : Int) : String :=
  let digits := toString e.natAbs
  (if e < 0 then "-" else "+") ++ (if digits.length < 2 then "0" ++ digits else digits)

def Decimal.render (format : DecimalFormat) (x : Decimal) : String :=
  let digits := toString x.digits
  let count : Int := digits.length
  let leading := x.exponent + count - 1
  if x.digits == 0 then if format.fraction then "0.0" else "0"
  else if leading < format.low || format.high ≤ leading then
    let rest := digits.drop 1
    (digits.take 1).toString ++ (if rest.isEmpty then "" else "." ++ rest.toString) ++ "e"
      ++ exponentText leading
  else if leading < 0 then "0." ++ zeros ((-leading).toNat - 1) ++ digits
  else if 0 ≤ x.exponent then
    digits ++ zeros x.exponent.toNat ++ (if format.fraction then ".0" else "")
  else
    let whole := (leading + 1).toNat
    (digits.take whole).toString ++ "." ++ (digits.drop whole).toString

/-- Floating point numbers are positional from 0.0001 up to but not including 1e16. -/
def floatFormat : DecimalFormat := ⟨-4, 16, true⟩

/-- The parts of a complex number, which show no zero fraction. -/
def partFormat : DecimalFormat := ⟨-4, 16, false⟩

def Binary64.render (format : DecimalFormat) (x : Binary64) : String :=
  if x.isNaN then "nan"
  else
    (if x.negative then "-" else "") ++
      (if x.isInfinite then "inf" else x.shortest.render format)

def Binary64.text (x : Binary64) : String := x.render floatFormat

end ModelMetadata.Number
