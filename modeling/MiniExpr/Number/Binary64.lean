/-!
# Binary64 numbers

A double-precision number held by its 64 bits, so that it has decidable equality and every
question about it is a question about `Nat`: the sign bit, the 11-bit exponent field and the
52-bit fraction.  A finite number is `(-1)^sign · m · 2^q` with `m` and `q` read off the fields
(`significand`, `scale`).  Powers are written `Nat.pow b k` rather than `b ^ k`, so that a field
means the same term whatever `Pow` instances are in scope where it is read.

Decimal text is rounded to the nearest double by `ofDecimal`; a decimal far outside the range of
doubles goes to zero or infinity without computing its powers of ten.
-/

namespace MiniExpr

/-- A double-precision number, held by its bits. -/
structure Binary64 where
  bits : UInt64
  deriving DecidableEq, Repr, Hashable, Inhabited

namespace Binary64

/-- The sign bit is set. -/
def negative (x : Binary64) : Bool := x.bits.toNat / Nat.pow 2 63 == 1

/-- The 11-bit exponent field. -/
def exponentField (x : Binary64) : Nat := x.bits.toNat / Nat.pow 2 52 % Nat.pow 2 11

/-- The 52-bit fraction field. -/
def fraction (x : Binary64) : Nat := x.bits.toNat % Nat.pow 2 52

/-- Not a number: the exponent field is full and the fraction is not zero. -/
def isNaN (x : Binary64) : Bool := x.exponentField == 2047 && x.fraction != 0

/-- An infinity: the exponent field is full and the fraction is zero. -/
def isInfinite (x : Binary64) : Bool := x.exponentField == 2047 && x.fraction == 0

/-- Neither a NaN nor an infinity. -/
def isFinite (x : Binary64) : Bool := x.exponentField != 2047

/-- The integer significand `m` of a finite number `± m · 2^q`. -/
def significand (x : Binary64) : Nat :=
  if x.exponentField == 0 then x.fraction else x.fraction + Nat.pow 2 52

/-- The power of two `q` of a finite number `± m · 2^q`. -/
def scale (x : Binary64) : Int :=
  if x.exponentField == 0 then -1074 else (x.exponentField : Int) - 1075

/-- The magnitude of a finite number as the fraction `num / 2^den`. -/
def magnitude (x : Binary64) : Nat × Nat :=
  if 0 ≤ x.scale then (x.significand * Nat.pow 2 x.scale.toNat, 0)
  else (x.significand, (-x.scale).toNat)

/-- Whether a finite number is a whole number. -/
def isIntegral (x : Binary64) : Bool :=
  let (n, d) := x.magnitude
  n % Nat.pow 2 d == 0

/-- The whole number a finite, integral double is. -/
def toInt (x : Binary64) : Int :=
  let (n, d) := x.magnitude
  let v : Int := (n / Nat.pow 2 d : Nat)
  if x.negative then -v else v

/-- The quiet NaN that reading `NaN` or `nan` gives. -/
def nan : Binary64 := ⟨0x7FF8000000000000⟩

/-- Positive or negative infinity. -/
def infinity (neg : Bool) : Binary64 :=
  if neg then ⟨0xFFF0000000000000⟩ else ⟨0x7FF0000000000000⟩

/-- Zero with the given sign. -/
def zero (neg : Bool) : Binary64 :=
  if neg then ⟨0x8000000000000000⟩ else ⟨0⟩

/-- The number of decimal digits of `m`, at least one. -/
def digitCount (m : Nat) : Nat := (Nat.toDigits 10 m).length

/-- The double nearest to `± m · 10^e`.  A decimal whose leading digit lies above `10^309` is
infinite and one whose value lies below `10^-325` is zero, as both round there. -/
def ofDecimal (neg : Bool) (m : Nat) (e : Int) : Binary64 :=
  if m = 0 then zero neg
  else if (digitCount m : Int) - 1 + e > 309 then infinity neg
  else if (digitCount m : Int) + e < -325 then zero neg
  else
    let f := if e < 0 then Float.ofScientific m true (-e).toNat else Float.ofScientific m false e.toNat
    ⟨(if neg then -f else f).toBits⟩

end Binary64

end MiniExpr
