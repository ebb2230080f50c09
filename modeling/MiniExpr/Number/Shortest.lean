import MiniExpr.Number.Binary64
/-!
# Shortest decimals

The shortest decimal of a finite, nonzero double is the decimal with the fewest significant digits
that reads back as the double; of those with that many digits it is the nearest to the double, and
an exact tie goes to the even significand.  A decimal reads back when it lies in the double's
rounding interval, between the midpoints to its two neighbours, the ends included when the
significand is even, since a tie there rounds to it.  Below a power of two whose exponent field is
above one the neighbour is half as far away as above it.

For each count `k` of digits the search looks at the two decimals of `k` digits on either side of
the double.  Every comparison is exact: the double, the ends of its interval and the grid points
are whole numbers over one power of ten (`bracket`).  Some `k` up to the number of digits of the
double's exact value always succeeds, since that `k` gives the value itself.

`DecimalStyle` says how a double is written: positionally while its decimal point falls within a
range of positions, else with an exponent, and with texts of its own for the special values.
-/

namespace MiniExpr

/-- A decimal `digits · 10^exponent`. -/
structure Decimal where
  digits : Nat
  exponent : Int
  deriving DecidableEq, Repr

namespace Binary64

/-- The low end of a finite double's rounding interval, its magnitude and the high end, as whole
numbers over `10^shift`, then `shift`. -/
def bracket (x : Binary64) : Nat × Nat × Nat × Nat :=
  let m := x.significand
  let below := if x.fraction == 0 && x.exponentField > 1 then 1 else 2
  let q := x.scale - 2
  if 0 ≤ q then
    let f := Nat.pow 2 q.toNat
    ((4 * m - below) * f, 4 * m * f, (4 * m + 2) * f, 0)
  else
    let f := Nat.pow 5 (-q).toNat
    ((4 * m - below) * f, 4 * m * f, (4 * m + 2) * f, (-q).toNat)

/-- The decimal of `k` significant digits that lies in the interval `(lo, hi)` (closed when
`closed`) around `v`, all over `10^shift`: of the two grid points next to `v` the one inside, the
nearer if both are, the even one on a tie. -/
def candidate (lo v hi shift : Nat) (closed : Bool) (k : Nat) : Option Decimal :=
  let t := digitCount v
  -- the grid step is `num / den`
  let (num, den) : Nat × Nat :=
    if k ≤ t then (Nat.pow 10 (t - k), 1) else (1, Nat.pow 10 (k - t))
  let down := v * den / num
  let up := if down * num == v * den then down else down + 1
  let inside (d : Nat) : Bool :=
    if closed then lo * den ≤ d * num && d * num ≤ hi * den
    else lo * den < d * num && d * num < hi * den
  let exponent : Int := (t : Int) - k - shift
  match inside down, inside up with
  | true, true =>
    let below := v * den - down * num
    let above := up * num - v * den
    let d := if below < above then down
      else if above < below then up
      else if down % 2 == 0 then down else up
    some ⟨d, exponent⟩
  | true, false => some ⟨down, exponent⟩
  | false, true => some ⟨up, exponent⟩
  | false, false => none

/-- The first decimal found with `k` digits or more, trying at most `fuel` counts. -/
def searchFrom (lo v hi shift : Nat) (closed : Bool) : Nat → Nat → Option Decimal
  | 0, _ => none
  | fuel + 1, k =>
    match candidate lo v hi shift closed k with
    | some d => some d
    | none => searchFrom lo v hi shift closed fuel (k + 1)

/-- A decimal without the zeros at the end of its digits; `fuel` bounds how many go. -/
def dropTrailingZeros : Nat → Decimal → Decimal
  | 0, d => d
  | fuel + 1, d =>
    if d.digits != 0 && d.digits % 10 == 0 then dropTrailingZeros fuel ⟨d.digits / 10, d.exponent + 1⟩
    else d

/-- The shortest decimal of the magnitude of a finite, nonzero double, without trailing zeros. -/
def shortest (x : Binary64) : Decimal :=
  let (lo, v, hi, shift) := x.bracket
  let found := (searchFrom lo v hi shift (x.significand % 2 == 0) (digitCount v) 1).getD
    ⟨v, -(shift : Int)⟩
  dropTrailingZeros (digitCount found.digits) found

end Binary64

/-- How a double is written as text. -/
structure DecimalStyle where
  /-- The least position of the decimal point, counted in digits from the first significant one,
  at which the decimal is written without an exponent. -/
  lowest : Int
  /-- The greatest such position. -/
  highest : Int
  /-- Whether a positive exponent carries a plus sign. -/
  plusSign : Bool
  /-- The fewest digits an exponent is written with. -/
  exponentWidth : Nat
  nan : String
  infinity : String
  negativeInfinity : String

namespace DecimalStyle

/-- Digits with the decimal point after `point` of them, padded with zeros as needed; a whole
number keeps a `.0`. -/
def positional (ds : List Char) (point : Int) : String :=
  if point ≤ 0 then "0." ++ String.ofList (List.replicate (-point).toNat '0' ++ ds)
  else if ds.length ≤ point.toNat then
    String.ofList (ds ++ List.replicate (point.toNat - ds.length) '0') ++ ".0"
  else String.ofList (ds.take point.toNat) ++ "." ++ String.ofList (ds.drop point.toNat)

/-- Digits as one digit, a point and the rest if there is any, then the exponent. -/
def scientific (st : DecimalStyle) (ds : List Char) (exponent : Int) : String :=
  let mantissa := match ds with
    | d :: rest@(_ :: _) => String.ofList (d :: '.' :: rest)
    | _ => String.ofList ds
  let size := Nat.toDigits 10 exponent.natAbs
  let sign := if exponent < 0 then "-" else if st.plusSign then "+" else ""
  mantissa ++ "e" ++ sign ++ String.ofList (List.replicate (st.exponentWidth - size.length) '0' ++ size)

/-- The text of a double in this style. -/
def write (st : DecimalStyle) (x : Binary64) : String :=
  if x.isNaN then st.nan
  else if x.isInfinite then (if x.negative then st.negativeInfinity else st.infinity)
  else
    let sign := if x.negative then "-" else ""
    if x.significand = 0 then sign ++ "0.0"
    else
      let d := x.shortest
      let ds := Nat.toDigits 10 d.digits
      let point : Int := ds.length + d.exponent
      sign ++ (if st.lowest ≤ point && point ≤ st.highest then positional ds point
        else st.scientific ds (point - 1))

end DecimalStyle

end MiniExpr
