/-!
# Classes of code points: digits and capitals

Three classes of code points that numbers and settings are read with.

* Decimal digits.  The decimal digits of Unicode 14.0 (general category Nd) come in runs of ten,
  from the digit zero to the digit nine of one script.  `digitZeros` holds the code point of each
  run's zero, and `decimalValue?` reads a digit of any script as its value.
* Hex digits.  The sixteen digits `0`-`9`, `a`-`f` of base sixteen: `hexDigit` writes one in lower
  case, `hexValue?` reads one in either case, and `hexValue?_hexDigit` says it reads back what
  `hexDigit` writes.
* Capitals.  `capitals` writes a text in capitals as far as ASCII capitals go: each ASCII small
  letter becomes its capital, and each of the ten code points whose full Unicode capital form is
  made of ASCII letters only becomes that form: `ß` → `SS`, dotless `ı` → `I`, long `ſ` → `S`,
  and the Latin ligatures U+FB00 to U+FB06 → `FF`, `FI`, `FL`, `FFI`, `FFL`, `ST`, `ST`.

  Every other code point is kept.  The full capital form of such a code point always holds a
  code point outside ASCII, and so does the code point itself; hence a text has an all-ASCII
  capital form exactly when `capitals` of it is all ASCII, and then the two agree.  That is what
  comparing a capitalised text with an ASCII word needs.
-/

namespace MiniExpr.Text

/-! ## Decimal digits -/

/-- The code points of the digit zero of every run of decimal digits, in increasing order. -/
def digitZeros : List Nat := [
  0x30, 0x660, 0x6F0, 0x7C0, 0x966, 0x9E6, 0xA66, 0xAE6, 0xB66, 0xBE6,
  0xC66, 0xCE6, 0xD66, 0xDE6, 0xE50, 0xED0, 0xF20, 0x1040, 0x1090, 0x17E0,
  0x1810, 0x1946, 0x19D0, 0x1A80, 0x1A90, 0x1B50, 0x1BB0, 0x1C40, 0x1C50, 0xA620,
  0xA8D0, 0xA900, 0xA9D0, 0xA9F0, 0xAA50, 0xABF0, 0xFF10, 0x104A0, 0x10D30, 0x11066,
  0x110F0, 0x11136, 0x111D0, 0x112F0, 0x11450, 0x114D0, 0x11650, 0x116C0, 0x11730, 0x118E0,
  0x11950, 0x11C50, 0x11D50, 0x11DA0, 0x16A60, 0x16AC0, 0x16B50, 0x1D7CE, 0x1D7D8, 0x1D7E2,
  0x1D7EC, 0x1D7F6, 0x1E140, 0x1E2F0, 0x1E950, 0x1FBF0]

/-- The value of a decimal digit of any script. -/
def decimalValue? (c : Char) : Option Nat :=
  if c.toNat < 0x80 then (if c.isDigit then some (c.toNat - 0x30) else none)
  else
    (digitZeros.find? fun z => z ≤ c.toNat && c.toNat ≤ z + 9).map fun z => c.toNat - z

/-! ## Hex digits -/

/-- The lowercase hex digit of `d < 16`. -/
def hexDigit (d : Nat) : Char :=
  if d < 10 then Char.ofNat (0x30 + d) else Char.ofNat (0x57 + d)

/-- The value of a hex digit, in either case. -/
def hexValue? (c : Char) : Option Nat :=
  if '0' ≤ c && c ≤ '9' then some (c.toNat - 0x30)
  else if 'a' ≤ c && c ≤ 'f' then some (c.toNat - 0x57)
  else if 'A' ≤ c && c ≤ 'F' then some (c.toNat - 0x37)
  else none

/-- The number a list of hex digits spells, if every one is a hex digit. -/
def hexNumber? (ds : List Char) : Option Nat :=
  ds.foldlM (fun n d => (hexValue? d).map (n * 16 + ·)) 0

theorem hexValue?_hexDigit (d : Nat) (h : d < 16) : hexValue? (hexDigit d) = some d := by
  have hall : ∀ e ∈ List.range 16, hexValue? (hexDigit e) = some e := by decide
  exact hall d (List.mem_range.mpr h)

/-! ## Capitals -/

/-- The capital form of one code point, as far as ASCII capitals go. -/
def capitalOf (c : Char) : List Char :=
  if 'a' ≤ c && c ≤ 'z' then [Char.ofNat (c.toNat - 32)]
  else match c.toNat with
    | 0xDF => ['S', 'S']
    | 0x131 => ['I']
    | 0x17F => ['S']
    | 0xFB00 => ['F', 'F']
    | 0xFB01 => ['F', 'I']
    | 0xFB02 => ['F', 'L']
    | 0xFB03 => ['F', 'F', 'I']
    | 0xFB04 => ['F', 'F', 'L']
    | 0xFB05 => ['S', 'T']
    | 0xFB06 => ['S', 'T']
    | _ => [c]

/-- A text in capitals, as far as ASCII capitals go. -/
def capitals (s : String) : String := String.ofList (s.toList.flatMap capitalOf)

end MiniExpr.Text
