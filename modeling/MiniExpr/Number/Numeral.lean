import MiniExpr.Text.Classes
/-!
# Integer numerals

An integer typed as a command-line value: blanks, an optional sign, decimal digits with single
underscores between them, and blanks again.  Digits may be of any script (`Text.decimalValue?`).
The blanks are space, tab, line feed, vertical tab, form feed and carriage return, and every other
Unicode space (`isWideSpace`).  The code points U+001C to U+001F and DEL are no blanks.  A numeral
of more than 4300 digits, leading zeros included, is refused as too long to convert.
-/

namespace MiniExpr.Numeral

/-- An ASCII blank around a numeral. -/
def isAsciiBlank (c : Char) : Bool :=
  c == ' ' || c == '\t' || c == '\n' || c == '\x0b' || c == '\x0c' || c == '\r'

/-- A space outside ASCII. -/
def isWideSpace (c : Char) : Bool :=
  let n := c.toNat
  n == 0x85 || n == 0xA0 || n == 0x1680 || (0x2000 ≤ n && n ≤ 0x200A) || n == 0x2028
    || n == 0x2029 || n == 0x202F || n == 0x205F || n == 0x3000

/-- What a code point stands for in a numeral: an ASCII code point for itself, a space outside
ASCII for a blank, a digit of another script for the ASCII digit of its value, and anything else
for nothing that a numeral may hold. -/
def asAscii (c : Char) : Char :=
  if c.toNat < 0x7F then c
  else if isWideSpace c then ' '
  else
    match Text.decimalValue? c with
    | some d => Char.ofNat (0x30 + d)
    | none => '?'

/-- The digits of `d(_?d)*` and what follows them; `none` unless a digit comes first. -/
def digitsTail : List Char → List Nat × List Char
  | '_' :: d :: r =>
    if d.isDigit then let (ds, rest) := digitsTail r; ((d.toNat - 0x30) :: ds, rest)
    else ([], '_' :: d :: r)
  | d :: r =>
    if d.isDigit then let (ds, rest) := digitsTail r; ((d.toNat - 0x30) :: ds, rest)
    else ([], d :: r)
  | [] => ([], [])

/-- The value of an integer numeral, if `s` is one. -/
def parse? (s : String) : Option Int :=
  let cs := (s.toList.map asAscii).dropWhile isAsciiBlank
  let (neg, r) : Bool × List Char :=
    match cs with
    | '-' :: r => (true, r)
    | '+' :: r => (false, r)
    | r => (false, r)
  match r with
  | d :: r' =>
    if d.isDigit then
      let (ds, rest) := digitsTail r'
      if rest.all isAsciiBlank && ds.length < 4300 then
        let v : Nat := ((d.toNat - 0x30) :: ds).foldl (fun n x => n * 10 + x) 0
        some (if neg then -(v : Int) else v)
      else none
    else none
  | [] => none

end MiniExpr.Numeral
