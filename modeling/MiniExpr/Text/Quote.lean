import MiniExpr.Text.Classes
import MiniExpr.Text.Printable
/-!
# Quoted text

The quoted form of a string that token descriptions and error messages show: the text between
single quotes, or between double quotes when it holds a single quote and no double quote.  A
backslash and the chosen quote are escaped with a backslash; tab, line feed and carriage return
are written `\t`, `\n`, `\r`; any other character that is not printable as a hex escape: `\x`
and two digits below U+0100, `\u` and four below U+10000, `\U` and eight above.  Printable
characters are written as they are.
-/

namespace MiniExpr.Text.Quote

open MiniExpr.Text (hexDigit)

/-- The single quote, U+0027. -/
def apostrophe : Char := Char.ofNat 0x27

/-- The quote that delimits `s`: a double quote when `s` holds a single quote and no double quote,
else a single quote. -/
def delimiter (s : List Char) : Char :=
  if s.contains apostrophe && !s.contains '"' then '"' else apostrophe

/-- The `k` low hex digits of `n`, most significant first. -/
def hexDigits (n : Nat) : Nat → List Char
  | 0 => []
  | k + 1 => hexDigits (n / 16) k ++ [hexDigit (n % 16)]

/-- The hex escape of a code point: the letter that announces it and as many digits as it says. -/
def hexEscape (n : Nat) : List Char :=
  if n < 0x100 then '\\' :: 'x' :: hexDigits n 2
  else if n < 0x10000 then '\\' :: 'u' :: hexDigits n 4
  else '\\' :: 'U' :: hexDigits n 8

/-- The written form of one code point inside a quoted text delimited by `q`. -/
def escape (q : Char) (c : Char) : List Char :=
  if c == '\\' || c == q then ['\\', c]
  else if c == '\t' then ['\\', 't']
  else if c == '\n' then ['\\', 'n']
  else if c == '\r' then ['\\', 'r']
  else if Printable.isPrintable c then [c]
  else hexEscape c.toNat

/-- The quoted form of `s`. -/
def quote (s : String) : String :=
  let q := delimiter s.toList
  String.ofList (q :: (s.toList.flatMap (escape q) ++ [q]))

end MiniExpr.Text.Quote
