import MiniExpr.Json.Value
import MiniExpr.Number.Shortest
import MiniExpr.Text.Classes
/-!
# Writing JSON text

Two layouts of one value.  The compact layout has no blanks at all.  The indented layout puts each
member and item on a line of its own, indented by `width` spaces per level, with `": "` after a
key; an empty array or object stays `[]` or `{}` on its line.  A width of zero still breaks the
lines, with nothing before the members.

Strings escape the quote, the backslash and the control characters (by their short escape where
one exists, else `\u00XX`); every other code point is written as it is.  Integers are written in
decimal; a double by its shortest decimal (`documentStyle`).
-/

namespace MiniExpr.Json

/-- Doubles as documents write them: positionally while the decimal point is at most four places
before the first digit and at most sixteen after it, else with a bare exponent such as `1e16` or
`1.5e-7`; a value that is not finite is written as `null`. -/
def documentStyle : DecimalStyle :=
  ⟨-4, 16, false, 1, "null", "null", "null"⟩

/-- How one code point is written inside a string. -/
def escapeChar (c : Char) : List Char :=
  if c == '"' then ['\\', '"']
  else if c == '\\' then ['\\', '\\']
  else if c == '\n' then ['\\', 'n']
  else if c == '\r' then ['\\', 'r']
  else if c == '\t' then ['\\', 't']
  else if c == '\x08' then ['\\', 'b']
  else if c == '\x0c' then ['\\', 'f']
  else if c.toNat < 0x20 then ['\\', 'u', '0', '0', Text.hexDigit (c.toNat / 16), Text.hexDigit (c.toNat % 16)]
  else [c]

/-- A string in quotes, escaped. -/
def quoteString (s : String) : String :=
  String.ofList ('"' :: s.toList.flatMap escapeChar ++ ['"'])

/-- The text of an integer. -/
def intText (n : Int) : String :=
  if n < 0 then "-" ++ toString n.natAbs else toString n.natAbs

/-- The layout to write in: compact, or indented by a number of spaces per level. -/
inductive Layout where
  | compact
  | indented (width : Nat)
  deriving DecidableEq, Repr

namespace Layout

/-- What starts a member or item at nesting level `level`: nothing when compact, else a line break
and the indent. -/
def lineStart (l : Layout) (level : Nat) : String :=
  match l with
  | compact => ""
  | indented w => "\n" ++ String.ofList (List.replicate (w * level) ' ')

/-- What follows a key. -/
def colon (l : Layout) : String :=
  match l with
  | compact => ":"
  | indented _ => ": "

end Layout

mutual

/-- The text of a value nested at `level`. -/
def write (l : Layout) (level : Nat) : Value → String
  | .null => "null"
  | .bool true => "true"
  | .bool false => "false"
  | .int n => intText n
  | .float x => documentStyle.write x
  | .string s => quoteString s
  | .array [] => "[]"
  | .array (v :: vs) => "[" ++ writeItems l (level + 1) (v :: vs) ++ l.lineStart level ++ "]"
  | .object [] => "\x7b\x7d"
  | .object (f :: fs) => "\x7b" ++ writeFields l (level + 1) (f :: fs) ++ l.lineStart level ++ "\x7d"

/-- The items of an array at `level`, separated by commas. -/
def writeItems (l : Layout) (level : Nat) : List Value → String
  | [] => ""
  | [v] => l.lineStart level ++ write l level v
  | v :: vs => l.lineStart level ++ write l level v ++ "," ++ writeItems l level vs

/-- The members of an object at `level`, separated by commas. -/
def writeFields (l : Layout) (level : Nat) : List (String × Value) → String
  | [] => ""
  | [(k, v)] => l.lineStart level ++ quoteString k ++ l.colon ++ write l level v
  | (k, v) :: fs =>
    l.lineStart level ++ quoteString k ++ l.colon ++ write l level v ++ "," ++ writeFields l level fs

end

/-- The text of a whole document. -/
def Value.render (l : Layout) (v : Value) : String := write l 0 v

end MiniExpr.Json
