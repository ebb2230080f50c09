import MiniExpr.Json.Value
import MiniExpr.Text.Classes
/-!
# Reading JSON text

The reader takes the JSON grammar with three extra words, `NaN`, `Infinity` and `-Infinity`,
which stand for doubles.  Blanks are space, tab, line feed and carriage return.  A string may not
hold a raw control character, and a `\u` escape of a surrogate must be the first half of a pair
followed at once by the second.  A whole document is one value with blanks around it and nothing
else; text from bytes must be valid UTF-8, so a byte order mark is refused as an unexpected
character.

A reader may be held to `Limits`: how deep arrays and objects that hold something may nest, and
how many digits the integer part of a number may have, whether or not a fraction or an exponent
follows.  An empty array or object opens nothing, so it never counts towards the depth.  A document
that goes past either is refused.  Without limits, the bounds are ones no text of its length can
reach.

Each reader takes the code points still to read and returns what it read with the code points
after it.  Values nest, so `readValue` and its helpers count down a step budget; `parse` gives
them more steps than the text has code points, and every step past the first reads one.  They
also carry the number of containers that may still open around a value.
-/

namespace MiniExpr.Json

/-- Why a text is not one JSON document. -/
inductive ReadError where
  | unexpectedEnd
  | unexpected (c : Char)
  | badNumber
  | badEscape
  | controlCharacter
  | loneSurrogate
  | trailingText
  | tooDeep
  | nestedTooDeep
  | tooManyDigits
  | notUtf8
  deriving DecidableEq, Repr

/-- Bounds on a document: arrays and objects that are not empty nest at most `depth` deep, counting
the outermost, and the integer part of a number has at most `digits` digits. -/
structure Limits where
  depth : Nat
  digits : Nat
  deriving DecidableEq, Repr

/-- Bounds that no text of `n` code points can reach. -/
def Limits.beyond (n : Nat) : Limits := ⟨n + 1, n + 1⟩

/-- A blank between tokens: space, tab, line feed or carriage return. -/
def isBlank (c : Char) : Bool := c == ' ' || c == '\t' || c == '\n' || c == '\r'

/-- The code points after the leading blanks. -/
def skipBlank (cs : List Char) : List Char := cs.dropWhile isBlank

/-- The value of four hex digits. -/
def hex4? (a b c d : Char) : Option Nat := Text.hexNumber? [a, b, c, d]

/-- The code point a one-letter escape stands for. -/
def simpleEscape? : Char → Option Char
  | '"' => some '"'
  | '\\' => some '\\'
  | '/' => some '/'
  | 'b' => some '\x08'
  | 'f' => some '\x0c'
  | 'n' => some '\n'
  | 'r' => some '\r'
  | 't' => some '\t'
  | _ => none

/-- Whether `n` is the first half of a surrogate pair. -/
def isHighSurrogate (n : Nat) : Bool := 0xD800 ≤ n && n ≤ 0xDBFF

/-- Whether `n` is the second half of a surrogate pair. -/
def isLowSurrogate (n : Nat) : Bool := 0xDC00 ≤ n && n ≤ 0xDFFF

/-- Reads the rest of a string after its opening quote; `acc` holds what was read, last first. -/
def readString : List Char → List Char → Except ReadError (String × List Char)
  | [], _ => .error .unexpectedEnd
  | '"' :: r, acc => .ok (String.ofList acc.reverse, r)
  | '\\' :: 'u' :: a :: b :: c :: d :: r, acc =>
    match hex4? a b c d with
    | none => .error .badEscape
    | some n =>
      if isHighSurrogate n then
        match r with
        | '\\' :: 'u' :: e :: f :: g :: h :: r' =>
          match hex4? e f g h with
          | none => .error .badEscape
          | some m =>
            if isLowSurrogate m then
              readString r' (Char.ofNat (0x10000 + (n - 0xD800) * 0x400 + (m - 0xDC00)) :: acc)
            else .error .loneSurrogate
        | _ => .error .loneSurrogate
      else if isLowSurrogate n then .error .loneSurrogate
      else readString r (Char.ofNat n :: acc)
  | '\\' :: e :: r, acc =>
    match simpleEscape? e with
    | some c => readString r (c :: acc)
    | none => .error .badEscape
  | c :: r, acc =>
    if c.toNat < 0x20 then .error .controlCharacter else readString r (c :: acc)

/-- The number a list of decimal digits spells. -/
def digitsValue (ds : List Char) : Nat :=
  ds.foldl (fun n d => n * 10 + (d.toNat - 0x30)) 0

/-- Reads the digits, fraction and exponent of a number after its sign.  Without a fraction or an
exponent the number is an integer; otherwise it is the double nearest to it. -/
def readUnsigned (maxDigits : Nat) (neg : Bool) (cs : List Char) :
    Except ReadError (Value × List Char) :=
  let whole := cs.takeWhile Char.isDigit
  let r := cs.dropWhile Char.isDigit
  if whole.isEmpty || (whole.length > 1 && whole.head? == some '0') then .error .badNumber
  else if whole.length > maxDigits then .error .tooManyDigits
  else
    let (frac, hasFrac, r) : List Char × Bool × List Char :=
      match r with
      | '.' :: r' => (r'.takeWhile Char.isDigit, true, r'.dropWhile Char.isDigit)
      | _ => ([], false, r)
    if hasFrac && frac.isEmpty then .error .badNumber
    else
      let (expPart, hasExp, r) : Option Int × Bool × List Char :=
        match r with
        | e :: r' =>
          if e == 'e' || e == 'E' then
            let (eneg, r'') : Bool × List Char :=
              match r' with
              | '-' :: t => (true, t)
              | '+' :: t => (false, t)
              | t => (false, t)
            let ds := r''.takeWhile Char.isDigit
            if ds.isEmpty then (none, true, r'')
            else
              let v : Int := digitsValue ds
              (some (if eneg then -v else v), true, r''.dropWhile Char.isDigit)
          else (some 0, false, r)
        | [] => (some 0, false, r)
      match expPart with
      | none => .error .badNumber
      | some e10 =>
        if !hasFrac && !hasExp then
          let v : Int := digitsValue whole
          .ok (.int (if neg then -v else v), r)
        else
          .ok (.float (Binary64.ofDecimal neg (digitsValue (whole ++ frac)) (e10 - frac.length)), r)

mutual

/-- Reads one value after optional blanks, where `room` more containers may open. -/
def readValue (lim : Limits) : Nat → Nat → List Char → Except ReadError (Value × List Char)
  | 0, _, _ => .error .tooDeep
  | n + 1, room, cs =>
    match skipBlank cs with
    | [] => .error .unexpectedEnd
    | '{' :: r =>
      match skipBlank r, room with
      | '}' :: r', _ => .ok (.object [], r')
      | _, 0 => .error .nestedTooDeep
      | r', room + 1 => readMembers lim n room r' []
    | '[' :: r =>
      match skipBlank r, room with
      | ']' :: r', _ => .ok (.array [], r')
      | _, 0 => .error .nestedTooDeep
      | r', room + 1 => readItems lim n room r' []
    | '"' :: r => (readString r []).map fun (s, r') => (.string s, r')
    | 't' :: 'r' :: 'u' :: 'e' :: r => .ok (.bool true, r)
    | 'f' :: 'a' :: 'l' :: 's' :: 'e' :: r => .ok (.bool false, r)
    | 'n' :: 'u' :: 'l' :: 'l' :: r => .ok (.null, r)
    | 'N' :: 'a' :: 'N' :: r => .ok (.float Binary64.nan, r)
    | 'I' :: 'n' :: 'f' :: 'i' :: 'n' :: 'i' :: 't' :: 'y' :: r => .ok (.float (Binary64.infinity false), r)
    | '-' :: 'I' :: 'n' :: 'f' :: 'i' :: 'n' :: 'i' :: 't' :: 'y' :: r =>
      .ok (.float (Binary64.infinity true), r)
    | '-' :: r => readUnsigned lim.digits true r
    | c :: r => if c.isDigit then readUnsigned lim.digits false (c :: r) else .error (.unexpected c)

/-- Reads the items of an array after its `[` and blanks, up to its `]`; `acc` holds the items
read so far, last first. -/
def readItems (lim : Limits) :
    Nat → Nat → List Char → List Value → Except ReadError (Value × List Char)
  | 0, _, _, _ => .error .tooDeep
  | n + 1, room, cs, acc =>
    match acc, cs with
    | [], ']' :: r => .ok (.array [], r)
    | _, _ =>
      match readValue lim n room cs with
      | .error e => .error e
      | .ok (v, r) =>
        match skipBlank r with
        | ',' :: r' => readItems lim n room r' (v :: acc)
        | ']' :: r' => .ok (.array (v :: acc).reverse, r')
        | c :: _ => .error (.unexpected c)
        | [] => .error .unexpectedEnd

/-- Reads the members of an object after its `{` and blanks, up to its `}`; `acc` holds the
members read so far. -/
def readMembers (lim : Limits) :
    Nat → Nat → List Char → List (String × Value) → Except ReadError (Value × List Char)
  | 0, _, _, _ => .error .tooDeep
  | n + 1, room, cs, acc =>
    match acc, cs with
    | [], '}' :: r => .ok (.object [], r)
    | _, _ =>
      match skipBlank cs with
      | '"' :: r =>
        match readString r [] with
        | .error e => .error e
        | .ok (k, r) =>
          match skipBlank r with
          | ':' :: r =>
            match readValue lim n room r with
            | .error e => .error e
            | .ok (v, r) =>
              match skipBlank r with
              | ',' :: r' => readMembers lim n room r' (setField acc k v)
              | '}' :: r' => .ok (.object (setField acc k v), r')
              | c :: _ => .error (.unexpected c)
              | [] => .error .unexpectedEnd
          | c :: _ => .error (.unexpected c)
          | [] => .error .unexpectedEnd
      | c :: _ => .error (.unexpected c)
      | [] => .error .unexpectedEnd

end

/-- Reads a whole document within `lim`: one value, with nothing but blanks around it. -/
def parseWithin (lim : Limits) (cs : List Char) : Except ReadError Value :=
  match readValue lim (3 * cs.length + 3) lim.depth cs with
  | .error e => .error e
  | .ok (v, r) => if (skipBlank r).isEmpty then .ok v else .error .trailingText

/-- Reads a whole document, without limits. -/
def parse (cs : List Char) : Except ReadError Value := parseWithin (.beyond cs.length) cs

/-- Reads a whole document from its text within `lim`. -/
def parseTextWithin (lim : Limits) (s : String) : Except ReadError Value := parseWithin lim s.toList

/-- Reads a whole document from its text, without limits. -/
def parseText (s : String) : Except ReadError Value := parse s.toList

/-- Reads a whole document from bytes within `lim`; the bytes must be UTF-8. -/
def parseBytesWithin (lim : Limits) (b : ByteArray) : Except ReadError Value :=
  match String.fromUTF8? b with
  | some s => parseTextWithin lim s
  | none => .error .notUtf8

end MiniExpr.Json
