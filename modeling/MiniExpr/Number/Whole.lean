import MiniExpr.Number.Binary64
import MiniExpr.Issue
/-!
# Reading whole numbers leniently

A setting that must be a whole number also takes a value of another type when it stands for one
exactly:

* a double that is finite, has no fraction and lies strictly between `-2^63` and `2^63`;
* a text that, after blanks at both ends are cut off, spells one.

A text spells a whole number when, after blanks at both ends are cut off and a few normalising
steps, it is an optional minus and ASCII digits:

* its underscores go, when none leads, none ends it and no two stand together; otherwise they
  stay, and the text spells nothing;
* one leading plus goes, a leading minus stays;
* the zeros after the sign go, down to a single zero when nothing else is left, whatever follows
  them, so `"0-1"` reads as -1 while `"0+1"` spells nothing.

A numeral of more than 4300 digits is refused as too large, and that is found before whatever
follows its digits is looked at.  A text that spells none but ends in a point and one or more zeros
is read again without them; `"2.0"` reads as 2, `"2."` is refused.
-/

namespace MiniExpr.Whole

/-- The blanks cut off both ends of a text: the code points of Unicode's White_Space property. -/
def isSpace (c : Char) : Bool :=
  let n := c.toNat
  (0x09 ≤ n && n ≤ 0x0D) || n == 0x20 || n == 0x85 || n == 0xA0 || n == 0x1680
    || (0x2000 ≤ n && n ≤ 0x200A) || n == 0x2028 || n == 0x2029 || n == 0x202F || n == 0x205F
    || n == 0x3000

/-- The text without blanks at either end. -/
def trim (cs : List Char) : List Char :=
  ((cs.dropWhile isSpace).reverse.dropWhile isSpace).reverse

/-- Whether two underscores stand together. -/
def hasDoubleUnderscore : List Char → Bool
  | '_' :: '_' :: _ => true
  | _ :: r => hasDoubleUnderscore r
  | [] => false

/-- The text without its underscores, when they stand only between other characters and never two
together; otherwise the text as it is. -/
def dropUnderscores (cs : List Char) : List Char :=
  if cs.head? == some '_' || cs.getLast? == some '_' || hasDoubleUnderscore cs then cs
  else cs.filter (· != '_')

/-- The text without a leading plus and without the zeros after its sign: a minus stays, and zeros
alone leave one zero. -/
def stripZeros (cs : List Char) : List Char :=
  let (sign, r) : List Char × List Char :=
    match cs with
    | '+' :: r => ([], r)
    | '-' :: r => (['-'], r)
    | r => ([], r)
  match r with
  | '0' :: _ =>
    match r.dropWhile (· == '0') with
    | [] => sign ++ ['0']
    | rest => sign ++ rest
  | _ => sign ++ r

/-- Why a text is not a whole number. -/
inductive Refusal where
  /-- It does not spell one. -/
  | notNumeral
  /-- It spells one of more than 4300 digits. -/
  | tooLong
  deriving DecidableEq, Repr

/-- A numeral: an optional minus, then ASCII digits, and nothing after.  More than 4300 digits
are too many whatever follows them. -/
def numeralValue (cs : List Char) : Except Refusal Int :=
  let (neg, r) : Bool × List Char :=
    match cs with
    | '-' :: r => (true, r)
    | r => (false, r)
  let ds := r.takeWhile Char.isDigit
  let rest := r.dropWhile Char.isDigit
  if ds.isEmpty then .error .notNumeral
  else if ds.length > 4300 then .error .tooLong
  else if !rest.isEmpty then .error .notNumeral
  else
    let v : Int := ds.foldl (fun n d => n * 10 + (d.toNat - 0x30)) 0
    .ok (if neg then -v else v)

/-- A text read as a numeral once it is normalised. -/
def numeral (cs : List Char) : Except Refusal Int :=
  numeralValue (stripZeros (dropUnderscores cs))

/-- The text before its last point, when one or more zeros and nothing else follow the point. -/
def withoutPointZeros? (cs : List Char) : Option (List Char) :=
  match (cs.reverse.takeWhile (· != '.')), (cs.reverse.dropWhile (· != '.')) with
  | zs@(_ :: _), '.' :: before => if zs.all (· == '0') then some before.reverse else none
  | _, _ => none

/-- The issue a refusal is reported as. -/
def Refusal.kind : Refusal → IssueKind
  | .notNumeral => .intParsing
  | .tooLong => .intParsingSize

/-- Reads a whole number from a text. -/
def ofText (s : String) : Except IssueKind Int :=
  let t := trim s.toList
  match numeral t with
  | .ok n => .ok n
  | .error .tooLong => .error .intParsingSize
  | .error .notNumeral =>
    match withoutPointZeros? t with
    | some t' =>
      match numeral t' with
      | .ok n => .ok n
      | .error r => .error r.kind
    | none => .error .intParsing

/-- Reads a whole number from a double. -/
def ofDouble (x : Binary64) : Except IssueKind Int :=
  if !x.isFinite then .error .finiteNumber
  else if !x.isIntegral then .error .intFromFloat
  else
    let n := x.toInt
    if -Int.pow 2 63 < n && n < Int.pow 2 63 then .ok n else .error .intParsingSize

end MiniExpr.Whole
