import MiniExpr.Toml.Value
import MiniExpr.Text.Classes
/-!
# Reading TOML documents

A reader for TOML 1.0.  A document is read line by line: blank lines and comments, `key = value`
pairs, `[table]` headers and `[[array]]` headers.  Keys are bare (ASCII letters, digits, `-`, `_`)
or quoted, and dotted keys name nested tables.  Values are basic and literal strings, one-line or
multi-line; integers in decimal (with `_` between digits, no leading zero), hex, octal and binary;
doubles, `inf` and `nan`; booleans; dates, times and date-times; arrays; and inline tables.

Which tables may still be extended is tracked by `Flags`: a table opened by a header, or through a
dotted key in an earlier section, cannot be declared again, and an inline table or array cannot be
extended at all.  Raw control characters other than tab are refused in comments and strings (line
feeds are allowed inside multi-line strings), and a `\r\n` pair counts as one line feed.

A decimal integer of more than 4300 digits stops the reading where it stands, as an error of its
own: it is well formed, but too long to convert.

Values nest, so the readers of values count down a step budget; `parse` gives them more steps than
the text has code points.
-/

namespace MiniExpr.Toml

/-- Why reading a text as a TOML document stops. -/
inductive Error where
  /-- The text breaks the grammar. -/
  | malformed (reason : String)
  /-- A decimal integer has more than 4300 digits, too many to convert: their count. -/
  | integerTooLong (digits : Nat)
  deriving Repr

/-- A failure of the grammar, with a reason. -/
def fail {α : Type} (reason : String) : Except Error α := .error (.malformed reason)

/-- The most digits a decimal integer may have. -/
def maxIntegerDigits : Nat := 4300

/-- The single quote, U+0027. -/
def apostrophe : Char := Char.ofNat 0x27

/-- A blank inside a line: space or tab. -/
def isBlank (c : Char) : Bool := c == ' ' || c == '\t'

/-- A character of a bare key. -/
def isBareKeyChar (c : Char) : Bool := c.isAlphanum || c == '-' || c == '_'

/-- An ASCII control character: below U+0020, or DEL. -/
def isControl (c : Char) : Bool := c.toNat < 0x20 || c.toNat == 0x7F

/-- A character refused in a comment or a one-line string: a control character other than tab. -/
def illegalInLine (c : Char) : Bool := isControl c && c != '\t'

/-- A character refused in a multi-line string: a control character other than tab and line feed. -/
def illegalInBlock (c : Char) : Bool := illegalInLine c && c != '\n'

/-- The text after leading blanks. -/
def skipBlank (cs : List Char) : List Char := cs.dropWhile isBlank

/-- Whether a character is a blank or a line feed. -/
def isBlankOrNewline (c : Char) : Bool := isBlank c || c == '\n'

/-- The text after leading blanks and line feeds. -/
def skipBlankLines (cs : List Char) : List Char := cs.dropWhile isBlankOrNewline

/-- Each `\r\n` pair read as one line feed. -/
def joinCrLf : List Char → List Char
  | '\r' :: '\n' :: r => '\n' :: joinCrLf r
  | c :: r => c :: joinCrLf r
  | [] => []

/-- Skips a comment up to, not over, its line feed. -/
def skipComment : List Char → Except Error (List Char)
  | '#' :: r =>
    if (r.takeWhile (· != '\n')).any illegalInLine then fail "illegal character in comment"
    else .ok (r.dropWhile (· != '\n'))
  | cs => .ok cs

/-- Skips blanks, line feeds and comments, as between the items of an array. -/
def skipArrayBlank (cs : List Char) : Except Error (List Char) :=
  match _h : skipBlankLines cs with
  | '#' :: r =>
    if (r.takeWhile (· != '\n')).any illegalInLine then fail "illegal character in comment"
    else skipArrayBlank (r.dropWhile (· != '\n'))
  | cs' => .ok cs'
termination_by cs.length
decreasing_by
  have h1 := (@List.dropWhile_suffix _ cs isBlankOrNewline).length_le
  have h2 := (@List.dropWhile_suffix _ r (· != '\n')).length_le
  unfold skipBlankLines at _h
  rw [_h] at h1
  simp only [List.length_cons] at h1
  omega

/-- Whether `n` is a Unicode scalar value: a code point that is not a surrogate. -/
def isScalar (n : Nat) : Bool := n ≤ 0xD7FF || (0xE000 ≤ n && n ≤ 0x10FFFF)

/-- The character a one-letter escape stands for. -/
def escapeOf? : Char → Option Char
  | 'b' => some '\x08'
  | 't' => some '\t'
  | 'n' => some '\n'
  | 'f' => some '\x0c'
  | 'r' => some '\r'
  | '"' => some '"'
  | '\\' => some '\\'
  | _ => none

/-- The character that hex digits `ds` escape, if they spell a scalar value. -/
def hexEscape? (ds : List Char) : Option Char :=
  match Text.hexNumber? ds with
  | some n => if isScalar n then some (Char.ofNat n) else none
  | none => none

theorem length_skipBlank (cs : List Char) : (skipBlank cs).length ≤ cs.length :=
  (List.dropWhile_suffix isBlank).length_le

theorem length_skipBlankLines (cs : List Char) : (skipBlankLines cs).length ≤ cs.length :=
  (List.dropWhile_suffix isBlankOrNewline).length_le

/-- The text after a backslash that ends a line of a multi-line basic string, read from the
character `e` after the backslash: the line feed (after blanks, if `e` is a blank) and all blanks
and line feeds after it are skipped.  `none` when something else follows the blanks. -/
def lineContinuation (e : Char) (r : List Char) : Option (List Char) :=
  if e == '\n' then some (skipBlankLines r)
  else
    match skipBlank r with
    | '\n' :: r' => some (skipBlankLines r')
    | [] => some []
    | _ => none

theorem length_lineContinuation {e : Char} {r r' : List Char} (h : lineContinuation e r = some r') :
    r'.length ≤ r.length := by
  unfold lineContinuation at h
  split at h
  · cases h
    exact length_skipBlankLines r
  · split at h
    · rename_i r'' heq
      cases h
      have h1 := length_skipBlank r
      rw [heq, List.length_cons] at h1
      have h2 := length_skipBlankLines r''
      omega
    · cases h
      simp
    · cases h

/-- Reads a basic string after its opening quote (after its three quotes, when `multi`); `acc`
holds what was read, last first.  In a multi-line string a backslash at the end of a line, with
only blanks after it, swallows the line feed and the blanks and line feeds that follow. -/
def readBasic (multi : Bool) : List Char → List Char → Except Error (String × List Char)
  | [], _ => fail "unterminated string"
  | '"' :: '"' :: '"' :: r, acc =>
    if multi then .ok (String.ofList acc.reverse, r)
    else .ok (String.ofList acc.reverse, '"' :: '"' :: r)
  | '"' :: r, acc =>
    if multi then readBasic multi r ('"' :: acc)
    else .ok (String.ofList acc.reverse, r)
  | '\\' :: 'u' :: a :: b :: c :: d :: r, acc =>
    match hexEscape? [a, b, c, d] with
    | some ch => readBasic multi r (ch :: acc)
    | none => fail "invalid unicode escape"
  | '\\' :: 'U' :: a :: b :: c :: d :: e :: f :: g :: h :: r, acc =>
    match hexEscape? [a, b, c, d, e, f, g, h] with
    | some ch => readBasic multi r (ch :: acc)
    | none => fail "invalid unicode escape"
  | '\\' :: e :: r, acc =>
    if multi && (e == '\n' || isBlank e) then
      match _hcont : lineContinuation e r with
      | some r' => readBasic multi r' acc
      | none => fail "unescaped backslash"
    else
      match escapeOf? e with
      | some ch => readBasic multi r (ch :: acc)
      | none => fail "unescaped backslash"
  | '\\' :: [], _ => fail "unescaped backslash"
  | c :: r, acc =>
    if (if multi then illegalInBlock c else illegalInLine c) then fail "illegal character in string"
    else readBasic multi r (c :: acc)
termination_by cs _ => cs.length
decreasing_by
  all_goals simp only [List.length_cons]
  all_goals first
    | omega
    | (have hle := length_lineContinuation (by assumption); omega)

/-- Reads a one-line literal string after its opening quote. -/
def readLiteral (cs : List Char) : Except Error (String × List Char) :=
  let body := cs.takeWhile (· != apostrophe)
  match cs.dropWhile (· != apostrophe) with
  | [] => fail "unterminated string"
  | _ :: r => if body.any illegalInLine then fail "illegal character in string" else .ok (String.ofList body, r)

/-- The text before the first three `q` in a row, and the text after them. -/
def splitAtTriple (q : Char) : List Char → Option (List Char × List Char)
  | [] => none
  | a :: r =>
    match r with
    | b :: c :: r' =>
      if a == q && b == q && c == q then some ([], r')
      else (splitAtTriple q r).map fun p => (a :: p.1, p.2)
    | _ => none

/-- Up to two more quotes `q` right after the closing three belong to the string. -/
def extraQuotes (q : Char) (body : String) : List Char → String × List Char
  | c :: r =>
    if c == q then
      match r with
      | d :: r' => if d == q then (body.push q |>.push q, r') else (body.push q, r)
      | [] => (body.push q, r)
    else (body, c :: r)
  | [] => (body, [])

/-- A line feed right after the opening quotes of a multi-line string is not part of it. -/
def dropFirstNewline : List Char → List Char
  | '\n' :: r => r
  | cs => cs

/-- Reads a multi-line basic string after its three opening quotes. -/
def readMultiBasic (cs : List Char) : Except Error (String × List Char) := do
  let (s, r) ← readBasic true (dropFirstNewline cs) []
  pure (extraQuotes '"' s r)

/-- Reads a multi-line literal string after its three opening quotes. -/
def readMultiLiteral (cs : List Char) : Except Error (String × List Char) :=
  match splitAtTriple apostrophe (dropFirstNewline cs) with
  | none => fail "unterminated string"
  | some (body, r) =>
    if body.any illegalInBlock then fail "illegal character in string"
    else .ok (extraQuotes apostrophe (String.ofList body) r)

/-- Reads one part of a key: bare, literal or basic. -/
def readKeyPart : List Char → Except Error (String × List Char)
  | c :: r =>
    if isBareKeyChar c then .ok (String.ofList (c :: r.takeWhile isBareKeyChar), r.dropWhile isBareKeyChar)
    else if c == apostrophe then readLiteral r
    else if c == '"' then readBasic false r []
    else fail "invalid key"
  | [] => fail "invalid key"

/-- Reads the further dotted parts of a key; `acc` holds the parts read.  Returns the text after
the key and the blanks that follow it. -/
def readKeyRest : Nat → List String → List Char → Except Error (List String × List Char)
  | 0, _, _ => fail "key too long"
  | n + 1, acc, cs =>
    match skipBlank cs with
    | '.' :: r => do
      let (p, r') ← readKeyPart (skipBlank r)
      readKeyRest n (acc ++ [p]) r'
    | cs' => .ok (acc, cs')

/-- Reads a key, dotted or not, and the blanks after it. -/
def readKey (cs : List Char) : Except Error (List String × List Char) := do
  let (p, r) ← readKeyPart cs
  readKeyRest (cs.length + 1) [p] r

/-! ## Numbers, dates and times -/

/-- Whether `c` lies between `lo` and `hi`. -/
def inRange (lo hi c : Char) : Bool := lo ≤ c && c ≤ hi

/-- The rest of a run of digits accepted by `ok`, each digit after the first possibly preceded by
one underscore: the digits without underscores, and the text after the run. -/
def runTail (ok : Char → Bool) : List Char → List Char × List Char
  | '_' :: d :: r =>
    if ok d then let (ds, rest) := runTail ok r; (d :: ds, rest) else ([], '_' :: d :: r)
  | d :: r => if ok d then let (ds, rest) := runTail ok r; (d :: ds, rest) else ([], d :: r)
  | [] => ([], [])

/-- A run of digits accepted by `ok`, starting with a digit. -/
def digitRun (ok : Char → Bool) : List Char → Option (List Char × List Char)
  | c :: r => if ok c then let (ds, rest) := runTail ok r; some (c :: ds, rest) else none
  | [] => none

/-- The number digits `ds` spell in base `b`. -/
def digitsIn (b : Nat) (ds : List Char) : Nat :=
  ds.foldl (fun n d => n * b + ((Text.hexValue? d).getD 0)) 0

/-- An optional sign: whether it is a minus, and the text after it. -/
def readSign : List Char → Bool × List Char
  | '-' :: r => (true, r)
  | '+' :: r => (false, r)
  | cs => (false, cs)

/-- Reads a number in hex, octal or binary after its `0`. -/
def readRadix : List Char → Option (Value × List Char)
  | 'x' :: r => (digitRun Char.isHexDigit r).map fun (ds, rest) => (.int (digitsIn 16 ds), rest)
  | 'o' :: r => (digitRun (inRange '0' '7') r).map fun (ds, rest) => (.int (digitsIn 8 ds), rest)
  | 'b' :: r => (digitRun (inRange '0' '1') r).map fun (ds, rest) => (.int (digitsIn 2 ds), rest)
  | _ => none

/-- Reads the longest decimal number at the start of the text: an integer, or a double when it has
a fraction or an exponent.  An integer of too many digits is read as an error. -/
def readDecimal (cs : List Char) : Option (Except Error Value × List Char) :=
  let (neg, r) := readSign cs
  let whole : Option (List Char × List Char) :=
    match r with
    | '0' :: r' => some (['0'], r')
    | c :: r' =>
      if inRange '1' '9' c then let (ds, rest) := runTail Char.isDigit r'; some (c :: ds, rest)
      else none
    | [] => none
  match whole with
  | none => none
  | some (w, r1) =>
    let (frac, r2) : Option (List Char) × List Char :=
      match r1 with
      | '.' :: r' =>
        match digitRun Char.isDigit r' with
        | some (ds, rest) => (some ds, rest)
        | none => (none, r1)
      | _ => (none, r1)
    let (ex, r3) : Option Int × List Char :=
      match r2 with
      | e :: r' =>
        if e == 'e' || e == 'E' then
          let (eneg, r'') := readSign r'
          match digitRun Char.isDigit r'' with
          | some (ds, rest) =>
            let v : Int := digitsIn 10 ds
            (some (if eneg then -v else v), rest)
          | none => (none, r2)
        else (none, r2)
      | [] => (none, r2)
    if frac.isNone && ex.isNone then
      if w.length > maxIntegerDigits then some (.error (.integerTooLong w.length), r3)
      else
        let v : Int := digitsIn 10 w
        some (.ok (.int (if neg then -v else v)), r3)
    else
      let f := frac.getD []
      some (.ok (.float (Binary64.ofDecimal neg (digitsIn 10 (w ++ f)) (ex.getD 0 - f.length))), r3)

/-- Reads a number that is not `inf` or `nan`. -/
def readNumber (cs : List Char) : Option (Except Error Value × List Char) :=
  match cs with
  | '0' :: r =>
    match readRadix r with
    | some (v, rest) => some (.ok v, rest)
    | none => readDecimal cs
  | _ => readDecimal cs

/-- Reads `inf` or `nan`, with an optional sign. -/
def readSpecialFloat : List Char → Option (Value × List Char)
  | 'i' :: 'n' :: 'f' :: r => some (.float (Binary64.infinity false), r)
  | 'n' :: 'a' :: 'n' :: r => some (.float Binary64.nan, r)
  | '+' :: 'i' :: 'n' :: 'f' :: r => some (.float (Binary64.infinity false), r)
  | '-' :: 'i' :: 'n' :: 'f' :: r => some (.float (Binary64.infinity true), r)
  | '+' :: 'n' :: 'a' :: 'n' :: r => some (.float Binary64.nan, r)
  | '-' :: 'n' :: 'a' :: 'n' :: r => some (.float Binary64.nan, r)
  | _ => none

/-- The value of two decimal digits. -/
def twoDigits (a b : Char) : Nat := (a.toNat - 0x30) * 10 + (b.toNat - 0x30)

/-- Reads a date `YYYY-MM-DD` with a month from 01 to 12 and a day from 01 to 31. -/
def readDate : List Char → Option (Date × List Char)
  | y1 :: y2 :: y3 :: y4 :: '-' :: m1 :: m2 :: '-' :: d1 :: d2 :: r =>
    if [y1, y2, y3, y4, m1, m2, d1, d2].all Char.isDigit
        && ((m1 == '0' && inRange '1' '9' m2) || (m1 == '1' && inRange '0' '2' m2))
        && ((d1 == '0' && inRange '1' '9' d2) || ((d1 == '1' || d1 == '2') && d2.isDigit)
          || (d1 == '3' && inRange '0' '1' d2)) then
      some (⟨twoDigits y1 y2 * 100 + twoDigits y3 y4, twoDigits m1 m2, twoDigits d1 d2⟩, r)
    else none
  | _ => none

/-- Reads a time `HH:MM:SS` with an optional fraction, of which six digits are kept. -/
def readTime : List Char → Option (Time × List Char)
  | h1 :: h2 :: ':' :: m1 :: m2 :: ':' :: s1 :: s2 :: r =>
    if ((inRange '0' '1' h1 && h2.isDigit) || (h1 == '2' && inRange '0' '3' h2))
        && inRange '0' '5' m1 && m2.isDigit && inRange '0' '5' s1 && s2.isDigit then
      let (micros, rest) : Nat × List Char :=
        match r with
        | '.' :: r' =>
          let ds := r'.takeWhile Char.isDigit
          if ds.isEmpty then (0, r)
          else (digitsIn 10 ((ds.take 6) ++ List.replicate (6 - ds.length) '0'),
            r'.dropWhile Char.isDigit)
        | _ => (0, r)
      some (⟨twoDigits h1 h2, twoDigits m1 m2, twoDigits s1 s2, micros⟩, rest)
    else none
  | _ => none

/-- Reads the offset of a date-time: `Z`, or a sign with hours and minutes. -/
def readOffset : List Char → Option Int × List Char
  | 'Z' :: r => (some 0, r)
  | 'z' :: r => (some 0, r)
  | s :: h1 :: h2 :: ':' :: m1 :: m2 :: r =>
    if (s == '+' || s == '-')
        && ((inRange '0' '1' h1 && h2.isDigit) || (h1 == '2' && inRange '0' '3' h2))
        && inRange '0' '5' m1 && m2.isDigit then
      let v : Int := twoDigits h1 h2 * 60 + twoDigits m1 m2
      (some (if s == '-' then -v else v), r)
    else (none, s :: h1 :: h2 :: ':' :: m1 :: m2 :: r)
  | cs => (none, cs)

/-- Whether `y` is a leap year of the Gregorian calendar. -/
def isLeapYear (y : Nat) : Bool := y % 4 == 0 && (y % 100 != 0 || y % 400 == 0)

/-- The number of days of month `m` of year `y`. -/
def daysInMonth (y m : Nat) : Nat :=
  match m with
  | 2 => if isLeapYear y then 29 else 28
  | 4 | 6 | 9 | 11 => 30
  | _ => 31

/-- Whether a date exists: its year is at least 1 and its day lies in its month. -/
def Date.isValid (d : Date) : Bool := 1 ≤ d.year && d.day ≤ daysInMonth d.year d.month

/-- Reads a date, or a date with a time and an optional offset; a date that does not exist is an
error. -/
def readDateTime (cs : List Char) : Option (Except Error Value × List Char) :=
  match readDate cs with
  | none => none
  | some (d, r) =>
    let timed : Option (Time × List Char) :=
      match r with
      | s :: r' => if s == 'T' || s == 't' || s == ' ' then readTime r' else none
      | [] => none
    let checked (v : Value) : Except Error Value :=
      if d.isValid then .ok v else fail "invalid date"
    match timed with
    | none => some (checked (.date d), r)
    | some (t, r') =>
      let (off, r'') := readOffset r'
      some (checked (.dateTime d t off), r'')

/-! ## Flags -/

/-- What a flag says of a table. -/
inductive Flag where
  /-- An inline table or an array: nothing may be added to it. -/
  | frozen
  /-- A table already opened by a header or a dotted key: no header may open it again. -/
  | explicitNest
  deriving DecidableEq, Repr

/-- A flag on a key; a recursive flag holds for every key below it too. -/
structure FlagEntry where
  key : List String
  flag : Flag
  recursive : Bool
  deriving Repr

/-- The flags set so far. -/
abbrev Flags := List FlagEntry

namespace Flags

/-- Whether `key` carries `f`, directly or through a recursive flag on a key above it. -/
def has (fs : Flags) (key : List String) (f : Flag) : Bool :=
  !key.isEmpty && fs.any fun e =>
    e.flag == f && (e.key == key || (e.recursive && e.key.length < key.length && e.key.isPrefixOf key))

/-- Sets a flag. -/
def add (fs : Flags) (key : List String) (f : Flag) (recursive : Bool) : Flags :=
  fs ++ [⟨key, f, recursive⟩]

/-- Clears every flag on `key` and the keys below it. -/
def unsetAll (fs : Flags) (key : List String) : Flags :=
  fs.filter fun e => !key.isPrefixOf e.key

end Flags

/-- The key without its last part, and the last part. -/
def splitLast (key : List String) : List String × String :=
  (key.dropLast, key.getLast?.getD "")

/-! ## Values -/

/-- Reads a value that is neither a string, an array, a table nor a boolean: a date or time, a
number, `inf` or `nan`. -/
def readScalar (cs : List Char) : Except Error (Value × List Char) :=
  match readDateTime cs with
  | some (res, r) => res.map (·, r)
  | none =>
    match readTime cs with
    | some (t, r) => .ok (.time t, r)
    | none =>
      match readNumber cs with
      | some (res, r) => res.map (·, r)
      | none =>
        match readSpecialFloat cs with
        | some res => .ok res
        | none => fail "invalid value"

mutual

/-- Reads one value. -/
def readValue : Nat → List Char → Except Error (Value × List Char)
  | 0, _ => fail "nested too deeply"
  | n + 1, cs =>
    match cs with
    | '"' :: '"' :: '"' :: r => (readMultiBasic r).map fun (s, r') => (.string s, r')
    | '"' :: r => (readBasic false r []).map fun (s, r') => (.string s, r')
    | '[' :: r => readArray n r
    | '{' :: r => readInline n r
    | 't' :: 'r' :: 'u' :: 'e' :: r => .ok (.bool true, r)
    | 'f' :: 'a' :: 'l' :: 's' :: 'e' :: r => .ok (.bool false, r)
    | c :: r =>
      if c == apostrophe then
        match r with
        | a :: b :: r' =>
          if a == apostrophe && b == apostrophe then
            (readMultiLiteral r').map fun (s, r'') => (.string s, r'')
          else (readLiteral r).map fun (s, r') => (.string s, r')
        | _ => (readLiteral r).map fun (s, r') => (.string s, r')
      else readScalar cs
    | [] => fail "invalid value"

/-- Reads an array after its `[`. -/
def readArray : Nat → List Char → Except Error (Value × List Char)
  | 0, _ => fail "nested too deeply"
  | n + 1, cs => do
    let cs ← skipArrayBlank cs
    match cs with
    | ']' :: r => pure (.array [], r)
    | _ => readItems n cs []

/-- Reads the items of an array from its first item on; `acc` holds the items read. -/
def readItems : Nat → List Char → List Value → Except Error (Value × List Char)
  | 0, _, _ => fail "nested too deeply"
  | n + 1, cs, acc => do
    let (v, r) ← readValue n cs
    let r ← skipArrayBlank r
    match r with
    | ']' :: r' => pure (.array (acc ++ [v]), r')
    | ',' :: r' =>
      let r'' ← skipArrayBlank r'
      match r'' with
      | ']' :: r3 => pure (.array (acc ++ [v]), r3)
      | _ => readItems n r'' (acc ++ [v])
    | _ => fail "unclosed array"

/-- Reads an inline table after its `{`. -/
def readInline : Nat → List Char → Except Error (Value × List Char)
  | 0, _ => fail "nested too deeply"
  | n + 1, cs =>
    match skipBlank cs with
    | '}' :: r => .ok (.table [], r)
    | cs' => readPairs n cs' [] []

/-- Reads the pairs of an inline table; `t` holds the table so far and `flags` its frozen keys. -/
def readPairs : Nat → List Char → Table → Flags → Except Error (Value × List Char)
  | 0, _, _, _ => fail "nested too deeply"
  | n + 1, cs, t, flags => do
    let ((key, v), r) ← readPair n cs
    if flags.has key .frozen then fail "immutable namespace"
    else
      let (parent, stem) := splitLast key
      let insert (nest : Table) : Option Table :=
        if nest.contains stem then none else some (nest.set stem v)
      match Table.update false insert parent t with
      | none => fail "duplicate key"
      | some t' =>
        match skipBlank r with
        | '}' :: r' => pure (.table t', r')
        | ',' :: r' =>
          let flags := if v.isContainer then flags.add key .frozen true else flags
          readPairs n (skipBlank r') t' flags
        | _ => fail "unclosed inline table"

/-- Reads `key = value`. -/
def readPair : Nat → List Char → Except Error ((List String × Value) × List Char)
  | 0, _ => fail "nested too deeply"
  | n + 1, cs => do
    let (key, r) ← readKey cs
    match r with
    | '=' :: r' => do
      let (v, r'') ← readValue n (skipBlank r')
      pure ((key, v), r'')
    | _ => fail "expected '='"

end

/-! ## Documents -/

/-- What the reader knows between lines: the document so far, the flags, the keys opened by dotted
keys in the current section (flagged once the next header starts), and the current header. -/
structure State where
  doc : Table := []
  flags : Flags := []
  pending : List (List String) := []
  header : List String := []

namespace State

/-- Flags the keys opened by dotted keys in the section that ends. -/
def finishSection (s : State) : State :=
  { s with flags := s.flags ++ s.pending.map fun k => ⟨k, .explicitNest, false⟩, pending := [] }

/-- Opens the section of a `[key]` header. -/
def openTable (s : State) (key : List String) : Except Error State :=
  if s.flags.has key .explicitNest || s.flags.has key .frozen then fail "table declared twice"
  else
    match Table.update true some key s.doc with
    | some doc => .ok { s with doc, flags := s.flags.add key .explicitNest false, header := key }
    | none => fail "cannot overwrite a value"

/-- Opens the section of a `[[key]]` header: a new table at the end of the array under `key`. -/
def openArrayTable (s : State) (key : List String) : Except Error State :=
  if s.flags.has key .frozen then fail "immutable namespace"
  else
    let flags := (s.flags.unsetAll key).add key .explicitNest false
    let (parent, last) := splitLast key
    let append (nest : Table) : Option Table :=
      match nest.get? last with
      | some (.array items) => some (nest.set last (.array (items ++ [.table []])))
      | some _ => none
      | none => some (nest.set last (.array [.table []]))
    match Table.update true append parent s.doc with
    | some doc => .ok { s with doc, flags, header := key }
    | none => fail "cannot overwrite a value"

/-- Defines `key = v` in the current section. -/
def define (s : State) (key : List String) (v : Value) : Except Error State :=
  let (parent, stem) := splitLast key
  let opened := (List.range (key.length - 1)).map fun i => s.header ++ key.take (i + 1)
  if opened.any (fun k => s.flags.has k .explicitNest) then fail "cannot redefine namespace"
  else if s.flags.has (s.header ++ parent) .frozen then fail "immutable namespace"
  else
    let insert (nest : Table) : Option Table :=
      if nest.contains stem then none else some (nest.set stem v)
    match Table.update true insert (s.header ++ parent) s.doc with
    | none => fail "cannot overwrite a value"
    | some doc =>
      let flags := if v.isContainer then s.flags.add (s.header ++ key) .frozen true else s.flags
      .ok { s with doc, flags, pending := s.pending ++ opened }

end State

/-- Reads one statement: a pair, a header, or nothing before a comment. -/
def readStatement (fuel : Nat) (s : State) (cs : List Char) : Except Error (State × List Char) :=
  match cs with
  | '[' :: '[' :: r => do
    let s := s.finishSection
    let (key, r) ← readKey (skipBlank r)
    let s ← s.openArrayTable key
    match r with
    | ']' :: ']' :: r' => pure (s, skipBlank r')
    | _ => fail "expected ']]'"
  | '[' :: r => do
    let s := s.finishSection
    let (key, r) ← readKey (skipBlank r)
    let s ← s.openTable key
    match r with
    | ']' :: r' => pure (s, skipBlank r')
    | _ => fail "expected ']'"
  | '#' :: r => .ok (s, '#' :: r)
  | c :: _ =>
    if isBareKeyChar c || c == '"' || c == apostrophe then do
      let ((key, v), r) ← readPair fuel cs
      let s ← s.define key v
      pure (s, skipBlank r)
    else fail "invalid statement"
  | [] => .ok (s, [])

/-- Reads the lines of a document. -/
def readLines : Nat → State → List Char → Except Error Table
  | 0, _, _ => fail "document too long"
  | n + 1, s, cs =>
    match skipBlank cs with
    | [] => .ok s.doc
    | '\n' :: r => readLines n s r
    | cs' => do
      let (s, r) ← readStatement n s cs'
      let r ← skipComment r
      match r with
      | [] => pure s.doc
      | '\n' :: r' => readLines n s r'
      | _ => fail "expected a line feed after a statement"

/-- Reads a whole document. -/
def parse (text : String) : Except Error Table :=
  let cs := joinCrLf text.toList
  readLines (3 * cs.length + 3) {} cs

end MiniExpr.Toml
