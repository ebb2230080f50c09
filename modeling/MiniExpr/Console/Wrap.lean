/-!
# Wrapping lines

A line of output wider than the console is broken into lines that fit.  The line is read as words,
each a run of blanks, a run of non-blanks and the blanks after it.  Words go onto the current line
while each fits once its trailing blanks are left out; a word that does not fit starts a new line,
and a word wider than a whole line is cut into pieces of the full width, the first of which starts
a new line unless it is the first word.  Trailing blanks stay on their line as long as the line
has room for them.

Every character counts as one column: the text printed here is ASCII, where that is exact.
-/

namespace MiniExpr.Console

/-- A blank that separates words: the ASCII blanks, the information separators U+001C to U+001F,
and the Unicode spaces. -/
def isSpace (c : Char) : Bool :=
  let n := c.toNat
  (0x09 ≤ n && n ≤ 0x0D) || (0x1C ≤ n && n ≤ 0x20) || n == 0x85 || n == 0xA0 || n == 0x1680
    || (0x2000 ≤ n && n ≤ 0x200A) || n == 0x2028 || n == 0x2029 || n == 0x202F || n == 0x205F
    || n == 0x3000

/-- The columns a text takes. -/
def columns (cs : List Char) : Nat := cs.length

/-- Where a word is being read: its leading blanks, its non-blanks, or the blanks after them. -/
inductive Part where
  | lead
  | body
  | trail
  deriving DecidableEq

/-- The words of the text left, given the word `cur` read so far and the part of it being read. -/
def wordsFrom : List Char → List Char → Part → List (List Char)
  | [], cur, p => if p = .lead then [] else [cur]
  | c :: r, cur, p =>
    if isSpace c then wordsFrom r (cur ++ [c]) (if p = .lead then .lead else .trail)
    else if p = .trail then cur :: wordsFrom r [c] .body
    else wordsFrom r (cur ++ [c]) .body

/-- Splits text into words: blanks, non-blanks, blanks.  Only the first word has blanks before its
non-blanks; a text of blanks alone has no word. -/
def words (cs : List Char) : List (List Char) := wordsFrom cs [] .lead

/-- The text without blanks at its end. -/
def stripEnd (cs : List Char) : List Char := (cs.reverse.dropWhile isSpace).reverse

/-- The pieces of the text left, given the piece `line` being filled and the columns `used` of it:
a character that does not fit starts the next piece. -/
def chopFrom (width : Nat) : List Char → List Char → Nat → List (List Char)
  | [], line, _ => [line]
  | c :: r, line, used =>
    if used + 1 > width then line :: chopFrom width r [c] 1
    else chopFrom width r (line ++ [c]) (used + 1)

/-- Cuts a word into pieces of at most `width` columns, all full but the last. -/
def chop (width : Nat) (w : List Char) : List (List Char) := chopFrom width w [] 0

/-- The lines of `words` wrapped at `width`, given the line being filled and the columns `used` of
it. -/
def fill (width : Nat) : List (List Char) → List Char → Nat → List (List Char)
  | [], line, _ => [line]
  | w :: ws, line, used =>
    let need := columns (stripEnd w)
    if used + need ≤ width then fill width ws (line ++ w) (used + columns w)
    else if need > width then
      let pieces := chop width w
      let before := if line.isEmpty then [] else [line]
      let last := pieces.getLast?.getD []
      before ++ pieces.dropLast ++ fill width ws last (columns last)
    else if used > 0 then line :: fill width ws w (columns w)
    else fill width ws (line ++ w) used

/-- A line longer than `width` loses blanks at its end, as many as it is too long. -/
def trimEnd (width : Nat) (line : List Char) : List Char :=
  let blanks := (line.reverse.takeWhile isSpace).length
  line.take (line.length - min blanks (line.length - width))

/-- A line cut to `width` columns if it is wider. -/
def fit (width : Nat) (line : List Char) : List Char := line.take width

/-- The lines a line of text is wrapped into at `width`. -/
def wrap (width : Nat) (s : String) : List String :=
  (fill width (words s.toList) [] 0).map fun l => String.ofList (fit width (trimEnd width l))

end MiniExpr.Console
