import MiniExpr.Text.Mark
import MiniExpr.Token
/-!
# The lexer

Source text is read as characters: a code point with every mark or joiner that attaches to it
(`Text.Mark.attaches`).  A character that is a lone punctuator is a punctuator token; a lone ASCII
letter starts a name, which runs on over every following lone letter; every other character is
passed over without a word.

`scan` finds the first token of a list of code points and returns the code points after it;
`tokensOf` repeats it.  A `Lexer` is a text with a cursor counted in code points, moved by the
steps `next`, `drain`, `seek` and `setText`.  A cursor past the end stays where it is, and a scan
that finds nothing leaves the cursor at the end.
-/

namespace MiniExpr

/-- A code point that makes up names: an ASCII letter. -/
def isLetter (c : Char) : Bool := c.isAlpha

/-- Whether a text is exactly one ASCII letter. -/
def isLetterText (s : String) : Bool :=
  match s.toList with
  | [c] => isLetter c
  | _ => false

namespace Lexer

open Text.Mark (attaches)

/-- Whether the code points `cs` that follow a code point begin with one that attaches to it. -/
def marked (cs : List Char) : Bool := cs.head?.any attaches

/-- The letters that continue a name, read after its first letter: each a letter to which nothing
attaches, up to the first code point that is not. -/
def nameTail : List Char → List Char
  | [] => []
  | c :: cs => if isLetter c && !marked cs then c :: nameTail cs else []

/-- The first token of `cs` and the code points after it, or `none` when no token is left.  A code
point with marks attached is passed over with its marks; a lone punctuator is a token; a lone
letter starts a name; anything else is passed over. -/
def scan : List Char → Option (Token × List Char)
  | [] => none
  | c :: cs =>
    if marked cs then scan (cs.dropWhile attaches)
    else
      match Punctuator.ofChar? c with
      | some p => some (Token.ofPunctuator p, cs)
      | none =>
        if isLetter c then
          some (Token.ofName (String.ofList (c :: nameTail cs)), cs.drop (nameTail cs).length)
        else scan cs
termination_by cs => cs.length
decreasing_by
  all_goals simp only [List.length_cons]
  · have := (@List.dropWhile_suffix _ cs attaches).length_le
    omega
  · omega

/-- What a scan leaves is shorter than what it read. -/
theorem scan_rest_lt {cs : List Char} {t : Token} {r : List Char} (h : scan cs = some (t, r)) :
    r.length < cs.length := by
  induction cs using scan.induct generalizing t r with
  | case1 => simp [scan] at h
  | case2 c cs hm ih =>
    rw [scan, if_pos hm] at h
    have := (@List.dropWhile_suffix _ cs attaches).length_le
    have := ih h
    simp only [List.length_cons]
    omega
  | case3 c cs hm p hp =>
    rw [scan, if_neg hm, hp] at h
    simp only [Option.some.injEq, Prod.mk.injEq] at h
    rw [← h.2]
    simp
  | case4 c cs hm hp hl =>
    rw [scan, if_neg hm, hp, if_pos hl] at h
    simp only [Option.some.injEq, Prod.mk.injEq] at h
    rw [← h.2]
    simp only [List.length_drop, List.length_cons]
    omega
  | case5 c cs hm hp hl ih =>
    rw [scan, if_neg hm, hp, if_neg hl] at h
    have := ih h
    simp only [List.length_cons]
    omega

/-- Every token of `cs`, in order. -/
def tokensOf (cs : List Char) : List Token :=
  match _h : scan cs with
  | none => []
  | some (t, r) => t :: tokensOf r
termination_by cs.length
decreasing_by exact scan_rest_lt _h

end Lexer

/-- The tokens of a source text, in order. -/
def tokenize (s : String) : List Token := Lexer.tokensOf s.toList

/-- A text with a cursor, counted in code points, from which tokens are taken one at a time. -/
structure Lexer where
  text : List Char
  pos : Nat
  deriving DecidableEq, Repr

namespace Lexer

/-- A lexer at the start of `s`. -/
def ofString (s : String) : Lexer := ⟨s.toList, 0⟩

/-- Takes the next token and moves the cursor just past it.  When no token is left the cursor goes
to the end of the text, or stays where it is if it is already past the end. -/
def next (l : Lexer) : Option Token × Lexer :=
  match scan (l.text.drop l.pos) with
  | some (t, r) => (some t, { l with pos := l.text.length - r.length })
  | none => (none, { l with pos := max l.pos l.text.length })

/-- A `next` that takes a token moves the cursor closer to the end of the text. -/
theorem next_left_lt {l l' : Lexer} {t : Token} (h : l.next = (some t, l')) :
    l'.text.length - l'.pos < l.text.length - l.pos := by
  unfold next at h
  split at h
  · rename_i r hscan
    cases h
    have hlt := scan_rest_lt hscan
    rw [List.length_drop] at hlt
    simp only
    omega
  · cases h

/-- Takes every token that is left; the cursor ends as after a `next` that finds none. -/
def drain (l : Lexer) : List Token × Lexer :=
  (tokensOf (l.text.drop l.pos), { l with pos := max l.pos l.text.length })

/-- Puts the cursor at `p`, which may lie inside a character or past the end. -/
def seek (l : Lexer) (p : Nat) : Lexer := { l with pos := p }

/-- Replaces the text and keeps the cursor. -/
def setText (l : Lexer) (s : String) : Lexer := { l with text := s.toList }

/-- One step on a lexer.  `next` and `iter` both take the next token; they differ only in how they
report that none is left. -/
inductive Step where
  | next
  | iter
  | rest
  | seek (pos : Nat)
  | setText (text : String)
  deriving DecidableEq, Repr

/-- What a step hands back. -/
inductive Reply where
  /-- `next` or `iter` took a token. -/
  | token (t : Token)
  /-- `next` found no token left. -/
  | none
  /-- `iter` found no token left and stopped. -/
  | stop
  /-- `rest` took these tokens. -/
  | tokens (ts : List Token)
  /-- `seek` or `setText` moved the lexer. -/
  | moved
  deriving DecidableEq, Repr

/-- Runs one step. -/
def step (l : Lexer) : Step → Reply × Lexer
  | .next =>
    match l.next with
    | (some t, l') => (.token t, l')
    | (Option.none, l') => (.none, l')
  | .iter =>
    match l.next with
    | (some t, l') => (.token t, l')
    | (Option.none, l') => (.stop, l')
  | .rest =>
    let (ts, l') := l.drain
    (.tokens ts, l')
  | .seek p => (.moved, l.seek p)
  | .setText s => (.moved, l.setText s)

/-- Runs the steps in order; each reply comes with the cursor after its step. -/
def run (l : Lexer) : List Step → List (Reply × Nat)
  | [] => []
  | s :: ss =>
    let (r, l') := l.step s
    (r, l'.pos) :: run l' ss

/-! ## The cursor loop by offsets

`next` reads the code points after the cursor as a list.  The loop it stands for moves an offset
through the text instead: `clusterEnd` finds where the character at an offset ends, `nameEnd` runs
a name on over the characters that are each one letter, and `nextAt` takes one token from an
offset on. -/

open Text.Mark (attaches)

/-- The offset just past the character that starts at offset `pos`: the code point there and every
code point after it that attaches to it. -/
def clusterEnd (text : List Char) (pos : Nat) : Nat :=
  extend (pos + 1)
where
  /-- Moves `e` on over the code points that attach, up to the end of the text. -/
  extend (e : Nat) : Nat :=
    if h : e < text.length then
      if attaches text[e] then extend (e + 1) else e
    else e
  termination_by text.length - e

theorem le_clusterEnd_extend (text : List Char) (e : Nat) : e ≤ clusterEnd.extend text e := by
  fun_induction clusterEnd.extend text e with
  | case1 e _ _ ih => omega
  | case2 e _ _ => exact Nat.le_refl e
  | case3 e _ => exact Nat.le_refl e

/-- A character holds at least the code point it starts with. -/
theorem lt_clusterEnd (text : List Char) (pos : Nat) : pos < clusterEnd text pos :=
  le_clusterEnd_extend text (pos + 1)

/-- The offset at which a name that has reached offset `pos` stops: it runs on over every character
that is one letter. -/
def nameEnd (text : List Char) (pos : Nat) : Nat :=
  if pos < text.length then
    let e := clusterEnd text pos
    if isLetterText (String.ofList (text.extract pos e)) then nameEnd text e else pos
  else pos
termination_by text.length - pos
decreasing_by have := lt_clusterEnd text pos; omega

/-- Takes the next token from offset `pos` on: the token, if any, and the offset where the cursor
stops.  A character that is a lone punctuator is a token, one that is a lone letter starts a name,
and any other is passed over. -/
def nextAt (text : List Char) (pos : Nat) : Option Token × Nat :=
  if pos < text.length then
    let e := clusterEnd text pos
    let c := String.ofList (text.extract pos e)
    match Punctuator.ofString? c with
    | some p => (some (.ofPunctuator p), e)
    | none =>
      if isLetterText c then
        let r := nameEnd text e
        (some (.ofName (String.ofList (text.extract pos r))), r)
      else nextAt text e
  else (none, pos)
termination_by text.length - pos
decreasing_by have := lt_clusterEnd text pos; omega

end Lexer

end MiniExpr
