/-!
# Console markup

Help texts are written in console markup: plain text with style tags in square brackets, such as
`[bold]` or `[/]`.  What the console prints is the text without its tags.

A tag is a `[`, then a lowercase ASCII letter or one of `#`, `/`, `@`, then anything but `[` up to
the first `]`.  Backslashes right before a tag escape it in pairs: each pair stands for one
backslash, and an odd one out makes the tag plain text.  Before a `[` that starts no tag, one
backslash is dropped, so `\[` writes a bracket.  Every other character stands for itself.

The reading goes one character at a time, remembering how many backslashes are waiting and
whether it is inside a tag; a tag is entered only when its closing `]` is known to come first, so
the text after a tag is never lost.
-/

namespace MiniExpr.Console.Markup

/-- Whether a character can open a tag's name. -/
def isTagStart (c : Char) : Bool :=
  ('a' ≤ c && c ≤ 'z') || c == '#' || c == '/' || c == '@'

/-- Whether a `]` comes before any `[`. -/
def closesFirst : List Char → Bool
  | [] => false
  | c :: r => if c == ']' then true else if c == '[' then false else closesFirst r

/-- Whether the text after a `[` completes a tag. -/
def isTag : List Char → Bool
  | c :: r => isTagStart c && closesFirst r
  | [] => false

/-- The printed text of what is left, given whether a tag is being skipped and how many
backslashes wait to be written. -/
def plainFrom : Bool → Nat → List Char → List Char
  | true, _, [] => []
  | true, _, c :: r => if c == ']' then plainFrom false 0 r else plainFrom true 0 r
  | false, n, [] => List.replicate n '\\'
  | false, n, c :: r =>
    if c == '\\' then plainFrom false (n + 1) r
    else if c == '[' then
      if isTag r then
        List.replicate (n / 2) '\\'
          ++ (if n % 2 = 1 then '[' :: plainFrom false 0 r else plainFrom true 0 r)
      else List.replicate (n - 1) '\\' ++ '[' :: plainFrom false 0 r
    else List.replicate n '\\' ++ c :: plainFrom false 0 r

/-- The text a markup string prints. -/
def plain (s : String) : String := String.ofList (plainFrom false 0 s.toList)

end MiniExpr.Console.Markup
