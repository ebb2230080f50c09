import MiniExpr.Console.Markup
import MiniExpr.Console.Panel
/-!
# Help screens

A command's help screen shows, one block under another:

* its usage line, with a blank line above and below;
* its description, taken from the command's doc text, and a blank line;
* a panel of its arguments, a panel of its options and, for a group, a panel of its commands,
  each left out when empty.

The doc text is written as it stands in the source, indented.  It is cleaned first: the first
line loses its leading blanks, the others lose the indentation they all share, and blank lines at
either end go.  What is left up to the first empty line is the *summary*, joined into one line;
the paragraphs after it are cleaned once more as a whole, so their common indentation goes too,
and keep their line breaks.  Help texts are console markup (`Console.Markup`).

A panel lists one parameter a row, in columns: whether it is required (`*`, a column there only
when some parameter of the panel is), its long names, its short names (an argument's name stands
here), two columns for the names of a flag's negation, which no parameter here has, what its value
looks like, and its help.  Below the help come the environment variable the parameter can be set
by and whether it is required.  The commands panel lists each command with its summary.
-/

namespace MiniExpr.Cli

open Console

/-- The pieces of a text between the occurrences of `sep`. -/
def splitAt (sep : Char) : List Char → List (List Char)
  | [] => [[]]
  | c :: r =>
    if c == sep then [] :: splitAt sep r
    else
      match splitAt sep r with
      | p :: ps => (c :: p) :: ps
      | [] => [[c]]

/-- The pieces of a text between its empty lines, that is between the pairs of line breaks, read
from left to right. -/
def paragraphs : List Char → List (List Char)
  | '\n' :: '\n' :: r => [] :: paragraphs r
  | c :: r =>
    match paragraphs r with
    | p :: ps => (c :: p) :: ps
    | [] => [[c]]
  | [] => [[]]

/-- The leading blanks of a line, counted. -/
def indentOf (line : List Char) : Nat := (line.takeWhile Char.isWhitespace).length

/-- Whether a line has nothing but blanks. -/
def isBlankLine (line : List Char) : Bool := line.all Char.isWhitespace

/-- A text without blanks at either end. -/
def strip (cs : List Char) : List Char :=
  ((cs.dropWhile Char.isWhitespace).reverse.dropWhile Char.isWhitespace).reverse

/-- A text with its line breaks made blanks. -/
def unbreak (cs : List Char) : List Char := cs.map fun c => if c == '\n' then ' ' else c

/-- The lines left when empty lines at both ends are taken away. -/
def trimEmptyLines (lines : List (List Char)) : List (List Char) :=
  ((lines.dropWhile List.isEmpty).reverse.dropWhile List.isEmpty).reverse

/-- A doc text cleaned: the first line without leading blanks, the other lines without the
indentation their non-blank lines share, and no empty lines at either end. -/
def cleanDoc (doc : List Char) : List Char :=
  match splitAt '\n' doc with
  | [] => []
  | first :: rest =>
    let margin := ((rest.filter fun l => !isBlankLine l).map indentOf).min?
    let rest := match margin with
      | some m => rest.map (·.drop m)
      | none => rest
    ['\n'].intercalate (trimEmptyLines (first.dropWhile Char.isWhitespace :: rest))

/-- The printed lines of some markup. -/
def markupLines (cs : List Char) : List String :=
  (splitAt '\n' (Markup.plainFrom false 0 cs)).map String.ofList

/-- The description a doc text gives: its summary on one line, then, if more follows, an empty
line and the remaining paragraphs. -/
def description (doc : String) : List String :=
  let text := (splitAt '\x0c' (cleanDoc doc.toList)).headD []
  match paragraphs text with
  | [] => []
  | first :: rest =>
    let summary := markupLines (strip (unbreak first))
    if rest.isEmpty then summary
    else summary ++ [""] ++ markupLines (cleanDoc (['\n', '\n'].intercalate rest))

/-- The summary of a doc text, as a list of commands shows it. -/
def summary (doc : String) : String :=
  String.ofList (Markup.plainFrom false 0 (strip ((paragraphs (cleanDoc doc.toList)).headD [])))

/-- A parameter, as help shows it. -/
structure Param where
  /-- The names with two dashes. -/
  long : List String := []
  /-- The names with one dash, or the name of an argument. -/
  short : List String := []
  /-- What its value looks like; empty for a flag. -/
  metavar : String := ""
  /-- What it is for, in markup; paragraphs are separated by an empty line. -/
  help : String := ""
  /-- The environment variable it can be set by. -/
  envVar : Option String := none
  /-- Whether it must be given. -/
  required : Bool := false

namespace Param

/-- The help lines of a parameter: its help text, paragraph by paragraph, then its environment
variable and whether it is required. -/
def helpLines (p : Param) : Cell :=
  let ps := (paragraphs p.help.toList).map fun x => strip (unbreak x)
  (if p.help.isEmpty then [] else markupLines (strip (['\n'].intercalate ps)))
    ++ (match p.envVar with
      | some v => ["[env var: " ++ v ++ "]"]
      | none => [])
    ++ (if p.required then ["[required]"] else [])

/-- The cells of a parameter's row, without the column for being required. -/
def cells (p : Param) : List Cell :=
  [[",".intercalate p.long], [",".intercalate p.short], [""], [""], [p.metavar], p.helpLines]

end Param

/-- The rows of a panel of parameters: with a first column for being required when any is. -/
def paramRows (ps : List Param) : List (List Cell) :=
  if ps.any (·.required) then ps.map fun p => [if p.required then "*" else ""] :: p.cells
  else ps.map Param.cells

/-- A panel of parameters `width` columns wide, or nothing when there are none. -/
def paramPanel (width : Nat) (title : String) (ps : List Param) : List String :=
  if ps.isEmpty then [] else panel width title (grid (width - 4) (paramRows ps))

/-- The help of a command or a group of commands. -/
structure Screen where
  /-- The usage line after the program's name. -/
  usage : String
  /-- The doc text, as written in the source. -/
  doc : String
  arguments : List Param := []
  options : List Param := []
  /-- The commands of a group, with their doc texts. -/
  commands : List (String × String) := []

/-- The lines of a help screen in `width` columns, for a program called `program`. -/
def Screen.render (s : Screen) (width : Nat) (program : String) : List String :=
  let usage := [blankLine width] ++ textBlock width ["Usage: " ++ program ++ " " ++ s.usage]
    ++ [blankLine width]
  let about := match description s.doc with
    | [] => []
    | lines => textBlock width lines ++ [blankLine width]
  let commands :=
    if s.commands.isEmpty then []
    else panel width "Commands" (grid (width - 4) (s.commands.map fun (n, d) => [[n], [summary d]]))
  usage ++ about ++ paramPanel width "Arguments" s.arguments ++ paramPanel width "Options" s.options
    ++ commands

end MiniExpr.Cli
