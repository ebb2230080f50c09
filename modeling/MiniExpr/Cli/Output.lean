import MiniExpr.Lexer
import MiniExpr.Precedence
import MiniExpr.Console.Table
/-!
# What the commands print

The program prints to a console 80 columns wide.  Lines of text are wrapped to that width
(`Console.wrap`); the precedence listing is a table drawn to it (`Console.Table`).
-/

namespace MiniExpr.Cli

/-- The width of the console, in columns. -/
def consoleWidth : Nat := 80

/-- The program's version. -/
def version : String := "0.1.0"

/-- The line that tells the version. -/
def versionLine : String := "Bantam version " ++ version

/-- Lines printed to the console: each wrapped to the console's width, each ending in a line
break. -/
def printLines (lines : List String) : String :=
  String.join ((lines.flatMap (Console.wrap consoleWidth)).map (· ++ "\n"))

/-- How a lexer's answer to a request for its next token is printed: the token, or `None` when
no token is left. -/
def describeResult : Option Token → String
  | some t => t.describe
  | none => "None"

/-- The answers of the lexer `l` to one request for its next token after another, `printed` of
them given already: requests go on while `count` is 0 or fewer than `count` answers are given, and
stop after the first `None`. -/
def tokenResults (count : Nat) (l : Lexer) (printed : Nat) : List (Option Token) :=
  if count = 0 ∨ printed < count then
    match h : l.next with
    | (some t, l') => some t :: tokenResults count l' (printed + 1)
    | (none, _) => [none]
  else []
termination_by l.text.length - l.pos
decreasing_by exact Lexer.next_left_lt h

/-- The lines the `tokens` command prints for `source`, one per request to a lexer on it: each
token, then `None` once the text is used up, where requests stop.  A `count` other than 0 stops
after that many. -/
def tokenReport (source : String) (count : Nat) : List String :=
  (tokenResults count (Lexer.ofString source) 0).map describeResult

/-- The associativities of some rules, each once, in alphabetical order of their labels. -/
def associativityLabels (rules : List Rule) : List String :=
  let labels := (rules.map (·.associativity.label)).eraseDups
  labels.mergeSort fun a b => decide (a ≤ b)

/-- One row of the precedence table: the rank, the level, its operators and their grouping. -/
def precedenceRow (l : Level) : List String :=
  let rules := rulesAt l.rank
  let operators := ", ".intercalate
    (rules.map fun r => r.punctuator.text ++ " (" ++ r.fixity.label ++ ")")
  let grouping := ", ".intercalate (associativityLabels rules)
  [toString l.rank, l.name.toLower,
   if operators.isEmpty then "-" else operators,
   if grouping.isEmpty then "-" else grouping]

/-- The precedence table: one row per level, from the loosest binding to the tightest. -/
def precedenceTable : Console.Table where
  title := some "Operator precedence"
  columns := [⟨"Rank", .right⟩, ⟨"Level", .left⟩, ⟨"Operators", .left⟩, ⟨"Associativity", .left⟩]
  rows := Level.all.map precedenceRow

end MiniExpr.Cli
