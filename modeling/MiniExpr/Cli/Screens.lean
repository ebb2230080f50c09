import MiniExpr.Cli.Help
/-!
# The program's help

The help screens of the program and of its three commands.  The doc texts are kept as the
commands' sources write them, indented, and cleaned when shown (`Cli.description`).  Besides its
own options, the program has the two options every program of its kind has, to install and to
show shell completion, and every screen has `--help`.
-/

namespace MiniExpr.Cli

/-- The `--help` option. -/
def helpParam : Param := { long := ["--help"], help := "Show this message and exit." }

/-- The doc text of `tokens`. -/
def tokensDoc : String :=
  "\n    Print successive tokenizer results.\n\n" ++
  "    Each line is one call to next_token(). Once the input is exhausted the\n" ++
  "    result is None.\n\n" ++
  "    Examples:\n" ++
  "        bantam tokens                 # \"b + a\", three results\n" ++
  "        bantam tokens \"x1 + 2y\" -n 0  # every token, then None\n    "

/-- The doc text of `render`. -/
def renderDoc : String :=
  "\n    Print the canonical form of a serialized expression tree.\n\n" ++
  "    Examples:\n" ++
  "        bantam render tree.json\n" ++
  "        echo '\x7b\"kind\": \"name\", \"name\": \"a\"\x7d' | bantam render -\n    "

/-- The doc text of `precedence`. -/
def precedenceDoc : String := "Show operator precedence, from loosest to tightest binding."

/-- The help of the program as a whole. -/
def programScreen : Screen where
  usage := "[OPTIONS] COMMAND [ARGS]..."
  doc := "Bantam - expression language tokenizer and expression trees"
  options :=
    [{ long := ["--version"], short := ["-v"], help := "Show version information" },
     { long := ["--config"], short := ["-c"], metavar := "<path>",
       help := "Path to bantam.toml (default: ./bantam.toml if present)" },
     { long := ["--log-level"], metavar := "<str>",
       help := "Logging level (overrides [logging] level in bantam.toml)",
       envVar := some "BANTAM_LOG_LEVEL" },
     { long := ["--install-completion"], help := "Install completion for the current shell." },
     { long := ["--show-completion"],
       help := "Show completion for the current shell, to copy it or customize the installation." },
     helpParam]
  commands := [("tokens", tokensDoc), ("render", renderDoc), ("precedence", precedenceDoc)]

/-- The help of `tokens`. -/
def tokensScreen : Screen where
  usage := "tokens [OPTIONS] [text]"
  doc := tokensDoc
  arguments :=
    [{ short := ["text"], metavar := "<str>",
       help := "Source text (default: [tokens] sample from config)" }]
  options :=
    [{ long := ["--limit"], short := ["-n"], metavar := "<int range> [x>=0]",
       help := "Number of results to print; 0 prints until the input is exhausted" },
     helpParam]

/-- The help of `render`. -/
def renderScreen : Screen where
  usage := "render [OPTIONS] \x7bsource\x7d"
  doc := renderDoc
  arguments :=
    [{ short := ["source"], metavar := "<str>",
       help := "JSON file holding an expression tree, or '-' for stdin", required := true }]
  options := [helpParam]

/-- The help of `precedence`. -/
def precedenceScreen : Screen where
  usage := "precedence [OPTIONS]"
  doc := precedenceDoc
  options := [helpParam]

/-- What a help screen prints in a console `width` columns wide: its lines, then an empty line. -/
def Screen.text (s : Screen) (width : Nat) (program : String) : String :=
  String.join ((s.render width program).map (· ++ "\n")) ++ "\n"

end MiniExpr.Cli
