import MiniExpr.Cli.Args
import MiniExpr.Cli.Output
import MiniExpr.Cli.Screens
import MiniExpr.Config.Load
import MiniExpr.Expr.Load
import MiniExpr.Number.Numeral
/-!
# Running the program

The program takes global options, then a command with its own options and arguments:

* `tokens [TEXT] [-n N]` lists what a lexer on TEXT gives, one request after another;
* `render SOURCE` prints an expression tree read as JSON from a file, or from standard input for `-`;
* `precedence` prints the table of operators.

A run ends with an exit code: 0 for success, 1 when the work fails, 2 when the command line is
wrong.  What goes wrong first decides: the global options are read first (`--version` answers at
once), then the command's name, then the settings are loaded and `--log-level` is checked, and only
then are the command's own words read.

The world is reached through an `Env`: what stands at a path, the standard input, the working
directory's name, and the name the program was called by, which its help shows.  The run itself is a plain function in any monad, so a workspace held in memory
and the real file system serve alike.
-/

namespace MiniExpr.Cli

/-- How a run ends: its exit code and what it wrote to its output and error streams. -/
structure Outcome where
  code : Nat
  out : String := ""
  err : String := ""

namespace Outcome

/-- Success with the given output. -/
def success (out : String) : Outcome := ⟨0, out, ""⟩

/-- Failed work, with a line that says why. -/
def failure (message : String) : Outcome := ⟨1, "", message ++ "\n"⟩

/-- Failed work with nothing said. -/
def silent : Outcome := ⟨1, "", ""⟩

/-- A wrong command line. -/
def usage (e : UsageError) : Outcome :=
  ⟨2, "", "Usage: bantam [OPTIONS] COMMAND [ARGS]...\nTry 'bantam --help' for help.\n\nError: "
    ++ e.message ++ "\n"⟩

end Outcome

/-- What the program sees of the world. -/
structure Env (m : Type → Type) where
  /-- What stands at a path, relative to the working directory or absolute. -/
  entry : String → m Entry
  /-- The standard input, all of it. -/
  input : m String
  /-- The working directory's own path. -/
  workingDir : String
  /-- The name the program was called by. -/
  program : String

/-- The options before the command. -/
inductive GlobalOption where
  | version
  | config
  | logLevel
  | help
  deriving DecidableEq

/-- The options before the command. -/
def globalOptions : List (OptionSpec GlobalOption) :=
  [⟨.version, ["--version"], ['v'], false⟩,
   ⟨.config, ["--config"], ['c'], true⟩,
   ⟨.logLevel, ["--log-level"], [], true⟩,
   ⟨.help, ["--help"], [], false⟩]

/-- The options of a command. -/
inductive CommandOption where
  | limit
  | help
  deriving DecidableEq

/-- The options of `tokens`. -/
def tokensOptions : List (OptionSpec CommandOption) :=
  [⟨.limit, ["--limit"], ['n'], true⟩, ⟨.help, ["--help"], [], false⟩]

/-- The options of the other commands. -/
def plainOptions : List (OptionSpec CommandOption) := [⟨.help, ["--help"], [], false⟩]

/-- The commands. -/
inductive Command where
  | tokens
  | render
  | precedence
  deriving DecidableEq

/-- The command of a name. -/
def Command.ofName? : String → Option Command
  | "tokens" => some .tokens
  | "render" => some .render
  | "precedence" => some .precedence
  | _ => none

/-- The count of a `--limit`: an integer that is not negative. -/
def limitOf (value : String) : Except UsageError Nat :=
  match Numeral.parse? value with
  | some n => if n < 0 then .error (.invalidValue "--limit" value) else .ok n.toNat
  | none => .error (.invalidValue "--limit" value)

/-- The words of a command, read with its options; `--help` answers at once with the command's
help screen, shown for a program called `program`. -/
def readCommand (screen : Screen) (program : String) (specs : List (OptionSpec CommandOption))
    (words : List String) : Except Outcome (Reading CommandOption) :=
  match read specs true words with
  | .error e => .error (.usage e)
  | .ok r => if r.has .help then .error (.success (screen.text consoleWidth program)) else .ok r

/-- `tokens`: the lexer's results on the text, or on the configured sample. -/
def tokensCommand (program : String) (settings : TokensSection) (words : List String) : Outcome :=
  match readCommand tokensScreen program tokensOptions words with
  | .error o => o
  | .ok r =>
    let count : Except UsageError Nat := match r.last? .limit with
      | some v => limitOf v
      | none => .ok settings.limit
    match count, r.arguments with
    | .error e, _ => .usage e
    | .ok _, _ :: extra@(_ :: _) => .usage (.extraArguments extra)
    | .ok n, args => .success (printLines (tokenReport (args.headD settings.sample) n))

/-- The expression tree a JSON text holds, printed. -/
def renderText (text : String) : Outcome :=
  match Expr.loadText (String.ofList (unifyNewlines text.toList)) with
  | .ok e => .success (e.render ++ "\n")
  | .error issues =>
    let n := issues.length
    .failure ("Error: Invalid expression tree: " ++ toString n ++ " validation error"
      ++ (if n = 1 then "" else "s"))

/-- What `render` does with what stands at its path. -/
def renderEntry (path : String) : Entry → Outcome
  | .absent => .failure ("File not found: " ++ normalPath path)
  | .directory => .silent
  | .file bytes =>
    match String.fromUTF8? bytes with
    | some text => renderText text
    | none => .silent

/-- `render`: the tree in a file, or in the standard input for `-`. -/
def renderCommand {m : Type → Type} [Monad m] (env : Env m) (words : List String) : m Outcome :=
  match readCommand renderScreen env.program plainOptions words with
  | .error o => pure o
  | .ok r =>
    match r.arguments with
    | [] => pure (.usage (.missingArgument "SOURCE"))
    | _ :: extra@(_ :: _) => pure (.usage (.extraArguments extra))
    | [source] =>
      if source = "-" then do
        let text ← env.input
        pure (renderText text)
      else do
        let e ← env.entry (normalPath source)
        pure (renderEntry source e)

/-- `precedence`: the table of operators. -/
def precedenceCommand (program : String) (words : List String) : Outcome :=
  match readCommand precedenceScreen program plainOptions words with
  | .error o => o
  | .ok r =>
    match r.arguments with
    | [] => .success (String.join ((precedenceTable.render consoleWidth).map (· ++ "\n")))
    | extra => .usage (.extraArguments extra)

/-- The settings, or the outcome that stops the run: the configuration file must load, and a
`--log-level` must name a level.  A file that is not UTF-8, or that holds an integer too long to
convert, ends the run as a failure with nothing said. -/
def settingsFor (explicit logLevel : Option String) (workingDir : String) (file : Entry) :
    Except Outcome Config :=
  let path := explicit.getD (workingDir ++ "/" ++ configFileName)
  match Config.load file path explicit.isSome with
  | .error (.config e) => .error (.failure ("Error loading config: " ++ e.located.text))
  | .error .undecodable => .error .silent
  | .error (.integerTooLong _) => .error .silent
  | .ok config =>
    match logLevel with
    | none => .ok config
    | some s =>
      match Config.checkLevel (Shape.text s : Shape Unit) with
      | .ok _ => .ok config
      | .error _ =>
        .error (.failure "Invalid --log-level: not one of CRITICAL, ERROR, WARNING, INFO, DEBUG")

/-- The answer of an option that answers at once, `--help` or `--version`, whichever comes first;
the help is shown for a program called `program`. -/
def eagerAnswer (program : String) (r : Reading GlobalOption) : Option Outcome :=
  match r.firstOf? [.help, .version] with
  | some .help => some (.success (programScreen.text consoleWidth program))
  | some .version => some (.success (versionLine ++ "\n"))
  | _ => none

/-- The outcome of a command name that names no command.  A name that looks like an option is read
again with the words after it as global options, so that `-- --help` still answers; whatever
that reading finds wrong, or answers, comes first. -/
def unknownCommand (program name : String) (rest : List String) : Outcome :=
  if name.startsWith "-" then
    match read globalOptions false (name :: rest) with
    | .error e => .usage e
    | .ok r => (eagerAnswer program r).getD (.usage (.noSuchCommand name))
  else .usage (.noSuchCommand name)

/-- Runs the program on its command-line words. -/
def run {m : Type → Type} [Monad m] (env : Env m) (words : List String) : m Outcome := do
  if words.isEmpty then return .usage .noWords
  match read globalOptions false words with
  | .error e => return .usage e
  | .ok r =>
    match eagerAnswer env.program r with
    | some o => return o
    | none =>
      match r.arguments with
      | [] => return .usage .missingCommand
      | name :: rest =>
        match Command.ofName? name with
        | none => return unknownCommand env.program name rest
        | some command =>
          let explicit := r.last? .config
          let file ← env.entry ((explicit.map normalPath).getD configFileName)
          match settingsFor explicit (r.last? .logLevel) env.workingDir file with
          | .error o => return o
          | .ok config =>
            match command with
            | .tokens => return tokensCommand env.program config.tokens rest
            | .render => renderCommand env rest
            | .precedence => return precedenceCommand env.program rest

end MiniExpr.Cli
