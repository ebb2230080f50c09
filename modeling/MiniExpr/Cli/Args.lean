/-!
# Reading a command line

A command line is a list of words.  A word that starts with `-` and has more after it is an option,
the word `--` ends the options, and any other word is an argument.  A command either reads options
among its arguments, or stops at its first argument and leaves the rest to a subcommand.

An option has long names (`--limit`) and one-letter short names (`-n`).  A long option may carry its
value after an `=` (`--limit=3`).  Short options may be packed into one word (`-vc`); an option
that takes a value takes the rest of the word (`-n3`, so `-c=x` has the value `=x`), or else the next
word, whatever that is.  A word starting with `--` that is no long option is refused; any other is
read as packed short options.
-/

namespace MiniExpr.Cli

/-- An option a command takes: its long names with their dashes, its short letters, and whether it
takes a value. -/
structure OptionSpec (α : Type) where
  key : α
  long : List String
  short : List Char
  takesValue : Bool

/-- A mistake in how a command was called. -/
inductive UsageError where
  | noSuchOption (name : String)
  | needsValue (name : String)
  | takesNoValue (name : String)
  | missingArgument (name : String)
  | extraArguments (words : List String)
  | missingCommand
  | noSuchCommand (name : String)
  | invalidValue (name value : String)
  | noWords
  deriving DecidableEq

/-- The line that says what is wrong. -/
def UsageError.message : UsageError → String
  | .noSuchOption n => "No such option: " ++ n
  | .needsValue n => "Option '" ++ n ++ "' requires an argument."
  | .takesNoValue n => "Option '" ++ n ++ "' does not take a value."
  | .missingArgument n => "Missing argument '" ++ n ++ "'."
  | .extraArguments ws => "Got unexpected extra argument (" ++ " ".intercalate ws ++ ")"
  | .missingCommand => "Missing command."
  | .noSuchCommand n => "No such command '" ++ n ++ "'."
  | .invalidValue n v => "Invalid value for '" ++ n ++ "': '" ++ v ++ "' is not a valid integer."
  | .noWords => "Missing command."

/-- What reading a command line found: the options in the order given, each with its value, and
the arguments. -/
structure Reading (α : Type) where
  options : List (α × Option String)
  arguments : List String

/-- Whether an option word used the word after it as its value. -/
inductive Taken where
  | own
  | next

variable {α : Type}

/-- The value of an option that takes one: `attached` if given in the same word, else the next
word. -/
def valueOf (name : String) (attached : Option String) (rest : List String) :
    Except UsageError (String × Taken) :=
  match attached, rest with
  | some v, _ => .ok (v, .own)
  | none, v :: _ => .ok (v, .next)
  | none, [] => .error (.needsValue name)

/-- Reads packed short options, the letters `cs` of one word. -/
def readShort (specs : List (OptionSpec α)) (rest : List String) :
    List Char → Except UsageError (List (α × Option String) × Taken)
  | [] => .ok ([], .own)
  | c :: cs =>
    let name := String.ofList ['-', c]
    match specs.find? fun s => s.short.contains c with
    | none => .error (.noSuchOption name)
    | some s =>
      if s.takesValue then
        (valueOf name (if cs.isEmpty then none else some (String.ofList cs)) rest).map
          fun (v, t) => ([(s.key, some v)], t)
      else (readShort specs rest cs).map fun (found, t) => ((s.key, none) :: found, t)

/-- Reads one option word. -/
def readOption (specs : List (OptionSpec α)) (word : String) (rest : List String) :
    Except UsageError (List (α × Option String) × Taken) :=
  let cs := word.toList
  let name := String.ofList (cs.takeWhile (· != '='))
  let attached := match cs.dropWhile (· != '=') with
    | _ :: v => some (String.ofList v)
    | [] => none
  match specs.find? fun s => s.long.contains name with
  | some s =>
    if s.takesValue then (valueOf name attached rest).map fun (v, t) => ([(s.key, some v)], t)
    else if attached.isSome then .error (.takesNoValue name)
    else .ok ([(s.key, none)], .own)
  | none =>
    if word.startsWith "--" then .error (.noSuchOption name)
    else readShort specs rest (cs.drop 1)

/-- Whether a word is an option word. -/
def isOptionWord (w : String) : Bool := w.startsWith "-" && w.length > 1

/-- Reads a command line; `interspersed` tells whether options may follow arguments. -/
def read (specs : List (OptionSpec α)) (interspersed : Bool) :
    List String → Except UsageError (Reading α)
  | [] => .ok ⟨[], []⟩
  | w :: rest =>
    if w = "--" then .ok ⟨[], rest⟩
    else if isOptionWord w then
      match readOption specs w rest with
      | .error e => .error e
      | .ok (found, .own) => (read specs interspersed rest).map fun r => { r with options := found ++ r.options }
      | .ok (found, .next) =>
        match rest with
        | _ :: rest' =>
          (read specs interspersed rest').map fun r => { r with options := found ++ r.options }
        | [] => .ok ⟨found, []⟩
    else if interspersed then
      (read specs interspersed rest).map fun r => { r with arguments := w :: r.arguments }
    else .ok ⟨[], w :: rest⟩

namespace Reading

/-- The value last given to an option. -/
def last? [BEq α] (r : Reading α) (k : α) : Option String :=
  (r.options.filter (·.1 == k)).getLast?.bind (·.2)

/-- Whether an option was given. -/
def has [BEq α] (r : Reading α) (k : α) : Bool := r.options.any (·.1 == k)

/-- The first of the options `ks` given. -/
def firstOf? [BEq α] (r : Reading α) (ks : List α) : Option α :=
  (r.options.find? fun o => ks.contains o.1).map (·.1)

end Reading

end MiniExpr.Cli
