import MiniExpr.Config.Validate
import MiniExpr.Workspace
import MiniExpr.Toml.Reader
/-!
# Loading the configuration file

The settings live in `bantam.toml`.  A path given explicitly must exist; without one the file in the
working directory is read if it is there, and the defaults hold if it is not.

Reading goes through four stages, and the first that fails decides the error: the path must hold
a readable file (a directory is not); its bytes must be UTF-8, and a failure there is not a
configuration error but a decoding one; the text, with every `\r\n` and lone `\r` read as a line
feed, must be a TOML document; and the document must hold valid settings (`Config.check`).  A
decimal integer too long to convert is not a configuration error either: it stops the loading as a
conversion error of its own.
-/

namespace MiniExpr

/-- The name of the configuration file. -/
def configFileName : String := "bantam.toml"

/-- Why the configuration file cannot be used. -/
inductive ConfigFailure where
  /-- The path was given explicitly and nothing is there. -/
  | notFound
  /-- The path holds something that cannot be read as a file. -/
  | unreadable
  /-- The text is not a TOML document. -/
  | malformed (e : Toml.Error)
  /-- The settings are not valid. -/
  | invalid (issues : List Issue)

/-- The stage at which loading failed, for a file that exists. -/
def ConfigFailure.stage? : ConfigFailure → Option String
  | .notFound => none
  | .unreadable => some "read"
  | .malformed _ => some "toml"
  | .invalid _ => some "validation"

/-- The message of a failure. -/
def ConfigFailure.message : ConfigFailure → String
  | .notFound => "Config file not found"
  | .unreadable => "Cannot read config"
  | .malformed _ => "Invalid TOML"
  | .invalid _ => "Invalid configuration"

/-- A failure with the file it is about. -/
structure ConfigError where
  failure : ConfigFailure
  context : ErrorContext

/-- The configuration error as a located message. -/
def ConfigError.located (e : ConfigError) : Located := ⟨e.failure.message, e.context⟩

/-- Why loading stopped: a configuration error, bytes that are not UTF-8, or an integer with more
digits (their count) than can be converted. -/
inductive LoadError where
  | config (e : ConfigError)
  | undecodable
  | integerTooLong (digits : Nat)

/-- The message of a conversion error for an integer of `digits` digits. -/
def integerTooLongMessage (digits : Nat) : String :=
  "Exceeds the limit (4300 digits) for integer string conversion: value has " ++ toString digits
    ++ " digits; use sys.set_int_max_str_digits() to increase the limit"

/-- Each `\r\n` pair and each lone `\r` read as a line feed. -/
def unifyNewlines : List Char → List Char
  | '\r' :: '\n' :: r => '\n' :: unifyNewlines r
  | '\r' :: r => '\n' :: unifyNewlines r
  | c :: r => c :: unifyNewlines r
  | [] => []

/-- The settings a TOML text holds. -/
def Config.ofToml (text : String) : Except ConfigFailure Config :=
  match Toml.parse text with
  | .error e => .error (.malformed e)
  | .ok doc =>
    match Config.check Toml.Value.shape (.table doc) with
    | .ok c => .ok c
    | .error is => .error (.invalid is)

/-- Loads the settings from what stands at `path`; `explicit` tells whether the path was given. -/
def Config.load (file : Entry) (path : String) (explicit : Bool) : Except LoadError Config :=
  let fail (f : ConfigFailure) : Except LoadError Config :=
    .error (.config ⟨f, ErrorContext.ofPath path none none⟩)
  match file with
  | .absent => if explicit then fail .notFound else .ok {}
  | .directory => fail .unreadable
  | .file bytes =>
    match String.fromUTF8? bytes with
    | none => .error .undecodable
    | some text =>
      match Config.ofToml (String.ofList (unifyNewlines text.toList)) with
      | .ok c => .ok c
      | .error (.malformed (.integerTooLong n)) => .error (.integerTooLong n)
      | .error f => fail f

end MiniExpr
