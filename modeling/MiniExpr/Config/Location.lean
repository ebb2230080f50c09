/-!
# Where an error is

An error about a file names the file, and a line and column in it when they are known.  The file is
shown as its path in normal form (`normalPath`): empty parts and `.` parts are dropped, `..` parts
are kept, a path with no part left is `.`, and a path that starts with exactly two slashes keeps
them (one, or three and more, become one).

A located error is shown as its location, a line break, and its message.
-/

namespace MiniExpr

/-- The parts of a path between its slashes, empty ones included. -/
def pathParts : List Char → List (List Char)
  | [] => [[]]
  | '/' :: r => [] :: pathParts r
  | c :: r =>
    match pathParts r with
    | p :: ps => (c :: p) :: ps
    | [] => [[c]]

/-- The root of a path: exactly two leading slashes stay two, one or more than two become one. -/
def pathRoot : List Char → List Char
  | '/' :: '/' :: '/' :: _ => ['/']
  | '/' :: '/' :: _ => ['/', '/']
  | '/' :: _ => ['/']
  | _ => []

/-- The normal form of a path written with `/`. -/
def normalPath (s : String) : String :=
  let cs := s.toList
  let parts := (pathParts cs).filter fun p => p != [] && p != ['.']
  let body := (parts.intersperse ['/']).flatten
  if (pathRoot cs).isEmpty && body.isEmpty then "." else String.ofList (pathRoot cs ++ body)

/-- Where an error is: a file, and a line and column when known.  A column is shown only after a
line. -/
structure ErrorContext where
  file : String
  line : Option Int := none
  column : Option Int := none
  deriving DecidableEq, Repr

namespace ErrorContext

/-- The context of a path as given, shown in normal form. -/
def ofPath (path : String) (line column : Option Int) : ErrorContext :=
  ⟨normalPath path, line, column⟩

/-- The location text: the file, then `:line`, then `:column`. -/
def format (c : ErrorContext) : String :=
  match c.line with
  | none => c.file
  | some l =>
    let withLine := c.file ++ ":" ++ toString l
    match c.column with
    | none => withLine
    | some col => withLine ++ ":" ++ toString col

end ErrorContext

/-- A message with the place it is about. -/
structure Located where
  message : String
  context : ErrorContext
  deriving DecidableEq, Repr

/-- The text of a located message: the location, a line break, the message. -/
def Located.text (e : Located) : String := e.context.format ++ "\n" ++ e.message

end MiniExpr
