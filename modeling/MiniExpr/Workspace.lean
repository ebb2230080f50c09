import MiniExpr.Config.Location
/-!
# The working directory

The files the program reads are named by paths relative to the working directory.  A workspace
holds the files under it, each by its relative path, and answers what stands at a path: a file with
its bytes, a directory, or nothing.  A directory is the working directory itself or any directory
that holds one of the files.

A path is followed part by part as written, in its normal form: each part must name something in
the directory reached so far, a `..` part goes up from a directory, and a path that leaves the
working directory (a `..` above it) names nothing the workspace knows of.  Of the absolute paths
only the root is known, a directory, however it is written (`/`, `//`, `/.`, `/..`); every other
absolute path names nothing.  Passing through a file is no way to a further part, so
`tree.json/..` names nothing.
-/

namespace MiniExpr

/-- What stands at a path. -/
inductive Entry where
  | absent
  | directory
  | file (bytes : ByteArray)

/-- The parts of a path that name something, without the empty and `.` parts. -/
def namedParts (path : String) : List String :=
  ((pathParts path.toList).filter fun p => p != [] && p != ['.']).map String.ofList

/-- Files under the working directory, by their path relative to it; of two files at one path the
later is the one that stands there. -/
structure Workspace where
  files : List (String × ByteArray)

namespace Workspace

/-- What stands at a position, given as the parts of its path below the working directory. -/
def at? (w : Workspace) (parts : List String) : Entry :=
  match w.files.reverse.find? fun f => namedParts f.1 == parts with
  | some f => .file f.2
  | none =>
    if parts.isEmpty || w.files.any fun f => parts.isPrefixOf (namedParts f.1) then .directory
    else .absent

/-- Follows the parts `rest` of a path from the directory at `here`. -/
def walk (w : Workspace) (here : List String) : List String → Entry
  | [] => w.at? here
  | ".." :: rest => if here.isEmpty then .absent else w.walk here.dropLast rest
  | p :: rest =>
    match w.at? (here ++ [p]) with
    | .directory => w.walk (here ++ [p]) rest
    | .file bytes => if rest.isEmpty then .file bytes else .absent
    | .absent => .absent

/-- What stands at a path. -/
def find (w : Workspace) (path : String) : Entry :=
  if path.startsWith "/" then
    if (namedParts path).all (· == "..") then .directory else .absent
  else w.walk [] (namedParts path)

end Workspace

end MiniExpr
