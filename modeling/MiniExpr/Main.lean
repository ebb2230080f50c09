import MiniExpr.Cli.Run
/-!
# The program

Runs `Cli.run` on the real file system and standard streams.
-/

open MiniExpr MiniExpr.Cli

/-- What stands at a path of the file system.  A path through a file, like a missing one, names
nothing; one that cannot be read as a file is taken for a directory. -/
def entryAt (path : String) : IO Entry := do
  try
    let bytes ← IO.FS.readBinFile path
    pure (.file bytes)
  catch e =>
    match e with
    | .noFileOrDirectory _ _ _ => pure .absent
    | .inappropriateType _ code _ => pure (if code == 20 then .absent else .directory)
    | _ => pure .directory

/-- The rest of a stream. -/
partial def readRest (s : IO.FS.Stream) (acc : ByteArray) : IO ByteArray := do
  let chunk ← s.read 65536
  if chunk.isEmpty then pure acc else readRest s (acc ++ chunk)

/-- The standard input as text. -/
def readInput : IO String := do
  let bytes ← readRest (← IO.getStdin) ByteArray.empty
  pure ((String.fromUTF8? bytes).getD "")

def main (args : List String) : IO UInt32 := do
  let cwd ← IO.currentDir
  let env : Env IO := ⟨entryAt, readInput, toString cwd, "bantam"⟩
  let o ← run env args
  let out ← IO.getStdout
  out.putStr o.out
  out.flush
  let err ← IO.getStderr
  err.putStr o.err
  err.flush
  pure o.code.toUInt32
