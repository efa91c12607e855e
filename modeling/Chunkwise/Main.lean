import Chunkwise.Console.Program

/-!
The program at a real terminal. It has no network and no package tool.
-/
namespace Chunkwise.Console

/-- What is under a path. -/
def readEntry (path : String) : IO FileEntry := do
  try
    return .text (← IO.FS.readFile path)
  catch
    | .noFileOrDirectory .. => return .missing
    | .inappropriateType .. => return .directory
    | e => throw e

/-- Hands what was written to the real outputs. -/
def emit (t : Terminal) : IO Terminal := do
  let output ← IO.getStdout
  output.putStr t.session.world.written
  output.flush
  (← IO.getStderr).putStr t.errors
  return { t with errors := "", session := t.session.mapWorld fun w => { w with written := "" } }

/-- The dialogue with whoever is at the terminal. -/
partial def converse (t : Terminal) : IO (Ending × Terminal) := do
  let t ← emit (t.print Dialogue.prompt)
  let raw ← (← IO.getStdin).getLine
  if raw.isEmpty then return Dialogue.endInput t
  else
    match Dialogue.take raw.toList t with
    | .goOn t => converse t
    | .over ending t => return (ending, t)

/-- The program on the words of a command line. -/
def runWords (words : List String) : IO UInt32 := do
  let files ← (Program.paths words).mapM fun path => return (path, ← readEntry path)
  let surroundings : Surroundings :=
    { words := words
      files := fun path => (files.lookup path).getD .missing
      world := { installer := .tool { found := false } } }
  let (ending, t) ← match Program.opening surroundings with
    | .goOn t => converse t
    | .over ending t => pure (ending, t)
  let (status, t) := Program.leave ending t
  discard (emit t)
  return status.toUInt32

end Chunkwise.Console

def main (words : List String) : IO UInt32 :=
  Chunkwise.Console.runWords words
