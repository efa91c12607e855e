import Chunkwise.Console.Terminal
import Chunkwise.Text.Blank

/-!
The dialogue: line by line, each a chunk of its own, until one says `exit` or there are no more.
-/
namespace Chunkwise.Console
open Chunkwise.Text

/-- What a line of input is. -/
inductive Turn where
  | blank
  | exit
  | chunk (source : String)
  deriving DecidableEq, Repr

/-- The line without the line end and whatever of line ends is before it. -/
def withoutEnd (raw : List Char) : List Char :=
  (raw.reverse.dropWhile fun c => c == '\n' || c == '\r').reverse

def Turn.of (raw : List Char) : Turn :=
  let line := withoutEnd raw
  let word := trim line
  if word = [] then .blank
  else if word = "exit".toList then .exit
  else .chunk (String.ofList line)

/-- Where a program stands: it goes on, or it is over. -/
inductive Step where
  | goOn (t : Terminal)
  | over (ending : Ending) (t : Terminal)

namespace Dialogue

def greeting : String :=
  "pyeval REPL v0.1\nType 'exit' or press Ctrl+D to quit.\n"

def prompt : String := ">>> "

def farewell : String := "\nExiting.\n"

/-- Ends the dialogue and closes the session. -/
def close (t : Terminal) : Ending × Terminal :=
  match t.act Session.close with
  | (none, t) => (.returned, t)
  | (some fault, t) => (.ofFault fault, t)

/-- The input has ended. -/
def endInput (t : Terminal) : Ending × Terminal :=
  close (t.print farewell)

/-- Nothing comes after the end. -/
def stop (end_ : Ending × Terminal) : Step :=
  .over end_.1 end_.2

/-- A fault left an evaluation instead of being accounted for. -/
def escape (fault : Fault) (t : Terminal) : Step :=
  if fault.kind.isA .eofError then stop (endInput t)
  else if fault.kind.isOrdinary then
    match fault.text with
    | .ok text => .goOn (t.complain ("Error: " ++ text))
    | .error worse => .over (.ofFault worse) t
  else .over (.ofFault fault) t

/-- Evaluates a chunk and complains if it goes wrong. -/
def takeChunk (source : String) (t : Terminal) : Step :=
  match t.evaluate source with
  | (some (.ok summary), t) => .goOn (t.report summary)
  | (some (.error fault), t) => escape fault t
  | (none, t) => .over .unfinished t

/-- Takes a line of input. -/
def take (raw : List Char) (t : Terminal) : Step :=
  match Turn.of raw with
  | .blank => .goOn t
  | .exit => stop (close t)
  | .chunk source => takeChunk source t

/-- The dialogue over lines of input. -/
def run : List (List Char) → Terminal → Ending × Terminal
  | [], t => endInput (t.print prompt)
  | raw :: rest, t =>
    match take raw (t.print prompt) with
    | .goOn t => run rest t
    | .over ending t => (ending, t)

/-- The lines of the input, each with its line feed; the last may have none. -/
def inputLines : List Char → List (List Char)
  | [] => []
  | c :: rest =>
    if c = '\n' then [c] :: inputLines rest
    else
      match inputLines rest with
      | line :: more => (c :: line) :: more
      | [] => [[c]]

end Dialogue

end Chunkwise.Console
