import Chunkwise.Console.Arguments
import Chunkwise.Console.Dialogue

/-!
The program: it evaluates a file as one chunk, or holds a dialogue.
-/
namespace Chunkwise.Console

/-- What the program finds when it starts. -/
structure Surroundings where
  /-- The words of the command line. -/
  words : List String := []
  /-- What is under a path. -/
  files : String → FileEntry := fun _ => .missing
  world : World := {}

namespace Program

/-- Evaluates a file as one chunk. -/
def runFile (path : String) (file : FileEntry) (t : Terminal) : Step :=
  match file.read path with
  | .error fault =>
    if fault.kind.isA .fileNotFoundError then
      .over (.exited (.int 1)) (t.complain ("Error: file not found: " ++ path))
    else .over (.ofFault fault) t
  | .ok source =>
    match t.evaluate source with
    | (some (.ok summary), t) =>
      .over (if summary.status = "error" then .exited (.int 1) else .returned) (t.report summary)
    | (some (.error fault), t) => .over (.ofFault fault) t
    | (none, t) => .over .unfinished t

/-- The settings that the arguments name. -/
def settings (arguments : Arguments) (files : String → FileEntry) :
    Except Settings.Refusal Settings :=
  match arguments.config with
  | .str path => if path = "" then .ok .default else Settings.load path (files path)
  | _ => .ok .default

/-- Sets up a session and goes on with it. -/
def withSession (settings : Settings) (t : Terminal) (next : Terminal → Step) : Step :=
  match t.setUp settings with
  | .error fault => .over (.ofFault fault) t
  | .ok t => next t

/-- The file or the greeting. An empty path names no file. -/
def start (arguments : Arguments) (files : String → FileEntry) (t : Terminal) : Step :=
  match settings arguments files with
  | .error refusal => .over (.refused refusal) t
  | .ok settings =>
    match arguments.script with
    | none | some "" => withSession settings (t.print Dialogue.greeting) .goOn
    | some path => withSession settings t (runFile path (files path))

/-- The program up to the first line of input. -/
def opening (s : Surroundings) : Step :=
  let t : Terminal := { session := { settings := .default, world := s.world } }
  match readCommand s.words with
  | .help => .over (.exited (.int 0)) (t.print help)
  | .refusal reason => .over (.exited (.int 2)) { t with errors := t.errors ++ refusalText reason }
  | .run arguments => start arguments s.files { t with isVerbose := arguments.verbose }

/-- The files that the arguments name. -/
def paths (words : List String) : List String :=
  match readCommand words with
  | .run { config := .str path, script, .. } => path :: script.toList
  | .run { script, .. } => script.toList
  | .help | .refusal _ => []

/-- The program on an input. -/
def run (s : Surroundings) (input : List Char) : Ending × Terminal :=
  match opening s with
  | .goOn t => Dialogue.run (Dialogue.inputLines input) t
  | .over ending t => (ending, t)

/-- The status that an ending leaves, and what it adds to the outputs. -/
def leave (ending : Ending) (t : Terminal) : Nat × Terminal :=
  match ending with
  | .returned | .exited .null => (0, t)
  | .exited (.int n) => ((n % 256).toNat, t)
  | .exited status => (1, t.complain (status.shown))
  | .refused .malformed => (1, t.complain "YAMLError")
  | .refused (.fault fault) =>
    if fault.kind.isA .keyboardInterrupt then (0, t.print Dialogue.farewell)
    else (1, t.complain (fault.kind.name ++ ": " ++ fault.safeText))
  | .unfinished => (1, t.complain "Error: no end of the evaluation in sight")

end Program

end Chunkwise.Console
