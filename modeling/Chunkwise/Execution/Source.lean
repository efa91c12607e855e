import Chunkwise.Code.Parse
import Chunkwise.Code.Placement
import Chunkwise.Execution.Evaluation
import Chunkwise.Text.Blank

/-!
Running whole sources: chunks, whose last expression has a value, and scripts of the host. What a
source raises leaves it as a fault.
-/
namespace Chunkwise.Execution
open Chunkwise.Code

/-- The fault of a source that is refused. -/
def grammarFault (file : String) (c : Complaint) : Fault :=
  .grammar c.kind c.message file c.line c.col

/-- The name of a file, which must be a text or bytes. -/
def fileName (file : Datum) : Except Fault String :=
  match file with
  | .str name =>
    if name.toList.contains '\x00' then .error (.of .valueError "embedded null character")
    else .ok name
  | .leaf (.bytes data) => .ok (String.ofList (Text.decode data))
  | d => typeFault s!"expected str, bytes or os.PathLike object, not {d.typeName}"

/-- The statements of a source. -/
def readSource (file source : String) : Except Fault (List Stmt) :=
  if source.toList.contains '\x00' then
    .error (.of .valueError "source code string cannot contain null bytes")
  else
    match parse source.toList with
    | .ok statements => .ok statements
    | .error c => .error (grammarFault file c)

/-- A source that ends with a semicolon does not ask for a value. -/
def isQuiet (source : String) : Bool :=
  (Text.trimEnd source.toList).getLast? = some ';'

/-- The statements to run and the last expression, if its value is wanted. -/
def splitTail (quiet : Bool) : List Stmt → List Stmt × Option Expr
  | [] => ([], none)
  | [.expr pos e] => if quiet then ([.expr pos e], none) else ([], some e)
  | s :: rest =>
    match splitTail quiet rest with
    | (body, tail) => (s :: body, tail)

/-- The bound for all evaluation. -/
def depth : Nat := Nat.pow 10 7

/-- The frame at the top of a source. -/
def topFrame (globals : Address) (file : String) : Frame :=
  { globals := globals, file := file, name := "<module>" }

def refuse (file : String) : Option Complaint → Eval Unit
  | none => pure ()
  | some c => Eval.fail (grammarFault file c)

/-- Names that code is run in know the module of the built-in names. -/
def addBuiltins (globals : Address) : Eval Unit :=
  Eval.change (·.mapNames globals fun names =>
    if names.has "__builtins__" then names
    else names.set "__builtins__" (.ref Store.builtinsModule))

/-- Runs statements at the top of a source. The expression of a statement has the bound that a last
expression has. -/
def runStatements (globals : Address) (file : String) (mayWait : Bool) (body : List Stmt) :
    Eval Unit := do
  refuse file (refusal? mayWait body)
  addBuiltins globals
  let _ ← runBlock (exec (depth + 1) (topFrame globals file)) body

/-- Evaluates the last expression of a chunk. -/
def evalTail (globals : Address) (file : String) : Option Expr → Eval Value
  | none => pure .null
  | some e => do
    refuse file (tailRefusal? true e)
    addBuiltins globals
    eval depth (topFrame globals file) e

/-- Runs the statements of a chunk and gives the value of its last expression. That is looked at
only when all before it has been run. -/
def evalChunk (globals : Address) (file : String) (quiet : Bool) (statements : List Stmt) :
    Eval Value := do
  match splitTail quiet statements with
  | ([], tail) => evalTail globals file tail
  | (body, tail) =>
    runStatements globals file true body
    evalTail globals file tail

/-- A chunk from its text. -/
def evalSource (globals : Address) (file : Datum) (source : String) : Eval Value := do
  let name ← Eval.ofExcept (fileName file)
  evalChunk globals name (isQuiet source) (← Eval.ofExcept (readSource name source))

/-- What a computation gave, or the exception that it raised as a fault. The exception keeps the
places that it has passed. -/
def outcome {α : Type} (result : Except Raised α) (s : Scene) : Except Fault α × Scene :=
  match result with
  | .ok a => (.ok a, s)
  | .error raised =>
    match s.act (do
      modifyException raised.exception fun e => { e with trace := raised.trace }
      Store.Action.reading (·.report raised.exception)) with
    | (.ok fault, s) | (.error fault, s) => (.error fault, s)

/-- Runs a chunk. What it wrote is handed on in the end, however it ended; a fault of that takes
the place of the outcome. -/
def runChunk (globals : Address) (file : Datum) (source : String) (s : Scene) :
    Run (Except Fault Value) :=
  (evalSource globals file source (s.opens (.source source))).andThen fun result s =>
    match outcome result s with
    | (result, s) =>
      match s.flush with
      | (none, s) => .done (result.mapError Fault.sealed) s
      | (some fault, s) => .done (.error fault) s

/-- Runs the text of a script in the names of the host. -/
def evalScript (url : Datum) (source : String) : Eval Unit := do
  let name ← Eval.ofExcept (fileName url)
  runStatements Store.hostScope name false (← Eval.ofExcept (readSource name source))

/-- The end of a run when nothing else takes the turns that it leaves. -/
def Run.finish {α : Type} : Run α → Option (α × Scene)
  | .done a s => some (a, s)
  | .suspended s resume => (resume s).finish
  | .exhausted => none

/-- Runs the text of a script to its end. -/
def runScript (url : Datum) (source : String) (s : Scene) : Option Fault × Scene :=
  match (evalScript url source s).finish with
  | some (result, s) =>
    match outcome result s with
    | (.ok _, s) => (none, s)
    | (.error fault, s) => (some fault, s)
  | none => (some (.of .recursionError "maximum depth exceeded"), s)

/-- Asks whether a module can be imported. What its code wrote is handed on. -/
def probe (root : String) (s : Scene) : Except Fault Bool × Scene :=
  match (s.opens (.probe root)).probeModule root with
  | (result, s) =>
    match s.flush with
    | (none, s) => (result, s)
    | (some fault, s) => (.error fault, s)

end Chunkwise.Execution
