import Chunkwise.Execution.Frame
import Chunkwise.Store.Construct

/-!
Raising exceptions and handling them. An exception that is caught keeps the places that it has
passed; when it is raised again it goes on from there.
-/
namespace Chunkwise.Execution
open Chunkwise.Code Store

/-- How a statement ends. -/
inductive Flow where
  | next
  | broke
  | continued
  | returned (value : Value)

/-- The exception that a raised value stands for: a class stands for a new instance. -/
def raisedException (complaint : String) (v : Value) : Action Address := do
  match v, (← Action.reading (·.natureOf v)) with
  | .kind k, _ => construct k [] []
  | .ref a, some (.exception _) => return a
  | _, _ => Action.fail (.of .typeError complaint)

/-- Changes an exception. -/
def modifyException (a : Address) (f : Exception → Exception) : Action Unit :=
  Action.changing fun store => store.setNature a (.exception (f (Eval.exceptionAt store a)))

/-- Sets the cause of an exception; nothing stands for none. -/
def setCause (a : Address) (cause : Value) : Action Unit := do
  match cause with
  | .null => modifyException a fun e => { e with cause := none }
  | v =>
    let c ← raisedException "exception causes must derive from BaseException" v
    modifyException a fun e => { e with cause := some c }

/-- Raises a value, on account of another if one is given. -/
def raiseValue (v : Value) (cause : Option Value) : Eval Flow := do
  let a ← Eval.act (raisedException "exceptions must derive from BaseException" v)
  match cause with
  | some c => Eval.act (setCause a c)
  | none => pure ()
  Eval.raiseAgain a

/-- Raises the exception that is being handled. It goes on where it was caught. -/
def raiseHandled (frame : Frame) (pos : Pos) : Eval Flow :=
  match frame.handling with
  | some a => Eval.raiseAgain a
  | none => frame.here pos (Eval.fail (.of .runtimeError "No active exception to reraise"))

/-- The classes that a handler names: one or a tuple of them. -/
def handledKinds (store : Store) (v : Value) : Except Fault (List Fault.Kind) :=
  let kindOf : Value → Except Fault Fault.Kind
    | .kind k => .ok k
    | _ => typeFault "catching classes that do not inherit from BaseException is not allowed"
  match store.natureOf v with
  | some (.seq form items) => if form.isTuple then items.toList.mapM kindOf else [v].mapM kindOf
  | _ => [v].mapM kindOf

/-- The handler of an exception: the first whose classes it belongs to. -/
def findHandler (frame : Frame) (value : Expr → Eval Value) (kind : Fault.Kind) :
    List Handler → Eval (Option Handler)
  | [] => pure none
  | .mk pos none as body :: _ => pure (some (.mk pos none as body))
  | .mk pos (some e) as body :: rest => do
    let v ← value e
    let kinds ← frame.here pos (Eval.check (handledKinds · v))
    if kinds.any kind.isA then return some (.mk pos (some e) as body)
    else findHandler frame value kind rest

/-- Runs a handler, which may know the exception by a name while it runs. -/
def runHandler (frame : Frame) (run : Frame → List Stmt → Eval Flow) (a : Address) :
    Handler → Eval Flow
  | .mk _ _ as body => do
    let inside := { frame with handling := some a }
    match as with
    | none => run inside body
    | some name =>
      frame.bind name (.ref a)
      let result ← Eval.attempt (run inside body)
      frame.forget name
      Eval.ofResult result

/-- Runs what has to be run in the end. It may leave or fail on its own account. -/
def runFinally (frame : Frame) (run : Frame → List Stmt → Eval Flow) (body : List Stmt)
    (result : Except Raised Flow) : Eval Flow := do
  match result with
  | .ok flow =>
    match ← run frame body with
    | .next => pure flow
    | other => pure other
  | .error raised =>
    Eval.keepTrace raised
    match ← run { frame with handling := some raised.exception } body with
    | .next => Eval.raiseAgain raised.exception
    | other => pure other

/-- Runs a guarded block with its handlers. -/
def runGuarded (frame : Frame) (value : Expr → Eval Value)
    (run : Frame → List Stmt → Eval Flow) (body : List Stmt) (handlers : List Handler)
    (otherwise : List Stmt) : Eval Flow := do
  match ← Eval.attempt (run frame body) with
  | .ok .next => run frame otherwise
  | .ok flow => pure flow
  | .error raised =>
    Eval.keepTrace raised
    let a := raised.exception
    let e ← Eval.look (Eval.exceptionAt · a)
    match ← findHandler { frame with handling := some a } value e.kind handlers with
    | some handler => runHandler frame run a handler
    | none => Eval.raiseAgain a

/-- Runs a guarded block, its handlers and what has to be run in the end. -/
def runAttempt (frame : Frame) (value : Expr → Eval Value)
    (run : Frame → List Stmt → Eval Flow) (body : List Stmt) (handlers : List Handler)
    (otherwise finally_ : List Stmt) : Eval Flow := do
  let guarded := runGuarded frame value run body handlers otherwise
  runFinally frame run finally_ (← Eval.attempt guarded)

end Chunkwise.Execution
