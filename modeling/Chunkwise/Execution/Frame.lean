import Chunkwise.Code.Names
import Chunkwise.Execution.Run
import Chunkwise.Value.Builtins

/-!
The frame of running code: where its names are found and bound, and which exception it is
handling. A name belongs to the call that may bind it, to the innermost call around that may, or
else to the top of the code. A call binds none but its own.
-/
namespace Chunkwise.Execution

structure Frame where
  file : String
  name : String
  /-- The name behind those of the functions around it; empty at the top of a source. -/
  path : String := ""
  /-- The names at the top of the code. -/
  globals : Address
  /-- The names of the call; at the top of a source there is none. -/
  scope : Option Address := none
  handling : Option Address := none
  /-- The number of calls under way. -/
  level : Nat := 0

/-- The names that a call may bind. -/
def mayBind (store : Store) (scope : Address) (id : String) : Bool :=
  (store.scope? scope).any (·.declared.contains id)

/-- The innermost of the scopes around a call that may bind a name. -/
def enclosing (store : Store) (id : String) : Nat → Address → Option Address
  | 0, _ => none
  | n + 1, scope =>
    match (store.scope? scope).bind (·.outer) with
    | none => none
    | some outer => if mayBind store outer id then some outer else enclosing store id n outer

namespace Frame

/-- Marks the exceptions of a computation with the frame and a line in it. -/
def here {α : Type} (frame : Frame) (pos : Code.Pos) (m : Eval α) : Eval α :=
  m.mapRaised (Raised.passing ⟨frame.file, pos.line, frame.name⟩)

def unboundLocal (id : String) : Fault :=
  .of .unboundLocalError
    s!"cannot access local variable '{id}' where it is not associated with a value"

def unboundAround (id : String) : Fault :=
  .of .nameError (s!"cannot access free variable '{id}' where it is not associated with a value " ++
    "in enclosing scope")

def unknownName (id : String) : Fault :=
  .of .nameError s!"name '{id}' is not defined"

/-- Where a name is found. -/
inductive Holder where
  | own (scope : Address)
  | around (scope : Address)
  | top
  deriving DecidableEq, Repr

/-- Where a name is found. It does not matter whether it is bound there. -/
def holder (frame : Frame) (store : Store) (id : String) : Holder :=
  match frame.scope with
  | none => .top
  | some scope =>
    if mayBind store scope id then .own scope
    else
      match enclosing store id store.objects.size scope with
      | some outer => .around outer
      | none => .top

/-- The value of a name. -/
def lookup (frame : Frame) (store : Store) (id : String) : Except Fault Value :=
  match frame.holder store id with
  | .own scope =>
    match (store.names scope).get? id with
    | some v => .ok v
    | none => .error (unboundLocal id)
  | .around scope =>
    match (store.names scope).get? id with
    | some v => .ok v
    | none => .error (unboundAround id)
  | .top =>
    match ((store.names frame.globals).get? id).or (builtin? id) with
    | some v => .ok v
    | none => .error (unknownName id)

def read (frame : Frame) (id : String) : Eval Value :=
  Eval.check fun store => frame.lookup store id

/-- The scope in which the frame binds names: that of its call, or the top. -/
def target (frame : Frame) : Address :=
  frame.scope.getD frame.globals

def bind (frame : Frame) (id : String) (v : Value) : Eval Unit :=
  Eval.change (·.mapNames frame.target (·.set id v))

/-- Takes away a name, if it is bound. -/
def forget (frame : Frame) (id : String) : Eval Unit :=
  Eval.change (·.mapNames frame.target (·.erase id))

/-- Takes away a name that must be bound. -/
def unbind (frame : Frame) (id : String) : Eval Unit := do
  if ← Eval.look fun store => (store.names frame.target).has id then frame.forget id
  else if frame.scope.isNone then Eval.fail (unknownName id)
  else Eval.fail (unboundLocal id)

/-- The path of a function that is defined in this frame. -/
def pathOf (frame : Frame) (name : String) : String :=
  if frame.path = "" then name else frame.path ++ ".<locals>." ++ name

/-- The function that a definition makes. -/
def close (frame : Frame) (isAsync : Bool) (name : String) (params : List Parameter)
    (body : List Code.Stmt) : Function where
  file := frame.file
  name := name
  path := frame.pathOf name
  isAsync := isAsync
  params := params
  body := body
  declared := params.map (·.1) ++ Code.blockNames body
  globals := frame.globals
  outer := frame.scope

/-- Those who call: the exception that they are handling and the number of calls under way. -/
structure Caller where
  handling : Option Address
  level : Nat

def caller (frame : Frame) : Caller :=
  ⟨frame.handling, frame.level⟩

/-- The frame of a call with names of its own. -/
def ofCall (caller : Caller) (f : Function) (scope : Address) : Frame :=
  { file := f.file, name := f.name, path := f.path, globals := f.globals, scope := some scope
    handling := caller.handling, level := caller.level + 1 }

end Frame

end Chunkwise.Execution
