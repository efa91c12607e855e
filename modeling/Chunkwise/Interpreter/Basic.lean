import Chunkwise.Execution.Source
import Chunkwise.Text.Sorted

/-!
An interpreter: names that live from one chunk to the next, and a buffer for what chunks write.
-/
namespace Chunkwise
open Chunkwise.Execution

/-- The names that a new interpreter knows. -/
def initialNames : Bindings :=
  [("__name__", .str "__main__"), ("__builtins__", .ref Store.builtinsModule)]

structure Interpreter where
  /-- The names that its chunks share. -/
  globals : Address
  pending : List Char := []
  closed : Bool := false
  deriving Inhabited

namespace Interpreter

/-- Makes an interpreter. -/
def make (w : World) : Interpreter × World :=
  match w.add (.scope initialNames) with
  | (a, w) => ({ globals := a }, w)

/-- What code of the interpreter reads and changes. -/
def scene (i : Interpreter) (w : World) : Scene :=
  { pending := some i.pending, world := w }

/-- The interpreter as code has left it. -/
def leftBy (i : Interpreter) (s : Scene) : Interpreter :=
  { i with pending := s.pending.getD i.pending }

/-- Gets the installer ready and makes an interpreter. -/
def create (w : World) : Except Fault Interpreter × World :=
  match w.prepareInstaller with
  | (none, w) =>
    match make w with
    | (i, w) => (.ok i, w.note .info .interpreter "Embedded runtime ready")
  | (some fault, w) => (.error fault, w)

/-- The names that chunks know. -/
def names (i : Interpreter) (w : World) : Bindings :=
  w.store.names i.globals

/-- Binds a name for chunks. -/
def bind (i : Interpreter) (name : String) (v : Value) (w : World) : World :=
  w.mapStore (·.mapNames i.globals (·.set name v))

/-- Runs a chunk when nothing else takes the turns that it leaves. -/
def run (i : Interpreter) (file : Datum) (source : String) (w : World) :
    Option (Except Fault Value × Interpreter × World) :=
  (runChunk i.globals file source (i.scene w)).finish.map fun (result, s) =>
    (result, i.leftBy s, s.world)

def probe (i : Interpreter) (root : String) (w : World) :
    Except Fault Bool × Interpreter × World :=
  match Execution.probe root (i.scene w) with
  | (result, s) => (result, i.leftBy s, s.world)

/-- The names that chunks know, in order. -/
def knownNames (i : Interpreter) (w : World) : List String :=
  Text.sortedSet ((i.names w).names.filter (· ≠ "__builtins__"))

/-- Hands on what is pending and forgets all names. -/
def close (i : Interpreter) (w : World) : Option Fault × Interpreter × World :=
  match (i.scene w).flush with
  | (none, s) =>
    (none, { i.leftBy s with closed := true }, s.world.mapStore (·.mapNames i.globals fun _ => []))
  | (some fault, s) => (some fault, i.leftBy s, s.world)

end Interpreter

end Chunkwise
