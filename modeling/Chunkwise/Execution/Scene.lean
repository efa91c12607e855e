import Chunkwise.World.Basic

/-!
What running code reads and changes: the text that it wrote and that was not handed on yet, and the
world with all objects.
-/
namespace Chunkwise.Execution

structure Scene where
  /-- None where code writes straight to the standard output. -/
  pending : Option (List Char)
  world : World

namespace Scene

/-- Writes a text. -/
def write (text : List Char) (s : Scene) : Option Fault × Scene :=
  match s.pending with
  | none =>
    (none, { s with world := { s.world with written := s.world.written ++ String.ofList text } })
  | some pending =>
    match Output.write World.send pending text (s.world.mark (.wrote text)) with
    | (fault, pending', world) => (fault, { s with pending := some pending', world := world })

/-- Hands on what is pending. -/
def flush (s : Scene) : Option Fault × Scene :=
  match s.pending with
  | none => (none, s)
  | some pending =>
    match Output.flush World.send pending (s.world.mark .flushed) with
    | (fault, pending', world) => (fault, { s with pending := some pending', world := world })

/-- Does a step on the store. The world is taken out meanwhile, so that a change of the store need
not copy it. -/
def act {α : Type} (action : Store.Action α) (s : Scene) : Except Fault α × Scene :=
  let w := s.world
  let s := { s with world := {} }
  match w.act action with
  | (result, w) => (result, { s with world := w })

/-- Changes the world. -/
def mapWorld (f : World → World) (s : Scene) : Scene :=
  let w := s.world
  let s := { s with world := {} }
  { s with world := f w }

/-- From here on another writes. -/
def opens (writer : Output.Writer) (s : Scene) : Scene :=
  s.mapWorld (·.mark (.opened writer))

def store (s : Scene) : Store :=
  s.world.store

end Scene

end Chunkwise.Execution
