import Chunkwise.Store.Load
import Chunkwise.Store.Read

/-!
Steps that read and change a store and may fail.
-/
namespace Chunkwise.Store

/-- A step on a store. What it changed before it failed stays changed. -/
abbrev Action := ExceptT Fault (StateM Store)

namespace Action

variable {α : Type}

/-- A step that only reads. -/
def reading (f : Store → α) : Action α := fun store => (.ok (f store), store)

/-- A step that only reads and may fail. -/
def checking (f : Store → Except Fault α) : Action α := fun store => (f store, store)

def ofExcept (result : Except Fault α) : Action α := fun store => (result, store)

def fail (fault : Fault) : Action α := fun store => (.error fault, store)

/-- A step that only changes. -/
def changing (f : Store → Store) : Action Unit := fun store => (.ok (), f store)

/-- Adds an object and gives it as a value. -/
def make (object : Object) : Action Value := fun store =>
  match store.make object with
  | (v, store') => (.ok v, store')

/-- Brings a datum into the store. -/
def load (d : Datum) : Action Value := fun store =>
  match store.load d with
  | (v, store') => (.ok v, store')

def setNature (a : Address) (nature : Nature) : Action Unit :=
  changing (·.setNature a nature)

end Action

end Chunkwise.Store
