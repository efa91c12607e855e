import Chunkwise.Datum.HostForm
import Chunkwise.Fault.Own
import Chunkwise.Store.Attribute

/-!
The functions by which adapter code crosses into the heavy library.
-/
namespace Chunkwise.Bridge
open Store

def noTensor : Fault :=
  .bridgeLoadFailure "Heavy library does not expose a Tensor type" none

/-- The library's tensor class: its attribute, or the entry of a mapping that has none. -/
def tensorClassOf (library : Value) : Action Value := do
  let held ← attribute? library "Tensor"
  let entry ← Action.reading fun store =>
    match store.natureOf library with
    | some (.map _ entries) => store.lookupKey entries (.str "Tensor")
    | _ => none
  match held.filter (!·.isNull), entry.filter (!·.isNull) with
  | some v, _ | none, some v => return v
  | none, none => Action.fail noTensor

/-- The adapters around the tensor class of a library. -/
def makeAdapters (library : Value) : Action Value := do
  Action.make { nature := .adapters (← tensorClassOf library) }

/-- The host form of a value. What gives its items only once has none left then. -/
def hostForm (v : Value) : Action Value := do
  let d ← Action.reading (·.hostView v)
  let made ← Action.ofExcept d.toHost
  match v, (← Action.reading (·.natureOf v)) with
  | .ref a, some (.seq .generator _) => Action.setNature a (.seq .generator #[])
  | _, _ => pure ()
  Action.load made

/-- The host's list for a value, which must become one. -/
def hostList (v : Value) : Action Value := do
  let made ← hostForm v
  match ← Action.reading (·.natureOf made) with
  | some (.seq .list _) | some (.seq .listSub _) => return made
  | _ =>
    let name ← Action.reading (·.typeName v)
    Action.fail (.of .typeError s!"Expected a sequence, got {name}")

/-- The arguments that make a tensor of data: its host form, and whether gradients are wanted as
a truth value. -/
def tensorArguments (data requiresGrad : Value) : Action (Value × Value) := do
  let value ← hostForm data
  return (value, .bool (← Action.reading (·.truth requiresGrad)))

/-- A tensor of the host's own class. -/
def makeTensor (data requiresGrad : Value) : Action Value := do
  let (value, flag) ← tensorArguments data requiresGrad
  Action.make (tensorObject value flag)

/-- The data of a tensor. -/
def tensorData (tensor : Value) : Action Value :=
  getAttribute tensor "data"

end Chunkwise.Bridge
