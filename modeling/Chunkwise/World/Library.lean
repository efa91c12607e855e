import Chunkwise.Store.Action

/-!
The shapes in which a host may hold the heavy library.
-/
namespace Chunkwise.World

/-- A host's object under the heavy library's name. -/
inductive Library where
  | object | mapping | null | objectNull | plain | emptyMapping | mappingNull | hollowMapping | zero
  deriving DecidableEq, Repr

/-- Makes a library of a shape. -/
def Library.make (library : Library) (store : Store) : Value × Store :=
  let object (class_ : Value) : Object := { nature := .library, attributes := [("Tensor", class_)] }
  let mapping (form : MapForm) (entries : List (Value × Value)) : Object :=
    { nature := .map form entries }
  match library with
  | .object => store.make (object .tensorClass)
  | .mapping => store.make (mapping .dict [(.str "Tensor", .tensorClass)])
  | .null => (.null, store)
  | .objectNull => store.make (object .null)
  | .plain => store.make { nature := .plain }
  | .emptyMapping => store.make (mapping .dict [])
  | .mappingNull => store.make (mapping .dict [(.str "Tensor", .null)])
  | .hollowMapping => store.make (mapping .hollow [(.str "Tensor", .tensorClass)])
  | .zero => (.int 0, store)

end Chunkwise.World
