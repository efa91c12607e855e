import Chunkwise.Store.Arithmetic

/-!
The items of containers: read, put and taken away at an index or under a key.
-/
namespace Chunkwise.Store

/-- An index as a number, of which those below zero count from the end. -/
def indexOf (wrongType : String) (index : Value) : Except Fault Int :=
  match index.int? with
  | none => typeFault wrongType
  | some n => if fitsWord n then .ok n else .error (.of .indexError unfittingIndex)

/-- The place that an index counts to, if it is among as many. -/
def placeOf? (size : Nat) (n : Int) : Option Nat :=
  let i := if n < 0 then n + size else n
  if 0 ≤ i ∧ i < size then some i.toNat else none

/-- What is said of an index that is no number. -/
def wrongIndex (store : Store) (owner : String) (index : Value) : String :=
  s!"{owner} indices must be integers or slices, not {store.typeName index}"

/-- The item at an index. -/
def itemAt {α : Type} (what wrongType : String) (items : List α) (index : Value) :
    Except Fault α := do
  let n ← indexOf wrongType index
  match (placeOf? items.length n).bind (items[·]?) with
  | some item => return item
  | none => outOfRange what

/-- The item of a range, which is computed. -/
def rangeAt (store : Store) (start stop step : Int) (index : Value) : Except Fault Value :=
  match index.int? with
  | none => typeFault (store.wrongIndex "range" index)
  | some n =>
    match placeOf? (rangeLength start stop step) n with
    | some i => .ok (rangeItem start step i)
    | none => outOfRange "range object index"

/-- What is said of a value that has no items to ask for. -/
def notSubscriptable {α : Type} (store : Store) (v : Value) : Except Fault α :=
  match v with
  | .kind k => typeFault s!"type '{k.name}' is not subscriptable"
  | .tensorClass => typeFault "type 'Tensor' is not subscriptable"
  | .builtin f =>
    if f.isType then typeFault s!"type '{f.name}' is not subscriptable"
    else typeFault s!"'{store.typeName v}' object is not subscriptable"
  | v => typeFault s!"'{store.typeName v}' object is not subscriptable"

/-- The item of a container at an index or under a key. -/
def subscript (store : Store) (v index : Value) : Except Fault Value :=
  match v with
  | .str s =>
    (itemAt "string index" s!"string indices must be integers, not '{store.typeName index}'"
      s.toList index).map charValue
  | .bytes data => (itemAt "index" (store.wrongIndex "byte" index) data index).map byteValue
  | .range start stop step => store.rangeAt start stop step index
  | .ref a =>
    match store.nature? a with
    | some (.seq form items) =>
      if form.isList then do
        let n ← indexOf (store.wrongIndex "list" index) index
        match (placeOf? items.size n).bind (items[·]?) with
        | some item => return item
        | none => outOfRange "list index"
      else if form.isTuple then
        itemAt "tuple index" (store.wrongIndex "tuple" index) items.toList index
      else store.notSubscriptable v
    | some (.bytes data) =>
      (itemAt "bytearray index" (store.wrongIndex "bytearray" index) data index).map byteValue
    | some (.map _ entries) => do
      store.hashed index
      match store.lookupKey entries index with
      | some value => return value
      | none => .error (.make .keyError [.leaf index])
    | _ => store.notSubscriptable v
  | v => store.notSubscriptable v

/-- A value as a byte. -/
def byteOf (store : Store) (v : Value) : Except Fault UInt8 :=
  match v.int? with
  | none => typeFault s!"'{store.typeName v}' object cannot be interpreted as an integer"
  | some n =>
    if 0 ≤ n ∧ n < 256 then .ok (UInt8.ofNat n.toNat)
    else .error (.of .valueError "byte must be in range(0, 256)")

/-- Puts an item into a container at an index or under a key. -/
def setItem (v index new : Value) : Action Unit := do
  let store ← Action.reading id
  let refused : Action Unit :=
    Action.fail (.of .typeError s!"'{store.typeName v}' object does not support item assignment")
  match v, store.natureOf v with
  | .ref a, some (.seq form items) =>
    if form.isList then
      let n ← Action.ofExcept (indexOf (store.wrongIndex "list" index) index)
      match placeOf? items.size n with
      | some i => Action.setNature a (.seq form (items.set! i new))
      | none => Action.ofExcept (outOfRange "list assignment index")
    else refused
  | .ref a, some (.map form entries) =>
    if form = .view then refused
    else
      Action.ofExcept (store.hashed index)
      Action.setNature a (.map form (store.putEntry entries index new))
  | .ref a, some (.bytes data) =>
    let n ← Action.ofExcept (indexOf (store.wrongIndex "bytearray" index) index)
    let b ← Action.ofExcept (store.byteOf new)
    match placeOf? data.length n with
    | some i => Action.setNature a (.bytes (data.set i b))
    | none => Action.ofExcept (outOfRange "bytearray index")
  | _, _ => refused

/-- Takes the item of a container at an index or under a key away. -/
def deleteItem (v index : Value) : Action Unit := do
  let store ← Action.reading id
  let refused : Action Unit :=
    Action.fail (.of .typeError s!"'{store.typeName v}' object doesn't support item deletion")
  match v, store.natureOf v with
  | .ref a, some (.seq form items) =>
    if form.isList then
      let n ← Action.ofExcept (indexOf (store.wrongIndex "list" index) index)
      match placeOf? items.size n with
      | some i => Action.setNature a (.seq form (items.toList.eraseIdx i).toArray)
      | none => Action.ofExcept (outOfRange "list assignment index")
    else refused
  | .ref a, some (.map form entries) =>
    if form = .view then refused
    else
      Action.ofExcept (store.hashed index)
      if (store.lookupKey entries index).isSome then
        Action.setNature a (.map form (entries.filter (!store.sameKey ·.1 index)))
      else Action.fail (.make .keyError [.leaf index])
  | .ref a, some (.bytes data) =>
    let n ← Action.ofExcept (indexOf (store.wrongIndex "bytearray" index) index)
    match placeOf? data.length n with
    | some i => Action.setNature a (.bytes (data.eraseIdx i))
    | none => Action.ofExcept (outOfRange "bytearray index")
  | _, _ => refused

end Chunkwise.Store
