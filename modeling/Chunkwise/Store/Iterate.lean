import Chunkwise.Store.Action
import Chunkwise.Store.Compare

/-!
Going through the items of a value. A list, a mapping and what gives its items only once are
looked at anew for every item, so that changes made meanwhile are seen.
-/
namespace Chunkwise.Store

/-- Where a walk through the items of a value stands. -/
inductive Cursor where
  /-- The next place in a list or in bytes that may change. -/
  | place (a : Address) (i : Nat)
  /-- The next key of a mapping that had as many entries when the walk began. -/
  | key (a : Address) (i size : Nat)
  | range (next step : Int) (left : Nat)
  /-- Items that cannot change. -/
  | rest (items : List Value)
  /-- What gives each of its items once. -/
  | once (a : Address)

def charValue (c : Char) : Value :=
  .str (String.singleton c)

def byteValue (b : UInt8) : Value :=
  .int b.toNat

/-- The beginning of a walk, if the value has items. -/
def cursor? (store : Store) (v : Value) : Option Cursor :=
  match v with
  | .str s => some (.rest (s.toList.map charValue))
  | .bytes data => some (.rest (data.map byteValue))
  | .range start stop step => some (.range start step (rangeLength start stop step))
  | .ref a =>
    match store.nature? a with
    | some (.seq form items) =>
      if form.isList then some (.place a 0)
      else if form = .generator then some (.once a)
      else some (.rest items.toList)
    | some (.bytes _) => some (.place a 0)
    | some (.map _ entries) => some (.key a 0 entries.length)
    | some (.convertible _ _ _ (some items)) => some (.rest items)
    | _ => none
  | _ => none

/-- The next item and where the walk stands behind it; none at the end. -/
def Cursor.next : Cursor → Action (Option (Value × Cursor))
  | .place a i => fun store =>
    let item : Option Value :=
      match store.nature? a with
      | some (.seq _ items) => items[i]?
      | some (.bytes data) => data[i]?.map byteValue
      | _ => none
    (.ok (item.map (·, .place a (i + 1))), store)
  | .key a i size => fun store =>
    match store.nature? a with
    | some (.map _ entries) =>
      if entries.length ≠ size then
        (.error (.of .runtimeError "dictionary changed size during iteration"), store)
      else (.ok (entries[i]?.map fun entry => (entry.1, .key a (i + 1) size)), store)
    | _ => (.ok none, store)
  | .range next step left => fun store =>
    match left with
    | 0 => (.ok none, store)
    | left + 1 => (.ok (some (.int next, .range (next + step) step left)), store)
  | .rest items => fun store =>
    match items with
    | [] => (.ok none, store)
    | v :: items => (.ok (some (v, .rest items)), store)
  | .once a => fun store =>
    match store.nature? a with
    | some (.seq form items) =>
      match items.toList with
      | [] => (.ok none, store)
      | v :: left => (.ok (some (v, .once a)), store.setNature a (.seq form left.toArray))
    | _ => (.ok none, store)

def notIterable (store : Store) (v : Value) : Fault :=
  .of .typeError s!"'{store.typeName v}' object is not iterable"

/-- The beginning of a walk through a value that must have items. -/
def begin_ (v : Value) : Action Cursor := fun store =>
  match store.cursor? v with
  | some cursor => (.ok cursor, store)
  | none => (.error (store.notIterable v), store)

/-- The items of a value, if it has any; nothing is used up. -/
def items? (store : Store) (v : Value) : Option (List Value) :=
  match v with
  | .range start stop step => some (rangeItems start stop step)
  | .ref a =>
    match store.nature? a with
    | some (.seq _ items) => some items.toList
    | some (.bytes data) => some (data.map byteValue)
    | some (.map _ entries) => some (entries.map (·.1))
    | some (.convertible _ _ _ items) => items
    | _ => none
  | v =>
    match store.cursor? v with
    | some (.rest items) => some items
    | _ => none

/-- The first items of a value, at most as many as asked, which are used up. -/
def take : Nat → Cursor → Action (List Value)
  | 0, _ => pure []
  | n + 1, cursor => do
    match ← cursor.next with
    | none => return []
    | some (v, cursor) => return v :: (← take n cursor)

/-- A number of items that a machine word can hold. -/
def wordLimit : Nat := Nat.pow 2 63

/-- A number of items that memory can hold. -/
def memoryLimit : Nat := Nat.pow 10 10

def tooLong : Fault :=
  .of .overflowError "Python int too large to convert to C ssize_t"

/-- All items of a value, which are used up. -/
def drain (v : Value) : Action (List Value) := fun store =>
  match v with
  | .range start stop step =>
    let n := rangeLength start stop step
    if wordLimit ≤ n then (.error tooLong, store)
    else if memoryLimit ≤ n then (.error (.make .memoryError []), store)
    else (.ok (rangeItems start stop step), store)
  | v =>
    match store.items? v with
    | none => (.error (store.notIterable v), store)
    | some items =>
      match v, store.natureOf v with
      | .ref a, some (.seq .generator _) => (.ok items, store.setNature a (.seq .generator #[]))
      | _, _ => (.ok items, store)

/-- The items of a value that is spread over as many targets. -/
def spread (n : Nat) (v : Value) : Action (List Value) := do
  match ← Action.reading (·.cursor? v) with
  | none =>
    let name ← Action.reading (·.typeName v)
    Action.fail (.of .typeError s!"cannot unpack non-iterable {name} object")
  | some cursor =>
    let items ← take (n + 1) cursor
    if items.length < n then
      Action.fail (.of .valueError
        s!"not enough values to unpack (expected {n}, got {items.length})")
    else if n < items.length then
      Action.fail (.of .valueError s!"too many values to unpack (expected {n})")
    else return items

def lengthOf (store : Store) (v : Value) : Except Fault Nat :=
  let none_ : Except Fault Nat := typeFault s!"object of type '{store.typeName v}' has no len()"
  match v with
  | .str s => .ok s.length
  | .bytes data => .ok data.length
  | .range start stop step =>
    let n := rangeLength start stop step
    if n < wordLimit then .ok n else .error tooLong
  | .ref a =>
    match store.nature? a with
    | some (.seq form items) => if form = .generator then none_ else .ok items.size
    | some (.map _ entries) => .ok entries.length
    | some (.bytes data) => .ok data.length
    | _ => none_
  | _ => none_

end Chunkwise.Store
