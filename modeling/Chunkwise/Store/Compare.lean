import Chunkwise.Number.Order
import Chunkwise.Store.Read

/-!
Truth, equality and order of values. Inside a container an object equals itself without being
looked into; other objects are compared by what they hold, to a bounded depth.
-/
namespace Chunkwise

namespace Code

def Comparison.symbol : Comparison → String
  | .eq => "=="
  | .ne => "!="
  | .lt => "<"
  | .le => "<="
  | .gt => ">"
  | .ge => ">="
  | .isSame => "is"
  | .isNotSame => "is not"
  | .isIn => "in"
  | .isNotIn => "not in"

end Code

/-- The families within which sequences may be equal. -/
def SeqForm.kin (f g : SeqForm) : Bool :=
  f.isList && g.isList || f.isTuple && g.isTuple || f.isSet && g.isSet

def typeFault {α : Type} (message : String) : Except Fault α :=
  .error (.of .typeError message)

namespace Store

/-- The bytes that a value holds, if it holds bytes. -/
def bytes? (store : Store) : Value → Option (List UInt8)
  | .bytes data => some data
  | .ref a =>
    match store.nature? a with
    | some (.bytes data) => some data
    | _ => none
  | _ => none

/-- The nature of an object that a value refers to. -/
def natureOf (store : Store) : Value → Option Nature
  | .ref a => store.nature? a
  | _ => none

/-- An empty, zero or null value is false and any other is true. -/
def truth (store : Store) (v : Value) : Bool :=
  match v with
  | .ref a =>
    match store.nature? a with
    | some (.seq .generator _) => true
    | some (.seq _ items) => !items.isEmpty
    | some (.map _ entries) => !entries.isEmpty
    | some (.bytes data) => !data.isEmpty
    | _ => true
  | v => (Datum.leaf v).truth

/-- Items of two lists are equal one by one. -/
def allSame (same : Value → Value → Except Fault Bool) : List Value → List Value →
    Except Fault Bool
  | [], [] => .ok true
  | x :: xs, y :: ys => do
    if ← same x y then allSame same xs ys else return false
  | _, _ => .ok false

/-- An item is equal to one of a list. -/
def anySame (same : Value → Value → Except Fault Bool) (v : Value) : List Value →
    Except Fault Bool
  | [] => .ok false
  | x :: xs => do
    if ← same x v then return true else anySame same v xs

/-- Each item of the first list is among the second. -/
def allAmong (same : Value → Value → Except Fault Bool) (ys : List Value) : List Value →
    Except Fault Bool
  | [] => .ok true
  | x :: xs => do
    if ← anySame same x ys then allAmong same ys xs else return false

/-- The value under a key. -/
def entryUnder (same : Value → Value → Except Fault Bool) (key : Value) :
    List (Value × Value) → Except Fault (Option Value)
  | [] => .ok none
  | (k, v) :: rest => do
    if ← same k key then return some v else entryUnder same key rest

/-- Each entry of the first mapping is in the second. -/
def entriesAmong (same : Value → Value → Except Fault Bool) (ys : List (Value × Value)) :
    List (Value × Value) → Except Fault Bool
  | [] => .ok true
  | (k, v) :: rest => do
    match ← entryUnder same k ys with
    | some w => if ← same v w then entriesAmong same ys rest else return false
    | none => return false

/-- Equality of values, to a depth. -/
def sameTo (store : Store) : Nat → Value → Value → Except Fault Bool
  | 0, _, _ => recursionFault " in comparison"
  | n + 1, v, w =>
    let inner (x y : Value) : Except Fault Bool :=
      if x = y then .ok true else sameTo store n x y
    match store.natureOf v, store.natureOf w with
    | some (.seq f xs), some (.seq g ys) =>
      if ¬ f.kin g then .ok (decide (v = w))
      else if xs.size ≠ ys.size then .ok false
      else if f.isSet then allAmong inner ys.toList xs.toList
      else allSame inner xs.toList ys.toList
    | some (.map _ xs), some (.map _ ys) =>
      if xs.length = ys.length then entriesAmong inner ys xs else .ok false
    | _, _ =>
      match store.bytes? v, store.bytes? w with
      | some a, some b => .ok (a == b)
      | _, _ => .ok (v.sameAtom w)

/-- Equality of values. -/
def same (store : Store) (v w : Value) : Except Fault Bool :=
  store.sameTo nestingLimit v w

/-- Equality of items of containers and of keys. -/
def sameItem (store : Store) (v w : Value) : Except Fault Bool :=
  if v = w then .ok true else store.same v w

/-- Two keys are equal. -/
def sameKey (store : Store) (v w : Value) : Bool :=
  (store.sameItem v w).toOption.getD false

/-- The innermost value on account of which a value cannot be a key. -/
def unhashableIn (store : Store) : Nat → Value → Option Value
  | 0, _ => none
  | n + 1, v =>
    match store.natureOf v with
    | some (.seq form items) =>
      match form with
      | .list | .listSub | .set => some v
      | .tuple | .tupleSub => items.toList.findSome? (unhashableIn store n)
      | .frozenSet | .generator => none
    | some (.map ..) | some (.bytes _) | some (.scope _) => some v
    | _ => none

/-- A value that can be a key. -/
def hashed (store : Store) (v : Value) : Except Fault Unit :=
  match store.unhashableIn store.depth v with
  | some part => typeFault s!"unhashable type: '{store.typeName part}'"
  | none => .ok ()

/-- The value under a key. -/
def lookupKey (store : Store) (entries : List (Value × Value)) (key : Value) : Option Value :=
  (entries.find? fun entry => store.sameKey entry.1 key).map (·.2)

/-- Puts a value under a key: an equal key keeps its place and its form. -/
def putEntry (store : Store) (entries : List (Value × Value)) (key value : Value) :
    List (Value × Value) :=
  match entries with
  | [] => [(key, value)]
  | (k, v) :: rest =>
    if store.sameKey k key then (k, value) :: rest else (k, v) :: putEntry store rest key value

/-! Order. -/

/-- The comparison holds of values in this order. -/
def holds (op : Code.Comparison) : Ordering → Bool
  | .lt => op = .lt ∨ op = .le
  | .eq => op = .le ∨ op = .ge
  | .gt => op = .gt ∨ op = .ge

def unordered {α : Type} (store : Store) (op : Code.Comparison) (l r : Value) :
    Except Fault α :=
  typeFault (s!"'{op.symbol}' not supported between instances of '{store.typeName l}' and " ++
    s!"'{store.typeName r}'")

/-- Sequences compare by their first items that differ. -/
def orderedItems (store : Store) (op : Code.Comparison)
    (ordered : Value → Value → Except Fault Bool) : List Value → List Value → Except Fault Bool
  | [], [] => .ok (holds op .eq)
  | [], _ :: _ => .ok (holds op .lt)
  | _ :: _, [] => .ok (holds op .gt)
  | x :: xs, y :: ys => do
    if ← store.sameItem x y then orderedItems store op ordered xs ys else ordered x y

/-- Sets are ordered by inclusion. -/
def orderedSets (store : Store) (op : Code.Comparison) (xs ys : List Value) :
    Except Fault Bool := do
  let within ← allAmong store.sameItem ys xs
  let around ← allAmong store.sameItem xs ys
  return match op with
    | .lt => within && !around
    | .le => within
    | .gt => around && !within
    | _ => around

/-- An order of two values, to a depth. -/
def orderedTo (store : Store) (op : Code.Comparison) : Nat → Value → Value → Except Fault Bool
  | 0, _, _ => recursionFault " in comparison"
  | n + 1, v, w =>
    match store.natureOf v, store.natureOf w with
    | some (.seq f xs), some (.seq g ys) =>
      if f.isSet && g.isSet then orderedSets store op xs.toList ys.toList
      else if f.kin g then orderedItems store op (orderedTo store op n) xs.toList ys.toList
      else unordered store op v w
    | _, _ =>
      match store.bytes? v, store.bytes? w with
      | some a, some b => .ok (holds op (compare (a.map (·.toNat)) (b.map (·.toNat))))
      | _, _ =>
        match v.order? w with
        | some order => .ok (order.any (holds op))
        | none => unordered store op v w

def ordered (store : Store) (op : Code.Comparison) (v w : Value) : Except Fault Bool :=
  store.orderedTo op nestingLimit v w

end Store

end Chunkwise
