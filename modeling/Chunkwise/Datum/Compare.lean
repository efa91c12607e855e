import Chunkwise.Datum.Basic
import Chunkwise.Number.Order

/-!
Equality and order of data, and mappings by equal keys. Numbers are compared by what they stand
for, so that one, the true value and `1.0` are one key.
-/
namespace Chunkwise
open Chunkwise.Decimal

/-- The families within which sequences may be equal. -/
def SeqForm.family : SeqForm → Nat
  | .list | .listSub => 0
  | .tuple | .tupleSub => 1
  | .set | .frozenSet => 2
  | .generator => 3

namespace Datum

mutual

/-- Equality of data. Objects without a value of their own are never equal. -/
def same : Datum → Datum → Bool
  | .leaf v, .leaf w => v.sameAtom w
  | .leaf (.bytes a), .bytes b | .bytes a, .leaf (.bytes b) | .bytes a, .bytes b => a == b
  | .seq f xs, .seq g ys => f.family == g.family && f != .generator && sameAll xs ys
  | .map _ xs, .map _ ys => xs.length == ys.length && sameEntries xs ys
  | _, _ => false

def sameAll : List Datum → List Datum → Bool
  | [], [] => true
  | x :: xs, y :: ys => same x y && sameAll xs ys
  | _, _ => false

/-- Each entry of the first mapping is in the second. -/
def sameEntries : List (Datum × Datum) → List (Datum × Datum) → Bool
  | [], _ => true
  | (k, v) :: rest, ys => ys.any (fun (l, w) => same k l && same v w) && sameEntries rest ys

end

mutual

/-- The innermost datum on account of which one cannot be a key. -/
def unhashable? : Datum → Option Datum
  | .seq form items =>
    match form with
    | .list | .listSub | .set => some (.seq form items)
    | .tuple | .tupleSub => firstUnhashable? items
    | .frozenSet | .generator => none
  | .map form entries => some (.map form entries)
  | .bytes data => some (.bytes data)
  | _ => none

def firstUnhashable? : List Datum → Option Datum
  | [] => none
  | v :: rest => v.unhashable?.or (firstUnhashable? rest)

end

def unhashable (v : Datum) : Fault :=
  .of .typeError s!"unhashable type: '{v.typeName}'"

/-- A datum that can be a key. -/
def hashed (v : Datum) : Except Fault Unit :=
  match v.unhashable? with
  | some part => .error part.unhashable
  | none => .ok ()

/-- What is said of two data that have no order. -/
def unordered {α : Type} (v w : Datum) : Except Fault α :=
  .error (.of .typeError
    s!"'<' not supported between instances of '{v.typeName}' and '{w.typeName}'")

mutual

/-- The first datum comes before the second. Sequences of one kind compare by their first items
that differ. -/
def less : Datum → Datum → Except Fault Bool
  | .leaf v, .leaf w =>
    match v.lessAtom? w with
    | some before => .ok before
    | none => unordered (.leaf v) (.leaf w)
  | .seq f xs, .seq g ys =>
    if f.family = g.family ∧ f.family < 2 then lessItems xs ys
    else unordered (.seq f xs) (.seq g ys)
  | v, w => unordered v w

def lessItems : List Datum → List Datum → Except Fault Bool
  | [], ys => .ok (!ys.isEmpty)
  | _ :: _, [] => .ok false
  | x :: xs, y :: ys => if x.same y then lessItems xs ys else less x y

end

end Datum

/-- The datum under a key. -/
def lookupKey (entries : List (Datum × Datum)) (key : Datum) : Option Datum :=
  (entries.find? fun entry => entry.1.same key).map (·.2)

/-- Puts a datum under a key: an equal key keeps its place and its form. -/
def putEntry (entries : List (Datum × Datum)) (key value : Datum) : List (Datum × Datum) :=
  match entries with
  | [] => [(key, value)]
  | (k, v) :: rest => if k.same key then (k, value) :: rest else (k, v) :: putEntry rest key value

/-- The mapping that entries make one after another. -/
def entriesOf (entries : List (Datum × Datum)) : List (Datum × Datum) :=
  entries.foldl (fun made entry => putEntry made entry.1 entry.2) []

end Chunkwise
