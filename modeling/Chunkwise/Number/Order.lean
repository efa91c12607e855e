import Chunkwise.Decimal.Arithmetic
import Chunkwise.Value.Basic

/-!
Numbers among values: what they stand for is compared exactly, be they integers or doubles.
-/
namespace Chunkwise
open Chunkwise.Decimal

/-- A number as a ratio; none for doubles that are not finite. -/
def asRatio : Int ⊕ Double → Option (Int × Nat)
  | .inl n => some (n, 1)
  | .inr x => x.ratio?

/-- The order of two numbers; none when one of them is no number. -/
def numberOrder (x y : Int ⊕ Double) : Option Ordering :=
  match asRatio x, asRatio y, x, y with
  | some (a, b), some (c, d), _, _ => some (compare (a * d) (c * b))
  | _, _, .inr .nan, _ | _, _, _, .inr .nan => none
  | _, _, .inr (.infinite m), .inr (.infinite n) =>
    some (if m = n then .eq else if m then .lt else .gt)
  | _, _, .inr (.infinite m), _ => some (if m then .lt else .gt)
  | _, _, _, .inr (.infinite n) => some (if n then .gt else .lt)
  | _, _, _, _ => none

def sameNumber (x y : Int ⊕ Double) : Bool :=
  numberOrder x y == some .eq

/-- The number of items of a range. -/
def rangeLength (start stop step : Int) : Nat :=
  if 0 < step then ((stop - start + step - 1) / step).toNat
  else if step < 0 then ((start - stop - step - 1) / -step).toNat
  else 0

/-- The item of a range at a place. -/
def rangeItem (start step : Int) (i : Nat) : Value :=
  .int (start + step * (i : Int))

def rangeItems (start stop step : Int) : List Value :=
  (List.range (rangeLength start stop step)).map (rangeItem start step)

/-- Two ranges give the same items. -/
def sameRange (a b c d e f : Int) : Bool :=
  let n := rangeLength a b c
  n == rangeLength d e f && (n == 0 || (a == d && (n == 1 || c == f)))

namespace Value

/-- Equality of values that are all there is to them. An object equals itself only. -/
def sameAtom (v w : Value) : Bool :=
  match v, w with
  | .range a b c, .range d e f => sameRange a b c d e f
  | v, w =>
    match v.number?, w.number? with
    | some m, some n => sameNumber m n
    | _, _ => decide (v = w)

/-- The order of texts, bytes and numbers; the inner option is empty for what is no number. -/
def order? (v w : Value) : Option (Option Ordering) :=
  match v, w with
  | .str s, .str t => some (some (compare s t))
  | .bytes a, .bytes b => some (some (compare (a.map (·.toNat)) (b.map (·.toNat))))
  | v, w =>
    match v.number?, w.number? with
    | some m, some n => some (numberOrder m n)
    | _, _ => none

/-- Whether the first of two values comes before the second, if they have an order. -/
def lessAtom? (v w : Value) : Option Bool :=
  (v.order? w).map (· == some .lt)

end Value

end Chunkwise
