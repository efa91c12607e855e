import Chunkwise.Decimal.Double

/-!
Arithmetic on doubles. Each result is the exact one rounded once; zeros keep their signs, and what
has no result is no number.
-/
namespace Chunkwise.Decimal

namespace Double

/-- A zero with a sign. -/
def zero (negative : Bool) : Double :=
  .finite negative 0 (-1074)

def one (negative : Bool) : Double :=
  .finite negative (Nat.pow 2 52) (-52)

def isZero : Double → Bool
  | .finite _ m _ => m == 0
  | _ => false

/-- The number has a minus sign. -/
def isNegative : Double → Bool
  | .finite negative .. | .infinite negative => negative
  | .nan => false

def neg : Double → Double
  | .finite negative m e => .finite (!negative) m e
  | .infinite negative => .infinite (!negative)
  | .nan => .nan

/-- The magnitude of a finite number as a ratio. -/
def magnitude (m : Nat) (e : Int) : Nat × Nat :=
  scale2 m 1 e

/-- A ratio as a double; the denominator is positive and zero has no minus sign. -/
def ofRatio (num : Int) (den : Nat) : Double :=
  nearest (decide (num < 0)) num.natAbs den

def add : Double → Double → Double
  | .nan, _ | _, .nan => .nan
  | .infinite s, .infinite t => if s = t then .infinite s else .nan
  | .infinite s, _ | _, .infinite s => .infinite s
  | .finite s m e, .finite t n f =>
    if m = 0 ∧ n = 0 then zero (s && t)
    else
      let (a, b) := magnitude m e
      let (c, d) := magnitude n f
      let num : Int := (if s then -(a : Int) else a) * d + (if t then -(c : Int) else c) * b
      ofRatio num (b * d)

def sub (x y : Double) : Double :=
  x.add y.neg

def mul : Double → Double → Double
  | .nan, _ | _, .nan => .nan
  | .infinite s, y => if y.isZero then .nan else .infinite (s != y.isNegative)
  | x, .infinite t => if x.isZero then .nan else .infinite (x.isNegative != t)
  | .finite s m e, .finite t n f =>
    let (a, b) := magnitude m e
    let (c, d) := magnitude n f
    nearest (s != t) (a * c) (b * d)

/-- A quotient by a number that is not zero. -/
def div : Double → Double → Double
  | .nan, _ | _, .nan | .infinite _, .infinite _ => .nan
  | .infinite s, y => .infinite (s != y.isNegative)
  | x, .infinite t => zero (x.isNegative != t)
  | .finite s m e, .finite t n f =>
    let (a, b) := magnitude m e
    let (c, d) := magnitude n f
    nearest (s != t) (a * d) (b * c)

/-- The remainder that has the sign of the dividend; the divisor is not zero. -/
def remainder : Double → Double → Double
  | .nan, _ | _, .nan | .infinite _, _ => .nan
  | x, .infinite _ => x
  | .finite s m e, .finite _ n f =>
    let (a, b) := magnitude m e
    let (c, d) := magnitude n f
    nearest s ((a * d) % (c * b)) (b * d)

/-- The largest whole number that is not above this one. -/
def floor : Double → Double
  | .finite s m e =>
    if m = 0 then zero s
    else
      let (a, b) := magnitude m e
      if s then nearest true ((a + b - 1) / b) 1 else nearest false (a / b) 1
  | x => x

/-- The number is below another; no number is below or above what is none. -/
def less (x y : Double) : Bool :=
  match x, y with
  | .nan, _ | _, .nan => false
  | .infinite s, .infinite t => s && !t
  | .infinite s, _ => s
  | _, .infinite t => !t
  | x, y =>
    match x.ratio?, y.ratio? with
    | some (a, b), some (c, d) => a * d < c * b
    | _, _ => false

/-- The whole quotient and the remainder that has the sign of the divisor. The quotient is the
rounded one taken down, and put right where the rounding has brought it above. -/
def divMod (x y : Double) : Double × Double :=
  let r := x.remainder y
  let q := (x.sub r).div y
  let (q, r) :=
    if r.isZero then (q, zero y.isNegative)
    else if y.isNegative != r.less (zero false) then (q.sub (one false), r.add y)
    else (q, r)
  if q.isZero then (zero ((x.div y).isNegative), r)
  else
    let whole := q.floor
    let half := Double.finite false (Nat.pow 2 52) (-53)
    (if half.less (q.sub whole) then whole.add (one false) else whole, r)

/-- The bits of a double in memory. -/
def toBits : Double → UInt64
  | .nan => 0x7FF8000000000000
  | .infinite negative => if negative then 0xFFF0000000000000 else 0x7FF0000000000000
  | .finite negative m e =>
    let sign : Nat := if negative then Nat.pow 2 63 else 0
    let body := if m < Nat.pow 2 52 then m
      else (e + 1075).toNat * Nat.pow 2 52 + (m - Nat.pow 2 52)
    UInt64.ofNat (sign + body)

/-- The double that bits in memory stand for. -/
def ofBits (bits : UInt64) : Double :=
  let n := bits.toNat
  let negative := decide (Nat.pow 2 63 ≤ n)
  let exponent : Nat := n / Nat.pow 2 52 % 2048
  let fraction : Nat := n % Nat.pow 2 52
  if exponent = 2047 then if fraction = 0 then .infinite negative else .nan
  else if exponent = 0 then .finite negative fraction (-1074)
  else .finite negative (fraction + Nat.pow 2 52) ((exponent : Int) - 1075)

/-- The integer that a finite double is. -/
def toInt? (x : Double) : Option Int :=
  match x.ratio? with
  | some (num, den) => if num % den = 0 then some (num / den) else none
  | none => none

def isOdd (x : Double) : Bool :=
  x.toInt?.any (· % 2 = 1)

def isOne (x : Double) : Bool :=
  x.isInt 1

end Double

/-- Why a power has no value. -/
inductive PowerError where
  /-- Zero to a negative power. -/
  | zeroDivision
  /-- The value is too large. -/
  | overflow
  deriving DecidableEq, Repr

namespace Double

/-- The power of two positive finite numbers, correct but for the last place. -/
def rawPower (x y : Double) : Double :=
  ofBits (Float.pow (Float.ofBits x.toBits) (Float.ofBits y.toBits)).toBits

/-- A power. A negative number to a fractional power has no real value. -/
def power (x y : Double) : Except PowerError Double :=
  if y.isZero then .ok (one false)
  else
    match x, y with
    | .nan, _ => .ok .nan
    | x, .nan => .ok (if x.isOne then one false else .nan)
    | x, .infinite negative =>
      let size := if x.isNegative then x.neg else x
      if size.isOne then .ok (one false)
      else if negative != (one false).less size then .ok (.infinite false)
      else .ok (zero false)
    | .infinite s, y =>
      let odd := y.isOdd
      .ok (if y.isNegative then zero (odd && s) else .infinite (odd && s))
    | x, y =>
      if x.isZero then
        if y.isNegative then .error .zeroDivision else .ok (if y.isOdd then x else zero false)
      else if x.isNegative ∧ y.toInt?.isNone then .ok .nan
      else
        let size := if x.isNegative then x.neg else x
        let negative := x.isNegative && y.isOdd
        match if size.isOne then one false else rawPower size y with
        | .finite _ m e => .ok (.finite negative m e)
        | _ => .error .overflow

end Double

end Chunkwise.Decimal
