/-!
Double-precision numbers as exact data, and the nearest of them to a decimal fraction.
-/
namespace Chunkwise.Decimal

/-- A number of 64 bits: a sign, a significand and a power of two, or none of these. -/
inductive Double where
  /-- The significand has at most 53 bits and the exponent is at least `-1074`. -/
  | finite (negative : Bool) (significand : Nat) (exponent : Int)
  | infinite (negative : Bool)
  | nan
  deriving DecidableEq, Repr

/-- The quotient rounded to the nearest integer, a half to the even neighbour. -/
def roundDiv (num den : Nat) : Nat :=
  let q := num / den
  let r := num % den
  if 2 * r < den then q else if den < 2 * r then q + 1 else if q % 2 = 0 then q else q + 1

/-- A ratio scaled by a power of two, as a ratio. -/
def scale2 (num den : Nat) (power : Int) : Nat × Nat :=
  if 0 ≤ power then (num * Nat.pow 2 power.toNat, den) else (num, den * Nat.pow 2 (-power).toNat)

/-- The double nearest to a positive ratio; beyond the largest it is infinite. -/
def nearest (negative : Bool) (num den : Nat) : Double :=
  if num = 0 then .finite negative 0 (-1074)
  else
    let guess : Int := (num.log2 : Int) - den.log2 - 52
    let (n, d) := scale2 num den (-guess)
    let fitted := if n < d * Nat.pow 2 52 then guess - 1 else guess
    let exponent := max fitted (-1074)
    let (n, d) := scale2 num den (-exponent)
    let m := roundDiv n d
    let (m, exponent) := if m = Nat.pow 2 53 then (Nat.pow 2 52, exponent + 1) else (m, exponent)
    if 971 < exponent then .infinite negative else .finite negative m exponent

/-- The double nearest to `digits · 10 ^ power`. Powers far outside the range are cut off first. -/
def ofDecimal (negative : Bool) (digits : Nat) (power : Int) : Double :=
  let size : Int := (Nat.toDigits 10 digits).length
  if digits = 0 ∨ power + size < -400 then .finite negative 0 (-1074)
  else if 400 < power + size then .infinite negative
  else if 0 ≤ power then nearest negative (digits * Nat.pow 10 power.toNat) 1
  else nearest negative digits (Nat.pow 10 (-power).toNat)

/-- The number that a digit stands for; characters that are none count from `'0'` too. -/
def digitValue (c : Char) : Nat :=
  c.toNat - '0'.toNat

/-- The number written by decimal digits. -/
def ofDigits (digits : List Char) : Nat :=
  digits.foldl (fun n c => 10 * n + digitValue c) 0

/-- A signed decimal integer. -/
def readInt? (t : List Char) : Option Int :=
  let (negative, digits) :=
    match t with
    | '-' :: rest => (true, rest)
    | '+' :: rest => (false, rest)
    | _ => (false, t)
  if digits ≠ [] ∧ digits.all Char.isDigit then
    some (if negative then -(ofDigits digits : Int) else ofDigits digits)
  else none

/-- Reads digits with an optional point and an optional exponent, or the name of a number that
is not finite. -/
def Double.read? (t : List Char) : Option Double :=
  let (negative, body) :=
    match t with
    | '-' :: rest => (true, rest)
    | '+' :: rest => (false, rest)
    | _ => (false, t)
  if body = "inf".toList then some (.infinite negative)
  else if body = "nan".toList then some .nan
  else
    let isExponent (c : Char) : Bool := c == 'e' || c == 'E'
    let number := body.takeWhile (!isExponent ·)
    let whole := number.takeWhile (· ≠ '.')
    let fraction := (number.dropWhile (· ≠ '.')).drop 1
    let power := body.dropWhile (!isExponent ·)
    let exponent := if power = [] then some 0 else readInt? (power.drop 1)
    if whole ++ fraction ≠ [] ∧ (whole ++ fraction).all Char.isDigit then
      exponent.map fun e => ofDecimal negative (ofDigits (whole ++ fraction)) (e - fraction.length)
    else none

/-- The value as a ratio with a positive denominator; none for numbers that are not finite. -/
def Double.ratio? : Double → Option (Int × Nat)
  | .finite negative m exponent =>
    let (n, d) := scale2 m 1 exponent
    some (if negative then -n else n, d)
  | .infinite _ | .nan => none

/-- The double is the given integer. -/
def Double.isInt (x : Double) (n : Int) : Bool :=
  match x.ratio? with
  | some (num, den) => num == n * den
  | none => false

end Chunkwise.Decimal
