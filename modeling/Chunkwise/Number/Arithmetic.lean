import Chunkwise.Code.Tree
import Chunkwise.Datum.Basic
import Chunkwise.Number.Order

/-!
Arithmetic on numbers. Integers are exact; a result with a fraction is rounded once.
-/
namespace Chunkwise
open Chunkwise.Decimal

def divisionFault {α : Type} (message : String) : Except Fault α :=
  .error (.of .zeroDivisionError message)

def overflowFault {α : Type} (message : String) : Except Fault α :=
  .error (.of .overflowError message)

/-- An integer as a double, which it must not exceed. -/
def toDouble (n : Int) : Except Fault Double :=
  match Double.ofRatio n 1 with
  | .infinite _ => overflowFault "int too large to convert to float"
  | x => .ok x

def numberToDouble : Int ⊕ Double → Except Fault Double
  | .inl n => toDouble n
  | .inr x => .ok x

/-- A power of doubles. -/
def doublePower (x y : Double) : Except Fault Value :=
  match x.power y with
  | .ok z => .ok (.float z)
  | .error .zeroDivision => divisionFault "0.0 cannot be raised to a negative power"
  | .error .overflow =>
    .error (.make .overflowError [.int 34, .str "Numerical result out of range"])

/-- Arithmetic on integers. A quotient is a double, and the quotient and the remainder of a whole
division go with the floor. -/
def wholeArithmetic (op : Code.BinaryOp) (m n : Int) : Except Fault Value :=
  match op with
  | .add => .ok (.int (m + n))
  | .sub => .ok (.int (m - n))
  | .mul => .ok (.int (m * n))
  | .div =>
    if n = 0 then divisionFault "division by zero"
    else
      match nearest (decide (m < 0) != decide (n < 0)) m.natAbs n.natAbs with
      | .infinite _ => overflowFault "integer division result too large for a float"
      | x => .ok (.float x)
  | .floorDiv =>
    if n = 0 then divisionFault "integer division or modulo by zero" else .ok (.int (m.fdiv n))
  | .mod => if n = 0 then divisionFault "integer modulo by zero" else .ok (.int (m.fmod n))
  | .pow =>
    if 0 ≤ n then .ok (.int (Int.pow m n.toNat))
    else do doublePower (← toDouble m) (← toDouble n)

/-- Arithmetic on doubles. -/
def doubleArithmetic (op : Code.BinaryOp) (x y : Double) : Except Fault Value :=
  match op with
  | .add => .ok (.float (x.add y))
  | .sub => .ok (.float (x.sub y))
  | .mul => .ok (.float (x.mul y))
  | .div => if y.isZero then divisionFault "float division by zero" else .ok (.float (x.div y))
  | .floorDiv =>
    if y.isZero then divisionFault "float floor division by zero"
    else .ok (.float (x.divMod y).1)
  | .mod => if y.isZero then divisionFault "float modulo" else .ok (.float (x.divMod y).2)
  | .pow => doublePower x y

def numberArithmetic (op : Code.BinaryOp) : Int ⊕ Double → Int ⊕ Double → Except Fault Value
  | .inl m, .inl n => wholeArithmetic op m n
  | x, y => do doubleArithmetic op (← numberToDouble x) (← numberToDouble y)

end Chunkwise
