import Chunkwise.Datum.Basic

/-!
The decimal text of an integer, which is given only up to a number of digits.
-/
namespace Chunkwise

/-- The most digits that the text of an integer may have. -/
def digitLimit : Nat := 4300

/-- What is said of an integer with too many digits. -/
def tooManyDigits : Fault :=
  .of .valueError (s!"Exceeds the limit ({digitLimit} digits) for integer string conversion; " ++
    "use sys.set_int_max_str_digits() to increase the limit")

/-- What is said of a number of digits in a text, if they are too many. -/
def tooManyDigitsIn (count : Nat) : String :=
  s!"Exceeds the limit ({digitLimit} digits) for integer string conversion: value has {count} " ++
    "digits; use sys.set_int_max_str_digits() to increase the limit"

/-- The least integer that has too many digits. -/
def firstTooLong : Nat := Nat.pow 10 digitLimit

def integerText (n : Int) : Except Fault String :=
  if n.natAbs < firstTooLong then .ok (toString n) else .error tooManyDigits

end Chunkwise
