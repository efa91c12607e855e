import Chunkwise.Decimal.Arithmetic
import Chunkwise.Number.Digits
import Chunkwise.Text.Blank
import Chunkwise.Text.Quoted
import Chunkwise.Yaml.Timestamp

/-!
What a text without quotes stands for: nothing, a truth value, a number, or itself.
-/
namespace Chunkwise.Yaml
open Chunkwise.Decimal

/-- Digits of a base, which underscores may part. -/
def isDigits (isDigit : Char → Bool) (t : List Char) : Bool :=
  !t.isEmpty && t.all fun c => isDigit c || c == '_'

def isHex (c : Char) : Bool :=
  c.isDigit || ('a' ≤ c.toLower && c.toLower ≤ 'f')

/-- A part of a number in base sixty. -/
def isSixtieth (t : List Char) : Bool :=
  match t with
  | [c] => c.isDigit
  | [c, d] => '0' ≤ c && c ≤ '5' && d.isDigit
  | _ => false

/-- The parts between colons. -/
def colonParts : List Char → List (List Char)
  | [] => [[]]
  | c :: rest =>
    if c = ':' then [] :: colonParts rest
    else
      match colonParts rest with
      | part :: more => (c :: part) :: more
      | [] => [[c]]

/-- The text is a whole number, without its sign. -/
def isWhole (t : List Char) : Bool :=
  match t with
  | '0' :: 'b' :: bits => isDigits (fun c => c == '0' || c == '1') bits
  | '0' :: 'x' :: digits => isDigits isHex digits
  | ['0'] => true
  | '0' :: digits => isDigits (fun c => '0' ≤ c && c ≤ '7') digits
  | c :: _ =>
    c.isDigit &&
      match colonParts t with
      | first :: parts => isDigits Char.isDigit first && parts.all isSixtieth
      | [] => false
  | [] => false

/-- The sign of a number and what stands behind it. -/
def signed (t : List Char) : Bool × List Char :=
  match t with
  | '-' :: rest => (true, rest)
  | '+' :: rest => (false, rest)
  | _ => (false, t)

/-- An exponent has a sign and digits. -/
def isExponent (t : List Char) : Bool :=
  match t with
  | [] => true
  | e :: sign :: digits =>
    (e == 'e' || e == 'E') && (sign == '-' || sign == '+') && !digits.isEmpty &&
      digits.all Char.isDigit
  | _ => false

/-- A number with a point, without its sign. -/
def isFraction (isSigned : Bool) (t : List Char) : Bool :=
  let whole := t.takeWhile fun c => c.isDigit || c == '_'
  match t.drop whole.length with
  | '.' :: rest =>
    let fraction := rest.takeWhile fun c => c.isDigit || c == '_'
    let startsWell :=
      match whole, fraction with
      | c :: _, _ => c.isDigit
      | [], c :: _ => c.isDigit && !isSigned
      | [], [] => false
    startsWell && isExponent (rest.drop fraction.length)
  | _ => false

/-- A number in base sixty with a point behind its last part, without its sign. -/
def isSixtiethFraction (t : List Char) : Bool :=
  let digits := t.takeWhile (· ≠ '.')
  let fraction := (t.dropWhile (· ≠ '.')).drop 1
  match colonParts digits with
  | first :: part :: parts =>
    t.contains '.' && first.head?.any Char.isDigit && isDigits Char.isDigit first &&
      (part :: parts).all isSixtieth && fraction.all fun c => c.isDigit || c == '_'
  | _ => false

/-- The text is a number with a point, or the name of one that is not finite. -/
def isDouble (t : List Char) : Bool :=
  let body := (signed t).2
  body ∈ [".inf", ".Inf", ".INF"].map String.toList ||
    t ∈ [".nan", ".NaN", ".NAN"].map String.toList ||
    isFraction (body.length < t.length) body || isSixtiethFraction body

/-- What a text may be taken for. -/
inductive Kind where
  | null | bool | int | float | timestamp | str
  /-- The sign for entries of another mapping. -/
  | merge
  /-- The sign for a default. -/
  | default
  deriving DecidableEq, Repr

def truths : List String := ["yes", "true", "on"]

def falsehoods : List String := ["no", "false", "off"]

/-- The word in small letters, with a capital at its start or in capitals. -/
def isSpelling (words : List String) (t : List Char) : Bool :=
  words.any fun word =>
    let w := word.toList
    t == w || t == w.map Char.toUpper ||
      t == (w.take 1).map Char.toUpper ++ w.drop 1

/-- What a text without quotes is taken for. -/
def kindOf (t : List Char) : Kind :=
  if isSpelling (truths ++ falsehoods) t then .bool
  else if isDouble t then .float
  else if isWhole (signed t).2 then .int
  else if t = ['<', '<'] then .merge
  else if t = [] ∨ t = ['~'] ∨ isSpelling ["null"] t then .null
  else if Timestamp.isWritten t then .timestamp
  else if t = ['='] then .default
  else .str

/-! The values of texts. -/

def unparted (t : List Char) : List Char :=
  t.filter (· ≠ '_')

/-- The value of a digit, if the base has it. -/
def digitOf? (base : Nat) (c : Char) : Option Nat :=
  let n :=
    if c.isDigit then c.toNat - '0'.toNat
    else if c.isAlpha then c.toLower.toNat - 'a'.toNat + 10
    else base
  if n < base then some n else none

/-- An integer in a base, which may have a sign and blanks around it. -/
def integer? (base : Nat) (t : List Char) : Option Int :=
  let (negative, digits) := signed (Text.trim t)
  match digits.mapM (digitOf? base) with
  | some (d :: ds) =>
    let n := (d :: ds).foldl (fun n d => base * n + d) 0
    some (if negative then -n else n)
  | _ => none

def integerOf (base : Nat) (t : List Char) : Except Refusal Int :=
  match integer? base t with
  | some n =>
    if base = 10 ∧ digitLimit < t.length then
      .error (.fault (.of .valueError (tooManyDigitsIn t.length)))
    else .ok n
  | none =>
    refuse .valueError
      s!"invalid literal for int() with base {base}: {String.ofList (Text.quoted t)}"

/-- The integer that a text stands for. -/
def intValue (text : List Char) : Except Refusal Int := do
  let (negative, t) := signed (unparted text)
  let n ←
    match t with
    | [] => refuse .indexError "string index out of range"
    | ['0'] => .ok 0
    | '0' :: 'b' :: bits => integerOf 2 bits
    | '0' :: 'x' :: digits => integerOf 16 digits
    | '0' :: _ => integerOf 8 t
    | t =>
      (colonParts t).foldlM (fun (n : Int) part => return 60 * n + (← integerOf 10 part)) 0
  return if negative then -n else n

/-- The double that a text stands for. -/
def doubleOf (t : List Char) : Except Refusal Double :=
  match Double.read? (Text.trim t) with
  | some x => .ok x
  | none =>
    refuse .valueError s!"could not convert string to float: {String.ofList (Text.quoted t)}"

/-- The parts of a number in base sixty, the last first, added up. -/
def sixtieths : Nat → Double → List Double → Double
  | _, sum, [] => sum
  | base, sum, x :: rest => sixtieths (60 * base) (sum.add (x.mul (.ofRatio base 1))) rest

/-- The number with a point that a text stands for. -/
def floatValue (text : List Char) : Except Refusal Double := do
  let (negative, t) := signed ((unparted text).map Char.toLower)
  let x ←
    if unparted text = [] then refuse .indexError "string index out of range"
    else if t = ".inf".toList then .ok (.infinite false)
    else if t = ".nan".toList then return .nan
    else if t.contains ':' then
      return (← (colonParts t).mapM doubleOf).reverse |> sixtieths 1 (.zero false)
    else doubleOf t
  return if negative then x.neg else x

/-- The truth value that a text stands for. -/
def boolValue (text : List Char) : Except Refusal Bool :=
  let word := String.ofList (text.map Char.toLower)
  if word ∈ truths then .ok true
  else if word ∈ falsehoods then .ok false
  else refuse .keyError word

/-- What a text of a kind stands for. The two signs have no value. -/
def scalarValue (kind : Kind) (text : String) : Except Refusal Datum :=
  match kind with
  | .null => .ok .null
  | .bool => (boolValue text.toList).map .bool
  | .int => (intValue text.toList).map .int
  | .float => (floatValue text.toList).map fun x => .leaf (.float x)
  | .timestamp => Timestamp.ofText text.toList
  | .str => .ok (.str text)
  | .merge | .default => .error .malformed

end Chunkwise.Yaml
