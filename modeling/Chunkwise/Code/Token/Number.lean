import Chunkwise.Code.Token
import Chunkwise.Decimal.Shortest
import Chunkwise.Number.Digits

/-!
Reading number literals. A literal must not run into a name.
-/
namespace Chunkwise.Code
open Chunkwise.Decimal

/-- A name may hold the character, as far as the reading of tokens goes. -/
def mayBeNamePart (c : Char) : Bool :=
  c.isAlphanum || c == '_' || 128 ≤ c.toNat

/-- A wrong number literal: the message and the number of characters read so far. -/
abbrev NumberResult := Except (String × Nat) (Lexeme × List Char)

/-- Digits with single underscores between them: the digits, the number of characters and the
rest. Gives none when an underscore is not followed by a digit. -/
def digitRun (isDigit : Char → Bool) : List Char → Except Nat (List Char × Nat × List Char)
  | '_' :: c :: rest =>
    if isDigit c then
      match digitRun isDigit rest with
      | .ok (ds, n, after) => .ok (c :: ds, n + 2, after)
      | .error n => .error (n + 2)
    else .error 1
  | ['_'] => .error 1
  | c :: rest =>
    if isDigit c then
      match digitRun isDigit rest with
      | .ok (ds, n, after) => .ok (c :: ds, n + 1, after)
      | .error n => .error (n + 1)
    else .ok ([], 0, c :: rest)
  | [] => .ok ([], 0, [])

/-- The keywords that may follow a number without a blank. -/
def followsNumber (rest : List Char) : Bool :=
  ["and", "else", "for", "if", "in", "is", "or", "not"].any fun word =>
    word.toList.isPrefixOf rest

/-- Ends a literal after a number of characters. -/
def endNumber (kind : String) (read : Nat) (lexeme : Lexeme) (rest : List Char) : NumberResult :=
  match rest with
  | c :: _ =>
    if mayBeNamePart c ∧ ¬ followsNumber rest then .error (s!"invalid {kind} literal", read)
    else .ok (lexeme, rest)
  | [] => .ok (lexeme, rest)

/-- A literal in base two, eight or sixteen, after its two leading characters. -/
def radixNumber (kind : String) (base : Nat) (isDigit : Char → Bool) (rest : List Char) :
    NumberResult :=
  let value (c : Char) : Nat := if c.isDigit then c.toNat - 48 else c.toLower.toNat - 87
  match digitRun isDigit rest with
  | .error n => .error (s!"invalid {kind} literal", n + 2)
  | .ok ([], _, after) =>
    match after with
    | c :: _ =>
      if c.isDigit then .error (s!"invalid digit '{c}' in {kind} literal", 3)
      else .error (s!"invalid {kind} literal", 2)
    | [] => .error (s!"invalid {kind} literal", 2)
  | .ok (ds, n, after) =>
    match after with
    | c :: _ =>
      if c.isDigit then .error (s!"invalid digit '{c}' in {kind} literal", n + 3)
      else endNumber kind (n + 2) (.int (ds.foldl (fun v c => base * v + value c) 0)) after
    | [] => .ok (.int (ds.foldl (fun v c => base * v + value c) 0), after)

/-- The exponent of a literal: its sign and digits and the number of characters. -/
def exponent (rest : List Char) : Except Nat (Option (List Char × Nat × List Char)) :=
  match rest with
  | e :: after =>
    if e = 'e' ∨ e = 'E' then
      match after with
      | s :: d :: more =>
        if s = '+' ∨ s = '-' then
          if d.isDigit then
            match digitRun Char.isDigit (d :: more) with
            | .ok (ds, n, left) => .ok (some (s :: ds, n + 2, left))
            | .error n => .error (n + 2)
          else .error 2
        else if s.isDigit then
          match digitRun Char.isDigit after with
          | .ok (ds, n, left) => .ok (some (ds, n + 1, left))
          | .error n => .error (n + 1)
        else .ok none
      | [d] =>
        if d.isDigit then .ok (some ([d], 2, []))
        else if d = '+' ∨ d = '-' then .error 2
        else .ok none
      | [] => .ok none
    else .ok none
  | [] => .ok none

/-- The digits behind a point, if there is one. -/
def places (hasPoint : Bool) (rest : List Char) : Except Nat (List Char × Nat × List Char) :=
  match hasPoint, rest with
  | true, c :: _ => if c.isDigit then digitRun Char.isDigit rest else .ok ([], 0, rest)
  | _, _ => .ok ([], 0, rest)

/-- A number with a fraction, an exponent or both, or the mark of an imaginary one. -/
def fractionNumber (whole : List Char) (read : Nat) (hasPoint : Bool) (rest : List Char) :
    NumberResult :=
  let wrong (n : Nat) : NumberResult := .error ("invalid decimal literal", n)
  match places hasPoint rest with
  | .error n => wrong (read + n)
  | .ok (places, n, after) =>
    match exponent after with
    | .error m => wrong (read + n + m)
    | .ok power =>
      let (digits, m, left) := power.getD ([], 0, after)
      let e := (readInt? digits).getD 0
      let number := ofDecimal false (ofDigits (whole ++ places)) (e - places.length)
      match left with
      | c :: more =>
        if c = 'j' ∨ c = 'J' then
          endNumber "imaginary" (read + n + m + 1) (.float (number.show ++ "j")) more
        else endNumber "decimal" (read + n + m) (.float number.show) left
      | [] => .ok (.float number.show, [])

/-- Whether what follows the whole part makes the number more than an integer. -/
def isFractional (rest : List Char) : Bool :=
  match rest with
  | '.' :: _ => true
  | 'j' :: _ | 'J' :: _ => true
  | e :: _ => (e == 'e' || e == 'E') && (exponent rest).toOption.any Option.isSome
  | [] => false

/-- A decimal literal. One that starts with zero has nothing but zeros. -/
def decimalNumber (cs : List Char) : NumberResult :=
  match digitRun Char.isDigit cs with
  | .error n => .error ("invalid decimal literal", n)
  | .ok (ds, n, rest) =>
    match rest with
    | '.' :: after => fractionNumber ds (n + 1) true after
    | _ =>
      if isFractional rest then fractionNumber ds n false rest
      else
        match exponent rest with
        | .error m => .error ("invalid decimal literal", n + m)
        | .ok _ =>
          if ds.head? = some '0' ∧ ofDigits ds ≠ 0 then
            .error ("leading zeros in decimal integer literals are not permitted; " ++
              "use an 0o prefix for octal integers", 1)
          else if ds.head? ≠ some '0' ∧ digitLimit < ds.length then
            endNumber "decimal" n (.longInt ds.length) rest
          else endNumber "decimal" n (.int (ofDigits ds)) rest

/-- Reads the number that starts with a digit, or with a point before a digit. -/
def scanNumber (cs : List Char) : NumberResult :=
  match cs with
  | '.' :: rest => fractionNumber [] 1 true rest
  | '0' :: c :: rest =>
    if c = 'x' ∨ c = 'X' then
      radixNumber "hexadecimal" 16
        (fun c => c.isDigit || ('a' ≤ c.toLower && c.toLower ≤ 'f')) rest
    else if c = 'o' ∨ c = 'O' then radixNumber "octal" 8 (fun c => '0' ≤ c && c ≤ '7') rest
    else if c = 'b' ∨ c = 'B' then radixNumber "binary" 2 (fun c => c == '0' || c == '1') rest
    else decimalNumber cs
  | _ => decimalNumber cs

end Chunkwise.Code
