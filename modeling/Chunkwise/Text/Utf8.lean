/-!
UTF-8 read leniently: each longest invalid part becomes one replacement character.
-/
namespace Chunkwise.Text

/-- The bytes that may follow a leading byte: how many, and the bounds of the first of them.
Overlong forms, surrogates and what lies above the last code point are ruled out there. -/
def sequenceShape (lead : Nat) : Option (Nat × Nat × Nat) :=
  if 0xC2 ≤ lead ∧ lead ≤ 0xDF then some (1, 0x80, 0xBF)
  else if lead = 0xE0 then some (2, 0xA0, 0xBF)
  else if lead = 0xED then some (2, 0x80, 0x9F)
  else if 0xE1 ≤ lead ∧ lead ≤ 0xEF then some (2, 0x80, 0xBF)
  else if lead = 0xF0 then some (3, 0x90, 0xBF)
  else if 0xF1 ≤ lead ∧ lead ≤ 0xF3 then some (3, 0x80, 0xBF)
  else if lead = 0xF4 then some (3, 0x80, 0x8F)
  else none

/-- A character that has begun: its bits so far, the bytes that are missing and the bounds of
the next of them. -/
structure OpenSequence where
  bits : Nat
  missing : Nat
  low : Nat
  high : Nat

def replacement : Char := Char.ofNat 0xFFFD

/-- What a byte does when no character has begun. -/
def beginSequence (b : Nat) : List Char × Option OpenSequence :=
  if b < 0x80 then ([Char.ofNat b], none)
  else
    match sequenceShape b with
    | none => ([replacement], none)
    | some (missing, low, high) =>
      let bits := if missing = 1 then b % 32 else if missing = 2 then b % 16 else b % 8
      ([], some ⟨bits, missing, low, high⟩)

/-- Reads the bytes after a character that may have begun. -/
def decodeFrom : Option OpenSequence → List UInt8 → List Char
  | none, [] => []
  | some _, [] => [replacement]
  | none, b :: rest =>
    let (out, state) := beginSequence b.toNat
    out ++ decodeFrom state rest
  | some s, b :: rest =>
    let n := b.toNat
    if s.low ≤ n ∧ n ≤ s.high then
      let bits := s.bits * 64 + n % 64
      if s.missing = 1 then Char.ofNat bits :: decodeFrom none rest
      else decodeFrom (some ⟨bits, s.missing - 1, 0x80, 0xBF⟩) rest
    else
      let (out, state) := beginSequence n
      replacement :: out ++ decodeFrom state rest

/-- The text of the bytes. -/
def decode (data : List UInt8) : List Char :=
  decodeFrom none data

end Chunkwise.Text
