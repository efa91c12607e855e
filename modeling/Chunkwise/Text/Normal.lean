import Chunkwise.Text.Normal.Composites
import Chunkwise.Text.Normal.Marks
import Chunkwise.Text.Normal.Variants

/-!
The normal form of names. A name may be written in several ways that look alike or differ only in
the form of their letters; all of them are one name. Each character is first replaced by its
simplest parts, the marks behind a letter are sorted by their classes, and then letters and marks
that have a character together are joined.
-/
namespace Chunkwise.Text

/-! Korean syllables are numbered by a consonant, a vowel and perhaps a last consonant. -/

def syllableBase : Nat := 0xac00
def leadBase : Nat := 0x1100
def vowelBase : Nat := 0x1161
def tailBase : Nat := 0x11a7
def leadCount : Nat := 19
def vowelCount : Nat := 21
/-- The number of last consonants, having none among them. -/
def tailCount : Nat := 28

def syllableCount : Nat := leadCount * vowelCount * tailCount

/-- The parts of a syllable. -/
def syllableParts (c : Char) : Option (List Char) :=
  let n := c.toNat - syllableBase
  if syllableBase ≤ c.toNat ∧ n < syllableCount then
    let lead := Char.ofNat (leadBase + n / (vowelCount * tailCount))
    let vowel := Char.ofNat (vowelBase + n % (vowelCount * tailCount) / tailCount)
    if n % tailCount = 0 then some [lead, vowel]
    else some [lead, vowel, Char.ofNat (tailBase + n % tailCount)]
  else none

/-- The syllable that two characters make. -/
def joinSyllable (a b : Char) : Option Char :=
  let lead := a.toNat - leadBase
  let vowel := b.toNat - vowelBase
  let syllable := a.toNat - syllableBase
  let tail := b.toNat - tailBase
  if leadBase ≤ a.toNat ∧ lead < leadCount ∧ vowelBase ≤ b.toNat ∧ vowel < vowelCount then
    some (Char.ofNat (syllableBase + (lead * vowelCount + vowel) * tailCount))
  else if syllableBase ≤ a.toNat ∧ syllable < syllableCount ∧ syllable % tailCount = 0 ∧
      tailBase < b.toNat ∧ tail < tailCount then
    some (Char.ofNat (a.toNat + tail))
  else none

/-- The simplest parts of a character. Characters made of two others are nested less than four
deep. -/
def partsWithin : Nat → Char → List Char
  | 0, c => [c]
  | n + 1, c =>
    match textFor composites c with
    | some text => text.toList.flatMap (partsWithin n)
    | none =>
      match textFor variants c with
      | some text => text.toList
      | none => (syllableParts c).getD [c]

def simplestParts (c : Char) : List Char :=
  if c.toNat < 128 then [c] else partsWithin 4 c

/-- Puts a mark before the first one that must not stand before it. -/
def insertMark (c : Char) : List Char → List Char
  | [] => [c]
  | d :: rest =>
    if markClass d ≠ 0 ∧ markClass d < markClass c then d :: insertMark c rest else c :: d :: rest

/-- Sorts the marks behind each letter by their classes; marks of one class keep their order. -/
def sortMarks : List Char → List Char
  | [] => []
  | c :: rest => if markClass c = 0 then c :: sortMarks rest else insertMark c (sortMarks rest)

/-- The character that two characters make together. -/
def joined (a b : Char) : Option Char :=
  if b.toNat < 128 then none
  else (joinSyllable a b).or (charFor composites (String.ofList [a, b]))

/-- Joins a letter and the marks that follow. A mark reaches the letter unless one of no lower
class stands between them; those between are kept, latest first. -/
def joinMarks (letter : Char) (kept : List Char) : List Char → List Char
  | [] => letter :: kept.reverse
  | c :: rest =>
    let reaches := kept.head?.all fun d => markClass d < markClass c
    match if reaches then joined letter c else none with
    | some both => joinMarks both kept rest
    | none =>
      if markClass c = 0 then letter :: (kept.reverse ++ joinMarks c [] rest)
      else joinMarks letter (c :: kept) rest

/-- The normal form of a name. -/
def normalName (name : String) : String :=
  if name.toList.all (·.toNat < 128) then name
  else
    match sortMarks (name.toList.flatMap simplestParts) with
    | [] => name
    | c :: rest => String.ofList (joinMarks c [] rest)

end Chunkwise.Text
