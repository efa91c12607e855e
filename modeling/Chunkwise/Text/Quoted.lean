import Chunkwise.Text.Hex
import Chunkwise.Text.Printable

/-!
Quoted texts: between apostrophes, or between quotation marks when only an apostrophe is inside;
what is not printable is written as an escape.
-/
namespace Chunkwise.Text

/-- A character inside quotes. -/
def escaped (quote c : Char) : List Char :=
  if c = quote ∨ c = '\\' then ['\\', c]
  else if c = '\n' then ['\\', 'n']
  else if c = '\r' then ['\\', 'r']
  else if c = '\t' then ['\\', 't']
  else if isPrintable c then [c]
  else if c.toNat < 0x100 then '\\' :: 'x' :: hexDigits 2 c.toNat
  else if c.toNat < 0x10000 then '\\' :: 'u' :: hexDigits 4 c.toNat
  else '\\' :: 'U' :: hexDigits 8 c.toNat

/-- The mark that a text is put between. -/
def quoteFor (t : List Char) : Char :=
  if t.contains '\'' && !t.contains '"' then '"' else '\''

def quoted (t : List Char) : List Char :=
  let quote := quoteFor t
  quote :: t.flatMap (escaped quote) ++ [quote]

/-- A byte inside quotes; only ASCII stands for itself. -/
def escapedByte (quote : Char) (b : UInt8) : List Char :=
  if b < 0x7F then escaped quote (Char.ofNat b.toNat) else '\\' :: 'x' :: hexDigits 2 b.toNat

def quotedBytes (data : List UInt8) : List Char :=
  let quote := quoteFor (data.map fun b => Char.ofNat b.toNat)
  quote :: data.flatMap (escapedByte quote) ++ [quote]

end Chunkwise.Text
