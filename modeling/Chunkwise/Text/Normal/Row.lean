/-!
Tables that give short texts for characters.
-/
namespace Chunkwise.Text

/-- Texts for consecutive code points from the first one on, with a blank between two of them. An
empty text stands for none. -/
abbrev Row := Nat × String

def Row.texts (row : Row) : List String :=
  row.2.splitOn " "

/-- The text that sorted rows give for a character. -/
def textFor (rows : List Row) (c : Char) : Option String :=
  match rows with
  | [] => none
  | row :: rest =>
    if c.toNat < row.1 then none
    else
      match row.texts[c.toNat - row.1]? with
      | some "" => none
      | some text => some text
      | none => textFor rest c

/-- The character that rows give a text for. -/
def charFor (rows : List Row) (text : String) : Option Char :=
  rows.findSome? fun row => (row.texts.findIdx? (· == text)).map fun i => Char.ofNat (row.1 + i)

end Chunkwise.Text
