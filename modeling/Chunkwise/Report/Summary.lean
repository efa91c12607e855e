import Chunkwise.Report.Description

/-!
The one-line account of an evaluation that ended in an error.
-/
namespace Chunkwise.Report

/-- How an evaluation ended, with the message and the place of its error. -/
structure Summary where
  status : String
  message : Datum := .null
  mark : Option Mark := none

/-- The message after the line and the column that failed, unless it starts with a line itself. -/
def Summary.text (summary : Summary) : String :=
  if summary.status ≠ "error" then ""
  else
    let message :=
      if summary.message.truth then summary.message.shown else "Unknown error"
    match summary.mark with
    | none | some (.null, _) => message
    | some (line, col) =>
      if "Error on line ".toList.isPrefixOf message.toList then message
      else
        let column := if col.isNull then "" else s!", col {col.shown}"
        s!"Error on line {line.shown}{column}: {message}"

end Chunkwise.Report
