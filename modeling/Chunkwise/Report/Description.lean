import Chunkwise.Datum.Text
import Chunkwise.Number.Arithmetic
import Chunkwise.Report.Excerpt

/-!
What is told of a fault that left a chunk: of one in the grammar its place and an excerpt, of any
other the chunk's own places that it passed and what it says.
-/
namespace Chunkwise.Report
open Chunkwise.Decimal Chunkwise.Text

/-- A line and a column of a source; either may be unknown. -/
abbrev Mark := Datum × Datum

/-- The last lines of a report: the class, what the fault says and its notes. -/
def closingLines (fault : Fault) : List String :=
  let name := fault.kind.qualifiedName
  let text := fault.safeText
  (if text = "" then name else name ++ ": " ++ text) :: fault.notes.flatMap (·.splitOn "\n")

/-- A place on the way of a fault. -/
def placeLine (place : Place) : String :=
  s!"  File \"{place.file}\", line {place.line}, in {place.name}"

/-- The places of the fault in code of one file. -/
def ownPlaces (file : String) (fault : Fault) : List Place :=
  fault.trace.filter (·.file = file)

/-- A line of a report ends without line feeds. -/
def bare (line : String) : String :=
  String.ofList (line.toList.reverse.dropWhile (· = '\n')).reverse

/-! The places that faults of grammar name need not be numbers. -/

/-- The most blanks that can stand before a caret. -/
def caretLimit : Int := Int.pow 10 9

/-- The column of a caret, which must be an integer. -/
def caretColumn (col : Datum) : Except Fault (Option Int) :=
  match col with
  | .null => .ok none
  | .leaf (.float x) =>
    if (x.sub (.one false)).less (.zero false) then .ok (some 1)
    else .error (.of .typeError "can't multiply sequence by non-int of type 'float'")
  | col =>
    match col.int? with
    | some c =>
      if c - 1 < caretLimit then .ok (some c)
      else if c - 1 < Int.pow 2 63 then .error (.make .memoryError [])
      else .error (.of .overflowError "cannot fit 'int' into an index-sized integer")
    | none =>
      .error (.of .typeError s!"unsupported operand type(s) for -: '{col.typeName}' and 'int'")

/-- The excerpt at a line that is no integer. It is given only where all lines are shown. -/
def excerptNear (source : String) (line : Double) (col : Datum) (radius : Int) :
    Except Fault String := do
  let ls := shownLines source.toList
  let reach := Double.ofRatio radius 1
  let count := Double.ofRatio ls.length 1
  if line.less (.one false) || count.less line then return ""
  else if (Double.one false).less (line.sub reach) || (line.add reach).less count then
    .error (.of .typeError "'float' object cannot be interpreted as an integer")
  else
    let marked := if line.isInt (line.toInt?.getD 0) then line.toInt? else none
    let caret ← if marked.isSome then caretColumn col else pure none
    return String.ofList (unlines (rows ls 1 ls.length marked caret))

/-- The excerpt at a place. -/
def excerptAt (source : String) (line col : Datum) (radius : Int) : Except Fault String := do
  match line with
  | .leaf (.float x) => if line.truth then excerptNear source x col radius else return ""
  | line =>
    match line.int? with
    | some n =>
      let plain := excerpt source.toList n none radius
      if plain.isEmpty then return ""
      else return String.ofList (excerpt source.toList n (← caretColumn col) radius)
    | none =>
      if line.truth then
        .error (.of .typeError
          s!"'<' not supported between instances of '{line.typeName}' and 'int'")
      else return ""

/-- The report on a fault of grammar. -/
def describeGrammar (fault : Fault) (source : String) : Except Fault (String × Option Mark) := do
  let held (name : String) : Datum := (fault.member? name).getD .null
  let text := fault.kind.name ++ ": " ++ (← (held "msg").text)
  match held "lineno" with
  | .null => return (text, none)
  | line =>
    let shown ← line.text
    let lines ← excerptAt source line (held "offset") 2
    return (s!"{text} (line {shown})\n{lines}", some (line, held "offset"))

/-- The report on a fault that left a chunk of the given file, and the place to mark. -/
def describe (file : Datum) (fault : Fault) (source : String) :
    Except Fault (String × Option Mark) :=
  if fault.kind.isA .syntaxError then describeGrammar fault source
  else
    let places := match file with
      | .str name => ownPlaces name fault
      | _ => []
    let lines := "Traceback (most recent call last):" :: places.map placeLine ++ closingLines fault
    let mark := places.getLast?.map fun place => (Datum.int place.line, Datum.null)
    .ok ("\n".intercalate (lines.map bare), mark)

end Chunkwise.Report
