import Chunkwise.Datum.Render

/-!
The text of a datum on its own, and what faults say. Most faults say their arguments; some classes
have a sentence of their own, made of what they hold.
-/
namespace Chunkwise
open Chunkwise.Text

namespace Fault

/-- What the sentence of a fault is made of: its arguments and what it holds, with their texts. -/
structure Parts where
  kind : Kind
  args : List (Datum × Except Fault String)
  members : List (String × Datum × Except Fault String)

namespace Parts

def member? (p : Parts) (name : String) : Option Datum :=
  (p.members.lookup name).map (·.1)

/-- The text of something held, or `None` for what is not there. -/
def textOf (p : Parts) (name : String) : Except Fault String :=
  ((p.members.lookup name).map (·.2)).getD (.ok "None")

/-- The arguments on their own: none say nothing, one is its text and several are a tuple. -/
def plain (p : Parts) : Except Fault String :=
  match p.args with
  | [] => .ok ""
  | [(_, text)] => text
  | several => (Datum.renderAll (several.map (·.1))).map SeqForm.tuple.enclose

/-- A line number that is too large for a machine word is shown as minus one. -/
def lineText (n : Int) : String :=
  if -Int.pow 2 63 ≤ n ∧ n < Int.pow 2 63 then toString n else "-1"

/-- A fault of grammar, with the file and the line when they are known. -/
def grammar (p : Parts) : Except Fault String := do
  let message ← p.textOf "msg"
  match p.member? "filename", p.member? "lineno" with
  | some (.str file), some (.int line) =>
    return s!"{message} ({baseName file}, line {lineText line})"
  | some (.str file), _ => return s!"{message} ({baseName file})"
  | _, some (.int line) => return s!"{message} (line {lineText line})"
  | _, _ => return message

/-- An error of the operating system: its number, its message and the files that it is about. -/
def system (p : Parts) : Except Fault String := do
  let number ← p.textOf "errno"
  let message ← p.textOf "strerror"
  match p.member? "filename", p.member? "filename2" with
  | some file, other =>
    let named := s!"[Errno {number}] {message}: " ++ (← file.render)
    match other with
    | some other => return named ++ " -> " ++ (← other.render)
    | none => return named
  | none, _ =>
    if (p.member? "errno").isSome ∧ (p.member? "strerror").isSome then
      return s!"[Errno {number}] {message}"
    else p.plain

/-- A character by its number in base sixteen. -/
def characterText (c : Char) : String :=
  let n := c.toNat
  let (mark, width) :=
    if n < 0x100 then ("\\x", 2) else if n < 0x10000 then ("\\u", 4) else ("\\U", 8)
  s!"character '{mark}{String.ofList (hexDigits width n)}'"

/-- What is at the place of a coding error: one character, one byte or several. -/
def culprit (object : Option Datum) (start stop : Int) : String :=
  let found (what : Option String) (several : String) : String :=
    match what, decide (stop = start + 1) with
    | some one, true => s!"{one} in position {start}"
    | _, _ => s!"{several} in position {start}-{stop - 1}"
  match object with
  | some (.str s) => found (s.toList[start.toNat]?.map characterText) "characters"
  | some (.leaf (.bytes data)) | some (.bytes data) =>
    found (data[start.toNat]?.map fun b => s!"byte 0x{String.ofList (hexDigits 2 b.toNat)}") "bytes"
  | _ => found none "characters"

/-- An error of an encoding, or of a mapping of characters. -/
def coding (p : Parts) (verb : String) : Except Fault String := do
  match p.member? "object" with
  | none => return ""
  | object =>
    let reason ← p.textOf "reason"
    let encoding ← p.textOf "encoding"
    let at_ := culprit object (((p.member? "start").bind Datum.int?).getD 0)
      (((p.member? "end").bind Datum.int?).getD 0)
    if verb = "translate" then return s!"can't translate {at_}: {reason}"
    else return s!"'{encoding}' codec can't {verb} {at_}: {reason}"

/-- A group: its message and the number of its members. -/
def group (p : Parts) : Except Fault String := do
  let message ← p.textOf "message"
  let count := match p.member? "exceptions" with
    | some (.seq _ items) => items.length
    | _ => 0
  let plural := if count = 1 then "" else "s"
  return s!"{message} ({count} sub-exception{plural})"

def text (p : Parts) : Except Fault String :=
  if p.kind.isA .syntaxError then p.grammar
  else if p.kind.isA .osError then p.system
  else if p.kind.isA .unicodeEncodeError then p.coding "encode"
  else if p.kind.isA .unicodeDecodeError then p.coding "decode"
  else if p.kind.isA .unicodeTranslateError then p.coding "translate"
  else if p.kind.isA .baseExceptionGroup then p.group
  else
    match p.args, p.member? "msg" with
    | [(key, text)], _ => if p.kind.isA .keyError then key.render else text
    | _, some (.str message) => if p.kind.isA .importError then .ok message else p.plain
    | _, _ => p.plain

end Parts

end Fault

mutual

/-- The text of a datum on its own: a text is itself, a fault what it says. -/
def Datum.text : Datum → Except Fault String
  | .leaf (.str s) => .ok s
  | .fault fault => fault.text
  | v => v.render

def Datum.withTexts : List Datum → List (Datum × Except Fault String)
  | [] => []
  | v :: rest => (v, v.text) :: Datum.withTexts rest

def Datum.withTextsNamed : List (String × Datum) → List (String × Datum × Except Fault String)
  | [] => []
  | (name, v) :: rest => (name, v, v.text) :: Datum.withTextsNamed rest

/-- What a fault says. -/
def Fault.text : Fault → Except Fault String
  | { kind, args, members, .. } =>
    Fault.Parts.text ⟨kind, Datum.withTexts args, Datum.withTextsNamed members⟩

end

/-- The text of a datum in a message, where one that cannot be had is left out. -/
def Datum.shown (d : Datum) : String :=
  d.text.toOption.getD ""

/-- What a fault says in a report, where a text that cannot be had is replaced. -/
def Fault.safeText (fault : Fault) : String :=
  match fault.text with
  | .ok text => text
  | .error _ => "<exception str() failed>"

end Chunkwise
