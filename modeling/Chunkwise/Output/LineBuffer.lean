import Chunkwise.Datum.Basic

/-!
A text stream that hands on each line as soon as it is complete. What it hands lines to may
refuse one, and then the fault goes back to the writer.
-/
namespace Chunkwise.Output

variable {σ : Type}

/-- Where lines go: a delivery succeeds or is refused with a fault. -/
abbrev Sink (σ : Type) := String → σ → Option Fault × σ

/-- Hands on the complete lines of a text that follows the beginning of a line, held in reverse.
Gives the fault of the first refusal and the text that stays behind: after a refusal that is all
behind the refused line. -/
def forward (deliver : Sink σ) : List Char → List Char → σ → Option Fault × List Char × σ
  | line, [], s => (none, line.reverse, s)
  | line, c :: rest, s =>
    if c = '\n' then
      match deliver (String.ofList (line.reverse ++ ['\n'])) s with
      | (none, s') => forward deliver [] rest s'
      | (some fault, s') => (some fault, rest, s')
    else forward deliver (c :: line) rest s

/-- Writes a text behind the pending one. -/
def write (deliver : Sink σ) (pending : List Char) (text : List Char) (s : σ) :
    Option Fault × List Char × σ :=
  forward deliver [] (pending ++ text) s

/-- Hands on what is pending, even if no line is complete. -/
def flush (deliver : Sink σ) (pending : List Char) (s : σ) : Option Fault × List Char × σ :=
  if pending = [] then (none, [], s)
  else
    match deliver (String.ofList pending) s with
    | (fault, s') => (fault, [], s')

/-- Writes a datum, which must be a text, and gives the number of its characters. -/
def writeDatum (deliver : Sink σ) (pending : List Char) (v : Datum) (s : σ) :
    Except Fault Nat × List Char × σ :=
  match v with
  | .str text =>
    match write deliver pending text.toList s with
    | (none, pending', s') => (.ok text.length, pending', s')
    | (some fault, pending', s') => (.error fault, pending', s')
  | v =>
    (.error (.of .typeError s!"can only concatenate str (not \"{v.typeName}\") to str"), pending, s)

/-- Writes data one by one up to the first that fails. -/
def writeAll (deliver : Sink σ) : List Char → List Datum → σ → Option Fault × List Char × σ
  | pending, [], s => (none, pending, s)
  | pending, v :: rest, s =>
    match writeDatum deliver pending v s with
    | (.ok _, pending', s') => writeAll deliver pending' rest s'
    | (.error fault, pending', s') => (some fault, pending', s')

end Chunkwise.Output
