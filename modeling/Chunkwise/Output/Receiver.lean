import Chunkwise.Output.LineBuffer

/-!
Receivers of a host's output: one that keeps each text and refuses some, and a stream on which
each text ends its line. With them, a record of output.
-/
namespace Chunkwise.Output

/-- A receiver that keeps the texts it takes. -/
structure Receiver where
  refused : List String := []
  received : List String := []
  deriving DecidableEq, Repr

def sinkClosed : Fault := .of .osError "sink closed"

def Receiver.take (text : String) (r : Receiver) : Option Fault × Receiver :=
  if text ∈ r.refused then (some sinkClosed, r)
  else (none, { r with received := r.received ++ [text] })

/-- A text with a line feed at its end. -/
def endLine (text : String) : String :=
  if text.toList.getLast? = some '\n' then text else text ++ "\n"

/-! Nothing reads the record back: it is kept for what is said of what comes from where. -/

/-- What writes: a source that is run, or the module that is imported when a name is probed. -/
inductive Writer where
  | source (text : String)
  | probe (root : String)
  deriving DecidableEq, Repr

inductive Mark where
  /-- From here on another writes. -/
  | opened (writer : Writer)
  /-- A text was written into the buffer. -/
  | wrote (text : List Char)
  /-- What was pending was asked to be handed on. -/
  | flushed
  /-- A text was taken by the host. -/
  | sent (text : String)
  deriving DecidableEq, Repr

end Chunkwise.Output
