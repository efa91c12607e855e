import Chunkwise.Datum.Render

/-!
Binding the arguments of a call to parameters. An argument given by keyword counts before the
number of the others is checked.
-/
namespace Chunkwise.Parameters

variable {α : Type}

def plural (n : Nat) : String :=
  if n = 1 then "" else "s"

/-- Names as a list in a sentence. -/
def enumerated : List String → String
  | [] => ""
  | [a] => a
  | [a, b] => s!"{a} and {b}"
  | first :: rest => listed first rest
where
  listed (first : String) : List String → String
    | [] => first
    | [last] => s!"{first}, and {last}"
    | next :: rest => listed (first ++ ", " ++ next) rest

def callFault (message : String) : Except Fault α :=
  .error (.of .typeError message)

/-- The value bound to a name. -/
def bound? (bound : List (String × α)) (name : String) : Option α :=
  bound.lookup name

/-- Adds the arguments given by keyword. -/
def bindKeywords (title : String) (params : List (String × Option α)) :
    List (String × α) → List (String × α) → Except Fault (List (String × α))
  | [], bound => .ok bound
  | (name, value) :: rest, bound =>
    if ¬ params.any (·.1 = name) then
      callFault s!"{title}() got an unexpected keyword argument '{name}'"
    else if (bound? bound name).isSome then
      callFault s!"{title}() got multiple values for argument '{name}'"
    else bindKeywords title params rest (bound ++ [(name, value)])

/-- What is said of too many arguments. -/
def tooMany {β : Type} (title : String) (params : List (String × Option α))
    (receiver given : Nat) : Except Fault β :=
  let most := params.length + receiver
  let least := (params.filter (·.2.isNone)).length + receiver
  let takes :=
    if least = most then s!"{most} positional argument{plural most}"
    else s!"from {least} to {most} positional arguments"
  let were := if given = 1 then "was" else "were"
  callFault s!"{title}() takes {takes} but {given} {were} given"

/-- What is said of arguments that are missing. -/
def missing {β : Type} (title manner : String) (names : List String) : Except Fault β :=
  let n := names.length
  callFault (s!"{title}() missing {n} required {manner} argument{plural n}: " ++
    enumerated (names.map quotedText))

/-- The parameters with their values. A receiver that comes before the arguments is counted with
them. -/
def bind (title : String) (receiver : Nat) (params : List (String × Option α)) (args : List α)
    (keywords : List (String × α)) : Except Fault (List (String × α)) := do
  let positional := (params.map (·.1)).zip args
  let bound ← bindKeywords title params keywords positional
  if params.length < args.length then
    tooMany title params receiver (args.length + receiver)
  else
    let absent := params.filter fun p => p.2.isNone && (bound? bound p.1).isNone
    if absent.isEmpty then
      return params.filterMap fun p => ((bound? bound p.1).or p.2).map (p.1, ·)
    else missing title "positional" (absent.map (·.1))

end Chunkwise.Parameters
