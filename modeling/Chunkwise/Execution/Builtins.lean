import Chunkwise.Execution.Run
import Chunkwise.Parameters
import Chunkwise.Store.Attribute
import Chunkwise.Store.Subscript
import Chunkwise.Text.Utf8
import Chunkwise.Value.Builtins

/-!
What calling the functions that all code knows does.
-/
namespace Chunkwise.Execution
open Store

/-- The items added up from a start. -/
def sumOf (start : Value) : List Value → Action Value
  | [] => pure start
  | v :: rest => do sumOf (← binary "+" .add start v) rest

/-- The bounds of a range. -/
def rangeOf (args : List Value) : Action Value := do
  let bounds ← args.mapM fun v =>
    match v.int? with
    | some n => pure n
    | none => Action.checking fun store =>
      typeFault s!"'{store.typeName v}' object cannot be interpreted as an integer"
  match bounds with
  | [] => Action.fail (.of .typeError "range expected at least 1 argument, got 0")
  | [stop] => return .range 0 stop 1
  | [start, stop] => return .range start stop 1
  | [start, stop, step] =>
    if step = 0 then Action.fail (.of .valueError "range() arg 3 must not be zero")
    else return .range start stop step
  | _ => Action.fail (.of .typeError s!"range expected at most 3 arguments, got {args.length}")

/-- The only argument of a function that takes one. -/
def onlyArgument (title : String) (args : List Value) : Except Fault Value :=
  match args with
  | [v] => .ok v
  | _ => typeFault s!"{title}() takes exactly one argument ({args.length} given)"

def noKeywords {α : Type} (title : String) : Except Fault α :=
  typeFault s!"{title}() takes no keyword arguments"

/-- What is added up, and from where. -/
def sumArguments (args : List Value) (keywords : List (String × Value)) :
    Except Fault (Value × Value) :=
  match args, keywords with
  | [], _ => typeFault "sum() takes at least 1 positional argument (0 given)"
  | [source], [] => .ok (source, .int 0)
  | [source], [("start", start)] | [source, start], [] => .ok (source, start)
  | [_], (name, _) :: _ => typeFault s!"'{name}' is an invalid keyword argument for sum()"
  | args, keywords =>
    typeFault s!"sum() takes at most 2 arguments ({args.length + keywords.length} given)"

/-- What is said of a start that cannot be added to. -/
def refusedStart? (store : Store) (start : Value) : Option String :=
  match start, store.bytes? start with
  | .str _, _ => some "sum() can't sum strings [use ''.join(seq) instead]"
  | .bytes _, _ => some "sum() can't sum bytes [use b''.join(seq) instead]"
  | _, some _ => some "sum() can't sum bytearray [use b''.join(seq) instead]"
  | _, none => none

/-- The sum of the items of an argument. -/
def summed (args : List Value) (keywords : List (String × Value)) : Action Value := do
  let (source, start) ← Action.ofExcept (sumArguments args keywords)
  let cursor ← begin_ source
  match ← Action.reading (refusedStart? · start) with
  | some message => Action.fail (.of .typeError message)
  | none => sumOf start (← take memoryLimit cursor)

/-- An argument that must be a text. -/
def codingName (store : Store) (name : String) (v : Value) : Except Fault Unit :=
  match v with
  | .str _ => .ok ()
  | v => typeFault s!"str() argument '{name}' must be str, not {store.typeName v}"

/-- The text of encoded bytes. -/
def decoded (store : Store) (v : Value) : Except Fault Value :=
  match v, store.bytes? v with
  | .str _, _ => typeFault "decoding str is not supported"
  | _, some data => .ok (.str (String.ofList (Text.decode data)))
  | v, none =>
    typeFault s!"decoding to str: need a bytes-like object, {store.typeName v} found"

/-- The text of a value, or of the bytes that it holds when an encoding is named. -/
def textOf (args : List Value) (keywords : List (String × Value)) (store : Store) :
    Except Fault Value := do
  let names := ["object", "encoding", "errors"]
  let given := args.length + keywords.length
  if 3 < given then typeFault s!"str() takes at most 3 arguments ({given} given)"
  match keywords.find? (·.1 ∉ names) with
  | some (name, _) => typeFault s!"'{name}' is an invalid keyword argument for str()"
  | none =>
    let bound := names.zip args ++ keywords
    match bound.lookup "encoding" with
    | some v => codingName store "encoding" v
    | none => pure ()
    match bound.lookup "errors" with
    | some v => codingName store "errors" v
    | none => pure ()
    match bound.lookup "object" with
    | none => return .str ""
    | some v =>
      if given = 1 then (store.text v).map .str else decoded store v

/-- Ends the program with a status. -/
def exitWith (args : List Value) : Action Value := do
  match args with
  | [] | [.null] => Action.fail (.make .systemExit [])
  | [v] =>
    match ← Action.reading (·.natureOf v) with
    | some (.seq .tuple items) => Action.fail (.make .systemExit (items.toList.map .leaf))
    | _ => Action.fail (.make .systemExit [.leaf v])
  | args =>
    Action.fail (.of .typeError s!"exit expected at most 1 argument, got {args.length}")

/-- Makes work that can be awaited. -/
def makeWork (work : Work) : Action Value :=
  Action.make { nature := .coroutine work .waiting }

/-- The functions that write nothing. -/
def callQuiet (f : Builtin) (args : List Value) (keywords : List (String × Value)) :
    Action Value := do
  let noNames : Action Unit :=
    if keywords.isEmpty then pure () else Action.ofExcept (noKeywords f.name)
  match f with
  | .len =>
    noNames
    let v ← Action.ofExcept (onlyArgument "len" args)
    return .int (← Action.checking (·.lengthOf v))
  | .repr =>
    noNames
    let v ← Action.ofExcept (onlyArgument "repr" args)
    return .str (← Action.checking (·.render v))
  | .str => Action.checking (textOf args keywords)
  | .sum => summed args keywords
  | .list =>
    noNames
    match args with
    | [] => Action.make (.seq .list [])
    | [v] => Action.make (.seq .list (← drain v))
    | args =>
      Action.fail (.of .typeError s!"list expected at most 1 argument, got {args.length}")
  | .range =>
    noNames
    rangeOf args
  | .tick =>
    let _ ← Action.ofExcept (Parameters.bind "tick" 0 [] args keywords)
    makeWork .tick
  | .answer =>
    let bound ← Action.ofExcept (Parameters.bind "answer" 0 [("v", none)] args keywords)
    makeWork (.answer ((bound.lookup "v").getD .null))
  | .badRepr =>
    let bound ← Action.ofExcept (Parameters.bind "badrepr" 0 [("m", none)] args keywords)
    Action.make { nature := .badRepr ((bound.lookup "m").getD .null) }
  | .exit => exitWith args
  | .print => return .null

/-- A text that separates or ends what is printed. -/
def printMark (store : Store) (name dflt : String) (keywords : List (String × Value)) :
    Except Fault String :=
  match keywords.lookup name with
  | none | some .null => .ok dflt
  | some (.str s) => .ok s
  | some v => typeFault s!"{name} must be None or a string, not {store.typeName v}"

/-- Writes values with a separator between them. A value is turned into text only when what comes
before it has been written. -/
def printItems (separator : String) : List Value → Eval Unit
  | [] => pure ()
  | [v] => do Eval.write (← Eval.check (·.text v))
  | v :: rest => do
    Eval.write (← Eval.check (·.text v))
    Eval.write separator
    printItems separator rest

/-- Writes each value, separator and end on its own. -/
def print (args : List Value) (keywords : List (String × Value)) : Eval Value := do
  match keywords.find? fun k => k.1 ∉ ["sep", "end", "file", "flush"] with
  | some (name, _) =>
    Eval.fail (.of .typeError s!"'{name}' is an invalid keyword argument for print()")
  | none =>
    let separator ← Eval.check (printMark · "sep" " " keywords)
    let ending ← Eval.check (printMark · "end" "\n" keywords)
    printItems separator args
    Eval.write ending
    if ← Eval.look fun store => (keywords.lookup "flush").any store.truth then
      Eval.perform Scene.flush
    return .null

def callBuiltin (f : Builtin) (args : List Value) (keywords : List (String × Value)) :
    Eval Value :=
  match f with
  | .print => print args keywords
  | f => Eval.act (callQuiet f args keywords)

end Chunkwise.Execution
