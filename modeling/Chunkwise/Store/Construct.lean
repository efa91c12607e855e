import Chunkwise.Fault.Own
import Chunkwise.Store.Iterate

/-!
Making exceptions of arguments. Most classes take any arguments; some look into them, refuse what
does not fit and hold parts of them under names.
-/
namespace Chunkwise.Store

/-- An exception with what it holds under names. -/
structure Draft where
  kind : Fault.Kind
  args : List Value
  members : Bindings := []

def Draft.object (d : Draft) : Object :=
  { nature := .exception { kind := d.kind, args := d.args }, attributes := d.members }

/-- Arguments are counted before they are looked at. -/
def checkCount (title : String) (least most given : Nat) : Except Fault Unit :=
  let refuse (how : String) (n : Nat) : Except Fault Unit :=
    typeFault s!"{title} takes {how} {n} argument{Parameters.plural n} ({given} given)"
  if least = most ∧ given ≠ least then refuse "exactly" least
  else if given < least then refuse "at least" least
  else if most < given then refuse "at most" most
  else .ok ()

/-- The name of a type where an argument of another type is wanted. -/
def givenName (store : Store) (v : Value) : String :=
  if v.isNull then "None" else store.typeName v

/-- An argument that must be a text. -/
def textArgument (store : Store) (title : String) (n : Nat) (v : Value) : Except Fault Unit :=
  match v with
  | .str _ => .ok ()
  | v => typeFault s!"{title}argument {n} must be str, not {store.givenName v}"

/-- An argument that must be an integer of a machine word. -/
def wordArgument (store : Store) (v : Value) : Except Fault Unit :=
  match v.int? with
  | none => typeFault s!"'{store.typeName v}' object cannot be interpreted as an integer"
  | some n =>
    if -(wordLimit : Int) ≤ n ∧ n < wordLimit then .ok () else .error tooLong

/-- A fault of grammar: a second argument holds its place. -/
def draftGrammar (kind : Fault.Kind) (args : List Value) : Action Draft := do
  match args with
  | [] => return { kind := kind, args := args }
  | [message, place] =>
    let parts ← drain place
    Action.ofExcept (checkCount "function" 4 6 parts.length)
    if parts.length = 5 then
      Action.fail (.of .typeError "end_offset must be provided when end_lineno is provided")
    let names := ["filename", "lineno", "offset", "text", "end_lineno", "end_offset"]
    return { kind := kind, args := args, members := ("msg", message) :: names.zip parts }
  | message :: _ => return { kind := kind, args := args, members := [("msg", message)] }

/-- The class that an operating system error has by its number. -/
def systemKind (kind : Fault.Kind) (number : Value) : Fault.Kind :=
  if kind = .osError then (number.int?.map Fault.kindOfNumber).getD kind else kind

/-- An operating system error: with two to five arguments the first is its number, and a third
names a file. -/
def draftSystem (kind : Fault.Kind) (args : List Value) : Action Draft := do
  match args with
  | number :: message :: rest =>
    if 3 < rest.length then return { kind := kind, args := args }
    let kind := systemKind kind number
    let known : Bindings := [("errno", number), ("strerror", message)]
    match rest with
    | [] | .null :: _ => return { kind := kind, args := args, members := known }
    | file :: others =>
      if kind = .blockingIOError ∧ file.number?.isSome then
        Action.checking fun store => do
          match file.int? with
          | none => typeFault s!"'{store.typeName file}' object cannot be interpreted as an integer"
          | some n =>
            if -(wordLimit : Int) ≤ n ∧ n < wordLimit then .ok ()
            else .error (.of .valueError "cannot fit 'int' into an index-sized integer")
        return { kind := kind, args := args, members := known ++ [("characters_written", file)] }
      let other : Bindings :=
        match others with
        | [_, v] => if v.isNull then [] else [("filename2", v)]
        | _ => []
      return { kind := kind, args := [number, message]
               members := known ++ ("filename", file) :: other }
  | args => return { kind := kind, args := args }

/-- An error of an encoding or of a mapping of characters. -/
def draftCoding (kind : Fault.Kind) (args : List Value) : Action Draft := do
  let store ← Action.reading id
  let count := if kind = .unicodeTranslateError then 4 else 5
  Action.ofExcept (checkCount "function" count count args.length)
  let hold (names : List String) : Draft :=
    { kind := kind, args := args, members := names.zip args }
  let text (n : Nat) (v : Value) := Action.ofExcept (store.textArgument "" n v)
  let word (v : Value) := Action.ofExcept (store.wordArgument v)
  match args with
  | [object, start, stop, reason] =>
    text 1 object; word start; word stop; text 4 reason
    return hold ["object", "start", "end", "reason"]
  | [encoding, object, start, stop, reason] =>
    text 1 encoding
    if kind = .unicodeEncodeError then text 2 object
    word start; word stop; text 5 reason
    if kind = .unicodeDecodeError ∧ (store.bytes? object).isNone then
      Action.fail (.of .typeError
        s!"a bytes-like object is required, not '{store.typeName object}'")
    return hold ["encoding", "object", "start", "end", "reason"]
  | _ => return hold []

/-- The value is a sequence, whose items have places. -/
def isSequence (store : Store) (v : Value) : Bool :=
  match v, store.natureOf v with
  | .str _, _ | .bytes _, _ | .range .., _ | _, some (.bytes _) => true
  | _, some (.seq form _) => form.isList || form.isTuple
  | _, _ => false

/-- The class of the exception that a value is. -/
def exceptionKind? (store : Store) (v : Value) : Option Fault.Kind :=
  match store.natureOf v with
  | some (.exception e) => some e.kind
  | _ => none

/-- A group of exceptions: one whose members are all ordinary is ordinary itself. -/
def draftGroup (kind : Fault.Kind) (args : List Value) : Action Draft := do
  let title := "BaseExceptionGroup.__new__() "
  let store ← Action.reading id
  Action.ofExcept (checkCount "BaseExceptionGroup.__new__()" 2 2 args.length)
  match args with
  | [message, exceptions] =>
    Action.ofExcept (store.textArgument title 1 message)
    if ¬ store.isSequence exceptions then
      Action.fail (.of .typeError "second argument (exceptions) must be a sequence")
    let members ← drain exceptions
    if members.isEmpty then
      Action.fail (.of .valueError "second argument (exceptions) must be a non-empty sequence")
    let kinds := members.map store.exceptionKind?
    match kinds.findIdx? (·.isNone) with
    | some i =>
      Action.fail (.of .valueError
        s!"Item {i} of second argument (exceptions) is not an exception")
    | none => pure ()
    let ordinary := kinds.all fun k => k.any Fault.Kind.isOrdinary
    if kind = .exceptionGroup ∧ ¬ ordinary then
      Action.fail (.of .typeError "Cannot nest BaseExceptions in an ExceptionGroup")
    let group ← Action.make (.seq .tuple members)
    return { kind := if ordinary then .exceptionGroup else .baseExceptionGroup, args := args
             members := [("message", message), ("exceptions", group)] }
  | _ => return { kind := kind, args := args }

/-- The names that a class takes by keyword, with the class that a complaint is about. -/
def keywordNames (kind : Fault.Kind) : Option (String × List String) :=
  if kind.isA .importError then some ("ImportError", ["name", "path"])
  else if kind.isA .attributeError then some ("AttributeError", ["name", "obj"])
  else if kind.isA .nameError then some ("NameError", ["name"])
  else none

/-- What is given by keyword to one of the classes that take some. -/
def heldKeywords (title : String) (names : List String) (keywords : List (String × Value)) :
    Except Fault Bindings :=
  match keywords.find? (·.1 ∉ names) with
  | some (name, _) =>
    typeFault s!"'{name}' is an invalid keyword argument for {title}()"
  | none => .ok (names.map fun name => (name, (keywords.lookup name).getD .null))

/-- A value that several arguments make: the only one or a tuple of them. -/
def bundled (args : List Value) : Action Value :=
  match args with
  | [] => pure .null
  | [v] => pure v
  | args => Action.make (.seq .tuple args)

/-- An exception of a built-in class made of arguments. -/
def draft (kind : Fault.Kind) (args : List Value) (keywords : List (String × Value)) :
    Action Draft := do
  match keywordNames kind with
  | some (title, names) =>
    let held ← Action.ofExcept (heldKeywords title names keywords)
    let message : Bindings :=
      if kind.isA .importError then
        match args with
        | [v] => [("msg", v)]
        | _ => [("msg", .null)]
      else []
    return { kind := kind, args := args, members := message ++ held }
  | none =>
    if kind.isA .baseExceptionGroup then
      let d ← draftGroup kind args
      if keywords.isEmpty then return d
      else Action.fail (.of .typeError s!"{d.kind.name}() takes no keyword arguments")
    else if ¬ keywords.isEmpty then
      Action.fail (.of .typeError s!"{kind.name}() takes no keyword arguments")
    else if kind.isA .syntaxError then draftGrammar kind args
    else if kind.isA .osError then draftSystem kind args
    else if kind.isA .unicodeEncodeError ∨ kind.isA .unicodeDecodeError ∨
        kind.isA .unicodeTranslateError then draftCoding kind args
    else if kind.isA .stopIteration then
      return { kind := kind, args := args, members := [("value", args.headD .null)] }
    else if kind.isA .systemExit then
      return { kind := kind, args := args, members := [("code", ← bundled args)] }
    else return { kind := kind, args := args }

/-- The class belongs to the evaluator or to its transport. -/
def isOwn (kind : Fault.Kind) : Bool :=
  kind ∈ Fault.Kind.own ++ Fault.Kind.transport

/-- Makes an exception of arguments. -/
def construct (kind : Fault.Kind) (args : List Value) (keywords : List (String × Value)) :
    Action Address := do
  if isOwn kind then
    let store ← Action.reading id
    let fault ← Action.ofExcept (Fault.constructOwn kind (args.map store.read))
    fun store => match store.loadFault fault with
      | (a, store) => (.ok a, store)
  else
    let d ← draft kind args keywords
    fun store => match store.add d.object with
      | (a, store) => (.ok a, store)

end Chunkwise.Store

namespace Chunkwise.Fault

/-- The fault that a class makes of arguments, unless it refuses them. -/
def construct (kind : Kind) (args : List Datum) : Except Fault Fault :=
  match Store.initial.loadAll args with
  | (values, store) =>
    match (Store.construct kind values []).run store with
    | (.ok a, store) => .ok (store.report a)
    | (.error fault, _) => .error fault

end Chunkwise.Fault
