import Chunkwise.Datum.Iterate
import Chunkwise.Datum.Text
import Chunkwise.Parameters
import Chunkwise.Text.Blank

/-!
The faults of the evaluator itself and of its transport, and those of the operating system by
their number.
-/
namespace Chunkwise.Fault
open Chunkwise.Text

/-- A batch install that did not succeed, with what the installer wrote. -/
def resolutionFailure (packages : List String) (output : String) : Fault :=
  let names := "Failed to install packages: " ++ commaSeparated packages
  let message :=
    if output = "" then names else names ++ "\n" ++ String.ofList (trimEnd output.toList)
  { kind := .resolutionFailure, args := [.str message]
    detail := some (.resolution packages output) }

/-- A step of a bootstrap that failed, with the status of the response if one was the reason. -/
def bridgeLoadFailure (message : String) (status : Option Int) : Fault :=
  { kind := .bridgeLoadFailure, args := [.str message], detail := some (.loading status) }

/-- A response other than a success. -/
def fetchError (url : String) (status : Int) (reason : String) : Fault :=
  let message := s!"HTTP {status} for {url}"
  let whole := if reason = "" then message else s!"{message}: {reason}"
  { kind := .fetchError, args := [.str whole], detail := some (.fetch url status) }

/-- A chunk that raised a fault, which is its cause. -/
def executionFailure (message : String) (inner : Fault) (mark : Option (Datum × Datum)) :
    Fault :=
  { kind := .executionFailure, args := [.str message], detail := some (.execution mark)
    cause := some inner }

/-- The class for the number of an operating system error. -/
def kindOfNumber (number : Int) : Kind :=
  if number ∈ [11, 114, 115] then .blockingIOError
  else if number ∈ [32, 108] then .brokenPipeError
  else if number = 10 then .childProcessError
  else if number = 103 then .connectionAbortedError
  else if number = 111 then .connectionRefusedError
  else if number = 104 then .connectionResetError
  else if number = 17 then .fileExistsError
  else if number = 2 then .fileNotFoundError
  else if number = 21 then .isADirectoryError
  else if number = 20 then .notADirectoryError
  else if number = 4 then .interruptedError
  else if number ∈ [1, 13] then .permissionError
  else if number = 3 then .processLookupError
  else if number = 110 then .timeoutError
  else .osError

/-- The error that the operating system gives for a file. -/
def ofFile (number : Int) (message path : String) : Fault :=
  { kind := kindOfNumber number, args := [.int number, .str message]
    members := [("errno", .int number), ("strerror", .str message), ("filename", .str path)] }

/-- A fault of grammar at a place in a file. -/
def grammar (kind : Kind) (message file : String) (line col : Nat) : Fault :=
  { kind := kind
    args := [.str message, .tuple [.str file, .int line, .int col, .null, .null, .null]]
    members := [("msg", .str message), ("filename", .str file), ("lineno", .int line),
      ("offset", .int col), ("text", .null), ("end_lineno", .null), ("end_offset", .null)] }

/-- The parameters of the own classes and of the transport's, behind the receiver. -/
def ownParameters (kind : Kind) : Option (String × List (String × Option Datum)) :=
  let message : List (String × Option Datum) := [("message", none)]
  match kind with
  | .resolutionFailure =>
    some ("ResolutionFailure", [("packages", none), ("output", some (.str ""))])
  | .bridgeLoadFailure => some ("BridgeLoadFailure", [("message", none), ("status", some .null)])
  | .executionFailure =>
    some ("ExecutionFailure", [("message", none), ("original", none), ("token", some .null)])
  | .fetchError =>
    some ("FetchError", [("url", none), ("status", none), ("reason", some (.str ""))])
  | .httpStatusError => some ("HTTPStatusError", message)
  | .httpError => some ("HTTPError", message)
  | .invalidUrl => some ("InvalidURL", message)
  | .streamError => some ("StreamError", message)
  | .streamConsumed => some ("StreamConsumed", [])
  | .streamClosed => some ("StreamClosed", [])
  | .responseNotRead => some ("ResponseNotRead", [])
  | .requestNotRead => some ("RequestNotRead", [])
  | kind => if kind.isA .requestError then some ("RequestError", message) else none

/-- What the faults of a stream say, which take no arguments. -/
def streamMessage (kind : Kind) : String :=
  match kind with
  | .streamConsumed =>
    "Attempted to read or stream some content, but the content has already been streamed. For " ++
    "requests, this could be due to passing a generator as request content, and then receiving " ++
    "a redirect response or a secondary request as part of an authentication flow.For " ++
    "responses, this could be due to attempting to stream the response content more than once."
  | .streamClosed => "Attempted to read or stream content, but the stream has been closed."
  | .responseNotRead =>
    "Attempted to access streaming response content, without having called `read()`."
  | _ => "Attempted to access streaming request content, without having called `read()`."

/-- A failed install of what may not be texts. -/
def constructResolution (packages output : Datum) : Except Fault Fault := do
  let names ← Datum.joinTexts 0 (← packages.iterate)
  match output with
  | .str text => return resolutionFailure names text
  | output =>
    if output.truth then
      .error (.of .attributeError s!"'{output.typeName}' object has no attribute 'rstrip'")
    else return resolutionFailure names ""

/-- A fault of an own class, or one of the transport, made of arguments. -/
def constructOwn (kind : Kind) (args : List Datum) : Except Fault Fault := do
  match ownParameters kind with
  | none => return make kind args
  | some (title, params) =>
    let bound ← Parameters.bind (title ++ ".__init__") 1 params args []
    let given (name : String) : Datum := (bound.lookup name).getD .null
    match kind with
    | .resolutionFailure => constructResolution (given "packages") (given "output")
    | .bridgeLoadFailure =>
      return { kind := kind, args := [given "message"]
               detail := some (.loading (given "status").int?) }
    | .executionFailure =>
      return { kind := kind, args := [given "message"], detail := some (.execution none) }
    | .fetchError =>
      let status ← (given "status").text
      let url ← (given "url").text
      let reason ← if (given "reason").truth then (given "reason").text else pure ""
      let message := s!"HTTP {status} for {url}"
      return { kind := kind
               args := [.str (if reason = "" then message else s!"{message}: {reason}")]
               detail := some (.fetch url (((given "status").int?).getD 0)) }
    | .httpStatusError =>
      Parameters.missing "HTTPStatusError.__init__" "keyword-only" ["request", "response"]
    | .streamConsumed | .streamClosed | .responseNotRead | .requestNotRead =>
      return of kind (streamMessage kind)
    | kind => return make kind [given "message"]

/-- A fault that says that items have ended cannot leave work that others wait for: another takes
its place. -/
def sealed (fault : Fault) : Fault :=
  if fault.kind.isA .stopIteration then
    (of .runtimeError "coroutine raised StopIteration").causedBy fault
  else fault

end Chunkwise.Fault
