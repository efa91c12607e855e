/-!
The classes of faults: those that every chunk knows by name, those of the evaluator itself, and
those of its transport. Each has one parent, and `baseException` is above them all.
-/
namespace Chunkwise.Fault

/-- A class of faults. -/
inductive Kind where
  | baseException | exception | generatorExit | keyboardInterrupt | systemExit | arithmeticError
  | floatingPointError | overflowError | zeroDivisionError | assertionError | attributeError
  | bufferError | eofError | importError | moduleNotFoundError | lookupError | indexError
  | keyError | memoryError | nameError | unboundLocalError | osError | blockingIOError
  | childProcessError | connectionError | brokenPipeError | connectionAbortedError
  | connectionRefusedError | connectionResetError | fileExistsError | fileNotFoundError
  | interruptedError | isADirectoryError | notADirectoryError | permissionError
  | processLookupError | timeoutError | referenceError | runtimeError | notImplementedError
  | recursionError | stopAsyncIteration | stopIteration | syntaxError | indentationError
  | tabError | systemError | typeError | valueError | unicodeError | unicodeDecodeError
  | unicodeEncodeError | unicodeTranslateError | warning | bytesWarning | deprecationWarning
  | encodingWarning | futureWarning | importWarning | pendingDeprecationWarning | resourceWarning
  | runtimeWarning | syntaxWarning | unicodeWarning | userWarning | evaluatorError | bridgeError
  | bridgeLoadFailure | bridgeUnavailable | executionFailure | resolutionFailure | fetchError
  | httpError | httpStatusError | requestError | decodingError | tooManyRedirects | transportError
  | networkError | protocolError | proxyError | timeoutException | unsupportedProtocol
  | closeError | connectError | readError | writeError | localProtocolError | remoteProtocolError
  | connectTimeout | poolTimeout | readTimeout | writeTimeout | cookieConflict | invalidUrl
  | baseExceptionGroup | exceptionGroup | streamError | streamConsumed | streamClosed
  | responseNotRead | requestNotRead
  deriving DecidableEq, Repr, Inhabited

namespace Kind

/-- The classes that a chunk can name, in the order of the tree. -/
def named : List Kind := [
    .baseException, .exception, .generatorExit, .keyboardInterrupt, .systemExit, .arithmeticError,
    .floatingPointError, .overflowError, .zeroDivisionError, .assertionError, .attributeError,
    .bufferError, .eofError, .importError, .moduleNotFoundError, .lookupError, .indexError,
    .keyError, .memoryError, .nameError, .unboundLocalError, .osError, .blockingIOError,
    .childProcessError, .connectionError, .brokenPipeError, .connectionAbortedError,
    .connectionRefusedError, .connectionResetError, .fileExistsError, .fileNotFoundError,
    .interruptedError, .isADirectoryError, .notADirectoryError, .permissionError,
    .processLookupError, .timeoutError, .referenceError, .runtimeError, .notImplementedError,
    .recursionError, .stopAsyncIteration, .stopIteration, .syntaxError, .indentationError,
    .tabError, .systemError, .typeError, .valueError, .unicodeError, .unicodeDecodeError,
    .unicodeEncodeError, .unicodeTranslateError, .warning, .bytesWarning, .deprecationWarning,
    .encodingWarning, .futureWarning, .importWarning, .pendingDeprecationWarning, .resourceWarning,
    .runtimeWarning, .syntaxWarning, .unicodeWarning, .userWarning, .baseExceptionGroup,
    .exceptionGroup]

/-- The evaluator's own classes. -/
def own : List Kind := [
    .evaluatorError, .bridgeError, .bridgeLoadFailure, .bridgeUnavailable, .executionFailure,
    .resolutionFailure, .fetchError]

/-- The classes of the transport. -/
def transport : List Kind := [
    .httpError, .httpStatusError, .requestError, .decodingError, .tooManyRedirects,
    .transportError, .networkError, .protocolError, .proxyError, .timeoutException,
    .unsupportedProtocol, .closeError, .connectError, .readError, .writeError, .localProtocolError,
    .remoteProtocolError, .connectTimeout, .poolTimeout, .readTimeout, .writeTimeout,
    .cookieConflict, .invalidUrl, .streamError, .streamConsumed, .streamClosed, .responseNotRead,
    .requestNotRead]

def name : Kind → String
  | .baseException => "BaseException"
  | .exception => "Exception"
  | .generatorExit => "GeneratorExit"
  | .keyboardInterrupt => "KeyboardInterrupt"
  | .systemExit => "SystemExit"
  | .arithmeticError => "ArithmeticError"
  | .floatingPointError => "FloatingPointError"
  | .overflowError => "OverflowError"
  | .zeroDivisionError => "ZeroDivisionError"
  | .assertionError => "AssertionError"
  | .attributeError => "AttributeError"
  | .bufferError => "BufferError"
  | .eofError => "EOFError"
  | .importError => "ImportError"
  | .moduleNotFoundError => "ModuleNotFoundError"
  | .lookupError => "LookupError"
  | .indexError => "IndexError"
  | .keyError => "KeyError"
  | .memoryError => "MemoryError"
  | .nameError => "NameError"
  | .unboundLocalError => "UnboundLocalError"
  | .osError => "OSError"
  | .blockingIOError => "BlockingIOError"
  | .childProcessError => "ChildProcessError"
  | .connectionError => "ConnectionError"
  | .brokenPipeError => "BrokenPipeError"
  | .connectionAbortedError => "ConnectionAbortedError"
  | .connectionRefusedError => "ConnectionRefusedError"
  | .connectionResetError => "ConnectionResetError"
  | .fileExistsError => "FileExistsError"
  | .fileNotFoundError => "FileNotFoundError"
  | .interruptedError => "InterruptedError"
  | .isADirectoryError => "IsADirectoryError"
  | .notADirectoryError => "NotADirectoryError"
  | .permissionError => "PermissionError"
  | .processLookupError => "ProcessLookupError"
  | .timeoutError => "TimeoutError"
  | .referenceError => "ReferenceError"
  | .runtimeError => "RuntimeError"
  | .notImplementedError => "NotImplementedError"
  | .recursionError => "RecursionError"
  | .stopAsyncIteration => "StopAsyncIteration"
  | .stopIteration => "StopIteration"
  | .syntaxError => "SyntaxError"
  | .indentationError => "IndentationError"
  | .tabError => "TabError"
  | .systemError => "SystemError"
  | .typeError => "TypeError"
  | .valueError => "ValueError"
  | .unicodeError => "UnicodeError"
  | .unicodeDecodeError => "UnicodeDecodeError"
  | .unicodeEncodeError => "UnicodeEncodeError"
  | .unicodeTranslateError => "UnicodeTranslateError"
  | .warning => "Warning"
  | .bytesWarning => "BytesWarning"
  | .deprecationWarning => "DeprecationWarning"
  | .encodingWarning => "EncodingWarning"
  | .futureWarning => "FutureWarning"
  | .importWarning => "ImportWarning"
  | .pendingDeprecationWarning => "PendingDeprecationWarning"
  | .resourceWarning => "ResourceWarning"
  | .runtimeWarning => "RuntimeWarning"
  | .syntaxWarning => "SyntaxWarning"
  | .unicodeWarning => "UnicodeWarning"
  | .userWarning => "UserWarning"
  | .evaluatorError => "PyEvalError"
  | .bridgeError => "BridgeError"
  | .bridgeLoadFailure => "BridgeLoadFailure"
  | .bridgeUnavailable => "BridgeUnavailable"
  | .executionFailure => "ExecutionFailure"
  | .resolutionFailure => "ResolutionFailure"
  | .fetchError => "FetchError"
  | .httpError => "HTTPError"
  | .httpStatusError => "HTTPStatusError"
  | .requestError => "RequestError"
  | .decodingError => "DecodingError"
  | .tooManyRedirects => "TooManyRedirects"
  | .transportError => "TransportError"
  | .networkError => "NetworkError"
  | .protocolError => "ProtocolError"
  | .proxyError => "ProxyError"
  | .timeoutException => "TimeoutException"
  | .unsupportedProtocol => "UnsupportedProtocol"
  | .closeError => "CloseError"
  | .connectError => "ConnectError"
  | .readError => "ReadError"
  | .writeError => "WriteError"
  | .localProtocolError => "LocalProtocolError"
  | .remoteProtocolError => "RemoteProtocolError"
  | .connectTimeout => "ConnectTimeout"
  | .poolTimeout => "PoolTimeout"
  | .readTimeout => "ReadTimeout"
  | .writeTimeout => "WriteTimeout"
  | .cookieConflict => "CookieConflict"
  | .invalidUrl => "InvalidURL"
  | .baseExceptionGroup => "BaseExceptionGroup"
  | .exceptionGroup => "ExceptionGroup"
  | .streamError => "StreamError"
  | .streamConsumed => "StreamConsumed"
  | .streamClosed => "StreamClosed"
  | .responseNotRead => "ResponseNotRead"
  | .requestNotRead => "RequestNotRead"

def parent? : Kind → Option Kind
  | .baseException => none
  | .exception | .generatorExit | .keyboardInterrupt | .systemExit
  | .baseExceptionGroup => some .baseException
  | .arithmeticError | .assertionError | .attributeError | .bufferError | .eofError
  | .importError | .lookupError | .memoryError | .nameError | .osError | .referenceError
  | .runtimeError | .stopAsyncIteration | .stopIteration | .syntaxError | .systemError
  | .typeError | .valueError | .warning | .evaluatorError | .httpError | .cookieConflict
  | .invalidUrl => some .exception
  | .floatingPointError | .overflowError | .zeroDivisionError => some .arithmeticError
  | .moduleNotFoundError => some .importError
  | .indexError | .keyError => some .lookupError
  | .unboundLocalError => some .nameError
  | .blockingIOError | .childProcessError | .connectionError | .fileExistsError
  | .fileNotFoundError | .interruptedError | .isADirectoryError | .notADirectoryError
  | .permissionError | .processLookupError | .timeoutError => some .osError
  | .brokenPipeError | .connectionAbortedError | .connectionRefusedError
  | .connectionResetError => some .connectionError
  | .notImplementedError | .recursionError | .fetchError | .streamError => some .runtimeError
  | .streamConsumed | .streamClosed | .responseNotRead | .requestNotRead => some .streamError
  | .exceptionGroup => some .baseExceptionGroup
  | .indentationError => some .syntaxError
  | .tabError => some .indentationError
  | .unicodeError => some .valueError
  | .unicodeDecodeError | .unicodeEncodeError | .unicodeTranslateError => some .unicodeError
  | .bytesWarning | .deprecationWarning | .encodingWarning | .futureWarning | .importWarning
  | .pendingDeprecationWarning | .resourceWarning | .runtimeWarning | .syntaxWarning
  | .unicodeWarning | .userWarning => some .warning
  | .bridgeError | .executionFailure | .resolutionFailure => some .evaluatorError
  | .bridgeLoadFailure | .bridgeUnavailable => some .bridgeError
  | .httpStatusError | .requestError => some .httpError
  | .decodingError | .tooManyRedirects | .transportError => some .requestError
  | .networkError | .protocolError | .proxyError | .timeoutException
  | .unsupportedProtocol => some .transportError
  | .closeError | .connectError | .readError | .writeError => some .networkError
  | .localProtocolError | .remoteProtocolError => some .protocolError
  | .connectTimeout | .poolTimeout | .readTimeout | .writeTimeout => some .timeoutException

/-- The class at the given number of steps up the tree, or the top of the tree. -/
def ancestor (k : Kind) : Nat → Kind
  | 0 => k
  | steps + 1 =>
    match (ancestor k steps).parent? with
    | some parent => parent
    | none => ancestor k steps

/-- The tree is at most seven steps high. A group of ordinary faults is an ordinary fault besides
being a group. -/
def isA (k class_ : Kind) : Bool :=
  (List.range 8).any (fun steps => k.ancestor steps == class_) ||
    (k == .exceptionGroup && class_ == .exception)

/-- The class of a name, also of the two old names that stand for `osError`. -/
def ofName? (name : String) : Option Kind :=
  if name = "IOError" ∨ name = "EnvironmentError" then some .osError
  else named.find? (·.name = name)

/-- The class of a name among all classes. -/
def ofAnyName? (name : String) : Option Kind :=
  (ofName? name).or ((own ++ transport).find? (·.name = name))

/-- The name with the module that a report shows before it. -/
def qualifiedName (k : Kind) : String :=
  if k = .fetchError then "pyeval.pyeval_http." ++ k.name
  else if k ∈ own then "pyeval.pyeval_errors." ++ k.name
  else if k ∈ transport then "httpx." ++ k.name
  else k.name

/-- An ordinary fault, one that asks neither to stop the program nor to leave a suspended one. -/
def isOrdinary (k : Kind) : Bool :=
  k.isA .exception

end Kind

end Chunkwise.Fault
