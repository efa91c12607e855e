/-!
The journal of an evaluator: what its parts note down as they work.
-/
namespace Chunkwise.World

inductive Level where
  | debug | info | warning | error
  deriving DecidableEq, Repr

def Level.name : Level → String
  | .debug => "DEBUG"
  | .info => "INFO"
  | .warning => "WARNING"
  | .error => "ERROR"

/-- A level that is shown even when the journal is not asked for. -/
def Level.isLoud : Level → Bool
  | .warning | .error => true
  | .debug | .info => false

/-- The part that notes something down. -/
inductive Author where
  | packages | scripts | bridge | interpreter | evaluator | console
  deriving DecidableEq, Repr

def Author.name : Author → String
  | .packages => "pyeval.pyeval_resolver"
  | .scripts => "pyeval.pyeval_loader"
  | .bridge => "pyeval.pyeval_bridge"
  | .interpreter => "pyeval.pyeval_runtime"
  | .evaluator => "pyeval.pyeval_evaluator"
  | .console => "pyeval_repl"

structure Entry where
  level : Level
  author : Author
  message : String
  deriving DecidableEq, Repr

def Entry.line (entry : Entry) : String :=
  s!"{entry.level.name} {entry.author.name}: {entry.message}"

end Chunkwise.World
