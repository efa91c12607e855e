import Chunkwise.Code.Tree
import Chunkwise.Fault.Kind

/-!
The tokens of a source, and complaints about its grammar.
-/
namespace Chunkwise.Code

/-- What is wrong with a source, and where: a line and a column, both counted from one. -/
structure Complaint where
  kind : Fault.Kind := .syntaxError
  message : String
  line : Nat
  col : Nat
  deriving DecidableEq, Repr

inductive Lexeme where
  /-- A name or a keyword. -/
  | name (s : String)
  | int (n : Nat)
  /-- An integer with more decimal digits than may be read. -/
  | longInt (digits : Nat)
  | float (text : String)
  | str (s : String)
  | bytes (data : List UInt8)
  /-- An operator or a punctuation mark. -/
  | mark (s : String)
  /-- The end of a line that is not blank. -/
  | newline
  | indent
  | dedent
  /-- The end of the source. -/
  | done
  /-- The place where no further token can be made. -/
  | stuck
  deriving DecidableEq, Repr

/-- A token with the place where it starts and the column to name in a complaint about it. -/
structure Token where
  lexeme : Lexeme
  pos : Pos
  col : Nat
  deriving DecidableEq, Repr

instance : Inhabited Token := ⟨⟨.done, default, 0⟩⟩

/-- An opening bracket. -/
structure Bracket where
  char : Char
  pos : Pos
  deriving DecidableEq, Repr

/-- How the tokens of a source end. -/
inductive Ending where
  | finished
  /-- Characters that make no token; this outweighs any complaint about the tokens before. -/
  | refused (complaint : Complaint)
  /-- A fault of layout, which counts only if the reader comes to it. -/
  | misplaced (complaint : Complaint)
  deriving DecidableEq, Repr

/-- The tokens of a source, how they end and the innermost bracket still open there. -/
structure Tokens where
  tokens : List Token
  ending : Ending
  bracket : Option Bracket
  deriving DecidableEq, Repr

/-- The complaint about a bracket that the source never closes. -/
def Bracket.neverClosed (b : Bracket) : Complaint :=
  { message := s!"'{b.char}' was never closed", line := b.pos.line, col := b.pos.col + 1 }

/-- The words that cannot be names. -/
def keywords : List String :=
  ["False", "None", "True", "and", "as", "assert", "async", "await", "break", "class", "continue",
    "def", "del", "elif", "else", "except", "finally", "for", "from", "global", "if", "import",
    "in", "is", "lambda", "nonlocal", "not", "or", "pass", "raise", "return", "try", "while",
    "with", "yield"]

end Chunkwise.Code
