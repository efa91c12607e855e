import Chunkwise.Code.Token.Lexer
import Chunkwise.Code.Tree.Statement

/-!
From a source to its statements. A source that has none is answered with one complaint: of what
the reader, the tokens and an open bracket have to say, only the weightiest is given.
-/
namespace Chunkwise.Code

/-- What the end of the tokens has to complain about. -/
def Ending.complaint? : Ending → Option Complaint
  | .finished => none
  | .refused c | .misplaced c => some c

/-- The complaint about a token that fits nowhere. -/
def Token.unexpected (token : Token) : Complaint :=
  { message := "invalid syntax", line := token.pos.line, col := token.col }

/-- The complaint of the reader, unless characters that make no token or a bracket left open
above the place outweigh it. -/
def Tokens.outweigh (ts : Tokens) (line : Nat) (c : Complaint) : Complaint :=
  match ts.ending, ts.bracket with
  | .refused refusal, _ => refusal
  | _, some bracket => if bracket.pos.line < line then bracket.neverClosed else c
  | _, none => c

/-- The complaint that answers for a failed reading. -/
def Tokens.blame (ts : Tokens) (failure : Failure) : Complaint :=
  let token := failure.token
  match token.lexeme, failure.complaint with
  | .stuck, _ => ts.ending.complaint?.getD token.unexpected
  | .indent, none => ⟨.indentationError, "unexpected indent", token.pos.line, token.col⟩
  | _, c => ts.outweigh token.pos.line (c.getD token.unexpected)

/-- A bound on the depth of the readers: each token is at most one level of nesting, and a level
takes fewer than twenty readers. -/
def Tokens.depth (ts : Tokens) : Nat :=
  20 * ts.tokens.length + 20

/-- The statements of a source. -/
def parse (source : List Char) : Except Complaint (List Stmt) :=
  let ts := tokens source
  match file ts.depth ts.tokens with
  | .ok (statements, _) => .ok statements
  | .error failure => .error (ts.blame failure)

end Chunkwise.Code
