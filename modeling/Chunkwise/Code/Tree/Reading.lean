import Chunkwise.Code.Token
import Chunkwise.Text.Normal

/-!
Reading tokens from left to right. A reader that cannot go on tells the token where it stopped,
and what it has to complain about if that is more than the token itself.
-/
namespace Chunkwise.Code

/-- Why and where a reader stopped. -/
structure Failure where
  complaint : Option Complaint
  token : Token
  deriving Repr

abbrev Reading (α : Type) := StateT (List Token) (Except Failure) α

namespace Reading

/-- The next token; it stays. -/
def peek : Reading Token := fun ts => .ok (ts.headD default, ts)

/-- The token behind the next one. -/
def peekSecond : Reading Lexeme := fun ts => .ok ((ts.drop 1).headD default |>.lexeme, ts)

def skip : Reading Unit := fun ts => .ok ((), ts.drop 1)

/-- Stops at the next token. -/
def stop {α : Type} : Reading α := fun ts => .error ⟨none, ts.headD default⟩

/-- Complains and stops at the next token. Where no token could be made, that is the complaint. -/
def refuse {α : Type} (complaint : Token → Complaint) : Reading α := fun ts =>
  let token := ts.headD default
  if token.lexeme = .stuck then .error ⟨none, token⟩ else .error ⟨some (complaint token), token⟩

/-- Complains about a place. -/
def complainAt {α : Type} (pos : Pos) (message : String) : Reading α :=
  refuse fun _ => { message := message, line := pos.line, col := pos.col + 1 }

/-- Complains about the next token. -/
def complain {α : Type} (kind : Fault.Kind) (message : String) : Reading α :=
  refuse fun token => ⟨kind, message, token.pos.line, token.col⟩

/-- Complains about the line of the next token; no column is named. -/
def complainOfLine {α : Type} (message : String) : Reading α :=
  refuse fun token => { message := message, line := token.pos.line, col := 0 }

def isMark (s : String) : Reading Bool := do
  return (← peek).lexeme = .mark s

def isWord (s : String) : Reading Bool := do
  return (← peek).lexeme = .name s

/-- Takes the next token if it is a mark. -/
def tryMark (s : String) : Reading Bool := do
  if ← isMark s then skip; return true else return false

/-- Takes the next token if it is a word. -/
def tryWord (s : String) : Reading Bool := do
  if ← isWord s then skip; return true else return false

def mark (s : String) : Reading Unit := do
  if ← tryMark s then return () else stop

def word (s : String) : Reading Unit := do
  if ← tryWord s then return () else stop

/-- Takes a mark that nothing else may stand for. -/
def demand (s : String) : Reading Unit := do
  if ← tryMark s then return () else complain .syntaxError s!"expected '{s}'"

/-- Takes the colon behind the head of a statement; only a line that ends there is told so. -/
def colon : Reading Unit := do
  if ← tryMark ":" then return ()
  else if (← peek).lexeme = .newline then complain .syntaxError "expected ':'"
  else stop

/-- A name that is no keyword, in its normal form. -/
def name : Reading String := do
  match (← peek).lexeme with
  | .name s => if s ∈ keywords then stop else do skip; return Text.normalName s
  | _ => stop

def position : Reading Pos := do
  return (← peek).pos

/-- What another reading would give here; nothing is taken. Where no token could be made, the
reading stops there. -/
def attempt {α : Type} (r : Reading α) : Reading (Option α) := fun ts =>
  match r ts with
  | .ok (a, _) => .ok (some a, ts)
  | .error e => if e.token.lexeme = .stuck then .error e else .ok (none, ts)

end Reading

end Chunkwise.Code
