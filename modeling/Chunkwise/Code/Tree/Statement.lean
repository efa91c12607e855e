import Chunkwise.Code.Tree.Expression

/-!
Reading statements: simple ones joined on a line, and compound ones with their blocks.
-/
namespace Chunkwise.Code
open Reading

/-- Complains about an expression that cannot be a target. -/
def checkTarget (use : String) (e : Expr) : Reading Unit :=
  match e.wrongTarget? with
  | some wrong => complainAt wrong.pos s!"cannot {use} {wrong.kindName}"
  | none => return ()

/-- Checks the first target of an assignment and the last expression of its list, with the equals
sign next. -/
def checkFirstTarget (n : Nat) (e last : Expr) : Reading Unit := do
  if last.mayHaveMeantEqual then
    let again ← attempt (do skip; let _ ← sum n false; isMark "=")
    if again = some false then
      complainAt last.pos
        s!"cannot assign to {last.kindName} here. Maybe you meant '==' instead of '='?"
  checkAssigned e
where
  checkAssigned : Expr → Reading Unit
    | .yield pos _ => complainAt pos "assignment to yield expression not possible"
    | e => checkTarget "assign to" e

/-- The operator of an assignment that updates its target. -/
def augmentOp? : Lexeme → Option BinaryOp
  | .mark "+=" => some .add
  | .mark "-=" => some .sub
  | .mark "*=" => some .mul
  | .mark "/=" => some .div
  | .mark "//=" => some .floorDiv
  | .mark "%=" => some .mod
  | .mark "**=" => some .pow
  | _ => none

/-- A value on the right of an equals sign, or a statement that is only that. -/
def assigned (n : Nat) : Reading Expr := do
  if ← isWord "yield" then yielded n false else listed n false

/-- The expressions joined by equals signs behind those that have been read, latest first. -/
def assignment (n : Nat) : Nat → List Expr → Reading (List Expr)
  | 0, _ => stop
  | m + 1, read => do
    let e ← assigned n
    if ← isMark "=" then
      checkFirstTarget.checkAssigned e
      skip
      assignment n m (e :: read)
    else return e :: read

/-- The first expression of a statement, and the last one of its list. -/
def firstAssigned (n : Nat) : Reading (Expr × Expr) := do
  if ← isWord "yield" then
    let e ← yielded n false
    return (e, e)
  let start ← position
  let e ← expression n false
  if ← isMark "," then
    let es ← moreListed n false [e]
    return (.tuple start es, es.getLast?.getD e)
  else return (e, e)

def expressionStatement (n : Nat) (pos : Pos) : Reading Stmt := do
  let (e, last) ← firstAssigned n
  match augmentOp? (← peek).lexeme with
  | some op =>
    match e with
    | .name .. | .subscript .. | .attribute .. =>
      skip
      return .augment pos e op (← assigned n)
    | e => complainAt e.pos s!"'{e.kindName}' is an illegal expression for augmented assignment"
  | none =>
    if ← isMark "=" then
      checkFirstTarget n e last
      skip
      match ← assignment n n [e] with
      | value :: targets => return .assign pos targets.reverse value
      | [] => stop
    else return .expr pos e

/-- The statement's line goes on behind what has been read. -/
def lineGoesOn : Reading Bool := do
  match (← peek).lexeme with
  | .newline | .mark ";" => return false
  | _ => return true

/-- Names joined by points. -/
def dottedPath : Nat → String → Reading String
  | 0, _ => stop
  | n + 1, read => do
    let path := read ++ (← name)
    if ← tryMark "." then dottedPath n (path ++ ".") else return path

/-- The name behind `as`, if there is one. -/
def boundName : Reading (Option String) := do
  if ← tryWord "as" then return some (← name) else return none

def importItems : Nat → List Alias → Reading (List Alias)
  | 0, _ => stop
  | n + 1, read => do
    let path ← dottedPath n ""
    let item : Alias := ⟨path, ← boundName⟩
    if ← tryMark "," then importItems n (item :: read) else return (item :: read).reverse

/-- The names taken from a module. A comma at the end needs parentheses. -/
def importedNames (inBrackets : Bool) : Nat → List Alias → Reading (List Alias)
  | 0, _ => stop
  | n + 1, read => do
    let id ← name
    let item : Alias := ⟨id, ← boundName⟩
    if ← tryMark "," then
      if inBrackets then
        if ← isMark ")" then return (item :: read).reverse
      else if (← peek).lexeme = .newline then
        complain .syntaxError "trailing comma not allowed without surrounding parentheses"
      importedNames inBrackets n (item :: read)
    else return (item :: read).reverse

/-- The points in front of a module's name. -/
def leadingPoints : Nat → Nat → Reading Nat
  | 0, _ => stop
  | n + 1, level => do
    if ← tryMark "." then leadingPoints n (level + 1)
    else if ← tryMark "..." then leadingPoints n (level + 3)
    else return level

def importFrom (n : Nat) (pos : Pos) : Reading Stmt := do
  let level ← leadingPoints n 0
  let path ← if level ≠ 0 ∧ (← isWord "import") then pure "" else dottedPath n ""
  word "import"
  let here := (← peek).pos
  if ← tryMark "*" then return .importAll pos level path here
  if ← tryMark "(" then
    let names ← importedNames true n []
    mark ")"
    return .importFrom pos level path names
  return .importFrom pos level path (← importedNames false n [])

/-- A statement that fits on a line. -/
def simpleStatement (n : Nat) : Reading Stmt := do
  let token ← peek
  let pos := token.pos
  match token.lexeme with
  | .name "pass" => skip; return .pass pos
  | .name "break" => skip; return .breaks pos
  | .name "continue" => skip; return .continues pos
  | .name "return" =>
    skip
    if ← lineGoesOn then return .returns pos (some (← listed n false))
    else return .returns pos none
  | .name "raise" =>
    skip
    if ← lineGoesOn then
      let fault ← expression n false
      if ← tryWord "from" then return .raise pos (some fault) (some (← expression n false))
      else return .raise pos (some fault) none
    else return .raise pos none none
  | .name "assert" =>
    skip
    let test ← expression n false
    if ← tryMark "," then return .assert pos test (some (← expression n false))
    else return .assert pos test none
  | .name "del" =>
    skip
    let e ← listed n false
    checkTarget "delete" e
    return .delete pos [e]
  | .name "import" => skip; return .importModules pos (← importItems n [])
  | .name "from" => skip; importFrom n pos
  | _ => expressionStatement n pos

/-- Simple statements joined by semicolons, to the end of the line. -/
def simpleLine : Nat → Reading (List Stmt)
  | 0 => stop
  | n + 1 => do
    let s ← simpleStatement n
    if ← tryMark ";" then
      if ← lineGoesOn then return s :: (← simpleLine n)
      else if (← peek).lexeme = .newline then skip; return [s]
      else stop
    else if (← peek).lexeme = .newline then skip; return [s]
    else stop

/-- The targets of a loop, which end at the word `in`. -/
def loopTargets (n : Nat) : Nat → List Expr → Reading (List Expr × Bool)
  | 0, _ => stop
  | m + 1, read => do
    let e ← sum n false
    if ← tryMark "," then
      if ← isWord "in" then return ((e :: read).reverse, true)
      let (es, _) ← loopTargets n m (e :: read)
      return (es, true)
    else return ((e :: read).reverse, false)

def loopTarget (n : Nat) : Reading Expr := do
  let start ← position
  let (es, comma) ← loopTargets n n []
  let target := match es, comma with
    | [e], false => e
    | es, _ => .tuple start es
  checkTarget "assign to" target
  return target

/-- The parameters of a function up to the closing parenthesis. -/
def parameters (n : Nat) : Nat → List Param → Reading (List Param)
  | 0, _ => stop
  | m + 1, read => do
    if ← isMark ")" then return read.reverse
    let pos ← position
    let id ← name
    let default ← if ← tryMark "=" then some <$> expression n true else pure none
    if default.isNone ∧ read.any (·.default.isSome) then
      if (← isMark ")") || (← isMark ",") then
        complainAt pos "non-default argument follows default argument"
    if ← tryMark "," then parameters n m (⟨id, default⟩ :: read)
    else return (⟨id, default⟩ :: read).reverse

mutual

/-- The statements of one line, or one compound statement. -/
def statement : Nat → Reading (List Stmt)
  | 0 => stop
  | n + 1 => do
    let token ← peek
    let pos := token.pos
    match token.lexeme with
    | .name "if" =>
      skip
      return [← branches n pos "if"]
    | .name "while" =>
      skip
      let test ← named n false
      colon
      let body ← block n "'while' statement" pos.line
      return [.loop pos test body (← otherwise n)]
    | .name "for" =>
      skip
      let target ← loopTarget n
      word "in"
      let source ← listed n false
      colon
      let body ← block n "'for' statement" pos.line
      return [.forEach pos target source body (← otherwise n)]
    | .name "try" =>
      skip
      return [← guarded n pos]
    | .name "def" =>
      skip
      return [← definition n pos pos.line false]
    | .name "async" =>
      skip
      let line := (← position).line
      word "def"
      return [← definition n pos line true]
    | _ => simpleLine n

/-- The indented statements behind a colon, or those on the same line. -/
def block : Nat → String → Nat → Reading (List Stmt)
  | 0, _, _ => stop
  | n + 1, owner, line => do
    if (← peek).lexeme = .newline then
      skip
      if (← peek).lexeme = .indent then
        skip
        statements n
      else complain .indentationError s!"expected an indented block after {owner} on line {line}"
    else simpleLine n

/-- Statements up to the end of their block. -/
def statements : Nat → Reading (List Stmt)
  | 0 => stop
  | n + 1 => do
    let first ← statement n
    if (← peek).lexeme = .dedent then
      skip
      return first
    else return first ++ (← statements n)

/-- What stands behind `if` or `elif`. -/
def branches : Nat → Pos → String → Reading Stmt
  | 0, _, _ => stop
  | n + 1, pos, keyword => do
    let test ← named n false
    colon
    let yes ← block n s!"'{keyword}' statement" pos.line
    let next ← position
    if ← tryWord "elif" then
      return .branch pos test yes [← branches n next "elif"]
    else return .branch pos test yes (← otherwise n)

/-- The block behind `else`, if there is one. -/
def otherwise : Nat → Reading (List Stmt)
  | 0 => stop
  | n + 1 => do
    let line := (← position).line
    if ← tryWord "else" then
      demand ":"
      block n "'else' statement" line
    else return []

/-- What stands behind `try`. -/
def guarded : Nat → Pos → Reading Stmt
  | 0, _ => stop
  | n + 1, pos => do
    demand ":"
    let body ← block n "'try' statement" pos.line
    if (← isWord "except") || (← isWord "finally") then
      let handlers ← handlers n
      let after ← if handlers.isEmpty then pure [] else otherwise n
      let line := (← position).line
      if ← tryWord "finally" then
        demand ":"
        return .attempt pos body handlers after (← block n "'finally' statement" line)
      else return .attempt pos body handlers after []
    else complain .syntaxError "expected 'except' or 'finally' block"

def handlers : Nat → Reading (List Handler)
  | 0 => stop
  | n + 1 => do
    let pos ← position
    if ← tryWord "except" then
      let (kinds, as) ←
        if ← isMark ":" then pure (none, none)
        else if (← peek).lexeme = .newline then complain .syntaxError "expected ':'"
        else do
          let e ← expression n false
          if ← isMark "," then
            complainAt e.pos "multiple exception types must be parenthesized"
          pure (some e, ← boundName)
      colon
      let body ← block n "'except' statement" pos.line
      return .mk pos kinds as body :: (← handlers n)
    else return []

/-- What stands behind `def`. -/
def definition : Nat → Pos → Nat → Bool → Reading Stmt
  | 0, _, _, _ => stop
  | n + 1, pos, line, isAsync => do
    let id ← name
    demand "("
    let params ← parameters n n []
    mark ")"
    demand ":"
    let body ← block n "function definition" line
    return .define pos isAsync id params body

end

/-- Statements up to the end of the source. -/
def file : Nat → Reading (List Stmt)
  | 0 => stop
  | n + 1 => do
    if (← peek).lexeme = .done then return []
    else
      let first ← statement n
      return first ++ (← file n)

end Chunkwise.Code
