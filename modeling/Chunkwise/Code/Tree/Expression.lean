import Chunkwise.Code.Tree.Reading
import Chunkwise.Number.Digits

/-!
Reading expressions. Each reader takes a bound on its depth; a multiple of the number of tokens
is enough.
-/
namespace Chunkwise.Code
open Reading

/-- What an expression is called in a complaint about a target. -/
def Expr.kindName : Expr → String
  | .literal _ .null => "None"
  | .literal _ (.bool b) => if b then "True" else "False"
  | .literal .. => "literal"
  | .name .. => "name"
  | .list .. => "list"
  | .tuple .. => "tuple"
  | .dict .. => "dict literal"
  | .unary .. | .binary .. | .junction .. => "expression"
  | .compare .. => "comparison"
  | .conditional .. => "conditional expression"
  | .subscript .. => "subscript"
  | .attribute .. => "attribute"
  | .call .. => "function call"
  | .await .. => "await expression"
  | .yield .. => "yield expression"

/-- The innermost expression that keeps this one from being a target. -/
def Expr.wrongTarget? : Expr → Option Expr
  | .name .. | .subscript .. | .attribute .. => none
  | .list _ items | .tuple _ items => firstWrong? items
  | e => some e
where
  firstWrong? : List Expr → Option Expr
    | [] => none
    | e :: rest => e.wrongTarget?.or (firstWrong? rest)

/-- An expression to which the comparison of values binds less tightly, other than the three
constant words. -/
def Expr.mayHaveMeantEqual : Expr → Bool
  | .literal _ .null | .literal _ (.bool _) => false
  | .literal .. | .dict .. | .binary .. | .call .. | .await .. => true
  | .unary _ op _ => op != .not
  | _ => false

/-- What is said of an integer literal with too many digits. -/
def longLiteral (digits : Nat) : String :=
  tooManyDigitsIn digits ++ " - Consider hexadecimal for huge integer literals to avoid decimal " ++
    "conversion limits."

/-- The token may start an expression. -/
def startsExpression : Lexeme → Bool
  | .name s => s ∉ keywords || s ∈ ["None", "True", "False", "await", "not", "lambda"]
  | .int _ | .longInt _ | .float _ | .str _ | .bytes _ => true
  | .mark s => s ∈ ["(", "[", "\x7b", "-", "+", "~", "..."]
  | _ => false

def comparison? : Lexeme → Lexeme → Option (Comparison × Nat)
  | .mark "==", _ => some (.eq, 1)
  | .mark "!=", _ => some (.ne, 1)
  | .mark "<", _ => some (.lt, 1)
  | .mark "<=", _ => some (.le, 1)
  | .mark ">", _ => some (.gt, 1)
  | .mark ">=", _ => some (.ge, 1)
  | .name "in", _ => some (.isIn, 1)
  | .name "not", .name "in" => some (.isNotIn, 2)
  | .name "is", .name "not" => some (.isNotSame, 2)
  | .name "is", _ => some (.isSame, 1)
  | _, _ => none

def sumOp? : Lexeme → Option BinaryOp
  | .mark "+" => some .add
  | .mark "-" => some .sub
  | _ => none

def termOp? : Lexeme → Option BinaryOp
  | .mark "*" => some .mul
  | .mark "/" => some .div
  | .mark "//" => some .floorDiv
  | .mark "%" => some .mod
  | _ => none

def signOp? : Lexeme → Option UnaryOp
  | .mark "-" => some .neg
  | .mark "+" => some .plus
  | .mark "~" => some .invert
  | _ => none

/-- Operands of one level joined by its operators, to the left. All start at the place of the
first. -/
def chain (op? : Lexeme → Option BinaryOp) (operand : Reading Expr) (start : Pos) :
    Nat → Expr → Reading Expr
  | 0, _ => stop
  | n + 1, left => do
    match op? (← peek).lexeme with
    | none => return left
    | some op =>
      skip
      let right ← operand
      chain op? operand start n (.binary start op left right)

/-- Operands joined by one word; a single one stands for itself. -/
def junction (joiner : String) (isAnd : Bool) (operand : Reading Expr) (start : Pos) :
    Nat → List Expr → Reading Expr
  | 0, _ => stop
  | n + 1, read => do
    let e ← operand
    if ← tryWord joiner then junction joiner isAnd operand start n (e :: read)
    else
      match read with
      | [] => return e
      | _ => return .junction start isAnd (e :: read).reverse

/-- The operators and operands of a chain of comparisons. -/
def comparisons (operand : Reading Expr) : Nat → List Comparison → List Expr →
    Reading (List Comparison × List Expr)
  | 0, _, _ => stop
  | n + 1, ops, rights => do
    match comparison? (← peek).lexeme (← peekSecond) with
    | none => return (ops.reverse, rights.reverse)
    | some (op, width) =>
      skip
      if width = 2 then skip
      let right ← operand
      comparisons operand n (op :: ops) (right :: rights)

/-- Items separated by commas up to a closing mark, which is left. A comma may stand at the end;
the second part tells whether any comma was there. -/
def items (item : Reading Expr) (closing : String) : Nat → List Expr → Bool →
    Reading (List Expr × Bool)
  | 0, _, _ => stop
  | n + 1, read, comma => do
    if ← isMark closing then return (read.reverse, comma)
    let e ← item
    if ← tryMark "," then items item closing n (e :: read) true
    else if ← isMark closing then return ((e :: read).reverse, comma)
    else stop

/-- Keys and values separated by commas up to a closing brace. -/
def entries (item : Reading Expr) : Nat → List Expr → List Expr →
    Reading (List Expr × List Expr)
  | 0, _, _ => stop
  | n + 1, keys, values => do
    if ← isMark "\x7d" then return (keys.reverse, values.reverse)
    let key ← item
    if ¬ (← isMark ":") then stop
    let colonPos ← position
    skip
    if (← isMark "\x7d") || (← isMark ",") then
      complainAt colonPos "expression expected after dictionary key and ':'"
    let value ← item
    if ← tryMark "," then entries item n (key :: keys) (value :: values)
    else if ← isMark "\x7d" then return ((key :: keys).reverse, (value :: values).reverse)
    else stop

/-- The arguments of a call up to its closing parenthesis. -/
def arguments (item : Reading Expr) : Nat → List Expr → List Keyword → List Expr →
    Reading (List Expr × List Keyword × List Expr)
  | 0, _, _, _ => stop
  | n + 1, args, keywords, values => do
    if ← isMark ")" then return (args.reverse, keywords.reverse, values.reverse)
    let isKeyword ← match (← peek).lexeme, ← peekSecond with
      | .name s, .mark "=" => pure (decide (s ∉ Code.keywords))
      | _, _ => pure false
    let (args, keywords, values) ←
      if isKeyword then do
        let key : Keyword := ⟨← position, ← name⟩
        skip
        let value ← item
        pure (args, key :: keywords, value :: values)
      else do
        let e ← item
        if ← isMark "=" then
          complainAt e.pos "expression cannot contain assignment, perhaps you meant \"==\"?"
        if keywords ≠ [] ∧ (← isMark ")") then
          complain .syntaxError "positional argument follows keyword argument"
        pure (e :: args, keywords, values)
    if ← tryMark "," then arguments item n args keywords values
    else if ← isMark ")" then return (args.reverse, keywords.reverse, values.reverse)
    else stop

/-- String literals that stand side by side are one. -/
def strings : Nat → String → Reading String
  | 0, _ => stop
  | n + 1, read => do
    match (← peek).lexeme with
    | .str s => skip; strings n (read ++ s)
    | .bytes _ => complain .syntaxError "cannot mix bytes and nonbytes literals"
    | _ => return read

def byteStrings : Nat → List UInt8 → Reading (List UInt8)
  | 0, _ => stop
  | n + 1, read => do
    match (← peek).lexeme with
    | .bytes data => skip; byteStrings n (read ++ data)
    | .str _ => complain .syntaxError "cannot mix bytes and nonbytes literals"
    | _ => return read

/-- The calls, subscripts and attributes behind an expression. All start at its place. -/
def trailers (args : Reading (List Expr × List Keyword × List Expr)) (index : Reading Expr)
    (start : Pos) : Nat → Expr → Reading Expr
  | 0, _ => stop
  | n + 1, e => do
    match (← peek).lexeme with
    | .mark "." =>
      skip
      let line := (← position).line
      let id ← name
      trailers args index start n (.attribute start line e id)
    | .mark "(" =>
      skip
      let (positional, keywords, values) ← args
      mark ")"
      trailers args index start n (.call start e positional keywords values)
    | .mark "[" =>
      skip
      let i ← index
      mark "]"
      trailers args index start n (.subscript start e i)
    | _ => return e

/-- Complains when two expressions inside brackets have nothing between them, or when a statement
of old forms is used for a call. -/
def checkNeighbour (inBrackets : Bool) (left : Expr) (expression : Reading Expr) :
    Reading Unit := do
  let next := (← peek).lexeme
  if startsExpression next then
    let oldForm := match left with
      | .name _ id => if id = "print" ∨ id = "exec" then some id else none
      | _ => none
    match oldForm with
    | some id =>
      if next ≠ .mark "(" then
        if (← attempt expression).isSome then
          complainAt left.pos
            s!"Missing parentheses in call to '{id}'. Did you mean {id}(...)?"
    | none =>
      if inBrackets then
        if (← attempt expression).isSome then
          complainAt left.pos "invalid syntax. Perhaps you forgot a comma?"

mutual

/-- An expression that is no list of others. -/
def expression : Nat → Bool → Reading Expr
  | 0, _ => stop
  | n + 1, inBrackets => do
    let start ← position
    let e ← disjunction n inBrackets
    if ← tryWord "if" then
      let test ← disjunction n inBrackets
      if ← tryWord "else" then
        let no ← expression n inBrackets
        return .conditional start test e no
      else if ← isMark ":" then stop
      else complainAt e.pos "expected 'else' after 'if' expression"
    else
      checkNeighbour inBrackets e (expression n inBrackets)
      return e

def disjunction : Nat → Bool → Reading Expr
  | 0, _ => stop
  | n + 1, inBrackets => do
    junction "or" false (conjunction n inBrackets) (← position) n []

def conjunction : Nat → Bool → Reading Expr
  | 0, _ => stop
  | n + 1, inBrackets => do
    junction "and" true (inversion n inBrackets) (← position) n []

def inversion : Nat → Bool → Reading Expr
  | 0, _ => stop
  | n + 1, inBrackets => do
    let pos ← position
    if ← tryWord "not" then
      let e ← inversion n inBrackets
      return .unary pos .not e
    let e ← sum n inBrackets
    let (ops, rights) ← comparisons (sum n inBrackets) n [] []
    match ops with
    | [] => return e
    | _ => return .compare pos e ops rights

def sum : Nat → Bool → Reading Expr
  | 0, _ => stop
  | n + 1, inBrackets => do
    let start ← position
    let e ← term n inBrackets
    chain sumOp? (term n inBrackets) start n e

def term : Nat → Bool → Reading Expr
  | 0, _ => stop
  | n + 1, inBrackets => do
    let start ← position
    let e ← factor n inBrackets
    chain termOp? (factor n inBrackets) start n e

def factor : Nat → Bool → Reading Expr
  | 0, _ => stop
  | n + 1, inBrackets => do
    let token ← peek
    match signOp? token.lexeme with
    | some op =>
      skip
      let e ← factor n inBrackets
      return .unary token.pos op e
    | none =>
      let base ← awaited n inBrackets
      if ← tryMark "**" then
        let power ← factor n inBrackets
        return .binary token.pos .pow base power
      else return base

def awaited : Nat → Bool → Reading Expr
  | 0, _ => stop
  | n + 1, inBrackets => do
    let pos ← position
    if ← tryWord "await" then
      let e ← primary n inBrackets
      return .await pos e
    else primary n inBrackets

def primary : Nat → Bool → Reading Expr
  | 0, _ => stop
  | n + 1, inBrackets => do
    let start ← position
    let e ← atom n inBrackets
    trailers (arguments (expression n true) n [] [] []) (listed n true) start n e

def atom : Nat → Bool → Reading Expr
  | 0, _ => stop
  | n + 1, _ => do
    let token ← peek
    let pos := token.pos
    match token.lexeme with
    | .int v => skip; return .literal pos (.int v)
    | .longInt digits => complainOfLine (longLiteral digits)
    | .float text => skip; return .literal pos (.float text)
    | .str _ => return .literal pos (.str (← strings n ""))
    | .bytes _ => return .literal pos (.bytes (← byteStrings n []))
    | .name "None" => skip; return .literal pos .null
    | .name "True" => skip; return .literal pos (.bool true)
    | .name "False" => skip; return .literal pos (.bool false)
    | .name _ => return .name pos (← name)
    | .mark "(" => skip; group n pos
    | .mark "[" =>
      skip
      let (es, _) ← items (named n true) "]" n [] false
      mark "]"
      return .list pos es
    | .mark "\x7b" =>
      skip
      let (keys, values) ← entries (expression n true) n [] []
      mark "\x7d"
      return .dict pos keys values
    | _ => stop

/-- What stands behind an opening parenthesis. -/
def group : Nat → Pos → Reading Expr
  | 0, _ => stop
  | n + 1, pos => do
    if ← isWord "yield" then
      let e ← yielded n true
      mark ")"
      return e
    let (es, comma) ← items (named n true) ")" n [] false
    mark ")"
    match es, comma with
    | [e], false => return e
    | _, _ => return .tuple pos es

/-- An expression where an assignment may have been meant as a comparison. -/
def named : Nat → Bool → Reading Expr
  | 0, _ => stop
  | n + 1, inBrackets => do
    let e ← expression n inBrackets
    checkNamed n e
    return e

def checkNamed : Nat → Expr → Reading Unit
  | 0, _ => stop
  | n + 1, e => do
    if ← isMark "=" then
      let right ← attempt (do skip; let _ ← sum n true; isMark "=")
      if right = some false then
        match e with
        | .name .. =>
          complainAt e.pos "invalid syntax. Maybe you meant '==' or ':=' instead of '='?"
        | e =>
          if e.mayHaveMeantEqual ∨ e.kindName = "attribute" ∨ e.kindName = "subscript" then
            complainAt e.pos
              s!"cannot assign to {e.kindName} here. Maybe you meant '==' instead of '='?"

/-- Expressions separated by commas; with a comma they are a tuple. -/
def listed : Nat → Bool → Reading Expr
  | 0, _ => stop
  | n + 1, inBrackets => do
    let start ← position
    let e ← expression n inBrackets
    if ← isMark "," then return .tuple start (← moreListed n inBrackets [e])
    else return e

def moreListed : Nat → Bool → List Expr → Reading (List Expr)
  | 0, _, _ => stop
  | n + 1, inBrackets, read => do
    if ← tryMark "," then
      if startsExpression (← peek).lexeme then
        let e ← expression n inBrackets
        moreListed n inBrackets (e :: read)
      else return read.reverse
    else return read.reverse

def yielded : Nat → Bool → Reading Expr
  | 0, _ => stop
  | n + 1, inBrackets => do
    let pos ← position
    word "yield"
    if startsExpression (← peek).lexeme then
      let e ← listed n inBrackets
      return .yield pos (some e)
    else return .yield pos none

end

end Chunkwise.Code
