/-!
The tree of a chunk: expressions and statements, each with the place where it starts.
-/
namespace Chunkwise.Code

/-- A line, counted from one, and a column, counted in characters from zero. -/
structure Pos where
  line : Nat
  col : Nat
  deriving DecidableEq, Repr, Inhabited

inductive Literal where
  | null
  | bool (b : Bool)
  | int (n : Nat)
  /-- A number with a fraction or an exponent, in its shortest decimal form. -/
  | float (text : String)
  | str (s : String)
  | bytes (data : List UInt8)
  deriving DecidableEq, Repr

inductive UnaryOp where
  | neg | plus | invert | not
  deriving DecidableEq, Repr

inductive BinaryOp where
  | add | sub | mul | div | floorDiv | mod | pow
  deriving DecidableEq, Repr

inductive Comparison where
  | eq | ne | lt | le | gt | ge | isSame | isNotSame | isIn | isNotIn
  deriving DecidableEq, Repr

/-- The name of an argument and the place where it stands. -/
structure Keyword where
  pos : Pos
  name : String
  deriving DecidableEq, Repr

inductive Expr where
  | literal (pos : Pos) (value : Literal)
  | name (pos : Pos) (id : String)
  | list (pos : Pos) (items : List Expr)
  | tuple (pos : Pos) (items : List Expr)
  | dict (pos : Pos) (keys values : List Expr)
  | unary (pos : Pos) (op : UnaryOp) (operand : Expr)
  | binary (pos : Pos) (op : BinaryOp) (left right : Expr)
  | compare (pos : Pos) (left : Expr) (ops : List Comparison) (rights : List Expr)
  /-- Operands joined by `and` or by `or`. -/
  | junction (pos : Pos) (isAnd : Bool) (operands : List Expr)
  | conditional (pos : Pos) (test yes no : Expr)
  | subscript (pos : Pos) (container index : Expr)
  /-- The line is that of the attribute's name. -/
  | attribute (pos : Pos) (line : Nat) (object : Expr) (id : String)
  /-- Positional arguments, then the values of those given by keyword. -/
  | call (pos : Pos) (callee : Expr) (args : List Expr) (keywords : List Keyword)
      (values : List Expr)
  | await (pos : Pos) (operand : Expr)
  | yield (pos : Pos) (operand : Option Expr)
  deriving Repr, Inhabited

/-- A parameter, with a default or without one. -/
structure Param where
  name : String
  default : Option Expr
  deriving Repr, Inhabited

/-- One item of an import: a dotted path or a name, and the name it is bound to if another. -/
structure Alias where
  path : String
  as : Option String
  deriving DecidableEq, Repr

mutual

inductive Stmt where
  | expr (pos : Pos) (value : Expr)
  | assign (pos : Pos) (targets : List Expr) (value : Expr)
  | augment (pos : Pos) (target : Expr) (op : BinaryOp) (value : Expr)
  | delete (pos : Pos) (targets : List Expr)
  | pass (pos : Pos)
  | assert (pos : Pos) (test : Expr) (message : Option Expr)
  | raise (pos : Pos) (fault cause : Option Expr)
  | importModules (pos : Pos) (items : List Alias)
  /-- Leading points, module and names. -/
  | importFrom (pos : Pos) (level : Nat) (path : String) (names : List Alias)
  /-- Imports all that a module has; the asterisk has a place of its own. -/
  | importAll (pos : Pos) (level : Nat) (path : String) (asterisk : Pos)
  | branch (pos : Pos) (test : Expr) (yes no : List Stmt)
  | forEach (pos : Pos) (target source : Expr) (body after : List Stmt)
  | loop (pos : Pos) (test : Expr) (body after : List Stmt)
  | attempt (pos : Pos) (body : List Stmt) (handlers : List Handler) (otherwise : List Stmt)
      (finally_ : List Stmt)
  | define (pos : Pos) (isAsync : Bool) (name : String) (params : List Param) (body : List Stmt)
  | returns (pos : Pos) (value : Option Expr)
  | breaks (pos : Pos)
  | continues (pos : Pos)

/-- A handler of faults: of the classes that its expression gives, or of all. -/
inductive Handler where
  | mk (pos : Pos) (kinds : Option Expr) (as : Option String) (body : List Stmt)

end

instance : Inhabited Stmt := ⟨.pass default⟩

def Expr.pos : Expr → Pos
  | .literal pos _ | .name pos _ | .list pos _ | .tuple pos _ | .dict pos _ _
  | .unary pos _ _ | .binary pos _ _ _ | .compare pos _ _ _ | .junction pos _ _
  | .conditional pos _ _ _ | .subscript pos _ _ | .attribute pos _ _ _
  | .call pos _ _ _ _ | .await pos _ | .yield pos _ => pos

def Stmt.pos : Stmt → Pos
  | .expr pos _ | .assign pos _ _ | .augment pos _ _ _ | .delete pos _ | .pass pos
  | .assert pos _ _ | .raise pos _ _ | .importModules pos _ | .importFrom pos _ _ _
  | .importAll pos _ _ _
  | .branch pos _ _ _ | .forEach pos _ _ _ _ | .loop pos _ _ _ | .attempt pos _ _ _ _
  | .define pos _ _ _ _ | .returns pos _ | .breaks pos | .continues pos => pos

end Chunkwise.Code
