import Chunkwise.Code.Token

/-!
Statements that stand where they have no meaning: a `return` outside a function, a `break` outside
a loop and the like. A source that reads well may still be refused for one of these.
-/
namespace Chunkwise.Code

/-- What encloses a piece of code: a function, asynchronous or not, and a loop in it. Only some
sources may wait outside all functions. -/
structure Enclosure where
  function : Option Bool := none
  loop : Bool := false
  /-- The number of loops and guarded blocks around, in the same function. -/
  blocks : Nat := 0
  mayWait : Bool
  deriving DecidableEq, Repr

def misplacedAt (pos : Pos) (message : String) : Complaint :=
  { message := message, line := pos.line, col := pos.col + 1 }

/-- What is wrong with waiting. -/
def Enclosure.waiting (inside : Enclosure) (pos : Pos) : List Complaint :=
  match inside.function with
  | some true => []
  | some false => [misplacedAt pos "'await' outside async function"]
  | none => if inside.mayWait then [] else [misplacedAt pos "'await' outside function"]

def Enclosure.yielding (inside : Enclosure) (pos : Pos) : List Complaint :=
  if inside.function.isSome then [] else [misplacedAt pos "'yield' outside function"]

/-- The most loops and guarded blocks that may be nested. -/
def blockLimit : Nat := 20

/-- What is wrong with one more block. -/
def Enclosure.entering (inside : Enclosure) (pos : Pos) : List Complaint :=
  if inside.blocks < blockLimit then []
  else [misplacedAt pos "too many statically nested blocks"]

def Enclosure.deeper (inside : Enclosure) : Enclosure :=
  { inside with blocks := inside.blocks + 1 }

def Enclosure.inLoop (inside : Enclosure) : Enclosure :=
  { inside.deeper with loop := true }

def Enclosure.inFunction (inside : Enclosure) (isAsync : Bool) : Enclosure :=
  { inside with function := some isAsync, loop := false, blocks := 0 }

/-- The complaints about arguments that are named again. -/
def repeatedKeywords : List Keyword → List Complaint
  | [] => []
  | k :: rest =>
    match rest.find? (·.name = k.name) with
    | some other =>
      misplacedAt other.pos s!"keyword argument repeated: {k.name}" :: repeatedKeywords rest
    | none => repeatedKeywords rest

mutual

def Expr.misplaced (inside : Enclosure) : Expr → List Complaint
  | .literal .. | .name .. => []
  | .list _ items | .tuple _ items | .junction _ _ items => misplacedIn inside items
  | .dict _ keys values => misplacedIn inside keys ++ misplacedIn inside values
  | .unary _ _ e | .attribute _ _ e _ => e.misplaced inside
  | .binary _ _ l r | .subscript _ l r => l.misplaced inside ++ r.misplaced inside
  | .compare _ l _ rs => l.misplaced inside ++ misplacedIn inside rs
  | .conditional _ test yes no =>
    test.misplaced inside ++ yes.misplaced inside ++ no.misplaced inside
  | .call _ f args keywords values =>
    repeatedKeywords keywords ++ f.misplaced inside ++ misplacedIn inside args ++
      misplacedIn inside values
  | .await pos e => inside.waiting pos ++ e.misplaced inside
  | .yield pos e =>
    inside.yielding pos ++ match e with
      | some e => e.misplaced inside
      | none => []

def misplacedIn (inside : Enclosure) : List Expr → List Complaint
  | [] => []
  | e :: rest => e.misplaced inside ++ misplacedIn inside rest

end

def misplacedOption (inside : Enclosure) : Option Expr → List Complaint
  | some e => e.misplaced inside
  | none => []

mutual

def Stmt.misplaced (inside : Enclosure) : Stmt → List Complaint
  | .expr _ e => e.misplaced inside
  | .assign _ targets value => value.misplaced inside ++ misplacedIn inside targets
  | .augment _ target _ value => target.misplaced inside ++ value.misplaced inside
  | .delete _ targets => misplacedIn inside targets
  | .assert _ test message => test.misplaced inside ++ misplacedOption inside message
  | .raise _ fault cause => misplacedOption inside fault ++ misplacedOption inside cause
  | .pass _ | .importModules .. | .importFrom .. | .importAll .. => []
  | .branch _ test yes no =>
    test.misplaced inside ++ blockMisplaced inside yes ++ blockMisplaced inside no
  | .forEach pos target source body after =>
    inside.entering pos ++ source.misplaced inside ++ target.misplaced inside ++
      blockMisplaced inside.inLoop body ++ blockMisplaced inside after
  | .loop pos test body after =>
    inside.entering pos ++ test.misplaced inside ++ blockMisplaced inside.inLoop body ++
      blockMisplaced inside after
  | .attempt pos body handlers otherwise finally_ =>
    let around := if finally_.isEmpty then inside else inside.deeper
    let ends := if finally_.isEmpty then [] else inside.entering pos
    let guards := if handlers.isEmpty then [] else around.entering pos
    let guarded := if handlers.isEmpty then around else around.deeper
    ends ++ guards ++ blockMisplaced guarded body ++ blockMisplaced around otherwise ++
      handlersMisplaced guarded handlers ++ blockMisplaced inside finally_ ++
      blockMisplaced inside.deeper finally_
  | .define _ isAsync _ params body =>
    params.flatMap (fun p => misplacedOption inside p.default) ++
      blockMisplaced (inside.inFunction isAsync) body
  | .returns pos value =>
    if inside.function.isSome then misplacedOption inside value
    else [misplacedAt pos "'return' outside function"]
  | .breaks pos => if inside.loop then [] else [misplacedAt pos "'break' outside loop"]
  | .continues pos =>
    if inside.loop then [] else [misplacedAt pos "'continue' not properly in loop"]

def blockMisplaced (inside : Enclosure) : List Stmt → List Complaint
  | [] => []
  | s :: rest => s.misplaced inside ++ blockMisplaced inside rest

/-- A handler of all faults has to be the last one. The body of a handler is a block of its
own. -/
def handlersMisplaced (inside : Enclosure) : List Handler → List Complaint
  | [] => []
  | .mk pos kinds _ body :: rest =>
    (if kinds.isNone ∧ !rest.isEmpty then [misplacedAt pos "default 'except:' must be last"]
      else []) ++
      misplacedOption inside kinds ++ inside.entering pos ++ blockMisplaced inside.deeper body ++
      handlersMisplaced inside rest

end

/-- The complaints about names that were given before. -/
def doubledNames (pos : Pos) : List String → List Complaint
  | [] => []
  | name :: rest =>
    if name ∈ rest then
      misplacedAt pos s!"duplicate argument '{name}' in function definition" ::
        doubledNames pos rest
    else doubledNames pos rest

mutual

/-- What is wrong with the names that a source binds, which outweighs all that is misplaced:
parameters of one name, and names in a function that only its run could tell. -/
def Stmt.misnamed (inFunction : Bool) : Stmt → List Complaint
  | .importAll _ _ _ asterisk =>
    if inFunction then [misplacedAt asterisk "import * only allowed at module level"] else []
  | .branch _ _ yes no => blockMisnamed inFunction yes ++ blockMisnamed inFunction no
  | .forEach _ _ _ body after | .loop _ _ body after =>
    blockMisnamed inFunction body ++ blockMisnamed inFunction after
  | .attempt _ body handlers otherwise finally_ =>
    blockMisnamed inFunction body ++ blockMisnamed inFunction otherwise ++
      handlersMisnamed inFunction handlers ++ blockMisnamed inFunction finally_
  | .define pos _ _ params body =>
    doubledNames pos (params.map (·.name)) ++ blockMisnamed true body
  | _ => []

def blockMisnamed (inFunction : Bool) : List Stmt → List Complaint
  | [] => []
  | s :: rest => s.misnamed inFunction ++ blockMisnamed inFunction rest

def handlersMisnamed (inFunction : Bool) : List Handler → List Complaint
  | [] => []
  | .mk _ _ _ body :: rest => blockMisnamed inFunction body ++ handlersMisnamed inFunction rest

end

/-- What keeps statements that were read from being run. -/
def refusal? (mayWait : Bool) (body : List Stmt) : Option Complaint :=
  (blockMisnamed false body ++ blockMisplaced { mayWait := mayWait } body).head?

/-- What keeps a last expression from being evaluated. -/
def tailRefusal? (mayWait : Bool) (e : Expr) : Option Complaint :=
  (e.misplaced { mayWait := mayWait }).head?

end Chunkwise.Code
