import Chunkwise.Bridge.Adapters
import Chunkwise.Execution.Builtins
import Chunkwise.Execution.Guard
import Chunkwise.Execution.Imports
import Chunkwise.Execution.Target

/-!
Evaluating expressions and running statements. The bound goes down with each level of nesting and
each call; the statements of a block all have the same one, so that a block can be cut anywhere.
-/
namespace Chunkwise.Execution
open Chunkwise.Code Store

/-- Statements one after another, up to the first that leaves. -/
def runBlock (run : Stmt → Eval Flow) : List Stmt → Eval Flow
  | [] => pure .next
  | s :: rest => do
    match ← run s with
    | .next => runBlock run rest
    | flow => pure flow

def evalAll (value : Expr → Eval Value) : List Expr → Eval (List Value)
  | [] => pure []
  | e :: rest => do
    let v ← value e
    return v :: (← evalAll value rest)

/-- Keys and values in the order of the text. -/
def evalPairs (value : Expr → Eval Value) : List Expr → List Expr → Eval (List (Value × Value))
  | k :: keys, e :: values => do
    let key ← value k
    let v ← value e
    return (key, v) :: (← evalPairs value keys values)
  | _, _ => pure []

/-- Operands of `and` or `or`, up to the one that decides. -/
def evalJunction (value : Expr → Eval Value) (isAnd : Bool) : List Expr → Eval Value
  | [] => pure .null
  | [e] => value e
  | e :: rest => do
    let v ← value e
    if (← Eval.look (·.truth v)) = isAnd then evalJunction value isAnd rest else return v

/-- A chain of comparisons, up to the first that does not hold. -/
def evalComparisons (frame : Frame) (pos : Pos) (value : Expr → Eval Value) (left : Value) :
    List Comparison → List Expr → Eval Value
  | op :: ops, e :: rest => do
    let right ← value e
    let holds ← frame.here pos (Eval.act (compared op left right))
    match ops with
    | [] => return .bool holds
    | _ => if holds then evalComparisons frame pos value right ops rest else return .bool false
  | _, _ => pure left

def literalValue : Literal → Value
  | .null => .null
  | .bool b => .bool b
  | .int n => .int n
  | .float text => .float ((Decimal.Double.read? text.toList).getD (.zero false))
  | .str s => .str s
  | .bytes data => .bytes data

/-- Makes a mapping of keys that may be any hashable values. -/
def makeMapping (entries : List (Value × Value)) : Action Value := do
  Action.checking fun store => entries.forM fun entry => store.hashed entry.1
  let put (store : Store) (known : List (Value × Value)) (entry : Value × Value) :=
    store.putEntry known entry.1 entry.2
  let known ← Action.reading fun store => entries.foldl (put store) []
  Action.make { nature := .map .dict known }

/-- The bound on the rounds of one loop. -/
def roundLimit : Nat := Nat.pow 10 12

/-- The number of calls that may be under way. -/
def callLimit : Nat := 975

/-- What follows the body of a loop: another round from a state, or the end of the loop and
whether it ended by itself. -/
def afterBody {α : Type} (state : α) : Flow → α ⊕ (Flow × Bool)
  | .next | .continued => .inl state
  | .broke => .inr (.next, false)
  | flow => .inr (flow, false)

/-- A round of a loop through items. -/
def itemRound (next : Cursor → Eval (Option (Value × Cursor))) (body : Value → Eval Flow)
    (cursor : Cursor) : Eval (Cursor ⊕ (Flow × Bool)) := do
  match ← next cursor with
  | none => return .inr (.next, true)
  | some (v, cursor) => return afterBody cursor (← body v)

/-- A round of a loop under a condition. -/
def testRound (test : Eval Bool) (body : Eval Flow) (_ : Unit) : Eval (Unit ⊕ (Flow × Bool)) := do
  if ← test then return afterBody () (← body) else return .inr (.next, true)

/-- What follows a loop that ended by itself, or that was left. -/
def afterLoop (after : Eval Flow) : Flow × Bool → Eval Flow
  | (.next, true) => after
  | (flow, _) => pure flow

/-- The default values of parameters. -/
def evalDefaults (value : Expr → Eval Value) : List Param → Eval (List Parameter)
  | [] => pure []
  | p :: rest => do
    let default ← match p.default with
      | some e => some <$> value e
      | none => pure none
    return (p.name, default) :: (← evalDefaults value rest)

/-- Binds the modules of an import one by one. -/
def bindModules (frame : Frame) (pos : Pos) : List Alias → Eval Unit
  | [] => pure ()
  | item :: rest => do
    frame.bind item.moduleName (← frame.here pos (Eval.importAs item))
    bindModules frame pos rest

/-- Binds items of a module one by one. -/
def bindItems (frame : Frame) (pos : Pos) (m : Value) : List Alias → Eval Unit
  | [] => pure ()
  | item :: rest => do
    frame.bind item.itemName (← frame.here pos (Eval.moduleItem m item.path))
    bindItems frame pos m rest

/-- Binds all that a module has for everybody. -/
def bindPublic (frame : Frame) (pos : Pos) (m : Value) : List String → Eval Unit
  | [] => pure ()
  | name :: rest => do
    frame.bind name (← frame.here pos (Eval.act (getAttribute m name)))
    bindPublic frame pos m rest

/-- The full name of the module that code names. -/
def importedName (frame : Frame) (level : Nat) (path : String) : Eval String :=
  if level = 0 then pure path
  else do Eval.absoluteName (← Eval.look (·.names frame.globals)) level path

/-- Binds items of a module. -/
def runImportFrom (frame : Frame) (pos : Pos) (level : Nat) (path : String) (items : List Alias) :
    Eval Unit := do
  let name ← frame.here pos (importedName frame level path)
  let m ← frame.here pos (Eval.importFor name (items.map (·.path)))
  bindItems frame pos m items

/-- Binds all that a module has. -/
def runImportAll (frame : Frame) (pos : Pos) (level : Nat) (path : String) : Eval Unit := do
  let name ← frame.here pos (importedName frame level path)
  let m ← frame.here pos (Eval.importFor name [])
  bindPublic frame pos m (← frame.here pos (Eval.publicNames m))

/-! Calls. -/

/-- The arguments of a call by the names of the parameters. -/
def bindCall (title : String) (receiver : Nat) (params : List Parameter) (args : List Value)
    (keywords : List (String × Value)) : Eval Bindings :=
  Eval.ofExcept (Parameters.bind title receiver params args keywords)

def argument (bound : Bindings) (name : String) : Value :=
  (bound.get? name).getD .null

/-- Makes the names of a call. -/
def openScope (f : Function) (bound : Bindings) : Action Address := fun store =>
  match store.add
      { nature := .scope { names := bound, declared := f.declared, outer := f.outer } } with
  | (a, store) => (.ok a, store)

/-- Runs the body of a function. -/
def runBody (run : Frame → List Stmt → Eval Flow) (caller : Frame.Caller) (f : Function)
    (bound : Bindings) : Eval Value := do
  if callLimit ≤ caller.level then
    Eval.fail (.of .recursionError "maximum recursion depth exceeded")
  else
    let scope ← Eval.act (openScope f bound)
    match ← run (Frame.ofCall caller f scope) f.body with
    | .returned v => pure v
    | _ => pure .null

/-- Makes a tensor of the host's own class. -/
def callTensorClass (args : List Value) (keywords : List (String × Value)) : Eval Value := do
  let bound ← bindCall "Tensor.__init__" 1 [("data", none), ("requires_grad", some (.bool false))]
    args keywords
  Eval.act (Action.make (tensorObject (argument bound "data") (argument bound "requires_grad")))

/-- What an attribute that converts its object gives. -/
def converted : Option (Conversion Value) → Eval Value
  | some (.returns v) => pure v
  | some (.raises message) => Eval.fail (.make .valueError [.leaf message])
  | _ => pure .null

/-- Calls an operation of an object. Tensors are made by the class that the adapters hold. -/
def callMethod (call : Value → List Value → List (String × Value) → Eval Value)
    (method : Method) (self : Address) (args : List Value) (keywords : List (String × Value)) :
    Eval Value := do
  let own ← Eval.look (·.nature? self)
  let type ← Eval.look (·.typeName (.ref self))
  match method with
  | .makeTensor =>
    let bound ← bindCall "TensorAdapters.create_tensor_from_python_data" 1
      [("data", none), ("requires_grad", some (.bool false))] args keywords
    let (data, flag) ← Eval.act
      (Bridge.tensorArguments (argument bound "data") (argument bound "requires_grad"))
    match own with
    | some (.adapters class_) => call class_ [data] [("requires_grad", flag)]
    | _ => pure .null
  | .tensorData =>
    let bound ← bindCall "TensorAdapters.get_data_from_tensor" 1 [("tensor", none)] args keywords
    Eval.act (Bridge.tensorData (argument bound "tensor"))
  | .hostList =>
    let bound ← bindCall "TensorAdapters.to_js_list" 1 [("data", none)] args keywords
    Eval.act (Bridge.hostList (argument bound "data"))
  | .toHost =>
    let _ ← bindCall (type ++ ".to_host") 1 [] args keywords
    match own with
    | some (.convertible _ toHost _ _) => converted toHost
    | _ => pure .null
  | .toList =>
    let _ ← bindCall (type ++ ".tolist") 1 [] args keywords
    match own with
    | some (.convertible _ _ toList _) => converted toList
    | _ => pure .null

/-! Waiting. -/

/-- Changes how far work has come. -/
def setProgress (a : Address) (work : Work) (progress : Progress) : Eval Unit :=
  Eval.act (Action.setNature a (.coroutine work progress))

/-- The end of items cannot leave work that others wait for: another exception takes its place. -/
def sealRaised (raised : Raised) : Eval Raised := do
  let e ← Eval.look (Eval.exceptionAt · raised.exception)
  if e.kind.isA .stopIteration then
    Eval.keepTrace raised
    let a ← Eval.act (construct .runtimeError [.str "coroutine raised StopIteration"] [])
    Eval.act (modifyException a fun e => { e with cause := some raised.exception })
    return ⟨a, []⟩
  else return raised

/-- Waits for work to be done, which is done only once. -/
def awaitWork (perform : Work → Eval Value) (a : Address) (work : Work) :
    Progress → Eval Value
  | .over => Eval.fail (.of .runtimeError "cannot reuse already awaited coroutine")
  | .running => Eval.fail (.of .runtimeError "coroutine is being awaited already")
  | .waiting => do
    setProgress a work .running
    let result ← Eval.attempt (perform work)
    setProgress a work .over
    match result with
    | .ok v => pure v
    | .error raised => do Eval.throw (← sealRaised raised)

mutual

def eval : Nat → Frame → Expr → Eval Value
  | 0, _, _ => Eval.exhausted
  | n + 1, frame, e =>
    match e with
    | .literal _ value => pure (literalValue value)
    | .name pos id => frame.here pos (frame.read id)
    | .list _ items => do
      Eval.act (Action.make (.seq .list (← evalAll (eval n frame) items)))
    | .tuple _ items => do
      Eval.act (Action.make (.seq .tuple (← evalAll (eval n frame) items)))
    | .dict pos keys values => do
      let entries ← evalPairs (eval n frame) keys values
      frame.here pos (Eval.act (makeMapping entries))
    | .unary pos op operand => do
      let v ← eval n frame operand
      frame.here pos (Eval.check (·.unary op v))
    | .binary pos op left right => do
      let l ← eval n frame left
      let r ← eval n frame right
      frame.here pos (Eval.act (binary op.symbol op l r))
    | .compare pos left ops rights => do
      let l ← eval n frame left
      evalComparisons frame pos (eval n frame) l ops rights
    | .junction _ isAnd operands => evalJunction (eval n frame) isAnd operands
    | .conditional _ test yes no => do
      let t ← eval n frame test
      if ← Eval.look (·.truth t) then eval n frame yes else eval n frame no
    | .subscript pos container index => do
      let c ← eval n frame container
      let i ← eval n frame index
      frame.here pos (Eval.check (·.subscript c i))
    | .attribute pos line object id => do
      let o ← eval n frame object
      frame.here { pos with line := line } (Eval.act (getAttribute o id))
    | .call pos callee args keywords values => do
      let f ← eval n frame callee
      let positional ← evalAll (eval n frame) args
      let named ← evalAll (eval n frame) values
      let at_ := match callee with
        | .attribute _ line _ _ => { pos with line := line }
        | _ => pos
      frame.here at_ (call n frame.caller f positional ((keywords.map (·.name)).zip named))
    | .await pos operand => do
      let v ← eval n frame operand
      frame.here pos (await n frame.caller v)
    | .yield _ _ => pure .null

/-- Calls a value. -/
def call : Nat → Frame.Caller → Value → List Value → List (String × Value) → Eval Value
  | 0, _, _, _, _ => Eval.exhausted
  | n + 1, caller, callee, args, keywords =>
    match callee with
    | .builtin f => callBuiltin f args keywords
    | .kind k => Value.ref <$> Eval.act (construct k args keywords)
    | .tensorClass => callTensorClass args keywords
    | .method method self => callMethod (call n caller) method self args keywords
    | .leave _ => do
      let bound ← bindCall "Quitter.__call__" 1 [("code", some .null)] args keywords
      Eval.fail (.make .systemExit [.leaf (argument bound "code")])
    | v => do
      match ← Eval.look (·.natureOf v) with
      | some (.function f) =>
        let bound ← bindCall f.path 0 f.params args keywords
        if f.isAsync then Eval.act (makeWork (.call f bound))
        else runBody (fun frame => runBlock (exec n frame)) caller f bound
      | _ =>
        let type ← Eval.look (·.typeName v)
        Eval.fail (.of .typeError s!"'{type}' object is not callable")

/-- Waits for a value that stands for work. -/
def await : Nat → Frame.Caller → Value → Eval Value
  | 0, _, _ => Eval.exhausted
  | n + 1, caller, awaited => do
    let perform : Work → Eval Value
      | .tick => do
        Eval.turn
        return .null
      | .answer v => do
        Eval.turn
        return v
      | .call f bound => runBody (fun frame => runBlock (exec n frame)) caller f bound
    match awaited, (← Eval.look (·.natureOf awaited)) with
    | .ref a, some (.coroutine work progress) => awaitWork perform a work progress
    | v, _ =>
      let type ← Eval.look (·.typeName v)
      Eval.fail (.of .typeError s!"object {type} can't be used in 'await' expression")

def exec : Nat → Frame → Stmt → Eval Flow
  | 0, _, _ => Eval.exhausted
  | n + 1, frame, s =>
    let value := eval n frame
    let block := fun (inner : Frame) => runBlock (exec n inner)
    let test (e : Expr) : Eval Bool := do
      let v ← value e
      Eval.look (·.truth v)
    match s with
    | .expr _ e => do
      let _ ← value e
      return .next
    | .assign _ targets e => do
      assignAll frame value (← value e) targets
      return .next
    | .augment pos target op e => do
      augment frame value pos op target e
      return .next
    | .delete _ targets => do
      deleteEach frame value targets
      return .next
    | .pass _ => pure .next
    | .assert pos e message => do
      if ← test e then return .next
      else
        let args ← match message with
          | some e => List.singleton <$> value e
          | none => pure []
        frame.here pos (Eval.fail (.make .assertionError (args.map .leaf)))
    | .raise pos none _ => raiseHandled frame pos
    | .raise pos (some e) cause => do
      let v ← value e
      let because ← match cause with
        | some e => some <$> value e
        | none => pure none
      frame.here pos (raiseValue v because)
    | .importModules pos items => do
      bindModules frame pos items
      return .next
    | .importFrom pos level path items => do
      runImportFrom frame pos level path items
      return .next
    | .importAll pos level path _ => do
      runImportAll frame pos level path
      return .next
    | .branch _ e yes no => do
      if ← test e then block frame yes else block frame no
    | .forEach pos target source body after => do
      let v ← value source
      let start ← frame.here pos (Eval.act (begin_ v))
      let next (cursor : Cursor) := frame.here pos (Eval.act cursor.next)
      let round (item : Value) : Eval Flow := do
        assignTo frame value target item
        block frame body
      let ending ← Eval.rounds (itemRound next round) roundLimit start
      afterLoop (block frame after) ending
    | .loop _ e body after => do
      let ending ← Eval.rounds (testRound (test e) (block frame body)) roundLimit ()
      afterLoop (block frame after) ending
    | .attempt _ body handlers otherwise finally_ =>
      runAttempt frame value block body handlers otherwise finally_
    | .define _ isAsync name params body => do
      let parameters ← evalDefaults value params
      let f := frame.close isAsync name parameters body
      frame.bind name (← Eval.act (Action.make { nature := .function f }))
      return .next
    | .returns _ none => pure (.returned .null)
    | .returns _ (some e) => Flow.returned <$> value e
    | .breaks _ => pure .broke
    | .continues _ => pure .continued

end

end Chunkwise.Execution
