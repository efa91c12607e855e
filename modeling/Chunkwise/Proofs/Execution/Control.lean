import Chunkwise.Execution.Evaluation
import Chunkwise.Proofs.Execution.Endings

/-!
Where exceptions arise. Code of a frame comes to its parts, one after another, and a call or a wait
in it comes to the body of a function, which has a frame of its own. So the frames that are active
when an operation fails are those of the calls that led there, each at the position of its call, and
the frame of the operation.
-/
namespace Chunkwise.Execution
open Code Store Eval

/-- What is under way: a part of the code of a frame, with the bound on what is nested in it, or a
call on its way from one frame to another. -/
inductive Activity where
  | value (n : Nat) (frame : Frame) (e : Expr)
  /-- The rest of a chain of comparisons, behind the value on its left. -/
  | comparisons (n : Nat) (frame : Frame) (pos : Pos) (left : Value) (ops : List Comparison)
      (rights : List Expr)
  /-- The rest of some operands, as long as none decides. -/
  | junction (n : Nat) (frame : Frame) (isAnd : Bool) (operands : List Expr)
  | statement (n : Nat) (frame : Frame) (s : Stmt)
  | block (n : Nat) (frame : Frame) (body : List Stmt)
  | assign (n : Nat) (frame : Frame) (target : Expr) (v : Value)
  | delete (n : Nat) (frame : Frame) (target : Expr)
  /-- The rest of the rounds of a loop through items. -/
  | items (n : Nat) (frame : Frame) (pos : Pos) (target : Expr) (body : List Stmt) (cursor : Cursor)
  /-- The rest of the rounds of a loop under a condition. -/
  | tests (n : Nat) (frame : Frame) (test : Expr) (body : List Stmt)
  /-- A guarded block with its handlers. -/
  | guarded (n : Nat) (frame : Frame) (body : List Stmt) (handlers : List Handler)
      (otherwise : List Stmt)
  /-- The search for the handler of an exception. -/
  | handling (n : Nat) (frame : Frame) (kind : Fault.Kind) (handlers : List Handler)
  | call (n : Nat) (caller : Frame.Caller) (callee : Value) (args : List Value)
      (keywords : List (String × Value))
  | await (n : Nat) (caller : Frame.Caller) (awaited : Value)
  /-- A function that has its arguments. -/
  | body (n : Nat) (caller : Frame.Caller) (f : Function) (bound : Bindings)

/-- The keys and values of a mapping in the order of the text. -/
def pairs (keys values : List Expr) : List Expr :=
  (keys.zip values).flatMap fun (k, e) => [k, e]

/-- The parts of an expression that are evaluated one after another before anything else is done. -/
def operands : Expr → List Expr
  | .list _ items | .tuple _ items => items
  | .dict _ keys values => pairs keys values
  | .unary _ _ e | .attribute _ _ e _ | .await _ e | .compare _ e _ _ | .conditional _ e _ _ => [e]
  | .binary _ _ left right => [left, right]
  | .subscript _ container index => [container, index]
  | .call _ callee args _ values => callee :: args ++ values
  | _ => []

/-- The parts of a target that are evaluated before it is read or changed. -/
def targetParts : Expr → List Expr
  | .subscript _ container index => [container, index]
  | .attribute _ _ object _ => [object]
  | _ => []

/-- The targets inside a target. -/
def nested? : Expr → Option (Pos × List Expr)
  | .tuple pos targets | .list pos targets => some (pos, targets)
  | _ => none

/-- The expression with which a statement begins. -/
def subject? : Stmt → Option Expr
  | .expr _ e | .assign _ _ e | .assert _ e _ | .raise _ (some e) _ | .branch _ e _ _
  | .forEach _ _ e _ _ | .returns _ (some e) => some e
  | _ => none

/-- The position of a call: that of the attribute which is called. -/
def callPos (pos : Pos) : Expr → Pos
  | .attribute _ line _ _ => { pos with line := line }
  | _ => pos

namespace Spot

def pos : Spot → Pos
  | .name pos _ | .item pos _ _ | .attribute pos _ _ => pos

/-- Reads a spot. -/
def reading (frame : Frame) : Spot → Eval Value
  | .name _ id => frame.read id
  | .item _ container index => Eval.check (·.subscript container index)
  | .attribute _ object id => Eval.act (getAttribute object id)

/-- Gives a value to a spot. -/
def putting (frame : Frame) (v : Value) : Spot → Eval Unit
  | .name _ id => frame.bind id v
  | .item _ container index => Eval.act (setItem container index v)
  | .attribute _ object id => Eval.act (setAttribute object id v)

/-- Takes a spot away. -/
def removing (frame : Frame) : Spot → Eval Unit
  | .name _ id => frame.unbind id
  | .item _ container index => Eval.act (deleteItem container index)
  | .attribute _ object id => Eval.act (deleteAttribute object id)

theorem get_eq (frame : Frame) (spot : Spot) :
    spot.get frame = frame.here spot.pos (spot.reading frame) := by
  cases spot <;> rfl

theorem put_eq (frame : Frame) (v : Value) (spot : Spot) :
    spot.put frame v = frame.here spot.pos (spot.putting frame v) := by
  cases spot <;> rfl

theorem remove_eq (frame : Frame) (spot : Spot) :
    spot.remove frame = frame.here spot.pos (spot.removing frame) := by
  cases spot with
  | name pos id => rfl
  | _ => rfl

end Spot

/-- The truth of an expression. -/
def test (n : Nat) (frame : Frame) (e : Expr) : Eval Bool := do
  let v ← eval n frame e
  Eval.look (·.truth v)

/-- A round of a loop through items. -/
def eachRound (n : Nat) (frame : Frame) (pos : Pos) (target : Expr) (body : List Stmt) :
    Cursor → Eval (Cursor ⊕ (Flow × Bool)) :=
  itemRound (fun cursor => frame.here pos (Eval.act cursor.next)) fun item => do
    assignTo frame (eval n frame) target item
    runBlock (exec n frame) body

/-- A round of a loop under a condition. -/
def whileRound (n : Nat) (frame : Frame) (e : Expr) (body : List Stmt) :
    Unit → Eval (Unit ⊕ (Flow × Bool)) :=
  testRound (test n frame e) (runBlock (exec n frame) body)

/-- A guarded block with its handlers. -/
def guard (n : Nat) (frame : Frame) (body : List Stmt) (handlers : List Handler)
    (otherwise : List Stmt) : Eval Flow :=
  runGuarded frame (eval n frame) (fun frame => runBlock (exec n frame)) body handlers otherwise

/-- A frame that handles an exception. -/
def Frame.handles (frame : Frame) (a : Address) : Frame :=
  { frame with handling := some a }

/-- A computation has raised an exception, which has been caught. -/
def Caught (m : Eval Flow) (s : Scene) (raised : Raised) (t : Scene) : Prop :=
  ∃ s', Raises m s raised s' ∧ Returns (keepTrace raised) s' () t

/-- A handler knows the exception by its name. -/
def nameHandled (frame : Frame) (a : Address) : Option String → Eval Unit
  | none => pure ()
  | some name => frame.bind name (.ref a)

/-- The arguments of a failed assertion. -/
def assertion (n : Nat) (frame : Frame) : Option Expr → Eval (List Value)
  | some e => List.singleton <$> eval n frame e
  | none => pure []

/-- The cause that a statement gives. -/
def causeOf (n : Nat) (frame : Frame) : Option Expr → Eval (Option Value)
  | some e => some <$> eval n frame e
  | none => pure none

/-- The module whose items a statement imports, and the items that it asks for by name. -/
def importedFrom? : Stmt → Option (Pos × Nat × String × List String)
  | .importFrom pos level path items => some (pos, level, path, items.map (·.path))
  | .importAll pos level path _ => some (pos, level, path, [])
  | _ => none

/-- The arguments of the adapters' function for tensors, as the class of tensors gets them. -/
def tensorCall (args : List Value) (keywords : List (String × Value)) : Eval (Value × Value) := do
  let bound ← bindCall "TensorAdapters.create_tensor_from_python_data" 1
    [("data", none), ("requires_grad", some (.bool false))] args keywords
  Eval.act (Bridge.tensorArguments (argument bound "data") (argument bound "requires_grad"))

/-- From an activity control comes to another of the same frame, or into the frame of a call. -/
inductive Inside : Activity → Scene → Activity → Scene → Prop
  -- expressions
  | operand {n : Nat} {frame : Frame} {e x : Expr} {before after : List Expr} {vs : List Value}
      {s s' : Scene} (h : operands e = before ++ x :: after)
      (hbefore : Returns (evalAll (eval n frame) before) s vs s') :
      Inside (.value (n + 1) frame e) s (.value n frame x) s'
  | compare {n : Nat} {frame : Frame} {pos : Pos} {left : Expr} {v : Value} {ops : List Comparison}
      {rights : List Expr} {s s' : Scene} (hleft : Returns (eval n frame left) s v s') :
      Inside (.value (n + 1) frame (.compare pos left ops rights)) s
        (.comparisons n frame pos v ops rights) s'
  | right {n : Nat} {frame : Frame} {pos : Pos} {left : Value} {op : Comparison}
      {ops : List Comparison} {e : Expr} {rights : List Expr} {s : Scene} :
      Inside (.comparisons n frame pos left (op :: ops) (e :: rights)) s (.value n frame e) s
  | holds {n : Nat} {frame : Frame} {pos : Pos} {e : Expr} {right left : Value} {op : Comparison}
      {ops : List Comparison} {rights : List Expr} {s s₁ s' : Scene}
      (hright : Returns (eval n frame e) s right s₁)
      (h : Returns (Eval.act (compared op left right)) s₁ true s') :
      Inside (.comparisons n frame pos left (op :: ops) (e :: rights)) s
        (.comparisons n frame pos right ops rights) s'
  | junction {n : Nat} {frame : Frame} {pos : Pos} {isAnd : Bool} {parts : List Expr} {s : Scene} :
      Inside (.value (n + 1) frame (.junction pos isAnd parts)) s
        (.junction n frame isAnd parts) s
  | joined {n : Nat} {frame : Frame} {isAnd : Bool} {e : Expr} {rest : List Expr} {s : Scene} :
      Inside (.junction n frame isAnd (e :: rest)) s (.value n frame e) s
  | undecided {n : Nat} {frame : Frame} {e : Expr} {isAnd : Bool} {rest : List Expr} {s s' : Scene}
      (h : Returns (test n frame e) s isAnd s') :
      Inside (.junction n frame isAnd (e :: rest)) s (.junction n frame isAnd rest) s'
  | chosen {n : Nat} {frame : Frame} {pos : Pos} {e yes no : Expr} {b : Bool} {s s' : Scene}
      (h : Returns (test n frame e) s b s') :
      Inside (.value (n + 1) frame (.conditional pos e yes no)) s
        (.value n frame (if b then yes else no)) s'
  -- blocks and statements
  | next {n : Nat} {frame : Frame} {body before after : List Stmt} {x : Stmt} {s s' : Scene}
      (h : body = before ++ x :: after)
      (hbefore : Returns (runBlock (exec n frame) before) s .next s') :
      Inside (.block n frame body) s (.statement n frame x) s'
  | subject {n : Nat} {frame : Frame} {x : Stmt} {e : Expr} {s : Scene} (h : subject? x = some e) :
      Inside (.statement (n + 1) frame x) s (.value n frame e) s
  | target {n : Nat} {frame : Frame} {pos : Pos} {e x : Expr} {v : Value}
      {targets before after : List Expr} {s s₁ s' : Scene}
      (hv : Returns (eval n frame e) s v s₁) (h : targets = before ++ x :: after)
      (hbefore : Returns (assignAll frame (eval n frame) v before) s₁ () s') :
      Inside (.statement (n + 1) frame (.assign pos targets e)) s (.assign n frame x v) s'
  | augmented {n : Nat} {frame : Frame} {pos : Pos} {target x e : Expr} {before after : List Expr}
      {vs : List Value} {op : BinaryOp} {s s' : Scene}
      (h : targetParts target = before ++ x :: after)
      (hbefore : Returns (evalAll (eval n frame) before) s vs s') :
      Inside (.statement (n + 1) frame (.augment pos target op e)) s (.value n frame x) s'
  | augmentation {n : Nat} {frame : Frame} {pos : Pos} {target e : Expr} {spot : Spot} {old : Value}
      {op : BinaryOp} {s s₁ s' : Scene}
      (hspot : Returns (Spot.reach (eval n frame) target) s (some spot) s₁)
      (hold : Returns (spot.reading frame) s₁ old s') :
      Inside (.statement (n + 1) frame (.augment pos target op e)) s (.value n frame e) s'
  | deleted {n : Nat} {frame : Frame} {pos : Pos} {targets before after : List Expr} {x : Expr}
      {s s' : Scene} (h : targets = before ++ x :: after)
      (hbefore : Returns (deleteEach frame (eval n frame) before) s () s') :
      Inside (.statement (n + 1) frame (.delete pos targets)) s (.delete n frame x) s'
  | message {n : Nat} {frame : Frame} {pos : Pos} {e x : Expr} {s s' : Scene}
      (h : Returns (test n frame e) s false s') :
      Inside (.statement (n + 1) frame (.assert pos e (some x))) s (.value n frame x) s'
  | cause {n : Nat} {frame : Frame} {pos : Pos} {e x : Expr} {v : Value} {s s' : Scene}
      (h : Returns (eval n frame e) s v s') :
      Inside (.statement (n + 1) frame (.raise pos (some e) (some x))) s (.value n frame x) s'
  | branch {n : Nat} {frame : Frame} {pos : Pos} {e : Expr} {b : Bool} {yes no : List Stmt}
      {s s' : Scene} (h : Returns (test n frame e) s b s') :
      Inside (.statement (n + 1) frame (.branch pos e yes no)) s
        (.block n frame (if b then yes else no)) s'
  | default {n : Nat} {frame : Frame} {pos : Pos} {params before after : List Param} {p : Param}
      {x : Expr} {known : List Parameter} {isAsync : Bool} {name : String} {body : List Stmt}
      {s s' : Scene} (h : params = before ++ p :: after) (hdefault : p.default = some x)
      (hbefore : Returns (evalDefaults (eval n frame) before) s known s') :
      Inside (.statement (n + 1) frame (.define pos isAsync name params body)) s
        (.value n frame x) s'
  -- loops
  | forEach {n : Nat} {frame : Frame} {pos : Pos} {source target : Expr} {v : Value}
      {start : Cursor} {body after : List Stmt} {s s₁ s' : Scene}
      (hv : Returns (eval n frame source) s v s₁)
      (hstart : Returns (Eval.act (begin_ v)) s₁ start s') :
      Inside (.statement (n + 1) frame (.forEach pos target source body after)) s
        (.items n frame pos target body start) s'
  | item {n : Nat} {frame : Frame} {pos : Pos} {v : Value} {cursor' cursor : Cursor} {target : Expr}
      {body : List Stmt} {s s' : Scene}
      (h : Returns (Eval.act cursor.next) s (some (v, cursor')) s') :
      Inside (.items n frame pos target body cursor) s (.assign n frame target v) s'
  | each {n : Nat} {frame : Frame} {pos : Pos} {v : Value} {cursor' cursor : Cursor} {target : Expr}
      {body : List Stmt} {s s₁ s' : Scene}
      (h : Returns (Eval.act cursor.next) s (some (v, cursor')) s₁)
      (hitem : Returns (assignTo frame (eval n frame) target v) s₁ () s') :
      Inside (.items n frame pos target body cursor) s (.block n frame body) s'
  | nextItem {n : Nat} {frame : Frame} {pos : Pos} {target : Expr} {body : List Stmt}
      {cursor cursor' : Cursor} {s s' : Scene}
      (h : Returns (eachRound n frame pos target body cursor) s (.inl cursor') s') :
      Inside (.items n frame pos target body cursor) s (.items n frame pos target body cursor') s'
  | afterItems {n : Nat} {frame : Frame} {pos : Pos} {source target : Expr} {v : Value}
      {start : Cursor} {body after : List Stmt} {s s₁ s₂ s' : Scene}
      (hv : Returns (eval n frame source) s v s₁)
      (hstart : Returns (Eval.act (begin_ v)) s₁ start s₂)
      (hrounds : Returns (rounds (eachRound n frame pos target body) roundLimit start) s₂
        (.next, true) s') :
      Inside (.statement (n + 1) frame (.forEach pos target source body after)) s
        (.block n frame after) s'
  | loop {n : Nat} {frame : Frame} {pos : Pos} {e : Expr} {body after : List Stmt} {s : Scene} :
      Inside (.statement (n + 1) frame (.loop pos e body after)) s (.tests n frame e body) s
  | tested {n : Nat} {frame : Frame} {e : Expr} {body : List Stmt} {s : Scene} :
      Inside (.tests n frame e body) s (.value n frame e) s
  | round {n : Nat} {frame : Frame} {e : Expr} {body : List Stmt} {s s' : Scene}
      (h : Returns (test n frame e) s true s') :
      Inside (.tests n frame e body) s (.block n frame body) s'
  | nextTest {n : Nat} {frame : Frame} {e : Expr} {body : List Stmt} {s s' : Scene}
      (h : Returns (whileRound n frame e body ()) s (.inl ()) s') :
      Inside (.tests n frame e body) s (.tests n frame e body) s'
  | afterTests {n : Nat} {frame : Frame} {pos : Pos} {e : Expr} {body after : List Stmt}
      {s s' : Scene}
      (hrounds : Returns (rounds (whileRound n frame e body) roundLimit ()) s (.next, true) s') :
      Inside (.statement (n + 1) frame (.loop pos e body after)) s (.block n frame after) s'
  -- guarded blocks
  | guarded {n : Nat} {frame : Frame} {pos : Pos} {body otherwise finally_ : List Stmt}
      {handlers : List Handler} {s : Scene} :
      Inside (.statement (n + 1) frame (.attempt pos body handlers otherwise finally_)) s
        (.guarded n frame body handlers otherwise) s
  | finally_ {n : Nat} {frame : Frame} {pos : Pos} {body otherwise finally_ : List Stmt}
      {handlers : List Handler} {flow : Flow} {s s' : Scene}
      (h : Returns (guard n frame body handlers otherwise) s flow s') :
      Inside (.statement (n + 1) frame (.attempt pos body handlers otherwise finally_)) s
        (.block n frame finally_) s'
  | finallyRaised {n : Nat} {frame : Frame} {pos : Pos} {body otherwise finally_ : List Stmt}
      {handlers : List Handler} {raised : Raised} {s s' : Scene}
      (h : Caught (guard n frame body handlers otherwise) s raised s') :
      Inside (.statement (n + 1) frame (.attempt pos body handlers otherwise finally_)) s
        (.block n (frame.handles raised.exception) finally_) s'
  | block {n : Nat} {frame : Frame} {body otherwise : List Stmt} {handlers : List Handler}
      {s : Scene} :
      Inside (.guarded n frame body handlers otherwise) s (.block n frame body) s
  | otherwise {n : Nat} {frame : Frame} {body otherwise : List Stmt} {handlers : List Handler}
      {s s' : Scene} (h : Returns (runBlock (exec n frame) body) s .next s') :
      Inside (.guarded n frame body handlers otherwise) s (.block n frame otherwise) s'
  | handling {n : Nat} {frame : Frame} {body otherwise : List Stmt} {handlers : List Handler}
      {raised : Raised} {s s' : Scene} (h : Caught (runBlock (exec n frame) body) s raised s') :
      Inside (.guarded n frame body handlers otherwise) s
        (.handling n frame (exceptionAt s'.store raised.exception).kind handlers) s'
  | kinds {n : Nat} {frame : Frame} {pos : Pos} {kind : Fault.Kind} {e : Expr} {as : Option String}
      {body : List Stmt} {rest : List Handler} {s : Scene} :
      Inside (.handling n frame kind (.mk pos (some e) as body :: rest)) s (.value n frame e) s
  | unmatched {n : Nat} {frame : Frame} {pos : Pos} {kind : Fault.Kind} {e : Expr}
      {as : Option String} {body : List Stmt} {rest : List Handler} {s s' : Scene}
      (h : Returns (findHandler frame (eval n frame) kind [.mk pos (some e) as body]) s none s') :
      Inside (.handling n frame kind (.mk pos (some e) as body :: rest)) s
        (.handling n frame kind rest) s'
  | handler {n : Nat} {frame : Frame} {pos : Pos} {body handled otherwise : List Stmt}
      {handlers : List Handler} {kinds : Option Expr} {as : Option String} {raised : Raised}
      {s s₁ s₂ s' : Scene} (h : Caught (runBlock (exec n frame) body) s raised s₁)
      (hfound : Returns (findHandler frame (eval n frame)
        (exceptionAt s₁.store raised.exception).kind handlers) s₁
        (some (.mk pos kinds as handled)) s₂)
      (hname : Returns (nameHandled frame raised.exception as) s₂ () s') :
      Inside (.guarded n frame body handlers otherwise) s
        (.block n (frame.handles raised.exception) handled) s'
  -- targets
  | assigned {n : Nat} {frame : Frame} {target x : Expr} {before after : List Expr}
      {vs : List Value} {v : Value} {s s' : Scene} (h : targetParts target = before ++ x :: after)
      (hbefore : Returns (evalAll (eval n frame) before) s vs s') :
      Inside (.assign n frame target v) s (.value n frame x) s'
  | spread {n : Nat} {frame : Frame} {pos : Pos} {target x : Expr}
      {targets before after : List Expr} {v w : Value} {first rest : List Value} {s s₁ s' : Scene}
      (htarget : nested? target = some (pos, targets))
      (hspread : Returns (Eval.act (Store.spread targets.length v)) s (first ++ w :: rest) s₁)
      (h : targets = before ++ x :: after)
      (hbefore : Returns (assignEach frame (eval n frame) before first) s₁ () s') :
      Inside (.assign n frame target v) s (.assign n frame x w) s'
  | deletedPart {n : Nat} {frame : Frame} {target x : Expr} {before after : List Expr}
      {vs : List Value} {s s' : Scene} (h : targetParts target = before ++ x :: after)
      (hbefore : Returns (evalAll (eval n frame) before) s vs s') :
      Inside (.delete n frame target) s (.value n frame x) s'
  | deletedInner {n : Nat} {frame : Frame} {pos : Pos} {target x : Expr}
      {targets before after : List Expr} {s s' : Scene}
      (htarget : nested? target = some (pos, targets)) (h : targets = before ++ x :: after)
      (hbefore : Returns (deleteEach frame (eval n frame) before) s () s') :
      Inside (.delete n frame target) s (.delete n frame x) s'
  -- calls
  | function {n : Nat} {caller : Frame.Caller} {args : List Value}
      {keywords : List (String × Value)} {bound : Bindings} {callee : Value} {f : Function}
      {s s' : Scene} (h : s.store.natureOf callee = some (.function f))
      (hcalled : f.isAsync = false)
      (hbound : Returns (bindCall f.path 0 f.params args keywords) s bound s') :
      Inside (.call (n + 1) caller callee args keywords) s (.body n caller f bound) s'
  | tensor {n : Nat} {caller : Frame.Caller} {args : List Value} {keywords : List (String × Value)}
      {data flag class_ : Value} {self : Address} {s s' : Scene}
      (h : s.store.nature? self = some (.adapters class_))
      (harguments : Returns (tensorCall args keywords) s (data, flag) s') :
      Inside (.call (n + 1) caller (.method .makeTensor self) args keywords) s
        (.call n caller class_ [data] [("requires_grad", flag)]) s'
  | awaited {n : Nat} {caller : Frame.Caller} {a : Address} {f : Function} {bound : Bindings}
      {s s' : Scene} (h : s.store.nature? a = some (.coroutine (.call f bound) .waiting))
      (hrunning : Returns (setProgress a (.call f bound) .running) s () s') :
      Inside (.await (n + 1) caller (.ref a)) s (.body n caller f bound) s'
  | opened {n : Nat} {caller : Frame.Caller} {f : Function} {bound : Bindings} {scope : Address}
      {s s' : Scene} (h : caller.level < callLimit)
      (hscope : Returns (Eval.act (openScope f bound)) s scope s') :
      Inside (.body n caller f bound) s (.block n (Frame.ofCall caller f scope) f.body) s'

/-- A call or a wait in the code of a frame, at its place there. -/
inductive Calls : Activity → Scene → Place → Activity → Scene → Prop
  | call {n : Nat} {frame : Frame} {pos : Pos} {callee : Expr} {f : Value} {args values : List Expr}
      {positional named : List Value} {keywords : List Keyword} {s s₁ s₂ s' : Scene}
      (hcallee : Returns (eval n frame callee) s f s₁)
      (hargs : Returns (evalAll (eval n frame) args) s₁ positional s₂)
      (hvalues : Returns (evalAll (eval n frame) values) s₂ named s') :
      Calls (.value (n + 1) frame (.call pos callee args keywords values)) s
        (frame.at_ (callPos pos callee))
        (.call n frame.caller f positional ((keywords.map (·.name)).zip named)) s'
  | await {n : Nat} {frame : Frame} {pos : Pos} {e : Expr} {v : Value} {s s' : Scene}
      (hv : Returns (eval n frame e) s v s') :
      Calls (.value (n + 1) frame (.await pos e)) s (frame.at_ pos) (.await n frame.caller v) s'

/-- An operation of the activity itself fails, with the place of the frame in which it does. Calls
that run no code have no frame, and an exception that is raised again goes on where it was caught.
-/
inductive Fails : Activity → Scene → List Place → Raised → Scene → Prop
  -- expressions
  | name {n : Nat} {frame : Frame} {pos : Pos} {ident : String} {raised : Raised} {s t : Scene}
      (h : Raises (frame.read ident) s raised t) :
      Fails (.value (n + 1) frame (.name pos ident)) s [frame.at_ pos] raised t
  | dict {n : Nat} {frame : Frame} {pos : Pos} {keys values : List Expr}
      {entries : List (Value × Value)} {raised : Raised} {s s' t : Scene}
      (hentries : Returns (evalPairs (eval n frame) keys values) s entries s')
      (h : Raises (Eval.act (makeMapping entries)) s' raised t) :
      Fails (.value (n + 1) frame (.dict pos keys values)) s [frame.at_ pos] raised t
  | unary {n : Nat} {frame : Frame} {pos : Pos} {e : Expr} {v : Value} {op : UnaryOp}
      {raised : Raised} {s s' t : Scene} (hv : Returns (eval n frame e) s v s')
      (h : Raises (Eval.check (·.unary op v)) s' raised t) :
      Fails (.value (n + 1) frame (.unary pos op e)) s [frame.at_ pos] raised t
  | binary {n : Nat} {frame : Frame} {pos : Pos} {left right : Expr} {l r : Value} {op : BinaryOp}
      {raised : Raised} {s s₁ s' t : Scene}
      (hleft : Returns (eval n frame left) s l s₁) (hright : Returns (eval n frame right) s₁ r s')
      (h : Raises (Eval.act (Store.binary op.symbol op l r)) s' raised t) :
      Fails (.value (n + 1) frame (.binary pos op left right)) s [frame.at_ pos] raised t
  | comparison {n : Nat} {frame : Frame} {pos : Pos} {e : Expr} {right left : Value}
      {op : Comparison} {ops : List Comparison} {rights : List Expr} {raised : Raised}
      {s s' t : Scene} (hright : Returns (eval n frame e) s right s')
      (h : Raises (Eval.act (compared op left right)) s' raised t) :
      Fails (.comparisons n frame pos left (op :: ops) (e :: rights)) s [frame.at_ pos] raised t
  | subscript {n : Nat} {frame : Frame} {pos : Pos} {container index : Expr} {c i : Value}
      {raised : Raised} {s s₁ s' t : Scene} (hcontainer : Returns (eval n frame container) s c s₁)
      (hindex : Returns (eval n frame index) s₁ i s')
      (h : Raises (Eval.check (·.subscript c i)) s' raised t) :
      Fails (.value (n + 1) frame (.subscript pos container index)) s [frame.at_ pos] raised t
  | attribute {n line : Nat} {frame : Frame} {pos : Pos} {object : Expr} {o : Value}
      {ident : String} {raised : Raised} {s s' t : Scene}
      (hobject : Returns (eval n frame object) s o s')
      (h : Raises (Eval.act (getAttribute o ident)) s' raised t) :
      Fails (.value (n + 1) frame (.attribute pos line object ident)) s
        [frame.at_ { pos with line := line }] raised t
  -- statements
  | assert {n : Nat} {frame : Frame} {pos : Pos} {e : Expr} {message : Option Expr}
      {args : List Value} {raised : Raised} {s s₁ s' t : Scene}
      (htest : Returns (test n frame e) s false s₁)
      (hargs : Returns (assertion n frame message) s₁ args s')
      (h : Raises (Eval.fail (.make .assertionError (args.map .leaf)) : Eval Flow) s' raised t) :
      Fails (.statement (n + 1) frame (.assert pos e message)) s [frame.at_ pos] raised t
  | raise {n : Nat} {frame : Frame} {pos : Pos} {e : Expr} {v : Value} {cause : Option Expr}
      {because : Option Value} {raised : Raised} {s s₁ s' t : Scene}
      (hv : Returns (eval n frame e) s v s₁)
      (hcause : Returns (causeOf n frame cause) s₁ because s')
      (h : Raises (raiseValue v because) s' raised t) :
      Fails (.statement (n + 1) frame (.raise pos (some e) cause)) s [frame.at_ pos] raised t
  | nothingHandled {n : Nat} {frame : Frame} {pos : Pos} {cause : Option Expr} {raised : Raised}
      {s t : Scene} (hnone : frame.handling = none)
      (h : Raises (Eval.fail (.of .runtimeError "No active exception to reraise") : Eval Flow) s
        raised t) :
      Fails (.statement (n + 1) frame (.raise pos none cause)) s [frame.at_ pos] raised t
  | raiseHandled {n : Nat} {frame : Frame} {pos : Pos} {a : Address} {cause : Option Expr}
      {s : Scene} (ha : frame.handling = some a) :
      Fails (.statement (n + 1) frame (.raise pos none cause)) s []
        ⟨a, (exceptionAt s.store a).trace⟩ s
  | iterate {n : Nat} {frame : Frame} {pos : Pos} {source target : Expr} {v : Value}
      {body after : List Stmt} {raised : Raised} {s s' t : Scene}
      (hv : Returns (eval n frame source) s v s') (h : Raises (Eval.act (begin_ v)) s' raised t) :
      Fails (.statement (n + 1) frame (.forEach pos target source body after)) s [frame.at_ pos]
        raised t
  | item {n : Nat} {frame : Frame} {pos : Pos} {target : Expr} {body : List Stmt} {cursor : Cursor}
      {raised : Raised} {s t : Scene} (h : Raises (Eval.act cursor.next) s raised t) :
      Fails (.items n frame pos target body cursor) s [frame.at_ pos] raised t
  -- imports
  | importModule {n : Nat} {frame : Frame} {pos : Pos} {items before after : List Alias}
      {item : Alias} {raised : Raised} {s s' t : Scene} (hitems : items = before ++ item :: after)
      (hbefore : Returns (bindModules frame pos before) s () s')
      (h : Raises (importAs item) s' raised t) :
      Fails (.statement (n + 1) frame (.importModules pos items)) s [frame.at_ pos] raised t
  | importName {level n : Nat} {frame : Frame} {pos : Pos} {x : Stmt} {path : String}
      {asked : List String} {raised : Raised} {s t : Scene}
      (hx : importedFrom? x = some (pos, level, path, asked))
      (h : Raises (importedName frame level path) s raised t) :
      Fails (.statement (n + 1) frame x) s [frame.at_ pos] raised t
  | importFor {level n : Nat} {frame : Frame} {pos : Pos} {x : Stmt} {path name : String}
      {asked : List String} {raised : Raised} {s s' t : Scene}
      (hx : importedFrom? x = some (pos, level, path, asked))
      (hname : Returns (importedName frame level path) s name s')
      (h : Raises (Eval.importFor name asked) s' raised t) :
      Fails (.statement (n + 1) frame x) s [frame.at_ pos] raised t
  | importItem {level n : Nat} {frame : Frame} {pos : Pos} {path name : String} {m : Value}
      {items before after : List Alias} {item : Alias} {raised : Raised} {s s₁ s₂ s' t : Scene}
      (hname : Returns (importedName frame level path) s name s₁)
      (hm : Returns (Eval.importFor name (items.map (·.path))) s₁ m s₂)
      (hitems : items = before ++ item :: after)
      (hbefore : Returns (bindItems frame pos m before) s₂ () s')
      (h : Raises (moduleItem m item.path) s' raised t) :
      Fails (.statement (n + 1) frame (.importFrom pos level path items)) s [frame.at_ pos] raised t
  | publicNames {level n : Nat} {frame : Frame} {pos asterisk : Pos} {path name : String}
      {m : Value} {raised : Raised} {s s₁ s' t : Scene}
      (hname : Returns (importedName frame level path) s name s₁)
      (hm : Returns (Eval.importFor name []) s₁ m s')
      (h : Raises (Eval.publicNames m) s' raised t) :
      Fails (.statement (n + 1) frame (.importAll pos level path asterisk)) s [frame.at_ pos]
        raised t
  | publicItem {level n : Nat} {frame : Frame} {pos asterisk : Pos} {path name member : String}
      {m : Value} {exported before after : List String} {raised : Raised} {s s₁ s₂ s₃ s' t : Scene}
      (hname : Returns (importedName frame level path) s name s₁)
      (hm : Returns (Eval.importFor name []) s₁ m s₂)
      (hnames : Returns (Eval.publicNames m) s₂ exported s₃)
      (hexported : exported = before ++ member :: after)
      (hbefore : Returns (bindPublic frame pos m before) s₃ () s')
      (h : Raises (Eval.act (getAttribute m member)) s' raised t) :
      Fails (.statement (n + 1) frame (.importAll pos level path asterisk)) s [frame.at_ pos]
        raised t
  -- targets
  | spread {n : Nat} {frame : Frame} {pos : Pos} {target : Expr} {targets : List Expr} {v : Value}
      {raised : Raised} {s t : Scene} (htarget : nested? target = some (pos, targets))
      (h : Raises (Eval.act (Store.spread targets.length v)) s raised t) :
      Fails (.assign n frame target v) s [frame.at_ pos] raised t
  | put {n : Nat} {frame : Frame} {target : Expr} {spot : Spot} {v : Value} {raised : Raised}
      {s s' t : Scene} (hspot : Returns (Spot.reach (eval n frame) target) s (some spot) s')
      (h : Raises (spot.putting frame v) s' raised t) :
      Fails (.assign n frame target v) s [frame.at_ spot.pos] raised t
  | remove {n : Nat} {frame : Frame} {target : Expr} {spot : Spot} {raised : Raised}
      {s s' t : Scene} (hspot : Returns (Spot.reach (eval n frame) target) s (some spot) s')
      (h : Raises (spot.removing frame) s' raised t) :
      Fails (.delete n frame target) s [frame.at_ spot.pos] raised t
  | readSpot {n : Nat} {frame : Frame} {pos : Pos} {target e : Expr} {spot : Spot} {op : BinaryOp}
      {raised : Raised} {s s' t : Scene}
      (hspot : Returns (Spot.reach (eval n frame) target) s (some spot) s')
      (h : Raises (spot.reading frame) s' raised t) :
      Fails (.statement (n + 1) frame (.augment pos target op e)) s [frame.at_ spot.pos] raised t
  | update {n : Nat} {frame : Frame} {pos : Pos} {target e : Expr} {spot : Spot} {old v : Value}
      {op : BinaryOp} {raised : Raised} {s s₁ s₂ s' t : Scene}
      (hspot : Returns (Spot.reach (eval n frame) target) s (some spot) s₁)
      (hold : Returns (spot.reading frame) s₁ old s₂) (hv : Returns (eval n frame e) s₂ v s')
      (h : Raises (Eval.act (Store.update op old v)) s' raised t) :
      Fails (.statement (n + 1) frame (.augment pos target op e)) s [frame.at_ pos] raised t
  | putBack {n : Nat} {frame : Frame} {pos : Pos} {target e : Expr} {spot : Spot}
      {old v new : Value} {op : BinaryOp} {raised : Raised} {s s₁ s₂ s₃ s' t : Scene}
      (hspot : Returns (Spot.reach (eval n frame) target) s (some spot) s₁)
      (hold : Returns (spot.reading frame) s₁ old s₂) (hv : Returns (eval n frame e) s₂ v s₃)
      (hnew : Returns (Eval.act (Store.update op old v)) s₃ new s')
      (h : Raises (spot.putting frame new) s' raised t) :
      Fails (.statement (n + 1) frame (.augment pos target op e)) s [frame.at_ spot.pos] raised t
  -- guarded blocks
  | kinds {n : Nat} {frame : Frame} {pos : Pos} {e : Expr} {v : Value} {kind : Fault.Kind}
      {as : Option String} {body : List Stmt} {rest : List Handler} {raised : Raised}
      {s s' t : Scene} (hv : Returns (eval n frame e) s v s')
      (h : Raises (Eval.check (handledKinds · v)) s' raised t) :
      Fails (.handling n frame kind (.mk pos (some e) as body :: rest)) s [frame.at_ pos] raised t
  | unhandled {n : Nat} {frame : Frame} {body otherwise : List Stmt} {handlers : List Handler}
      {caught : Raised} {s s₁ t : Scene} (h : Caught (runBlock (exec n frame) body) s caught s₁)
      (hnone : Returns (findHandler frame (eval n frame)
        (exceptionAt s₁.store caught.exception).kind handlers) s₁ none t)
      (hchanged : (exceptionAt t.store caught.exception).trace ≠ caught.trace) :
      Fails (.guarded n frame body handlers otherwise) s []
        ⟨caught.exception, (exceptionAt t.store caught.exception).trace⟩ t
  | afterFinally {n : Nat} {frame : Frame} {pos : Pos} {body otherwise finally_ : List Stmt}
      {handlers : List Handler} {caught : Raised} {s s₁ t : Scene}
      (h : Caught (guard n frame body handlers otherwise) s caught s₁)
      (hfinally : Returns (runBlock (exec n (frame.handles caught.exception)) finally_) s₁ .next t)
      (hchanged : (exceptionAt t.store caught.exception).trace ≠ caught.trace) :
      Fails (.statement (n + 1) frame (.attempt pos body handlers otherwise finally_)) s []
        ⟨caught.exception, (exceptionAt t.store caught.exception).trace⟩ t
  -- calls
  | call {n : Nat} {caller : Frame.Caller} {callee : Value} {args : List Value}
      {keywords : List (String × Value)} {raised : Raised} {s t : Scene}
      (hfunction : ∀ f, s.store.natureOf callee ≠ some (.function f))
      (htensor : ∀ self, callee ≠ .method .makeTensor self)
      (h : Raises (Execution.call (n + 1) caller callee args keywords) s raised t) :
      Fails (.call (n + 1) caller callee args keywords) s [] raised t
  | arguments {n : Nat} {caller : Frame.Caller} {args : List Value}
      {keywords : List (String × Value)} {callee : Value} {f : Function} {raised : Raised}
      {s t : Scene} (hcallee : s.store.natureOf callee = some (.function f))
      (h : Raises (bindCall f.path 0 f.params args keywords) s raised t) :
      Fails (.call (n + 1) caller callee args keywords) s [] raised t
  | tensor {n : Nat} {caller : Frame.Caller} {args : List Value} {keywords : List (String × Value)}
      {self : Address} {raised : Raised} {s t : Scene}
      (h : Raises (tensorCall args keywords) s raised t) :
      Fails (.call (n + 1) caller (.method .makeTensor self) args keywords) s [] raised t
  | await {n : Nat} {caller : Frame.Caller} {awaited : Value} {raised : Raised} {s t : Scene}
      (hwork : ∀ f bound, s.store.natureOf awaited ≠ some (.coroutine (.call f bound) .waiting))
      (h : Raises (Execution.await (n + 1) caller awaited) s raised t) :
      Fails (.await (n + 1) caller awaited) s [] raised t
  | ended {n : Nat} {caller : Frame.Caller} {a : Address} {f : Function} {bound : Bindings}
      {stop raised : Raised} {s s₁ s₂ s₃ t : Scene}
      (hwork : s.store.nature? a = some (.coroutine (.call f bound) .waiting))
      (hrunning : Returns (setProgress a (.call f bound) .running) s () s₁)
      (hbody : Raises (runBody (fun frame => runBlock (exec n frame)) caller f bound) s₁ stop s₂)
      (hover : Returns (setProgress a (.call f bound) .over) s₂ () s₃)
      (hstop : (exceptionAt s₃.store stop.exception).kind.isA .stopIteration)
      (h : Raises (do throw (← sealRaised stop) : Eval Value) s₃ raised t) :
      Fails (.await (n + 1) caller (.ref a)) s [] raised t
  | depth {n : Nat} {caller : Frame.Caller} {f : Function} {bound : Bindings} {raised : Raised}
      {s t : Scene} (hlevel : callLimit ≤ caller.level)
      (h : Raises (Eval.fail (.of .recursionError "maximum recursion depth exceeded") : Eval Value)
        s raised t) :
      Fails (.body n caller f bound) s [] raised t

/-- In an activity an exception arises. The places are those of the frames that are active then,
outermost first; the exception is as it was raised, with the places that it has kept if it had been
caught before. -/
inductive Arises : Activity → Scene → List Place → Raised → Scene → Prop
  | fails {x : Activity} {places : List Place} {raised : Raised} {s t : Scene}
      (h : Fails x s places raised t) :
      Arises x s places raised t
  | inside {x y : Activity} {places : List Place} {raised : Raised} {s s' t : Scene}
      (h : Inside x s y s')
      (harises : Arises y s' places raised t) : Arises x s places raised t
  | calls {x y : Activity} {place : Place} {places : List Place} {raised : Raised} {s s' t : Scene}
      (h : Calls x s place y s')
      (harises : Arises y s' places raised t) : Arises x s (place :: places) raised t

end Chunkwise.Execution
