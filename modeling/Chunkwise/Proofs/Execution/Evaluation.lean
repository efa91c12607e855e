import Chunkwise.Proofs.Execution.Actions
import Chunkwise.Proofs.Execution.Keeps

/-!
Evaluating expressions and running statements keeps what no step of code can break. The names of a
call are in its own scope, so only code at the top of a source binds names at its top.
-/
namespace Chunkwise.Execution
open Code Store Store.Action Eval

variable {α ι : Type} {K : Address → Prop} {own : Address} {I : ι → Scene → Prop}

/-! Importing in code. -/

namespace Eval

theorem keeps_importModule (hI : ∀ x, Closed K own (I x)) (path : Path) :
    Keeps K I (Eval.importModule path) :=
  keeps_perform hI fun x _ hs => Scene.kept_importModule (hI x) path hs

theorem keeps_ownName (hI : ∀ x, Closed K own (I x)) (m : Value) : Keeps K I (ownName? m) := by
  refine (keeps_act hI (spares_attribute _ _)).bind fun name => ?_
  split <;> exact keeps_pure

theorem keeps_cannotImport (hI : ∀ x, Closed K own (I x)) (m : Value) (name : String) :
    Keeps K I (cannotImport m name) :=
  (keeps_ownName hI m).bind fun _ => (keeps_act hI (spares_attribute _ _)).bind fun _ =>
    keeps_fail hI _

theorem keeps_moduleItem (hI : ∀ x, Closed K own (I x)) (m : Value) (name : String) :
    Keeps K I (moduleItem m name) := by
  refine (keeps_act hI (spares_attribute _ _)).bind fun held => ?_
  rcases held with _ | held
  · refine (keeps_ownName hI m).bind fun owner => ?_
    rcases owner with _ | owner
    · exact keeps_cannotImport hI _ _
    · refine (keeps_read _).bind fun inner => ?_
      rcases inner with _ | inner
      · exact keeps_cannotImport hI _ _
      · exact keeps_give
  · exact keeps_give

theorem keeps_innermost (hI : ∀ x, Closed K own (I x)) (path : Path) : Keeps K I (innermost path) := by
  match path with
  | [] => exact keeps_give
  | [name] => exact keeps_read _
  | inner :: parent :: outer =>
    exact (keeps_innermost hI (parent :: outer)).bind fun _ => keeps_moduleItem hI _ _

theorem keeps_importAs (hI : ∀ x, Closed K own (I x)) (item : Alias) : Keeps K I (importAs item) := by
  refine (keeps_importModule hI _).bind fun _ => (keeps_importModule hI _).bind fun _ => ?_
  split
  · exact keeps_innermost hI _
  · exact keeps_read _

theorem keeps_importInside (hI : ∀ x, Closed K own (I x)) (package : String) (names : List String) :
    Keeps K I (importInside package names) := by
  induction names with
  | nil => exact keeps_pure
  | cons name rest ih =>
    refine (keeps_read _).bind fun m => (keeps_act hI (spares_attribute _ _)).bind fun held => ?_
    dsimp only
    split
    · refine (keeps_importModule hI _).attempt.bind fun result hresult => ?_
      cases result with
      | ok _ => exact ih
      | error raised =>
        refine (keeps_look _).bind fun e => ?_
        split
        · exact Keeps.bind (gives_throw hresult) fun _ => ih
        · exact ih
    · exact ih

theorem keeps_importFor (hI : ∀ x, Closed K own (I x)) (package : String) (names : List String) :
    Keeps K I (importFor package names) := by
  refine (keeps_importModule hI _).bind fun _ => (keeps_read _).bind fun isPackage => ?_
  dsimp only
  split
  · exact (keeps_importInside hI _ _).bind fun _ => keeps_read _
  · exact keeps_read _

theorem keeps_mapM {β γ : Type} {f : γ → Eval β} (h : ∀ c, Keeps K I (f c)) (items : List γ) :
    Keeps K I (items.mapM f) := by
  suffices hloop : ∀ items done, Keeps K I (List.mapM.loop f items done) from hloop items []
  intro items
  induction items with
  | nil => exact fun _ => keeps_pure
  | cons c items ih => exact fun _ => (h c).bind fun _ => ih _

theorem keeps_publicNames (hI : ∀ x, Closed K own (I x)) (m : Value) : Keeps K I (publicNames m) := by
  refine (keeps_act hI (spares_attribute _ _)).bind fun all => ?_
  rcases all with _ | all
  · exact (keeps_look _).bind fun _ => keeps_pure
  · refine (keeps_act hI (spares_drain _)).bind fun items => keeps_mapM (fun v => ?_) items
    split
    · exact keeps_give
    · exact (keeps_look _).bind fun _ => (keeps_ownName hI m).bind fun _ => keeps_fail hI _

theorem keeps_packageOf (hI : ∀ x, Closed K own (I x)) (globals : Bindings) :
    Keeps K I (packageOf globals) := by
  unfold packageOf
  dsimp only
  split
  · exact keeps_pure
  · exact keeps_fail hI _
  · refine (keeps_act hI (spares_getAttribute _ _)).bind fun parent => ?_
    split
    · exact keeps_pure
    · exact keeps_fail hI _
  · split
    · exact keeps_fail hI _
    · split
      · exact keeps_pure
      · split
        · exact keeps_fail hI _
        · exact keeps_pure
    · exact keeps_fail hI _

theorem keeps_absoluteName (hI : ∀ x, Closed K own (I x)) (globals : Bindings) (level : Nat)
    (name : String) : Keeps K I (absoluteName globals level name) := by
  refine (keeps_packageOf hI _).bind fun package => ?_
  dsimp only
  split
  · exact keeps_fail hI _
  · split
    · exact keeps_fail hI _
    · exact keeps_pure

end Eval

/-! Frames and targets. -/

/-- A frame binds names where they may be bound, and handles no exception at an address kept. -/
structure Frame.Apart (K : Address → Prop) (own : Address) (frame : Frame) : Prop where
  target : frame.target = own ∨ ¬K frame.target
  handling : ∀ a, frame.handling = some a → ¬K a

variable {frame : Frame}

theorem Frame.Apart.handle (h : frame.Apart K own) {a : Address} (ha : ¬K a) :
    ({ frame with handling := some a } : Frame).Apart K own :=
  ⟨h.target, fun _ hb => Option.some.inj hb ▸ ha⟩

theorem keeps_mapNames (hI : ∀ x, Closed K own (I x)) (h : frame.Apart K own) (f : Bindings → Bindings) :
    Keeps K I (Eval.change (·.mapNames frame.target f)) :=
  fun x _ hs => ⟨(hI x).bound f hs h.target, trivial⟩

theorem keeps_bindName (hI : ∀ x, Closed K own (I x)) (h : frame.Apart K own) (id : String) (v : Value) :
    Keeps K I (frame.bind id v) :=
  keeps_mapNames hI h _

theorem keeps_unbind (hI : ∀ x, Closed K own (I x)) (h : frame.Apart K own) (id : String) :
    Keeps K I (frame.unbind id) := by
  refine (keeps_look _).bind fun isBound => ?_
  split
  · exact keeps_mapNames hI h _
  · split
    · exact keeps_fail hI _
    · exact keeps_fail hI _

theorem keeps_readName (hI : ∀ x, Closed K own (I x)) (id : String) : Keeps K I (frame.read id) :=
  keeps_check hI _

variable {value : Expr → Eval Value}

theorem keeps_reach (hv : ∀ e, Keeps K I (value e)) (e : Expr) :
    Keeps K I (Spot.reach value e) := by
  unfold Spot.reach
  split
  · exact keeps_pure
  · exact (hv _).bind fun _ => (hv _).bind fun _ => keeps_pure
  · exact (hv _).bind fun _ => keeps_pure
  · exact keeps_pure

theorem keeps_get (hI : ∀ x, Closed K own (I x)) (spot : Spot) : Keeps K I (spot.get frame) := by
  match spot with
  | .name pos id => exact (keeps_readName hI id).here _ _
  | .item pos container index => exact (keeps_check hI _).here _ _
  | .attribute pos object id => exact (keeps_act hI (spares_getAttribute _ _)).here _ _

theorem keeps_put (hI : ∀ x, Closed K own (I x)) (h : frame.Apart K own) (v : Value) (spot : Spot) :
    Keeps K I (spot.put frame v) := by
  match spot with
  | .name pos id => exact keeps_bindName hI h _ _
  | .item pos container index => exact (keeps_act hI (spares_setItem _ _ _)).here _ _
  | .attribute pos object id => exact (keeps_act hI (spares_setAttribute _ _ _)).here _ _

theorem keeps_remove (hI : ∀ x, Closed K own (I x)) (h : frame.Apart K own) (spot : Spot) :
    Keeps K I (spot.remove frame) := by
  match spot with
  | .name pos id => exact (keeps_unbind hI h _).here _ _
  | .item pos container index => exact (keeps_act hI (spares_deleteItem _ _)).here _ _
  | .attribute pos object id => exact (keeps_act hI (spares_deleteAttribute _ _)).here _ _

theorem keeps_putAt (hI : ∀ x, Closed K own (I x)) (h : frame.Apart K own)
    (hv : ∀ e, Keeps K I (value e)) (target : Expr) (v : Value) :
    Keeps K I (do
      match ← Spot.reach value target with
      | some spot => spot.put frame v
      | none => pure ()) := by
  refine (keeps_reach hv target).bind fun spot => ?_
  rcases spot with _ | spot
  · exact keeps_pure
  · exact keeps_put hI h v spot

theorem keeps_removeAt (hI : ∀ x, Closed K own (I x)) (h : frame.Apart K own)
    (hv : ∀ e, Keeps K I (value e)) (target : Expr) :
    Keeps K I (do
      match ← Spot.reach value target with
      | some spot => spot.remove frame
      | none => pure ()) := by
  refine (keeps_reach hv target).bind fun spot => ?_
  rcases spot with _ | spot
  · exact keeps_pure
  · exact keeps_remove hI h spot

mutual

theorem keeps_assignTo (hI : ∀ x, Closed K own (I x)) (h : frame.Apart K own)
    (hv : ∀ e, Keeps K I (value e)) (target : Expr) (v : Value) :
    Keeps K I (assignTo frame value target v) := by
  cases target with
  | tuple pos targets | list pos targets =>
    exact ((keeps_act hI (spares_spread _ _)).here _ _).bind fun _ =>
      keeps_assignEach hI h hv targets _
  | _ => exact keeps_putAt hI h hv _ v

theorem keeps_assignEach (hI : ∀ x, Closed K own (I x)) (h : frame.Apart K own)
    (hv : ∀ e, Keeps K I (value e)) (targets : List Expr) (values : List Value) :
    Keeps K I (assignEach frame value targets values) := by
  match targets, values with
  | target :: targets, v :: rest =>
    exact (keeps_assignTo hI h hv target v).bind fun _ => keeps_assignEach hI h hv targets rest
  | [], _ | _ :: _, [] => exact keeps_pure

end

mutual

theorem keeps_deleteTarget (hI : ∀ x, Closed K own (I x)) (h : frame.Apart K own)
    (hv : ∀ e, Keeps K I (value e)) (target : Expr) :
    Keeps K I (deleteTarget frame value target) := by
  cases target with
  | tuple pos targets | list pos targets => exact keeps_deleteEach hI h hv targets
  | _ => exact keeps_removeAt hI h hv _

theorem keeps_deleteEach (hI : ∀ x, Closed K own (I x)) (h : frame.Apart K own)
    (hv : ∀ e, Keeps K I (value e)) (targets : List Expr) :
    Keeps K I (deleteEach frame value targets) := by
  match targets with
  | [] => exact keeps_pure
  | target :: targets =>
    exact (keeps_deleteTarget hI h hv target).bind fun _ => keeps_deleteEach hI h hv targets

end

theorem keeps_assignAll (hI : ∀ x, Closed K own (I x)) (h : frame.Apart K own)
    (hv : ∀ e, Keeps K I (value e)) (v : Value) (targets : List Expr) :
    Keeps K I (assignAll frame value v targets) := by
  induction targets with
  | nil => exact keeps_pure
  | cons target targets ih => exact (keeps_assignTo hI h hv target v).bind fun _ => ih

theorem keeps_augment (hI : ∀ x, Closed K own (I x)) (h : frame.Apart K own)
    (hv : ∀ e, Keeps K I (value e)) (pos : Pos) (op : BinaryOp) (target e : Expr) :
    Keeps K I (augment frame value pos op target e) := by
  refine (keeps_reach hv target).bind fun spot => ?_
  rcases spot with _ | spot
  · exact keeps_pure
  · exact (keeps_get hI spot).bind fun _ => (hv e).bind fun _ =>
      ((keeps_act hI (spares_update _ _ _)).here _ _).bind fun _ => keeps_put hI h _ spot

/-! Raising and handling. -/

theorem keeps_raiseValue (hI : ∀ x, Closed K own (I x)) (v : Value) (cause : Option Value) :
    Keeps K I (raiseValue v cause) := by
  refine (gives_act hI (gives_raisedException _ _)).bind fun a ha => ?_
  rcases cause with _ | cause
  · exact gives_raiseAgain ha
  · exact (keeps_act hI (spares_setCause ha _)).bind fun _ => gives_raiseAgain ha

theorem keeps_raiseHandled (hI : ∀ x, Closed K own (I x)) (h : frame.Apart K own) (pos : Pos) :
    Keeps K I (raiseHandled frame pos) := by
  unfold raiseHandled
  split
  next a ha => exact gives_raiseAgain (h.handling a ha)
  next => exact (keeps_fail hI _).here _ _

theorem keeps_findHandler (hI : ∀ x, Closed K own (I x)) (hv : ∀ e, Keeps K I (value e))
    (kind : Fault.Kind) (handlers : List Handler) :
    Keeps K I (findHandler frame value kind handlers) := by
  match handlers with
  | [] => exact keeps_pure
  | .mk pos none as body :: _ => exact keeps_pure
  | .mk pos (some e) as body :: rest =>
    refine (hv e).bind fun v => ((keeps_check hI _).here _ _).bind fun kinds => ?_
    split
    · exact keeps_pure
    · exact keeps_findHandler hI hv kind rest

/-- Whatever block is run, and in whatever frame. -/
abbrev KeepsBlocks (K : Address → Prop) (own : Address) (I : ι → Scene → Prop)
    (run : Frame → List Stmt → Eval Flow) : Prop :=
  ∀ frame body, frame.Apart K own → Keeps K I (run frame body)

variable {run : Frame → List Stmt → Eval Flow}

theorem keeps_runHandler (hI : ∀ x, Closed K own (I x)) (h : frame.Apart K own)
    (hr : KeepsBlocks K own I run) {a : Address} (ha : ¬K a) (handler : Handler) :
    Keeps K I (runHandler frame run a handler) := by
  obtain ⟨pos, kinds, as, body⟩ := handler
  unfold runHandler
  cases as with
  | none => exact hr _ _ (h.handle ha)
  | some name =>
    exact (keeps_bindName hI h _ _).bind fun _ =>
      (hr _ _ (h.handle ha)).attempt.bind fun result hresult =>
        (keeps_mapNames hI h _).bind fun _ => gives_ofResult hresult

theorem keeps_runFinally (hI : ∀ x, Closed K own (I x)) (h : frame.Apart K own)
    (hr : KeepsBlocks K own I run) (body : List Stmt) {result : Except Raised Flow}
    (hresult : Sound K (fun _ => True) result) :
    Keeps K I (runFinally frame run body result) := by
  cases result with
  | ok flow =>
    refine (hr _ body h).bind fun other => ?_
    cases other <;> exact keeps_pure
  | error raised =>
    refine (keeps_keepTrace hI hresult).bind fun _ => (hr _ body (h.handle hresult)).bind
      fun other => ?_
    cases other with
    | next => exact gives_raiseAgain hresult
    | _ => exact keeps_pure

theorem keeps_runGuarded (hI : ∀ x, Closed K own (I x)) (h : frame.Apart K own)
    (hv : ∀ e, Keeps K I (value e)) (hr : KeepsBlocks K own I run)
    (body : List Stmt) (handlers : List Handler) (otherwise : List Stmt) :
    Keeps K I (runGuarded frame value run body handlers otherwise) := by
  refine (hr _ body h).attempt.bind fun result hresult => ?_
  match result with
  | .ok .next => exact hr _ otherwise h
  | .ok .broke | .ok .continued | .ok (.returned _) => exact keeps_pure
  | .error raised =>
    refine (keeps_keepTrace hI hresult).bind fun _ => (keeps_look _).bind fun e =>
      (keeps_findHandler hI hv _ handlers).bind fun handler => ?_
    rcases handler with _ | handler
    · exact gives_raiseAgain hresult
    · exact keeps_runHandler hI h hr hresult handler

theorem keeps_runAttempt (hI : ∀ x, Closed K own (I x)) (h : frame.Apart K own)
    (hv : ∀ e, Keeps K I (value e)) (hr : KeepsBlocks K own I run)
    (body : List Stmt) (handlers : List Handler) (otherwise finally_ : List Stmt) :
    Keeps K I (runAttempt frame value run body handlers otherwise finally_) :=
  (keeps_runGuarded hI h hv hr body handlers otherwise).attempt.bind fun _ hresult =>
    keeps_runFinally hI h hr finally_ hresult

/-! The parts of expressions and statements. -/

theorem keeps_runBlock {run : Stmt → Eval Flow} (hr : ∀ s, Keeps K I (run s)) (body : List Stmt) :
    Keeps K I (runBlock run body) := by
  induction body with
  | nil => exact keeps_pure
  | cons s rest ih =>
    refine (hr s).bind fun flow => ?_
    cases flow with
    | next => exact ih
    | _ => exact keeps_pure

theorem keeps_evalAll (hv : ∀ e, Keeps K I (value e)) (items : List Expr) :
    Keeps K I (evalAll value items) := by
  induction items with
  | nil => exact keeps_pure
  | cons e rest ih => exact (hv e).bind fun _ => ih.bind fun _ => keeps_pure

theorem keeps_evalPairs (hv : ∀ e, Keeps K I (value e)) (keys values : List Expr) :
    Keeps K I (evalPairs value keys values) := by
  match keys, values with
  | k :: keys, e :: values =>
    exact (hv k).bind fun _ => (hv e).bind fun _ =>
      (keeps_evalPairs hv keys values).bind fun _ => keeps_pure
  | [], _ | _ :: _, [] => exact keeps_pure

theorem keeps_evalJunction (hv : ∀ e, Keeps K I (value e)) (isAnd : Bool) (operands : List Expr) :
    Keeps K I (evalJunction value isAnd operands) := by
  match operands with
  | [] => exact keeps_pure
  | [e] => exact hv e
  | e :: e' :: rest =>
    refine (hv e).bind fun v => (keeps_look _).bind fun t => ?_
    split
    · exact keeps_evalJunction hv isAnd (e' :: rest)
    · exact keeps_pure

theorem keeps_evalComparisons (hI : ∀ x, Closed K own (I x)) (hv : ∀ e, Keeps K I (value e)) (pos : Pos)
    (left : Value) (ops : List Comparison) (rights : List Expr) :
    Keeps K I (evalComparisons frame pos value left ops rights) := by
  match ops, rights with
  | op :: ops, e :: rest =>
    refine (hv e).bind fun right =>
      ((keeps_act hI (spares_compared _ _ _)).here _ _).bind fun holds => ?_
    match ops with
    | [] => exact keeps_pure
    | op' :: ops =>
      dsimp only
      split
      · exact keeps_evalComparisons hI hv pos right (op' :: ops) rest
      · exact keeps_pure
  | [], _ | _ :: _, [] => exact keeps_pure

theorem keeps_itemRound {next : Cursor → Eval (Option (Value × Cursor))}
    {body : Value → Eval Flow} (hnext : ∀ cursor, Keeps K I (next cursor))
    (hbody : ∀ v, Keeps K I (body v)) (cursor : Cursor) :
    Keeps K I (itemRound next body cursor) := by
  refine (hnext cursor).bind fun found => ?_
  rcases found with _ | ⟨v, cursor⟩
  · exact keeps_pure
  · exact (hbody v).bind fun _ => keeps_pure

theorem keeps_testRound {test : Eval Bool} {body : Eval Flow} (htest : Keeps K I test)
    (hbody : Keeps K I body) (u : Unit) : Keeps K I (testRound test body u) := by
  refine htest.bind fun t => ?_
  split
  · exact hbody.bind fun _ => keeps_pure
  · exact keeps_pure

theorem keeps_afterLoop {after : Eval Flow} (h : Keeps K I after) (ending : Flow × Bool) :
    Keeps K I (afterLoop after ending) := by
  unfold afterLoop
  split
  · exact h
  · exact keeps_pure

theorem keeps_evalDefaults (hv : ∀ e, Keeps K I (value e)) (params : List Param) :
    Keeps K I (evalDefaults value params) := by
  induction params with
  | nil => exact keeps_pure
  | cons p rest ih =>
    unfold evalDefaults
    split
    · exact ((hv _).map some).bind fun _ => ih.bind fun _ => keeps_pure
    · exact ih.bind fun _ => keeps_pure

theorem keeps_bindModules (hI : ∀ x, Closed K own (I x)) (h : frame.Apart K own) (pos : Pos)
    (items : List Alias) : Keeps K I (bindModules frame pos items) := by
  induction items with
  | nil => exact keeps_pure
  | cons item rest ih =>
    exact ((keeps_importAs hI item).here _ _).bind fun _ =>
      (keeps_bindName hI h _ _).bind fun _ => ih

theorem keeps_bindItems (hI : ∀ x, Closed K own (I x)) (h : frame.Apart K own) (pos : Pos) (m : Value)
    (items : List Alias) : Keeps K I (bindItems frame pos m items) := by
  induction items with
  | nil => exact keeps_pure
  | cons item rest ih =>
    exact ((keeps_moduleItem hI m _).here _ _).bind fun _ =>
      (keeps_bindName hI h _ _).bind fun _ => ih

theorem keeps_bindPublic (hI : ∀ x, Closed K own (I x)) (h : frame.Apart K own) (pos : Pos) (m : Value)
    (names : List String) : Keeps K I (bindPublic frame pos m names) := by
  induction names with
  | nil => exact keeps_pure
  | cons name rest ih =>
    exact ((keeps_act hI (spares_getAttribute _ _)).here _ _).bind fun _ =>
      (keeps_bindName hI h _ _).bind fun _ => ih

theorem keeps_importedName (hI : ∀ x, Closed K own (I x)) (level : Nat) (path : String) :
    Keeps K I (importedName frame level path) := by
  unfold importedName
  split
  · exact keeps_pure
  · exact (keeps_look _).bind fun _ => keeps_absoluteName hI _ _ _

theorem keeps_runImportFrom (hI : ∀ x, Closed K own (I x)) (h : frame.Apart K own) (pos : Pos)
    (level : Nat) (path : String) (items : List Alias) :
    Keeps K I (runImportFrom frame pos level path items) :=
  ((keeps_importedName hI level path).here _ _).bind fun _ =>
    ((keeps_importFor hI _ _).here _ _).bind fun m => keeps_bindItems hI h pos m items

theorem keeps_runImportAll (hI : ∀ x, Closed K own (I x)) (h : frame.Apart K own) (pos : Pos)
    (level : Nat) (path : String) : Keeps K I (runImportAll frame pos level path) :=
  ((keeps_importedName hI level path).here _ _).bind fun _ =>
    ((keeps_importFor hI _ _).here _ _).bind fun m =>
      ((keeps_publicNames hI m).here _ _).bind fun names => keeps_bindPublic hI h pos m names

/-! Calls and waiting. -/

theorem keeps_bindCall (hI : ∀ x, Closed K own (I x)) (title : String) (receiver : Nat)
    (params : List Parameter) (args : List Value) (keywords : List (String × Value)) :
    Keeps K I (bindCall title receiver params args keywords) :=
  keeps_ofExcept hI _

/-- Those who call handle no exception at an address kept. -/
def Frame.Caller.Apart (K : Address → Prop) (caller : Frame.Caller) : Prop :=
  ∀ a, caller.handling = some a → ¬K a

theorem apart_ofCall {caller : Frame.Caller} (hc : caller.Apart K) (f : Function)
    {scope : Address} (hs : ¬K scope) : (Frame.ofCall caller f scope).Apart K own :=
  ⟨.inr hs, hc⟩

theorem keeps_runBody (hI : ∀ x, Closed K own (I x)) (hr : KeepsBlocks K own I run)
    {caller : Frame.Caller} (hc : caller.Apart K) (f : Function) (bound : Bindings) :
    Keeps K I (runBody run caller f bound) := by
  unfold runBody
  split
  · exact keeps_fail hI _
  · refine (gives_act hI (gives_openScope f bound)).bind fun scope hs =>
      (hr _ _ (apart_ofCall hc f hs)).bind fun flow => ?_
    cases flow <;> exact keeps_pure

theorem keeps_callTensorClass (hI : ∀ x, Closed K own (I x)) (args : List Value)
    (keywords : List (String × Value)) : Keeps K I (callTensorClass args keywords) :=
  (keeps_bindCall hI _ _ _ _ _).bind fun _ => keeps_act hI (spares_make _)

theorem keeps_converted (hI : ∀ x, Closed K own (I x)) (c : Option (Conversion Value)) :
    Keeps K I (converted c) := by
  unfold converted
  split
  · exact keeps_pure
  · exact keeps_fail hI _
  · exact keeps_pure

theorem keeps_callMethod (hI : ∀ x, Closed K own (I x))
    {call : Value → List Value → List (String × Value) → Eval Value}
    (hcall : ∀ v args keywords, Keeps K I (call v args keywords)) (method : Method)
    (self : Address) (args : List Value) (keywords : List (String × Value)) :
    Keeps K I (callMethod call method self args keywords) := by
  refine (keeps_look _).bind fun own => (keeps_look _).bind fun type => ?_
  cases method with
  | makeTensor =>
    refine (keeps_bindCall hI _ _ _ _ _).bind fun bound =>
      (keeps_act hI (Bridge.spares_tensorArguments _ _)).bind fun arguments => ?_
    obtain ⟨data, flag⟩ := arguments
    dsimp only
    split
    · exact hcall _ _ _
    · exact keeps_pure
  | tensorData =>
    exact (keeps_bindCall hI _ _ _ _ _).bind fun _ => keeps_act hI (spares_getAttribute _ _)
  | hostList =>
    exact (keeps_bindCall hI _ _ _ _ _).bind fun _ => keeps_act hI (Bridge.spares_hostList _)
  | toHost =>
    refine (keeps_bindCall hI _ _ _ _ _).bind fun _ => ?_
    split
    · exact keeps_converted hI _
    · exact keeps_pure
  | toList =>
    refine (keeps_bindCall hI _ _ _ _ _).bind fun _ => ?_
    split
    · exact keeps_converted hI _
    · exact keeps_pure

theorem keeps_printItems (hI : ∀ x, Closed K own (I x)) (separator : String) (items : List Value) :
    Keeps K I (printItems separator items) := by
  match items with
  | [] => exact keeps_pure
  | [v] => exact (keeps_check hI _).bind fun _ => keeps_write hI _
  | v :: v' :: rest =>
    exact (keeps_check hI _).bind fun _ => (keeps_write hI _).bind fun _ =>
      (keeps_write hI _).bind fun _ => keeps_printItems hI separator (v' :: rest)

theorem keeps_print (hI : ∀ x, Closed K own (I x)) (args : List Value)
    (keywords : List (String × Value)) : Keeps K I (print args keywords) := by
  unfold print
  split
  · exact keeps_fail hI _
  · refine (keeps_check hI _).bind fun _ => (keeps_check hI _).bind fun _ =>
      (keeps_printItems hI _ _).bind fun _ => (keeps_write hI _).bind fun _ =>
        (keeps_look _).bind fun flush => ?_
    split
    · exact (keeps_perform hI fun x _ hs => (hI x).flushed hs).bind fun _ => keeps_pure
    · exact keeps_pure

theorem keeps_callBuiltin (hI : ∀ x, Closed K own (I x)) (f : Builtin) (args : List Value)
    (keywords : List (String × Value)) : Keeps K I (callBuiltin f args keywords) := by
  cases f with
  | print => exact keeps_print hI args keywords
  | _ => exact keeps_act hI (spares_callQuiet _ args keywords)

theorem gives_sealRaised (hI : ∀ x, Closed K own (I x)) {raised : Raised} (h : ¬K raised.exception) :
    Gives K I (sealRaised raised) fun raised => ¬K raised.exception := by
  refine (keeps_look _).bind fun e => ?_
  split
  · exact (keeps_keepTrace hI h).bind fun _ =>
      (gives_act hI (gives_construct _ _ _)).bind fun a ha =>
        (keeps_act hI (spares_modifyException ha _)).bind fun _ => gives_pure ha
  · exact gives_pure h

theorem keeps_awaitWork (hI : ∀ x, Closed K own (I x)) {perform : Work → Eval Value} {a : Address}
    (ha : ¬K a) {work : Work} (hw : Keeps K I (perform work))
    (progress : Progress) :
    Keeps K I (awaitWork perform a work progress) := by
  have hset (progress : Progress) : Keeps K I (setProgress a work progress) :=
    keeps_act hI (spares_setNature ha)
  cases progress with
  | waiting =>
    refine (hset _).bind fun _ => hw.attempt.bind fun result hresult =>
      (hset _).bind fun _ => ?_
    cases result with
    | ok v => exact keeps_pure
    | error raised => exact (gives_sealRaised hI hresult).bind fun _ h => gives_throw h
  | _ => exact keeps_fail hI _

/-! The evaluation itself. -/

/-- Evaluation with a bound keeps what no step of code can break. -/
structure KeepsAll (K : Address → Prop) (own : Address) (I : ι → Scene → Prop) (n : Nat) : Prop where
  eval : ∀ frame e, Frame.Apart K own frame → Keeps K I (eval n frame e)
  call : ∀ caller v args keywords, Frame.Caller.Apart K caller →
    Keeps K I (call n caller v args keywords)
  await : ∀ caller v, Frame.Caller.Apart K caller → Keeps K I (await n caller v)
  exec : ∀ frame s, Frame.Apart K own frame → Keeps K I (exec n frame s)

variable {n : Nat}

theorem KeepsAll.blocks (h : KeepsAll K own I n) :
    KeepsBlocks K own I fun frame => runBlock (Execution.exec n frame) :=
  fun _ body hf => keeps_runBlock (fun s => h.exec _ s hf) body

theorem KeepsAll.eval_succ (hI : ∀ x, Closed K own (I x)) (ih : KeepsAll K own I n)
    (h : frame.Apart K own) (e : Expr) : Keeps K I (Execution.eval (n + 1) frame e) := by
  have hv (e : Expr) : Keeps K I (Execution.eval n frame e) := ih.eval frame e h
  cases e with
  | literal pos value => exact keeps_pure
  | name pos id => exact (keeps_readName hI id).here _ _
  | list pos items =>
    exact (keeps_evalAll hv items).bind fun _ => keeps_act hI (spares_make _)
  | tuple pos items =>
    exact (keeps_evalAll hv items).bind fun _ => keeps_act hI (spares_make _)
  | dict pos keys values =>
    exact (keeps_evalPairs hv keys values).bind fun _ =>
      (keeps_act hI (spares_makeMapping _)).here _ _
  | unary pos op operand => exact (hv operand).bind fun _ => (keeps_check hI _).here _ _
  | binary pos op left right =>
    exact (hv left).bind fun _ => (hv right).bind fun _ =>
      (keeps_act hI (spares_binary _ _ _ _)).here _ _
  | compare pos left ops rights =>
    exact (hv left).bind fun _ => keeps_evalComparisons hI hv pos _ ops rights
  | junction pos isAnd operands => exact keeps_evalJunction hv isAnd operands
  | conditional pos test yes no =>
    refine (hv test).bind fun _ => (keeps_look _).bind fun t => ?_
    split
    · exact hv yes
    · exact hv no
  | subscript pos container index =>
    exact (hv container).bind fun _ => (hv index).bind fun _ => (keeps_check hI _).here _ _
  | «attribute» pos line object id =>
    exact (hv object).bind fun _ => (keeps_act hI (spares_getAttribute _ _)).here _ _
  | call pos callee args keywords values =>
    exact (hv callee).bind fun _ => (keeps_evalAll hv args).bind fun _ =>
      (keeps_evalAll hv values).bind fun _ => (ih.call frame.caller _ _ _ h.handling).here _ _
  | await pos operand =>
    exact (hv operand).bind fun _ => (ih.await frame.caller _ h.handling).here _ _
  | yield pos e => exact keeps_pure

theorem KeepsAll.call_succ (hI : ∀ x, Closed K own (I x)) (ih : KeepsAll K own I n)
    {caller : Frame.Caller} (hc : caller.Apart K) (callee : Value) (args : List Value)
    (keywords : List (String × Value)) :
    Keeps K I (Execution.call (n + 1) caller callee args keywords) := by
  cases callee with
  | builtin f => exact keeps_callBuiltin hI f args keywords
  | kind k => exact (keeps_act hI (gives_construct _ _ _).spares).map _
  | tensorClass => exact keeps_callTensorClass hI args keywords
  | method method self =>
    exact keeps_callMethod hI (fun v args keywords => ih.call _ v args keywords hc) _ _ _ _
  | leave name => exact (keeps_bindCall hI _ _ _ _ _).bind fun _ => keeps_fail hI _
  | _ =>
    unfold Execution.call
    refine (keeps_look _).bind fun nature? => ?_
    split
    · refine (keeps_bindCall hI _ _ _ _ _).bind fun bound => ?_
      split
      · exact keeps_act hI (spares_make _)
      · exact keeps_runBody hI ih.blocks hc _ _
    · exact (keeps_look _).bind fun _ => keeps_fail hI _

theorem KeepsAll.await_succ (hI : ∀ x, Closed K own (I x)) (ih : KeepsAll K own I n)
    {caller : Frame.Caller} (hc : caller.Apart K) (awaited : Value) :
    Keeps K I (Execution.await (n + 1) caller awaited) := by
  refine (gives_look hI (·.natureOf awaited)).bind ?_
  rintro _ ⟨store, hg, rfl⟩
  split
  next a work progress hn =>
    refine keeps_awaitWork hI (hg.not_of_nature hn (by simp)) ?_ progress
    cases work with
    | tick => exact keeps_turn.bind fun _ => keeps_pure
    | answer v => exact keeps_turn.bind fun _ => keeps_pure
    | call f bound => exact keeps_runBody hI ih.blocks hc f bound
  next => exact (keeps_look _).bind fun _ => keeps_fail hI _

theorem KeepsAll.exec_succ (hI : ∀ x, Closed K own (I x)) (ih : KeepsAll K own I n)
    (h : frame.Apart K own) (s : Stmt) : Keeps K I (Execution.exec (n + 1) frame s) := by
  have hv (e : Expr) : Keeps K I (Execution.eval n frame e) := ih.eval frame e h
  have hblock (body : List Stmt) : Keeps K I (runBlock (Execution.exec n frame) body) :=
    ih.blocks frame body h
  have htest (e : Expr) : Keeps K I (do
      let v ← Execution.eval n frame e
      Eval.look (·.truth v)) := (hv e).bind fun _ => keeps_look _
  cases s with
  | expr pos e => exact (hv e).bind fun _ => keeps_pure
  | assign pos targets e =>
    exact (hv e).bind fun v => (keeps_assignAll hI h hv v targets).bind fun _ => keeps_pure
  | augment pos target op e =>
    exact (keeps_augment hI h hv pos op target e).bind fun _ => keeps_pure
  | delete pos targets => exact (keeps_deleteEach hI h hv targets).bind fun _ => keeps_pure
  | pass pos => exact keeps_pure
  | assert pos e message =>
    refine (htest e).bind fun t => ?_
    split
    · exact keeps_pure
    · cases message with
      | none => exact keeps_pure.bind fun _ => (keeps_fail hI _).here _ _
      | some e => exact ((hv e).map _).bind fun _ => (keeps_fail hI _).here _ _
  | raise pos value cause =>
    cases value with
    | none => exact keeps_raiseHandled hI h pos
    | some e =>
      refine (hv e).bind fun v => ?_
      cases cause with
      | none => exact (keeps_raiseValue hI v none).here _ _
      | some e => exact ((hv e).map _).bind fun because => (keeps_raiseValue hI v because).here _ _
  | importModules pos items =>
    exact (keeps_bindModules hI h pos items).bind fun _ => keeps_pure
  | importFrom pos level path items =>
    exact (keeps_runImportFrom hI h pos level path items).bind fun _ => keeps_pure
  | importAll pos level path asterisk =>
    exact (keeps_runImportAll hI h pos level path).bind fun _ => keeps_pure
  | branch pos e yes no =>
    refine (htest e).bind fun t => ?_
    split
    · exact hblock yes
    · exact hblock no
  | forEach pos target source body after =>
    refine (hv source).bind fun v => ((keeps_act hI (spares_begin v)).here _ _).bind fun start =>
      (keeps_rounds ?_ _ _).bind fun ending => keeps_afterLoop (hblock after) ending
    refine keeps_itemRound (fun cursor => (keeps_act hI (spares_next cursor)).here _ _) fun item => ?_
    exact (keeps_assignTo hI h hv target item).bind fun _ => hblock body
  | loop pos e body after =>
    exact (keeps_rounds (keeps_testRound (htest e) (hblock body)) _ _).bind
      fun ending => keeps_afterLoop (hblock after) ending
  | attempt pos body handlers otherwise finally_ =>
    exact keeps_runAttempt hI h hv ih.blocks body handlers otherwise finally_
  | define pos isAsync name params body =>
    exact (keeps_evalDefaults hv params).bind fun parameters =>
      (keeps_act hI (spares_make _)).bind fun f =>
        (keeps_bindName hI h name f).bind fun _ => keeps_pure
  | returns pos e =>
    cases e with
    | none => exact keeps_pure
    | some e => exact (hv e).map _
  | breaks pos => exact keeps_pure
  | continues pos => exact keeps_pure

theorem keepsAll (hI : ∀ x, Closed K own (I x)) (n : Nat) : KeepsAll K own I n := by
  induction n with
  | zero =>
    exact ⟨fun _ _ _ => keeps_exhausted, fun _ _ _ _ _ => keeps_exhausted,
      fun _ _ _ => keeps_exhausted, fun _ _ _ => keeps_exhausted⟩
  | succ n ih =>
    exact ⟨fun _ e h => ih.eval_succ hI h e, fun _ v args keywords h => ih.call_succ hI h v args keywords,
      fun _ v h => ih.await_succ hI h v, fun _ s h => ih.exec_succ hI h s⟩

end Chunkwise.Execution
