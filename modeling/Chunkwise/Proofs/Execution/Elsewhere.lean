import Chunkwise.Proofs.Execution.Likeness

/-!
Code does the same wherever it stands. Expressions and statements that are the same but for places
do and give the same in scenes that are alike.
-/
namespace Chunkwise.Execution
open Code Store Store.Action Eval

variable {α β : Type}

/-! Importing in code. -/

namespace Eval

theorem alike_importModule (path : Path) :
    Alike (Eval.importModule path) (Eval.importModule path) :=
  alike_perform fun _ _ hs => hs.importModule path

theorem alike_moduleValue (name : String) : Alike (moduleValue name) (moduleValue name) :=
  alike_read fun _ _ hs => by rw [hs.module?]

theorem alike_ownName (m : Value) : Alike (ownName? m) (ownName? m) := by
  refine (alike_act (blind_attribute _ _)).bind fun name => ?_
  split <;> exact alike_pure

theorem alike_cannotImport (m : Value) (name : String) :
    Alike (cannotImport m name) (cannotImport m name) :=
  (alike_ownName m).bind fun _ => (alike_act (blind_attribute _ _)).bind fun _ => alike_fail rfl

theorem alike_moduleItem (m : Value) (name : String) :
    Alike (moduleItem m name) (moduleItem m name) := by
  refine (alike_act (blind_attribute _ _)).bind fun held => ?_
  rcases held with _ | held
  · refine (alike_ownName m).bind fun owner => ?_
    rcases owner with _ | owner
    · exact alike_cannotImport _ _
    · refine (alike_read fun _ _ hs => hs.module? _).bind fun inner => ?_
      rcases inner with _ | inner
      · exact alike_cannotImport _ _
      · exact alike_pure
  · exact alike_pure

theorem alike_innermost (path : Path) : Alike (innermost path) (innermost path) := by
  match path with
  | [] => exact alike_pure
  | [name] => exact alike_moduleValue name
  | inner :: parent :: outer =>
    exact (alike_innermost (parent :: outer)).bind fun _ => alike_moduleItem _ _

theorem alike_importAs (item : Alias) : Alike (importAs item) (importAs item) := by
  refine (alike_importModule _).bind fun _ => (alike_importModule _).bind fun _ => ?_
  split
  · exact alike_innermost _
  · exact alike_moduleValue _

/-- The class of an exception does not depend on places. -/
theorem agree_exceptionAt (a : Address) :
    Agree (fun e e' : Exception => e.kind = e'.kind) (look (exceptionAt · a))
      (look (exceptionAt · a)) := by
  refine agree_look fun s t hs => ?_
  have hkind : (exceptionAt s a).unplaced.kind = (exceptionAt t a).unplaced.kind := by
    rw [exceptionAt_alike hs a]
  exact hkind

theorem alike_importInside (package : String) (names : List String) :
    Alike (importInside package names) (importInside package names) := by
  induction names with
  | nil => exact alike_pure
  | cons name rest ih =>
    refine (alike_moduleValue _).bind fun m => (alike_act (blind_attribute _ _)).bind fun held => ?_
    dsimp only
    split
    · refine Agree.bind (alike_importModule _).attempt fun result result' hresult => ?_
      cases result <;> cases result'
      next raised raised' =>
        obtain ⟨a, trace⟩ := raised
        obtain rfl : a = raised'.exception := hresult
        refine Agree.bind (agree_exceptionAt _) fun e e' he => ?_
        rw [he]
        split
        · exact Agree.bind (agree_throw (R := fun _ _ => True) rfl) fun _ _ _ => ih
        · exact ih
      · exact hresult.elim
      · exact hresult.elim
      · exact ih
    · exact ih

theorem alike_importFor (package : String) (names : List String) :
    Alike (importFor package names) (importFor package names) := by
  refine (alike_importModule _).bind fun _ =>
    (alike_read fun _ _ hs => hs.isPackage package).bind fun isPackage => ?_
  dsimp only
  split
  · exact (alike_importInside _ _).bind fun _ => alike_moduleValue _
  · exact alike_moduleValue _

theorem alike_mapM {β γ : Type} {f f' : γ → Eval β} (h : ∀ c, Alike (f c) (f' c))
    (items : List γ) : Alike (items.mapM f) (items.mapM f') := by
  suffices hloop : ∀ items done, Alike (List.mapM.loop f items done) (List.mapM.loop f' items done)
    from hloop items []
  intro items
  induction items with
  | nil => exact fun _ => alike_pure
  | cons c items ih => exact fun _ => (h c).bind fun _ => ih _

theorem alike_publicNames (m : Value) : Alike (publicNames m) (publicNames m) := by
  refine (alike_act (blind_attribute _ _)).bind fun all => ?_
  rcases all with _ | all
  · refine (alike_look fun s => ?_).bind fun _ => alike_pure
    cases m with
    | ref a =>
      simp only [get?_unplaced]
      cases s.get? a <;> rfl
    | _ => rfl
  · refine (alike_act (blind_drain _)).bind fun items => alike_mapM (fun v => ?_) items
    split
    · exact alike_pure
    · exact (alike_look fun s => s.typeName_unplaced _).bind fun _ =>
        (alike_ownName m).bind fun _ => alike_fail rfl

theorem alike_packageOf (globals : Bindings) : Alike (packageOf globals) (packageOf globals) := by
  unfold packageOf
  dsimp only
  split
  · exact alike_pure
  · exact alike_fail rfl
  · refine (alike_act (blind_getAttribute _ _)).bind fun parent => ?_
    split
    · exact alike_pure
    · exact alike_fail rfl
  · split
    · exact alike_fail rfl
    · split
      · exact alike_pure
      · split
        · exact alike_fail rfl
        · exact alike_pure
    · exact alike_fail rfl

theorem alike_absoluteName (globals : Bindings) (level : Nat) (name : String) :
    Alike (absoluteName globals level name) (absoluteName globals level name) := by
  refine (alike_packageOf _).bind fun package => ?_
  dsimp only
  split
  · exact alike_fail rfl
  · split
    · exact alike_fail rfl
    · exact alike_pure

end Eval

/-! Frames and targets. -/

/-- The frame, whatever file its code stands in. -/
def Frame.unplaced (frame : Frame) : Frame :=
  { frame with file := "" }

theorem Frame.close_unplaced (frame : Frame) (isAsync : Bool) (name : String)
    (params : List Parameter) (body : List Stmt) :
    (frame.close isAsync name params body).unplaced =
      (frame.unplaced.close isAsync name params (body.map Stmt.unplaced)).unplaced := by
  have hpath : frame.unplaced.pathOf name = frame.pathOf name := rfl
  have hglobals : frame.unplaced.globals = frame.globals := rfl
  have hscope : frame.unplaced.scope = frame.scope := rfl
  simp [Function.unplaced, Frame.close, hpath, hglobals, hscope]

theorem mayBind_unplaced (s : Store) (scope : Address) (id : String) :
    mayBind s.unplaced scope id = mayBind s scope id := by
  simp only [mayBind, scope?_unplaced]

theorem enclosing_unplaced (s : Store) (id : String) (n : Nat) (scope : Address) :
    enclosing s.unplaced id n scope = enclosing s id n scope := by
  induction n generalizing scope with
  | zero => rfl
  | succ n ih => simp only [enclosing, scope?_unplaced, mayBind_unplaced, ih]

theorem Frame.lookup_unplaced (frame : Frame) (s : Store) (id : String) :
    frame.lookup s.unplaced id = frame.lookup s id := by
  simp only [Frame.lookup, Frame.holder, mayBind_unplaced, enclosing_unplaced, size_unplaced,
    names_unplaced]

theorem alike_readName (frame : Frame) (id : String) :
    Alike (frame.read id) (frame.unplaced.read id) :=
  alike_check fun s => frame.lookup_unplaced s id

theorem alike_mapNames (a : Address) (f : Bindings → Bindings) :
    Alike (Eval.change (·.mapNames a f)) (Eval.change (·.mapNames a f)) :=
  alike_change fun s t hs => by rw [unplaced_mapNames, unplaced_mapNames, hs]

theorem alike_bindName (frame : Frame) (id : String) (v : Value) :
    Alike (frame.bind id v) (frame.unplaced.bind id v) :=
  alike_mapNames frame.target _

theorem alike_forget (frame : Frame) (id : String) :
    Alike (frame.forget id) (frame.unplaced.forget id) :=
  alike_mapNames frame.target _

theorem alike_unbind (frame : Frame) (id : String) :
    Alike (frame.unbind id) (frame.unplaced.unbind id) := by
  refine (alike_look fun s => ?_).bind fun isBound => ?_
  · simp only [names_unplaced]
  · exact .ite .rfl (alike_forget frame id) (.ite .rfl (alike_fail rfl) (alike_fail rfl))

variable {value value' : Expr → Eval Value}

/-- A spot, wherever its parts stand. -/
def Spot.unplaced : Spot → Spot
  | .name _ id => .name default id
  | .item _ container index => .item default container index
  | .attribute _ object id => .attribute default object id

theorem agree_reach (hv : ∀ e, Alike (value e) (value' e.unplaced)) (e : Expr) :
    Agree (fun spot spot' => spot' = spot.map Spot.unplaced) (Spot.reach value e)
      (Spot.reach value' e.unplaced) := by
  cases e with
  | name pos id => exact agree_pure rfl
  | subscript pos container index =>
    exact (hv _).bind fun _ => (hv _).bind fun _ => agree_pure rfl
  | «attribute» pos line object id => exact (hv _).bind fun _ => agree_pure rfl
  | yield pos e => cases e <;> exact agree_pure rfl
  | _ => exact agree_pure rfl

theorem alike_get (frame : Frame) (spot : Spot) :
    Alike (spot.get frame) (spot.unplaced.get frame.unplaced) := by
  match spot with
  | .name pos id => exact (alike_readName frame id).here _ _ _ _
  | .item pos container index =>
    exact (alike_check fun s => s.subscript_unplaced container index).here _ _ _ _
  | .attribute pos object id => exact (alike_act (blind_getAttribute _ _)).here _ _ _ _

theorem alike_put (frame : Frame) (v : Value) (spot : Spot) :
    Alike (spot.put frame v) (spot.unplaced.put frame.unplaced v) := by
  match spot with
  | .name pos id => exact alike_bindName frame id v
  | .item pos container index => exact (alike_act (blind_setItem _ _ _)).here _ _ _ _
  | .attribute pos object id => exact (alike_act (blind_setAttribute _ _ _)).here _ _ _ _

theorem alike_remove (frame : Frame) (spot : Spot) :
    Alike (spot.remove frame) (spot.unplaced.remove frame.unplaced) := by
  match spot with
  | .name pos id => exact (alike_unbind frame id).here _ _ _ _
  | .item pos container index => exact (alike_act (blind_deleteItem _ _)).here _ _ _ _
  | .attribute pos object id => exact (alike_act (blind_deleteAttribute _ _)).here _ _ _ _

theorem alike_putAt (frame : Frame) (hv : ∀ e, Alike (value e) (value' e.unplaced)) (target : Expr)
    (v : Value) :
    Alike
      (do
        match ← Spot.reach value target with
        | some spot => spot.put frame v
        | none => pure ())
      (do
        match ← Spot.reach value' target.unplaced with
        | some spot => spot.put frame.unplaced v
        | none => pure ()) := by
  refine Agree.bind (agree_reach hv target) ?_
  rintro (_ | spot) _ rfl
  · exact alike_pure
  · exact alike_put frame v spot

theorem alike_removeAt (frame : Frame) (hv : ∀ e, Alike (value e) (value' e.unplaced))
    (target : Expr) :
    Alike
      (do
        match ← Spot.reach value target with
        | some spot => spot.remove frame
        | none => pure ())
      (do
        match ← Spot.reach value' target.unplaced with
        | some spot => spot.remove frame.unplaced
        | none => pure ()) := by
  refine Agree.bind (agree_reach hv target) ?_
  rintro (_ | spot) _ rfl
  · exact alike_pure
  · exact alike_remove frame spot

mutual

theorem alike_assignTo (frame : Frame) (hv : ∀ e, Alike (value e) (value' e.unplaced))
    (target : Expr) (v : Value) :
    Alike (assignTo frame value target v)
      (assignTo frame.unplaced value' target.unplaced v) := by
  cases target with
  | tuple pos targets | list pos targets =>
    simp only [Expr.unplaced, unplacedIn_eq, assignTo, List.length_map]
    exact ((alike_act (blind_spread _ _)).here _ _ _ _).bind fun _ =>
      alike_assignEach frame hv targets _
  | yield pos e => cases e <;> exact alike_putAt frame hv _ v
  | _ => exact alike_putAt frame hv _ v

theorem alike_assignEach (frame : Frame) (hv : ∀ e, Alike (value e) (value' e.unplaced))
    (targets : List Expr) (values : List Value) :
    Alike (assignEach frame value targets values)
      (assignEach frame.unplaced value' (targets.map Expr.unplaced) values) := by
  match targets, values with
  | target :: targets, v :: rest =>
    exact (alike_assignTo frame hv target v).bind fun _ => alike_assignEach frame hv targets rest
  | [], _ | _ :: _, [] => exact alike_pure

end

mutual

theorem alike_deleteTarget (frame : Frame) (hv : ∀ e, Alike (value e) (value' e.unplaced))
    (target : Expr) :
    Alike (deleteTarget frame value target)
      (deleteTarget frame.unplaced value' target.unplaced) := by
  cases target with
  | tuple pos targets | list pos targets =>
    simp only [Expr.unplaced, unplacedIn_eq, deleteTarget]
    exact alike_deleteEach frame hv targets
  | yield pos e => cases e <;> exact alike_removeAt frame hv _
  | _ => exact alike_removeAt frame hv _

theorem alike_deleteEach (frame : Frame) (hv : ∀ e, Alike (value e) (value' e.unplaced))
    (targets : List Expr) :
    Alike (deleteEach frame value targets)
      (deleteEach frame.unplaced value' (targets.map Expr.unplaced)) := by
  match targets with
  | [] => exact alike_pure
  | target :: targets =>
    exact (alike_deleteTarget frame hv target).bind fun _ => alike_deleteEach frame hv targets

end

theorem alike_assignAll (frame : Frame) (hv : ∀ e, Alike (value e) (value' e.unplaced)) (v : Value)
    (targets : List Expr) :
    Alike (assignAll frame value v targets)
      (assignAll frame.unplaced value' v (targets.map Expr.unplaced)) := by
  induction targets with
  | nil => exact alike_pure
  | cons target targets ih => exact (alike_assignTo frame hv target v).bind fun _ => ih

theorem alike_augment (frame : Frame) (hv : ∀ e, Alike (value e) (value' e.unplaced))
    (pos pos' : Pos) (op : BinaryOp) (target e : Expr) :
    Alike (augment frame value pos op target e)
      (augment frame.unplaced value' pos' op target.unplaced e.unplaced) := by
  refine Agree.bind (agree_reach hv target) ?_
  rintro (_ | spot) _ rfl
  · exact alike_pure
  · exact (alike_get frame spot).bind fun _ => (hv e).bind fun _ =>
      ((alike_act (blind_update _ _ _)).here _ _ _ _).bind fun _ => alike_put frame _ spot

/-! Raising and handling. -/

theorem alike_raiseValue (v : Value) (cause : Option Value) :
    Alike (raiseValue v cause) (raiseValue v cause) := by
  refine (alike_act (blind_raisedException _ _)).bind fun a => ?_
  rcases cause with _ | cause
  · exact agree_raiseAgain a
  · exact (alike_act (blind_setCause _ _)).bind fun _ => agree_raiseAgain a

theorem alike_raiseHandled (frame : Frame) (pos pos' : Pos) :
    Alike (raiseHandled frame pos) (raiseHandled frame.unplaced pos') := by
  obtain ⟨file, name, path, globals, scope, handling, level⟩ := frame
  cases handling with
  | some a => exact agree_raiseAgain a
  | none => exact (alike_fail rfl).here _ _ _ _

theorem handledKinds_unplaced (s : Store) (v : Value) :
    handledKinds s.unplaced v = handledKinds s v := by
  simp only [handledKinds, natureOf_unplaced]
  rcases s.natureOf v with _ | nature
  · rfl
  · cases nature <;> rfl

theorem agree_findHandler (frame : Frame) (hv : ∀ e, Alike (value e) (value' e.unplaced))
    (kind : Fault.Kind) (handlers : List Handler) :
    Agree (fun handler handler' => handler' = handler.map Handler.unplaced)
      (findHandler frame value kind handlers)
      (findHandler frame.unplaced value' kind (handlers.map Handler.unplaced)) := by
  match handlers with
  | [] => exact agree_pure rfl
  | .mk pos none as body :: _ => exact agree_pure rfl
  | .mk pos (some e) as body :: rest =>
    refine (hv e).bind fun v =>
      ((alike_check fun s => handledKinds_unplaced s v).here _ _ _ _).bind fun kinds => ?_
    exact .ite .rfl (agree_pure rfl) (agree_findHandler frame hv kind rest)

/-- Whatever block is run, and in whatever frame. -/
abbrev AlikeBlocks (run run' : Frame → List Stmt → Eval Flow) : Prop :=
  ∀ frame body, Alike (run frame body) (run' frame.unplaced (body.map Stmt.unplaced))

variable {run run' : Frame → List Stmt → Eval Flow}

theorem alike_runHandler (frame : Frame) (hr : AlikeBlocks run run') (a : Address)
    (handler : Handler) :
    Alike (runHandler frame run a handler) (runHandler frame.unplaced run' a handler.unplaced) := by
  obtain ⟨pos, kinds, as, body⟩ := handler
  cases as with
  | none => exact hr _ body
  | some name =>
    exact (alike_bindName frame name _).bind fun _ =>
      Agree.bind (hr _ body).attempt fun _ _ hresult =>
        (alike_forget frame name).bind fun _ => agree_ofResult hresult

theorem alike_runFinally (frame : Frame) (hr : AlikeBlocks run run') (body : List Stmt)
    {result result' : Except Raised Flow} (hresult : Same (· = ·) result result') :
    Alike (runFinally frame run body result)
      (runFinally frame.unplaced run' (body.map Stmt.unplaced) result') := by
  cases result <;> cases result'
  next raised raised' =>
    have ha : raised.exception = raised'.exception := hresult
    refine (alike_keepTrace ha).bind fun _ => ?_
    rw [ha]
    refine (hr { frame with handling := some raised'.exception } body).bind fun flow => ?_
    cases flow with
    | next => exact agree_raiseAgain _
    | _ => exact alike_pure
  · exact hresult.elim
  · exact hresult.elim
  next flow flow' =>
    obtain rfl : flow = flow' := hresult
    refine (hr frame body).bind fun other => ?_
    cases other <;> exact alike_pure

theorem alike_runGuarded (frame : Frame) (hv : ∀ e, Alike (value e) (value' e.unplaced))
    (hr : AlikeBlocks run run') (body : List Stmt) (handlers : List Handler)
    (otherwise : List Stmt) :
    Alike (runGuarded frame value run body handlers otherwise)
      (runGuarded frame.unplaced value' run' (body.map Stmt.unplaced)
        (handlers.map Handler.unplaced) (otherwise.map Stmt.unplaced)) := by
  refine Agree.bind (hr frame body).attempt fun result result' hresult => ?_
  cases result <;> cases result'
  next raised raised' =>
    have ha : raised.exception = raised'.exception := hresult
    refine (alike_keepTrace ha).bind fun _ => ?_
    dsimp only
    rw [ha]
    refine Agree.bind (agree_exceptionAt _) fun e e' he => ?_
    rw [← he]
    refine Agree.bind (agree_findHandler { frame with handling := some raised'.exception } hv e.kind
      handlers) ?_
    rintro (_ | handler) _ rfl
    · exact agree_raiseAgain _
    · exact alike_runHandler frame hr _ handler
  · exact hresult.elim
  · exact hresult.elim
  next flow flow' =>
    obtain rfl : flow = flow' := hresult
    cases flow with
    | next => exact hr frame otherwise
    | _ => exact alike_pure

theorem alike_runAttempt (frame : Frame) (hv : ∀ e, Alike (value e) (value' e.unplaced))
    (hr : AlikeBlocks run run') (body : List Stmt) (handlers : List Handler)
    (otherwise finally_ : List Stmt) :
    Alike (runAttempt frame value run body handlers otherwise finally_)
      (runAttempt frame.unplaced value' run' (body.map Stmt.unplaced)
        (handlers.map Handler.unplaced) (otherwise.map Stmt.unplaced)
        (finally_.map Stmt.unplaced)) :=
  Agree.bind (alike_runGuarded frame hv hr body handlers otherwise).attempt fun _ _ hresult =>
    alike_runFinally frame hr finally_ hresult

/-! The parts of expressions and statements. -/

theorem alike_runBlock {run run' : Stmt → Eval Flow} (hr : ∀ s, Alike (run s) (run' s.unplaced))
    (body : List Stmt) : Alike (runBlock run body) (runBlock run' (body.map Stmt.unplaced)) := by
  induction body with
  | nil => exact alike_pure
  | cons s rest ih =>
    refine (hr s).bind fun flow => ?_
    cases flow with
    | next => exact ih
    | _ => exact alike_pure

theorem alike_evalAll (hv : ∀ e, Alike (value e) (value' e.unplaced)) (items : List Expr) :
    Alike (evalAll value items) (evalAll value' (items.map Expr.unplaced)) := by
  induction items with
  | nil => exact alike_pure
  | cons e rest ih => exact (hv e).bind fun _ => ih.bind fun _ => alike_pure

theorem alike_evalPairs (hv : ∀ e, Alike (value e) (value' e.unplaced)) (keys values : List Expr) :
    Alike (evalPairs value keys values)
      (evalPairs value' (keys.map Expr.unplaced) (values.map Expr.unplaced)) := by
  induction keys generalizing values with
  | nil => exact alike_pure
  | cons k keys ih =>
    cases values with
    | nil => exact alike_pure
    | cons e values =>
      exact (hv k).bind fun _ => (hv e).bind fun _ => (ih values).bind fun _ => alike_pure

theorem alike_truth (v : Value) : Alike (Eval.look (·.truth v)) (Eval.look (·.truth v)) :=
  alike_look fun s => s.truth_unplaced v

theorem alike_evalJunction (hv : ∀ e, Alike (value e) (value' e.unplaced)) (isAnd : Bool)
    (operands : List Expr) :
    Alike (evalJunction value isAnd operands)
      (evalJunction value' isAnd (operands.map Expr.unplaced)) := by
  match operands with
  | [] => exact alike_pure
  | [e] => exact hv e
  | e :: e' :: rest =>
    exact (hv e).bind fun v => (alike_truth v).bind fun t =>
      .ite .rfl (alike_evalJunction hv isAnd (e' :: rest)) alike_pure

theorem alike_evalComparisons (frame : Frame) (pos pos' : Pos)
    (hv : ∀ e, Alike (value e) (value' e.unplaced)) (left : Value) (ops : List Comparison)
    (rights : List Expr) :
    Alike (evalComparisons frame pos value left ops rights)
      (evalComparisons frame.unplaced pos' value' left ops (rights.map Expr.unplaced)) := by
  induction ops generalizing left rights with
  | nil => exact alike_pure
  | cons op ops ih =>
    cases rights with
    | nil => exact alike_pure
    | cons e rest =>
      refine (hv e).bind fun right =>
        ((alike_act (blind_compared _ _ _)).here _ _ _ _).bind fun holds => ?_
      cases ops with
      | nil => exact alike_pure
      | cons op' ops => exact .ite .rfl (ih right rest) alike_pure

theorem alike_afterLoop {after after' : Eval Flow} (h : Alike after after')
    (ending : Flow × Bool) : Alike (afterLoop after ending) (afterLoop after' ending) := by
  obtain ⟨flow, isDone⟩ := ending
  cases flow <;> cases isDone <;> first | exact h | exact alike_pure

theorem alike_itemRound {next next' : Cursor → Eval (Option (Value × Cursor))}
    {body body' : Value → Eval Flow} (hnext : ∀ cursor, Alike (next cursor) (next' cursor))
    (hbody : ∀ v, Alike (body v) (body' v)) (cursor : Cursor) :
    Alike (itemRound next body cursor) (itemRound next' body' cursor) := by
  refine (hnext cursor).bind fun found => ?_
  rcases found with _ | ⟨v, cursor⟩
  · exact alike_pure
  · exact (hbody v).bind fun _ => alike_pure

theorem alike_testRound {test test' : Eval Bool} {body body' : Eval Flow}
    (htest : Alike test test') (hbody : Alike body body') (u : Unit) :
    Alike (testRound test body u) (testRound test' body' u) :=
  htest.bind fun _ => .ite .rfl (hbody.bind fun _ => alike_pure) alike_pure

theorem alike_evalDefaults (hv : ∀ e, Alike (value e) (value' e.unplaced)) (params : List Param) :
    Alike (evalDefaults value params) (evalDefaults value' (params.map Param.unplaced)) := by
  induction params with
  | nil => exact alike_pure
  | cons p rest ih =>
    obtain ⟨name, default⟩ := p
    cases default with
    | none => exact alike_pure.bind fun _ => ih.bind fun _ => alike_pure
    | some e => exact (Alike.map _ (hv e)).bind fun _ => ih.bind fun _ => alike_pure

theorem alike_bindModules (frame : Frame) (pos pos' : Pos) (items : List Alias) :
    Alike (bindModules frame pos items) (bindModules frame.unplaced pos' items) := by
  induction items with
  | nil => exact alike_pure
  | cons item rest ih =>
    exact ((alike_importAs item).here _ _ _ _).bind fun _ =>
      (alike_bindName frame _ _).bind fun _ => ih

theorem alike_bindItems (frame : Frame) (pos pos' : Pos) (m : Value) (items : List Alias) :
    Alike (bindItems frame pos m items) (bindItems frame.unplaced pos' m items) := by
  induction items with
  | nil => exact alike_pure
  | cons item rest ih =>
    exact ((alike_moduleItem m _).here _ _ _ _).bind fun _ =>
      (alike_bindName frame _ _).bind fun _ => ih

theorem alike_bindPublic (frame : Frame) (pos pos' : Pos) (m : Value) (names : List String) :
    Alike (bindPublic frame pos m names) (bindPublic frame.unplaced pos' m names) := by
  induction names with
  | nil => exact alike_pure
  | cons name rest ih =>
    exact ((alike_act (blind_getAttribute _ _)).here _ _ _ _).bind fun _ =>
      (alike_bindName frame _ _).bind fun _ => ih

theorem alike_importedName (frame : Frame) (level : Nat) (path : String) :
    Alike (importedName frame level path) (importedName frame.unplaced level path) :=
  .ite .rfl alike_pure
    ((alike_look fun s => s.names_unplaced _).bind fun _ => alike_absoluteName _ _ _)

theorem alike_runImportFrom (frame : Frame) (pos pos' : Pos) (level : Nat) (path : String)
    (items : List Alias) :
    Alike (runImportFrom frame pos level path items)
      (runImportFrom frame.unplaced pos' level path items) :=
  ((alike_importedName frame level path).here _ _ _ _).bind fun _ =>
    ((alike_importFor _ _).here _ _ _ _).bind fun m => alike_bindItems frame pos pos' m items

theorem alike_runImportAll (frame : Frame) (pos pos' : Pos) (level : Nat) (path : String) :
    Alike (runImportAll frame pos level path) (runImportAll frame.unplaced pos' level path) :=
  ((alike_importedName frame level path).here _ _ _ _).bind fun _ =>
    ((alike_importFor _ _).here _ _ _ _).bind fun m =>
      ((alike_publicNames m).here _ _ _ _).bind fun names =>
        alike_bindPublic frame pos pos' m names

/-! Calls and waiting. -/

theorem alike_bindCall (title : String) (receiver : Nat) (params : List Parameter)
    (args : List Value) (keywords : List (String × Value)) :
    Alike (bindCall title receiver params args keywords)
      (bindCall title receiver params args keywords) :=
  alike_ofExcept rfl

theorem alike_runBlocks (hr : AlikeBlocks run run') {frame frame' : Frame} {body body' : List Stmt}
    (hframe : frame.unplaced = frame'.unplaced)
    (hbody : body.map Stmt.unplaced = body'.map Stmt.unplaced) :
    Alike (run frame body) (run frame' body') := by
  have h := hr frame body
  rw [hframe, hbody] at h
  exact h.trans (hr frame' body').symm

theorem alike_runBody (hr : AlikeBlocks run run') (caller : Frame.Caller) {f f' : Function}
    (h : f.unplaced = f'.unplaced) (bound : Bindings) :
    Alike (runBody run caller f bound) (runBody run caller f' bound) := by
  refine .ite .rfl (alike_fail rfl) ((alike_act (alike_openScope h bound)).bind fun scope => ?_)
  have hframe : (Frame.ofCall caller f scope).unplaced = (Frame.ofCall caller f' scope).unplaced :=
    congrArg (Frame.ofCall caller · scope) h
  have hbody : f.unplaced.body = f'.unplaced.body := by rw [h]
  refine (alike_runBlocks hr hframe hbody).bind fun flow => ?_
  cases flow <;> exact alike_pure

/-- A call of a function that is the same but for places. -/
theorem alike_enter (hr : AlikeBlocks run run') (caller : Frame.Caller) (args : List Value)
    (keywords : List (String × Value)) {f f' : Function} (h : f.unplaced = f'.unplaced) :
    Alike
      (do
        let bound ← bindCall f.path 0 f.params args keywords
        if f.isAsync then Eval.act (makeWork (.call f bound)) else runBody run caller f bound)
      (do
        let bound ← bindCall f'.path 0 f'.params args keywords
        if f'.isAsync then Eval.act (makeWork (.call f' bound))
        else runBody run caller f' bound) := by
  have hpath : f.unplaced.path = f'.unplaced.path := by rw [h]
  have hparams : f.unplaced.params = f'.unplaced.params := by rw [h]
  have hasync : f.unplaced.isAsync = f'.unplaced.isAsync := by rw [h]
  change f.path = f'.path at hpath
  change f.params = f'.params at hparams
  change f.isAsync = f'.isAsync at hasync
  rw [hpath, hparams, hasync]
  have hwork (bound : Bindings) : Alike (Eval.act (makeWork (.call f bound)))
      (Eval.act (makeWork (.call f' bound))) :=
    alike_act (alike_make (congrArg
      (fun f => { nature := .coroutine (.call f bound) .waiting : Object }) h))
  exact (alike_bindCall _ _ _ _ _).bind fun bound =>
    .ite .rfl (hwork bound) (alike_runBody hr caller h bound)

theorem alike_wrongType (v : Value) (complaint : String → Fault) :
    Alike (do
        let type ← Eval.look (·.typeName v)
        (Eval.fail (complaint type) : Eval α))
      (do
        let type ← Eval.look (·.typeName v)
        Eval.fail (complaint type)) :=
  (alike_look fun s => s.typeName_unplaced v).bind fun _ => alike_fail rfl

theorem alike_callTensorClass (args : List Value) (keywords : List (String × Value)) :
    Alike (callTensorClass args keywords) (callTensorClass args keywords) :=
  (alike_bindCall _ _ _ _ _).bind fun _ => alike_act (blind_make _)

theorem alike_converted (c : Option (Conversion Value)) : Alike (converted c) (converted c) := by
  unfold converted
  split
  · exact alike_pure
  · exact alike_fail rfl
  · exact alike_pure

theorem agree_nature (a : Address) :
    Agree FoundAlike (Eval.look (·.nature? a)) (Eval.look (·.nature? a)) :=
  agree_look fun _ _ hs => natureOf_alike hs (.ref a)

theorem agree_natureOf (v : Value) :
    Agree FoundAlike (Eval.look (·.natureOf v)) (Eval.look (·.natureOf v)) :=
  agree_look fun _ _ hs => natureOf_alike hs v

theorem alike_typeName (v : Value) :
    Alike (Eval.look (·.typeName v)) (Eval.look (·.typeName v)) :=
  alike_look fun s => s.typeName_unplaced v

theorem alike_callMethod {call : Value → List Value → List (String × Value) → Eval Value}
    (hcall : ∀ v args keywords, Alike (call v args keywords) (call v args keywords))
    (method : Method) (self : Address) (args : List Value) (keywords : List (String × Value)) :
    Alike (callMethod call method self args keywords)
      (callMethod call method self args keywords) := by
  refine Agree.bind (agree_nature self) fun own own' hown => (alike_typeName _).bind fun type => ?_
  cases method with
  | makeTensor =>
    refine (alike_bindCall _ _ _ _ _).bind fun bound =>
      (alike_act (Bridge.blind_tensorArguments _ _)).bind fun arguments => ?_
    obtain ⟨data, flag⟩ := arguments
    cases hown with
    | same =>
      dsimp only
      split
      · exact hcall _ _ _
      · exact alike_pure
    | _ => exact alike_pure
  | tensorData =>
    exact (alike_bindCall _ _ _ _ _).bind fun _ => alike_act (blind_getAttribute _ _)
  | hostList =>
    exact (alike_bindCall _ _ _ _ _).bind fun _ => alike_act (Bridge.blind_hostList _)
  | toHost | toList =>
    refine (alike_bindCall _ _ _ _ _).bind fun _ => ?_
    cases hown with
    | same =>
      split
      · exact alike_converted _
      · exact alike_pure
    | _ => exact alike_pure

theorem alike_printItems (separator : String) (items : List Value) :
    Alike (printItems separator items) (printItems separator items) := by
  have htext (v : Value) : Alike (Eval.check (·.text v)) (Eval.check (·.text v)) :=
    alike_complain fun s => s.text_unplaced v
  match items with
  | [] => exact alike_pure
  | [v] => exact (htext v).bind fun _ => alike_write _
  | v :: v' :: rest =>
    exact (htext v).bind fun _ => (alike_write _).bind fun _ =>
      (alike_write _).bind fun _ => alike_printItems separator (v' :: rest)

theorem printMark_unplaced (s : Store) (name dflt : String) (keywords : List (String × Value)) :
    printMark s.unplaced name dflt keywords = printMark s name dflt keywords := by
  simp only [printMark, typeName_unplaced]

theorem alike_print (args : List Value) (keywords : List (String × Value)) :
    Alike (print args keywords) (print args keywords) := by
  have hmark (name dflt : String) : Alike (Eval.check (printMark · name dflt keywords))
      (Eval.check (printMark · name dflt keywords)) :=
    alike_check fun s => printMark_unplaced s name dflt keywords
  have hflush : Alike (Eval.perform Scene.flush) (Eval.perform Scene.flush) :=
    alike_perform fun s t hs => by
      obtain ⟨htaken, htaken', hscene⟩ := hs.flush
      exact ⟨by rw [htaken, htaken'], hscene⟩
  unfold print
  split
  · exact alike_fail rfl
  · refine (hmark _ _).bind fun _ => (hmark _ _).bind fun _ =>
      (alike_printItems _ _).bind fun _ => (alike_write _).bind fun _ =>
        (alike_look fun s => ?_).bind fun flush => ?_
    · cases keywords.lookup "flush" with
      | none => rfl
      | some v => exact s.truth_unplaced v
    · exact .ite .rfl (hflush.bind fun _ => alike_pure) alike_pure

theorem alike_callBuiltin (f : Builtin) (args : List Value) (keywords : List (String × Value)) :
    Alike (callBuiltin f args keywords) (callBuiltin f args keywords) := by
  cases f with
  | print => exact alike_print args keywords
  | _ => exact alike_act (blind_callQuiet _ args keywords)

theorem agree_sealRaised {raised raised' : Raised} (h : raised.exception = raised'.exception) :
    Agree (fun r r' : Raised => r.exception = r'.exception) (sealRaised raised)
      (sealRaised raised') := by
  unfold sealRaised
  rw [h]
  refine Agree.bind (agree_exceptionAt _) fun e e' he => ?_
  rw [he]
  have hcause (a : Address) : Blind (modifyException a fun e =>
      { e with cause := some raised'.exception }) :=
    alike_modifyException a fun e e' h =>
      congrArg (fun e : Exception => { e with cause := some raised'.exception }) h
  exact .ite .rfl
    ((alike_keepTrace h).bind fun _ => (alike_act (blind_construct _ _ _)).bind fun a =>
      (alike_act (hcause a)).bind fun _ => agree_pure rfl)
    (agree_pure h)

theorem alike_awaitWork {perform perform' : Work → Eval Value} (a : Address) {work work' : Work}
    (hwork : work.unplaced = work'.unplaced) (h : Alike (perform work) (perform' work'))
    (progress : Progress) :
    Alike (awaitWork perform a work progress) (awaitWork perform' a work' progress) := by
  have hset (progress : Progress) : Alike (setProgress a work progress)
      (setProgress a work' progress) :=
    alike_act (alike_setNature a (congrArg (Nature.coroutine · progress) hwork))
  cases progress with
  | waiting =>
    refine (hset _).bind fun _ => Agree.bind h.attempt fun result result' hresult =>
      (hset _).bind fun _ => ?_
    cases result <;> cases result'
    · exact Agree.bind (agree_sealRaised hresult) fun _ _ h => agree_throw h
    · exact hresult.elim
    · exact hresult.elim
    · exact agree_pure hresult
  | _ => exact alike_fail rfl

/-! The evaluation itself. -/

/-- Evaluation with a bound does the same with code that is the same but for places. -/
structure AlikeAll (n : Nat) : Prop where
  eval : ∀ frame e, Alike (eval n frame e) (eval n frame.unplaced e.unplaced)
  call : ∀ caller v args keywords,
    Alike (call n caller v args keywords) (call n caller v args keywords)
  await : ∀ caller v, Alike (await n caller v) (await n caller v)
  exec : ∀ frame s, Alike (exec n frame s) (exec n frame.unplaced s.unplaced)

variable {n : Nat}

theorem AlikeAll.blocks (h : AlikeAll n) :
    AlikeBlocks (fun frame => runBlock (Execution.exec n frame))
      fun frame => runBlock (Execution.exec n frame) :=
  fun frame body => alike_runBlock (h.exec frame) body

theorem AlikeAll.eval_succ (ih : AlikeAll n) (frame : Frame) (e : Expr) :
    Alike (Execution.eval (n + 1) frame e) (Execution.eval (n + 1) frame.unplaced e.unplaced) := by
  have hv (e : Expr) : Alike (Execution.eval n frame e)
      (Execution.eval n frame.unplaced e.unplaced) := ih.eval frame e
  cases e with
  | literal pos value => exact alike_pure
  | name pos id => exact (alike_readName frame id).here _ _ _ _
  | list pos items | tuple pos items =>
    simp only [Expr.unplaced, unplacedIn_eq, Execution.eval]
    exact (alike_evalAll hv items).bind fun _ => alike_act (blind_make _)
  | dict pos keys values =>
    simp only [Expr.unplaced, unplacedIn_eq, Execution.eval]
    exact (alike_evalPairs hv keys values).bind fun _ =>
      (alike_act (blind_makeMapping _)).here _ _ _ _
  | unary pos op operand =>
    exact (hv operand).bind fun _ => (alike_check fun s => s.unary_unplaced _ _).here _ _ _ _
  | binary pos op left right =>
    exact (hv left).bind fun _ => (hv right).bind fun _ =>
      (alike_act (blind_binary _ _ _ _)).here _ _ _ _
  | compare pos left ops rights =>
    simp only [Expr.unplaced, unplacedIn_eq, Execution.eval]
    exact (hv left).bind fun _ => alike_evalComparisons frame pos _ hv _ ops rights
  | junction pos isAnd operands =>
    simp only [Expr.unplaced, unplacedIn_eq, Execution.eval]
    exact alike_evalJunction hv isAnd operands
  | conditional pos test yes no =>
    exact (hv test).bind fun _ => (alike_truth _).bind fun _ => .ite .rfl (hv yes) (hv no)
  | subscript pos container index =>
    exact (hv container).bind fun _ => (hv index).bind fun _ =>
      (alike_check fun s => s.subscript_unplaced _ _).here _ _ _ _
  | «attribute» pos line object id =>
    exact (hv object).bind fun _ => (alike_act (blind_getAttribute _ _)).here _ _ _ _
  | call pos callee args keywords values =>
    have hnames : (keywords.map Keyword.unplaced).map (·.name) = keywords.map (·.name) := by
      rw [List.map_map]
      rfl
    simp only [Expr.unplaced, unplacedIn_eq, Execution.eval, hnames]
    exact (hv callee).bind fun _ => (alike_evalAll hv args).bind fun _ =>
      (alike_evalAll hv values).bind fun _ => (ih.call frame.caller _ _ _).here _ _ _ _
  | await pos operand =>
    exact (hv operand).bind fun _ => (ih.await frame.caller _).here _ _ _ _
  | yield pos e => cases e <;> exact alike_pure

theorem AlikeAll.call_succ (ih : AlikeAll n) (caller : Frame.Caller) (callee : Value)
    (args : List Value) (keywords : List (String × Value)) :
    Alike (Execution.call (n + 1) caller callee args keywords)
      (Execution.call (n + 1) caller callee args keywords) := by
  cases callee with
  | builtin f => exact alike_callBuiltin f args keywords
  | kind k => exact Alike.map _ (alike_act (blind_construct _ _ _))
  | tensorClass => exact alike_callTensorClass args keywords
  | method method self => exact alike_callMethod (ih.call caller) _ _ _ _
  | leave name => exact (alike_bindCall _ _ _ _ _).bind fun _ => alike_fail rfl
  | _ =>
    unfold Execution.call
    refine Agree.bind (agree_natureOf _) fun nature? other? hfound => ?_
    cases hfound with
    | same =>
      split
      · exact alike_enter ih.blocks caller args keywords rfl
      · exact alike_wrongType _ _
    | function h => exact alike_enter ih.blocks caller args keywords h
    | coroutine | exception => exact alike_wrongType _ _

theorem AlikeAll.await_succ (ih : AlikeAll n) (caller : Frame.Caller) (awaited : Value) :
    Alike (Execution.await (n + 1) caller awaited) (Execution.await (n + 1) caller awaited) := by
  unfold Execution.await
  refine Agree.bind (agree_natureOf awaited) fun nature? other? hfound => ?_
  cases hfound with
  | same =>
    split
    next a work progress =>
      refine alike_awaitWork a rfl ?_ progress
      cases work with
      | call f bound => exact alike_runBody ih.blocks caller rfl bound
      | _ => exact alike_turn.bind fun _ => alike_pure
    · exact alike_wrongType _ _
  | @coroutine work work' progress h =>
    cases awaited with
    | ref a =>
      refine alike_awaitWork a h ?_ progress
      cases work with
      | call f bound =>
        cases work' with
        | call f' bound' =>
          obtain ⟨hf, rfl⟩ := Work.call.inj h
          exact alike_runBody ih.blocks caller hf bound
        | _ => cases h
      | _ =>
        cases work' <;> cases h
        exact alike_turn.bind fun _ => alike_pure
    | _ => exact alike_wrongType _ _
  | function | exception => cases awaited <;> exact alike_wrongType _ _

theorem AlikeAll.exec_succ (ih : AlikeAll n) (frame : Frame) (s : Stmt) :
    Alike (Execution.exec (n + 1) frame s) (Execution.exec (n + 1) frame.unplaced s.unplaced) := by
  have hv (e : Expr) : Alike (Execution.eval n frame e)
      (Execution.eval n frame.unplaced e.unplaced) := ih.eval frame e
  have hblock (body : List Stmt) : Alike (runBlock (Execution.exec n frame) body)
      (runBlock (Execution.exec n frame.unplaced) (body.map Stmt.unplaced)) := ih.blocks frame body
  have htest (e : Expr) : Alike
      (do
        let v ← Execution.eval n frame e
        Eval.look (·.truth v))
      (do
        let v ← Execution.eval n frame.unplaced e.unplaced
        Eval.look (·.truth v)) := (hv e).bind fun _ => alike_truth _
  cases s with
  | expr pos e => exact (hv e).bind fun _ => alike_pure
  | assign pos targets e =>
    exact (hv e).bind fun v => (alike_assignAll frame hv v targets).bind fun _ => alike_pure
  | augment pos target op e =>
    exact (alike_augment frame hv pos _ op target e).bind fun _ => alike_pure
  | delete pos targets => exact (alike_deleteEach frame hv targets).bind fun _ => alike_pure
  | pass pos => exact alike_pure
  | assert pos e message =>
    refine (htest e).bind fun t => .ite .rfl alike_pure ?_
    cases message with
    | none => exact alike_pure.bind fun _ => (alike_fail rfl).here _ _ _ _
    | some e => exact (Alike.map _ (hv e)).bind fun _ => (alike_fail rfl).here _ _ _ _
  | raise pos value cause =>
    cases value with
    | none => exact alike_raiseHandled frame pos _
    | some e =>
      refine (hv e).bind fun v => ?_
      cases cause with
      | none => exact (alike_raiseValue v none).here _ _ _ _
      | some e => exact (Alike.map _ (hv e)).bind fun because =>
          (alike_raiseValue v because).here _ _ _ _
  | importModules pos items =>
    exact (alike_bindModules frame pos _ items).bind fun _ => alike_pure
  | importFrom pos level path items =>
    exact (alike_runImportFrom frame pos _ level path items).bind fun _ => alike_pure
  | importAll pos level path asterisk =>
    exact (alike_runImportAll frame pos _ level path).bind fun _ => alike_pure
  | branch pos e yes no =>
    simp only [Stmt.unplaced, blockUnplaced_eq, Execution.exec]
    exact (htest e).bind fun t => .ite .rfl (hblock yes) (hblock no)
  | forEach pos target source body after =>
    simp only [Stmt.unplaced, blockUnplaced_eq, Execution.exec]
    refine (hv source).bind fun v => ((alike_act (blind_begin v)).here _ _ _ _).bind fun start =>
      (alike_rounds (alike_itemRound (fun cursor => (alike_act (blind_next cursor)).here _ _ _ _)
        fun item => ?_) _ _).bind fun ending => alike_afterLoop (hblock after) ending
    exact (alike_assignTo frame hv target item).bind fun _ => hblock body
  | loop pos e body after =>
    simp only [Stmt.unplaced, blockUnplaced_eq, Execution.exec]
    exact (alike_rounds (alike_testRound (htest e) (hblock body)) _ _).bind
      fun ending => alike_afterLoop (hblock after) ending
  | attempt pos body handlers otherwise finally_ =>
    simp only [Stmt.unplaced, blockUnplaced_eq, handlersUnplaced_eq, Execution.exec]
    exact alike_runAttempt frame hv ih.blocks body handlers otherwise finally_
  | define pos isAsync name params body =>
    simp only [Stmt.unplaced, blockUnplaced_eq, Execution.exec]
    refine (alike_evalDefaults hv params).bind fun parameters => ?_
    refine (alike_act (alike_make ?_)).bind fun f =>
      (alike_bindName frame name f).bind fun _ => alike_pure
    exact congrArg (fun f => { nature := .function f : Object })
      (frame.close_unplaced isAsync name parameters body)
  | returns pos e =>
    cases e with
    | none => exact alike_pure
    | some e => exact Alike.map _ (hv e)
  | breaks pos => exact alike_pure
  | continues pos => exact alike_pure

theorem alikeAll (n : Nat) : AlikeAll n := by
  induction n with
  | zero =>
    exact ⟨fun _ _ => agree_exhausted, fun _ _ _ _ => agree_exhausted, fun _ _ => agree_exhausted,
      fun _ _ => agree_exhausted⟩
  | succ n ih => exact ⟨ih.eval_succ, ih.call_succ, ih.await_succ, ih.exec_succ⟩

end Chunkwise.Execution
