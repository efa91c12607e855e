import Chunkwise.Proofs.Execution.Control
import Chunkwise.Proofs.Execution.Splits

/-!
What code raises is traced to where it arose: it has passed the frames that were active there, each
at the place of its call.
-/
namespace Chunkwise.Execution
open Code Store Store.Action Eval

variable {α β γ : Type} {n : Nat} {frame : Frame} {caller : Frame.Caller} {s s' : Scene}
  {x y : Activity} {X : List Place → Raised → Scene → Prop} {value : Expr → Eval Value}

theorem Eval.Traces.inside {m : Eval α} (h : Traces (Arises y s') m s) {s₀ : Scene}
    (hinside : Inside x s₀ y s') : Traces (Arises x s₀) m s :=
  h.mono fun _ _ _ => .inside hinside

theorem traces_step_here {m : Eval α} {pos : Pos} {s₀ : Scene}
    (h : ∀ raised t, Raises m s raised t → Fails x s₀ [frame.at_ pos] raised t) :
    Traces (Arises x s₀) (frame.here pos m) s :=
  traces_here fun raised t hr => .fails (h raised t hr)

/-! Parts that are evaluated one after another. -/

theorem returns_evalAll_cons {e : Expr} {rest : List Expr} {v : Value} {vs : List Value}
    {s₁ : Scene} (hv : Returns (value e) s v s₁) (hrest : Returns (evalAll value rest) s₁ vs s') :
    Returns (evalAll value (e :: rest)) s (v :: vs) s' :=
  hv.bind (hrest.bind (returns_pure.mpr ⟨rfl, rfl⟩))

theorem returns_evalAll_append {first second : List Expr} {vs ws : List Value} {s₁ : Scene}
    (hfirst : Returns (evalAll value first) s vs s₁)
    (hsecond : Returns (evalAll value second) s₁ ws s') :
    Returns (evalAll value (first ++ second)) s (vs ++ ws) s' := by
  induction first generalizing s vs with
  | nil =>
    obtain ⟨rfl, rfl⟩ := returns_pure.mp hfirst
    exact hsecond
  | cons e rest ih =>
    obtain ⟨v, s₂, hv, hfirst⟩ := returns_bind.mp hfirst
    obtain ⟨vs, s₃, hrest, hvs⟩ := returns_bind.mp hfirst
    obtain ⟨rfl, rfl⟩ := returns_pure.mp hvs
    exact returns_evalAll_cons hv (ih hrest)

theorem traces_evalAll {items : List Expr}
    (h : ∀ before e after vs s', items = before ++ e :: after →
      Returns (evalAll value before) s vs s' → Traces X (value e) s') :
    Traces X (evalAll value items) s := by
  induction items generalizing s with
  | nil => exact traces_pure
  | cons e rest ih =>
    refine (h [] e rest [] s rfl (returns_pure.mpr ⟨rfl, rfl⟩)).bind fun v s₁ hv =>
      (ih fun before e' after vs s' hrest hbefore => ?_).bind fun _ _ _ => traces_pure
    exact h (e :: before) e' after (v :: vs) s' (by simp [hrest]) (returns_evalAll_cons hv hbefore)

theorem traces_evalPairs {keys values : List Expr}
    (h : ∀ before e after vs s', pairs keys values = before ++ e :: after →
      Returns (evalAll value before) s vs s' → Traces X (value e) s') :
    Traces X (evalPairs value keys values) s := by
  induction keys generalizing values s with
  | nil => exact traces_pure
  | cons k keys ih =>
    cases values with
    | nil => exact traces_pure
    | cons e values =>
      have hpairs : pairs (k :: keys) (e :: values) = k :: e :: pairs keys values := rfl
      refine (h [] k _ [] s hpairs (returns_pure.mpr ⟨rfl, rfl⟩)).bind fun key s₁ hkey => ?_
      refine (h [k] e _ [key] s₁ hpairs
        (returns_evalAll_cons hkey (returns_pure.mpr ⟨rfl, rfl⟩))).bind fun v s₂ hv =>
          (ih fun before e' after vs s' hrest hbefore => ?_).bind fun _ _ _ => traces_pure
      exact h (k :: e :: before) e' after (key :: v :: vs) s' (by simp [hpairs, hrest])
        (returns_evalAll_cons hkey (returns_evalAll_cons hv hbefore))

theorem traces_evalDefaults {params : List Param}
    (h : ∀ before p after e known s', params = before ++ p :: after → p.default = some e →
      Returns (evalDefaults value before) s known s' → Traces X (value e) s') :
    Traces X (evalDefaults value params) s := by
  induction params generalizing s with
  | nil => exact traces_pure
  | cons p rest ih =>
    obtain ⟨name, default⟩ := p
    cases default with
    | none =>
      refine (ih fun before p' after e known s' hrest he hbefore => ?_).bind
        fun _ _ _ => traces_pure
      exact h (⟨name, none⟩ :: before) p' after e ((name, none) :: known) s' (by simp [hrest]) he
        (hbefore.bind (returns_pure.mpr ⟨rfl, rfl⟩))
    | some e =>
      refine ((h [] _ rest e [] s rfl rfl (returns_pure.mpr ⟨rfl, rfl⟩)).map some).bind
        fun default s₁ hdefault =>
          (ih fun before p' after e' known s' hrest he hbefore => ?_).bind fun _ _ _ => traces_pure
      exact h (⟨name, some e⟩ :: before) p' after e' ((name, default) :: known) s'
        (by simp [hrest]) he
        (hdefault.bind (hbefore.bind (returns_pure.mpr ⟨rfl, rfl⟩)))

theorem traces_runBlock {run : Stmt → Eval Flow} {body : List Stmt}
    (h : ∀ before x after s', body = before ++ x :: after →
      Returns (runBlock run before) s .next s' → Traces X (run x) s') :
    Traces X (runBlock run body) s := by
  induction body generalizing s with
  | nil => exact traces_pure
  | cons x rest ih =>
    refine (h [] x rest s rfl (returns_pure.mpr ⟨rfl, rfl⟩)).bind fun flow s₁ hflow => ?_
    cases flow with
    | next =>
      refine ih fun before x' after s' hrest hbefore => ?_
      exact h (x :: before) x' after s' (by simp [hrest]) (hflow.bind hbefore)
    | _ => exact traces_pure

/-- What is raised in any expression of a frame is traced. -/
abbrev TracesValues (n : Nat) (frame : Frame) : Prop :=
  ∀ e s, Traces (Arises (.value n frame e) s) (eval n frame e) s

theorem traces_junction (hv : TracesValues n frame) (isAnd : Bool) (parts : List Expr)
    (s : Scene) :
    Traces (Arises (.junction n frame isAnd parts) s)
      (evalJunction (eval n frame) isAnd parts) s := by
  match parts with
  | [] => exact traces_pure
  | [e] => exact (hv e s).inside .joined
  | e :: e' :: rest =>
    refine ((hv e s).inside .joined).bind fun v s₁ hvalue => traces_bind_look ?_
    split
    next htruth =>
      have htest : Returns (test n frame e) s isAnd s₁ :=
        hvalue.bind (returns_look.mpr ⟨htruth.symm, rfl⟩)
      exact (traces_junction hv isAnd (e' :: rest) s₁).inside (.undecided htest)
    next => exact traces_pure

theorem traces_comparisons (hv : TracesValues n frame) (pos : Pos) (left : Value)
    (ops : List Comparison) (rights : List Expr) (s : Scene) :
    Traces (Arises (.comparisons n frame pos left ops rights) s)
      (evalComparisons frame pos (eval n frame) left ops rights) s := by
  match ops, rights with
  | op :: ops, e :: rest =>
    refine ((hv e s).inside .right).bind fun right s₁ hright =>
      (traces_step_here fun raised t hr => .comparison hright hr).bind fun holds s₂ hholds => ?_
    match ops with
    | [] => exact traces_pure
    | op' :: ops =>
      dsimp only
      split
      next htrue =>
        obtain rfl := htrue
        exact (traces_comparisons hv pos right (op' :: ops) rest s₂).inside
          (.holds hright (returns_here.mp hholds))
      next => exact traces_pure
  | [], _ | _ :: _, [] => exact traces_pure

theorem traces_rounds {round : α → Eval (α ⊕ β)}
    {Y : α → Scene → List Place → Raised → Scene → Prop} (h : ∀ a s, Traces (Y a s) (round a) s)
    (hnext : ∀ a s a' s', Returns (round a) s (.inl a') s' →
      ∀ places raised t, Y a' s' places raised t → Y a s places raised t)
    (k : Nat) (a : α) (s : Scene) : Traces (Y a s) (rounds round k a) s := by
  induction k generalizing a s with
  | zero => exact traces_exhausted
  | succ k ih =>
    rw [rounds_succ]
    refine (h a s).bind fun result s' hresult => ?_
    cases result with
    | inl a' => exact (ih a' s').mono (hnext a s a' s' hresult)
    | inr b => exact traces_give

/-! Targets. -/

theorem traces_reach {target : Expr}
    (h : ∀ before e after vs s', targetParts target = before ++ e :: after →
      Returns (evalAll value before) s vs s' → Traces X (value e) s') :
    Traces X (Spot.reach value target) s := by
  have hnil : Returns (evalAll value []) s [] s := returns_pure.mpr ⟨rfl, rfl⟩
  cases target with
  | subscript pos container index =>
    refine (h [] container [index] [] s rfl hnil).bind fun c s₁ hc =>
      (h [container] index [] [c] s₁ rfl ?_).bind fun _ _ _ => traces_pure
    exact returns_evalAll_cons hc (returns_pure.mpr ⟨rfl, rfl⟩)
  | «attribute» pos line object id =>
    exact (h [] object [] [] s rfl hnil).bind fun _ _ _ => traces_pure
  | _ => exact traces_pure

/-- What is done with a target, if it is one that is reached. -/
theorem traces_atSpot {target : Expr} {use : Spot → Eval Unit}
    (hparts : Traces X (Spot.reach value target) s)
    (h : ∀ spot s', Returns (Spot.reach value target) s (some spot) s' → Traces X (use spot) s') :
    Traces X (do
      match ← Spot.reach value target with
      | some spot => use spot
      | none => pure ()) s := by
  refine hparts.bind fun spot s' hspot => ?_
  cases spot with
  | none => exact traces_pure
  | some spot => exact h spot s' hspot

mutual

theorem traces_assignTo (hv : TracesValues n frame) (target : Expr) (v : Value)
    (s : Scene) :
    Traces (Arises (.assign n frame target v) s) (assignTo frame (eval n frame) target v) s := by
  cases target with
  | tuple pos targets | list pos targets =>
    refine (traces_step_here fun raised t hr => .spread rfl hr).bind fun vs s₁ hvs =>
      traces_assignEach hv targets vs fun before e after first w rest s' htargets hvalues hbefore =>
        ?_
    obtain rfl := hvalues
    exact .spread rfl (returns_here.mp hvs) htargets hbefore
  | _ =>
    refine traces_atSpot (traces_reach fun before e after vs s' hparts hbefore =>
      (hv e s').inside (.assigned hparts hbefore)) fun spot s' hspot => ?_
    rw [Spot.put_eq]
    exact traces_step_here fun raised t hr => .put hspot hr

theorem traces_assignEach (hv : TracesValues n frame) (targets : List Expr)
    (values : List Value) {z : Activity} {s₀ s : Scene}
    (h : ∀ before e after first w rest s', targets = before ++ e :: after →
      values = first ++ w :: rest → Returns (assignEach frame (eval n frame) before first) s () s' →
      Inside z s₀ (.assign n frame e w) s') :
    Traces (Arises z s₀) (assignEach frame (eval n frame) targets values) s := by
  match targets, values with
  | target :: targets, v :: rest =>
    have hfirst := h [] target targets [] v rest s rfl rfl (returns_pure.mpr ⟨rfl, rfl⟩)
    refine ((traces_assignTo hv target v s).inside hfirst).bind fun _ s₁ ht =>
      traces_assignEach hv targets rest fun before e after first w rest' s' htargets hvalues
        hbefore => ?_
    exact h (target :: before) e after (v :: first) w rest' s' (by simp [htargets])
      (by simp [hvalues]) (ht.bind hbefore)
  | [], _ | _ :: _, [] => exact traces_pure

end

mutual

theorem traces_deleteTarget (hv : TracesValues n frame) (target : Expr) (s : Scene) :
    Traces (Arises (.delete n frame target) s) (deleteTarget frame (eval n frame) target) s := by
  cases target with
  | tuple pos targets | list pos targets =>
    exact traces_deleteEach hv targets fun before e after s' htargets hbefore =>
      .deletedInner rfl htargets hbefore
  | _ =>
    refine traces_atSpot (traces_reach fun before e after vs s' hparts hbefore =>
      (hv e s').inside (.deletedPart hparts hbefore)) fun spot s' hspot => ?_
    rw [Spot.remove_eq]
    exact traces_step_here fun raised t hr => .remove hspot hr

theorem traces_deleteEach (hv : TracesValues n frame) (targets : List Expr)
    {z : Activity} {s₀ s : Scene}
    (h : ∀ before e after s', targets = before ++ e :: after →
      Returns (deleteEach frame (eval n frame) before) s () s' →
      Inside z s₀ (.delete n frame e) s') :
    Traces (Arises z s₀) (deleteEach frame (eval n frame) targets) s := by
  match targets with
  | [] => exact traces_pure
  | target :: targets =>
    have hfirst := h [] target targets s rfl (returns_pure.mpr ⟨rfl, rfl⟩)
    refine ((traces_deleteTarget hv target s).inside hfirst).bind fun _ s₁ ht =>
      traces_deleteEach hv targets fun before e after s' htargets hbefore => ?_
    exact h (target :: before) e after s' (by simp [htargets]) (ht.bind hbefore)

end

theorem traces_assignAll (hv : TracesValues n frame) (v : Value) (targets : List Expr)
    {s₀ s : Scene}
    (h : ∀ before e after s', targets = before ++ e :: after →
      Returns (assignAll frame (eval n frame) v before) s () s' →
      Inside x s₀ (.assign n frame e v) s') :
    Traces (Arises x s₀) (assignAll frame (eval n frame) v targets) s := by
  induction targets generalizing s with
  | nil => exact traces_pure
  | cons target targets ih =>
    have hfirst := h [] target targets s rfl (returns_pure.mpr ⟨rfl, rfl⟩)
    refine ((traces_assignTo hv target v s).inside hfirst).bind fun _ s₁ ht =>
      ih fun before e after s' htargets hbefore => ?_
    exact h (target :: before) e after s' (by simp [htargets]) (ht.bind hbefore)

theorem traces_augment (hv : TracesValues n frame) (pos : Pos) (op : BinaryOp)
    (target e : Expr) (s : Scene) :
    Traces (Arises (.statement (n + 1) frame (.augment pos target op e)) s)
      (augment frame (eval n frame) pos op target e) s := by
  have hparts : Traces (Arises (.statement (n + 1) frame (.augment pos target op e)) s)
      (Spot.reach (eval n frame) target) s :=
    traces_reach fun before e' after vs s' hparts hbefore =>
      (hv e' s').inside (.augmented hparts hbefore)
  refine hparts.bind fun spot s₁ hspot => ?_
  cases spot with
  | none => exact traces_pure
  | some spot =>
    dsimp only
    rw [Spot.get_eq]
    refine (traces_step_here fun raised t hr => .readSpot hspot hr).bind fun old s₂ hold => ?_
    replace hold := returns_here.mp hold
    refine ((hv e s₂).inside (.augmentation hspot hold)).bind fun v s₃ hvalue =>
      (traces_step_here fun raised t hr => .update hspot hold hvalue hr).bind fun new s₄ hnew => ?_
    rw [Spot.put_eq]
    exact traces_step_here fun raised t hr =>
      .putBack hspot hold hvalue (returns_here.mp hnew) hr

/-! Imports. -/

/-- Names are bound one by one, each to what is fetched for it in the frame. -/
theorem traces_bindEach {pos : Pos} {fetch : α → Eval β} {keep : α → β → Scene → Scene}
    {bindAll : List α → Eval Unit} {items : List α} (hnil : bindAll [] = pure ())
    (hcons : ∀ item rest, bindAll (item :: rest) = (do
      let v ← frame.here pos (fetch item)
      Eval.mapScene (keep item v)
      bindAll rest))
    (h : ∀ before item after s', items = before ++ item :: after →
      Returns (bindAll before) s () s' → ∀ raised t,
      Raises (fetch item) s' raised t → X [frame.at_ pos] raised t) :
    Traces X (bindAll items) s := by
  induction items generalizing s with
  | nil =>
    rw [hnil]
    exact traces_pure
  | cons item rest ih =>
    have hnone : Returns (bindAll []) s () s := hnil ▸ returns_pure.mpr ⟨rfl, rfl⟩
    rw [hcons]
    refine (traces_here (h [] item rest s rfl hnone)).bind fun v s₁ hv =>
      traces_mapScene.bind fun _ s₂ hkeep => ih fun before item' after s' hrest hbefore => ?_
    refine h (item :: before) item' after s' (by simp [hrest]) ?_
    rw [hcons]
    exact hv.bind (hkeep.bind hbefore)

theorem traces_runImportFrom (pos : Pos) (level : Nat) (path : String) (items : List Alias) :
    Traces (Arises (.statement (n + 1) frame (.importFrom pos level path items)) s)
      (runImportFrom frame pos level path items) s := by
  refine (traces_step_here fun raised t hr => .importName rfl hr).bind fun name s₁ hname => ?_
  replace hname := returns_here.mp hname
  refine (traces_step_here fun raised t hr => .importFor rfl hname hr).bind fun m s₂ hm => ?_
  exact traces_bindEach rfl (fun _ _ => rfl) fun before item after s' hitems hbefore raised t hr =>
    .fails (.importItem hname (returns_here.mp hm) hitems hbefore hr)

theorem traces_runImportAll (pos : Pos) (level : Nat) (path : String) (asterisk : Pos) :
    Traces (Arises (.statement (n + 1) frame (.importAll pos level path asterisk)) s)
      (runImportAll frame pos level path) s := by
  refine (traces_step_here fun raised t hr => .importName rfl hr).bind fun name s₁ hname => ?_
  replace hname := returns_here.mp hname
  refine (traces_step_here fun raised t hr => .importFor rfl hname hr).bind fun m s₂ hm => ?_
  replace hm := returns_here.mp hm
  refine (traces_step_here fun raised t hr => .publicNames hname hm hr).bind
    fun names s₃ hnames => ?_
  exact traces_bindEach rfl (fun _ _ => rfl) fun before name after s' hnames' hbefore raised t hr =>
    .fails (.publicItem hname hm (returns_here.mp hnames) hnames' hbefore hr)

/-! Guarded blocks. -/

theorem traces_raiseAgain {a : Address} (h : Traced X ⟨a, (exceptionAt s.store a).trace⟩) :
    Traces X (raiseAgain a : Eval α) s :=
  traces_bind_look (traces_throw h)

/-- An exception that goes on with the places that it has passed is where it was; with any others it
has been raised again meanwhile. -/
theorem traces_goesOn {raised : Raised} (h : Traced X raised)
    (hchanged : (exceptionAt s.store raised.exception).trace ≠ raised.trace →
      X [] ⟨raised.exception, (exceptionAt s.store raised.exception).trace⟩ s) :
    Traces X (raiseAgain raised.exception : Eval α) s := by
  refine traces_raiseAgain ?_
  by_cases htrace : (exceptionAt s.store raised.exception).trace = raised.trace
  · rwa [htrace]
  · exact ⟨[], _, s, hchanged htrace, rfl⟩

/-- The place at which a handler fails does not depend on what is handled. -/
theorem findHandler_handles (frame : Frame) (value : Expr → Eval Value) (a : Address)
    (kind : Fault.Kind) (handlers : List Handler) :
    findHandler (frame.handles a) value kind handlers = findHandler frame value kind handlers := by
  induction handlers with
  | nil => rfl
  | cons handler rest ih =>
    obtain ⟨pos, _ | e, as, body⟩ := handler
    · rfl
    · simp only [findHandler, ih]
      rfl

theorem traces_findHandler (hv : TracesValues n frame) (kind : Fault.Kind)
    (handlers : List Handler) (s : Scene) :
    Traces (Arises (.handling n frame kind handlers) s)
      (findHandler frame (eval n frame) kind handlers) s := by
  match handlers with
  | [] => exact traces_pure
  | .mk pos none as body :: _ => exact traces_pure
  | .mk pos (some e) as body :: rest =>
    refine ((hv e s).inside .kinds).bind fun v s₁ hvalue =>
      (traces_step_here fun raised t hr => .kinds hvalue hr).bind fun kinds s₂ hkinds => ?_
    split
    next => exact traces_pure
    next hnone =>
      refine (traces_findHandler hv kind rest s₂).inside (.unmatched ?_)
      refine hvalue.bind (hkinds.bind ?_)
      rw [if_neg hnone]
      exact returns_pure.mpr ⟨rfl, rfl⟩

/-- What is raised in any block is traced. -/
abbrev TracesBlocks (n : Nat) : Prop :=
  ∀ frame body s, Traces (Arises (.block n frame body) s) (runBlock (exec n frame) body) s

theorem traces_runHandler (hb : TracesBlocks n) {a : Address} {handler : Handler} {s₀ : Scene}
    (h : ∀ pos kinds as body s', handler = .mk pos kinds as body →
      Returns (nameHandled frame a as) s () s' →
      Inside x s₀ (.block n (frame.handles a) body) s') :
    Traces (Arises x s₀) (runHandler frame (fun frame => runBlock (exec n frame)) a handler) s := by
  obtain ⟨pos, kinds, as, body⟩ := handler
  cases as with
  | none => exact (hb _ body s).inside (h pos kinds none body s rfl (returns_pure.mpr ⟨rfl, rfl⟩))
  | some name =>
    refine traces_mapScene.bind fun _ s₁ hname => ?_
    refine Traces.attempt_bind ((hb _ body s₁).inside (h pos kinds (some name) body s₁ rfl hname))
      (fun flow s₂ _ => traces_mapScene.bind fun _ _ _ => traces_give) fun raised s₂ _ htraced => ?_
    exact traces_mapScene.bind fun _ _ _ => traces_throw htraced

theorem traces_guard (hv : TracesValues n frame) (hb : TracesBlocks n) (body : List Stmt)
    (handlers : List Handler) (otherwise : List Stmt) (s : Scene) :
    Traces (Arises (.guarded n frame body handlers otherwise) s)
      (guard n frame body handlers otherwise) s := by
  refine Traces.attempt_bind ((hb frame body s).inside .block) (fun flow s₁ hflow => ?_)
    fun raised s₁ hraised htraced => ?_
  · cases flow with
    | next => exact (hb frame otherwise s₁).inside (.otherwise hflow)
    | _ => exact traces_pure
  · refine traces_mapScene.bind fun _ s₂ hkept => traces_bind_look ?_
    have hcaught : Caught (runBlock (exec n frame) body) s raised s₂ := ⟨s₁, hraised, hkept⟩
    have hfind := findHandler_handles frame (eval n frame) raised.exception
      (exceptionAt s₂.store raised.exception).kind handlers
    change Traces _ (findHandler (frame.handles raised.exception) _ _ _ >>= _) s₂
    rw [hfind]
    refine ((traces_findHandler hv _ handlers s₂).inside (.handling hcaught)).bind
      fun handler s₃ hfound => ?_
    cases handler with
    | none =>
      exact traces_goesOn htraced fun hchanged => .fails (.unhandled hcaught hfound hchanged)
    | some handler =>
      refine traces_runHandler hb fun pos kinds as handled s₄ hhandler hname => ?_
      subst hhandler
      exact .handler hcaught hfound hname

theorem traces_runAttempt (hv : TracesValues n frame) (hb : TracesBlocks n) (pos : Pos)
    (body : List Stmt) (handlers : List Handler) (otherwise finally_ : List Stmt) (s : Scene) :
    Traces (Arises (.statement (n + 1) frame (.attempt pos body handlers otherwise finally_)) s)
      (runAttempt frame (eval n frame) (fun frame => runBlock (exec n frame)) body handlers
        otherwise finally_) s := by
  refine Traces.attempt_bind ((traces_guard hv hb body handlers otherwise s).inside .guarded)
    (fun flow s₁ hflow => ?_) fun raised s₁ hraised htraced => ?_
  · refine ((hb frame finally_ s₁).inside (.finally_ hflow)).bind fun other _ _ => ?_
    cases other <;> exact traces_pure
  · refine traces_mapScene.bind fun _ s₂ hkept => ?_
    have hcaught : Caught (guard n frame body handlers otherwise) s raised s₂ :=
      ⟨s₁, hraised, hkept⟩
    refine ((hb _ finally_ s₂).inside (.finallyRaised hcaught)).bind fun other s₃ hother => ?_
    cases other with
    | next =>
      exact traces_goesOn htraced fun hchanged => .fails (.afterFinally hcaught hother hchanged)
    | _ => exact traces_pure

/-! Calls and waiting. -/

theorem traces_runBody (hb : TracesBlocks n) (f : Function) (bound : Bindings) (s : Scene) :
    Traces (Arises (.body n caller f bound) s)
      (runBody (fun frame => runBlock (exec n frame)) caller f bound) s := by
  unfold runBody
  split
  next hlevel => exact traces_self fun raised t hr => .fails (.depth hlevel hr)
  next hlevel =>
    refine (traces_of_not fun _ _ => not_raises_act fun store => ⟨_, rfl⟩).bind
      fun scope s₁ hscope => ?_
    refine ((hb _ f.body s₁).inside (.opened (by omega) hscope)).bind fun flow _ _ => ?_
    cases flow <;> exact traces_pure

theorem traces_setProgress {a : Address} {work : Work} {progress : Progress} :
    Traces X (setProgress a work progress) s :=
  traces_of_not fun _ _ => not_raises_act fun _ => ⟨(), rfl⟩

/-- Only the end of items is replaced by another exception. -/
theorem traces_seal {raised : Raised}
    (h : (exceptionAt s.store raised.exception).kind.isA .stopIteration → ∀ raised' t,
      Raises (do throw (← sealRaised raised) : Eval Value) s raised' t → X [] raised' t)
    (htraced : Traced X raised) : Traces X (do throw (← sealRaised raised) : Eval Value) s := by
  by_cases hstop : (exceptionAt s.store raised.exception).kind.isA .stopIteration
  · exact traces_self (h hstop)
  · have hsealed : (do throw (← sealRaised raised) : Eval Value) s = throw raised s := by
      change ((if _ then _ else _ : Eval Raised) s).andThen _ = _
      rw [if_neg hstop]
      rfl
    intro raised' t hr
    unfold Raises at hr
    rw [hsealed] at hr
    exact traces_throw htraced raised' t hr

/-! The evaluation itself. -/

/-- All that is raised with a bound is traced. -/
structure TracesAll (n : Nat) : Prop where
  value : ∀ frame, TracesValues n frame
  call : ∀ caller callee args keywords s,
    Traces (Arises (.call n caller callee args keywords) s) (call n caller callee args keywords) s
  await : ∀ caller awaited s, Traces (Arises (.await n caller awaited) s) (await n caller awaited) s
  statement : ∀ frame x s, Traces (Arises (.statement n frame x) s) (exec n frame x) s

theorem TracesAll.blocks (h : TracesAll n) : TracesBlocks n := fun frame _ _ =>
  traces_runBlock fun _ x _ s' hbody hbefore =>
    (h.statement frame x s').inside (.next hbody hbefore)

theorem TracesAll.value_succ (ih : TracesAll n) (frame : Frame) (e : Expr) (s : Scene) :
    Traces (Arises (.value (n + 1) frame e) s) (eval (n + 1) frame e) s := by
  have hv := ih.value frame
  have hnil (s : Scene) : Returns (evalAll (eval n frame) []) s [] s := returns_pure.mpr ⟨rfl, rfl⟩
  have hall {items : List Expr} (h : operands e = items) :
      Traces (Arises (.value (n + 1) frame e) s) (evalAll (eval n frame) items) s :=
    traces_evalAll fun before e' after vs s' hitems hbefore =>
      (hv e' s').inside (.operand (h.trans hitems) hbefore)
  -- the first part of an expression that has one
  have hfirst {part : Expr} {rest : List Expr} (h : operands e = part :: rest) :
      Traces (Arises (.value (n + 1) frame e) s) (eval n frame part) s :=
    (hv part s).inside (.operand (show operands e = [] ++ part :: rest from h) (hnil s))
  have hsecond {part part' : Expr} {rest : List Expr} (h : operands e = part :: part' :: rest)
      {v : Value} {s₁ : Scene} (hpart : Returns (eval n frame part) s v s₁) :
      Traces (Arises (.value (n + 1) frame e) s) (eval n frame part') s₁ :=
    (hv part' s₁).inside (.operand (show operands e = [part] ++ part' :: rest from h)
      (returns_evalAll_cons hpart (hnil s₁)))
  cases e with
  | literal pos value => exact traces_pure
  | name pos id => exact traces_step_here fun raised t hr => .name hr
  | list pos items | tuple pos items =>
    exact (hall rfl).bind fun _ _ _ => traces_of_not fun _ _ => not_raises_make
  | dict pos keys values =>
    refine (traces_evalPairs fun before e' after vs s' hpairs hbefore => (hv e' s').inside
      (.operand (show operands (.dict pos keys values) = _ from hpairs) hbefore)).bind
      fun entries s₁ hentries => ?_
    exact traces_step_here fun raised t hr => .dict hentries hr
  | unary pos op operand =>
    exact (hfirst rfl).bind fun v s₁ hvalue => traces_step_here fun raised t hr => .unary hvalue hr
  | binary pos op left right =>
    exact (hfirst rfl).bind fun l s₁ hl => (hsecond rfl hl).bind fun r s₂ hr' =>
      traces_step_here fun raised t hr => .binary hl hr' hr
  | compare pos left ops rights =>
    exact (hfirst rfl).bind fun l s₁ hl =>
      (traces_comparisons hv pos l ops rights s₁).inside (.compare hl)
  | junction pos isAnd parts => exact (traces_junction hv isAnd parts s).inside .junction
  | conditional pos e yes no =>
    refine (hfirst rfl).bind fun v s₁ hvalue => traces_bind_look ?_
    have htest : Returns (test n frame e) s (s₁.store.truth v) s₁ :=
      hvalue.bind (returns_look.mpr ⟨rfl, rfl⟩)
    split
    next htruth => exact (hv yes s₁).inside (by simpa [htruth] using Inside.chosen htest)
    next htruth => exact (hv no s₁).inside (by simpa [htruth] using Inside.chosen htest)
  | subscript pos container index =>
    exact (hfirst rfl).bind fun c s₁ hc => (hsecond rfl hc).bind fun i s₂ hi =>
      traces_step_here fun raised t hr => .subscript hc hi hr
  | «attribute» pos line object id =>
    exact (hfirst rfl).bind fun o s₁ ho => traces_step_here fun raised t hr => .attribute ho hr
  | call pos callee args keywords values =>
    have hoperands : operands (.call pos callee args keywords values) =
      callee :: (args ++ values) := rfl
    refine (hfirst rfl).bind fun f s₁ hf => ?_
    have hargs {before after : List Expr} {e' : Expr} (h : args = before ++ e' :: after) :
        operands (.call pos callee args keywords values) =
          (callee :: before) ++ e' :: (after ++ values) := by
      rw [hoperands, h]
      simp
    have hvalues {before after : List Expr} {e' : Expr} (h : values = before ++ e' :: after) :
        operands (.call pos callee args keywords values) =
          (callee :: (args ++ before)) ++ e' :: after := by
      rw [hoperands, h]
      simp
    refine (traces_evalAll fun before e' after vs s' h hbefore => (hv e' s').inside
      (.operand (hargs h) (returns_evalAll_cons hf hbefore))).bind
        fun positional s₂ hpositional => ?_
    refine (traces_evalAll fun before e' after vs s' h hbefore => (hv e' s').inside
      (.operand (hvalues h)
        (returns_evalAll_cons hf (returns_evalAll_append hpositional hbefore)))).bind
      fun named s₃ hnamed => ?_
    have hcalls : Calls (.value (n + 1) frame (.call pos callee args keywords values)) s
        (frame.at_ (callPos pos callee))
        (.call n frame.caller f positional ((keywords.map (·.name)).zip named)) s₃ :=
      .call hf hpositional hnamed
    have hhere : Traces (Arises (.value (n + 1) frame (.call pos callee args keywords values)) s)
        (frame.here (callPos pos callee) (Execution.call n frame.caller f positional
          ((keywords.map (·.name)).zip named))) s₃ :=
      (ih.call frame.caller f positional _ s₃).here fun places first t harises =>
        .calls hcalls harises
    cases callee <;> exact hhere
  | await pos operand =>
    exact (hfirst rfl).bind fun v s₁ hvalue => (ih.await frame.caller v s₁).here
      fun places first t harises => .calls (.await hvalue) harises
  | yield pos e => exact traces_pure

theorem TracesAll.call_succ (ih : TracesAll n) (caller : Frame.Caller) (callee : Value)
    (args : List Value) (keywords : List (String × Value)) (s : Scene) :
    Traces (Arises (.call (n + 1) caller callee args keywords) s)
      (Execution.call (n + 1) caller callee args keywords) s := by
  by_cases htensor : ∃ self, callee = .method .makeTensor self
  · obtain ⟨self, rfl⟩ := htensor
    refine traces_bind_look (traces_bind_look ?_)
    refine (traces_self fun raised t hr => .fails (.tensor (raises_bind.mpr (.inl hr)))).bind
      fun bound s₁ hbound => ?_
    refine (traces_self fun raised t hr =>
      .fails (.tensor (raises_bind.mpr (.inr ⟨bound, s₁, hbound, hr⟩)))).bind
      fun arguments s₂ harguments => ?_
    obtain ⟨data, flag⟩ := arguments
    dsimp only
    split
    next class_ hclass =>
      exact (ih.call caller class_ [data] [("requires_grad", flag)] s₂).inside
        (.tensor hclass (hbound.bind harguments))
    next => exact traces_pure
  by_cases hfunction : ∃ f, s.store.natureOf callee = some (.function f)
  · obtain ⟨f, hf⟩ := hfunction
    cases callee with
    | ref a =>
      unfold Execution.call
      refine traces_bind_look ?_
      rw [hf]
      refine (traces_self fun raised t hr => .fails (.arguments hf hr)).bind
        fun bound s₁ hbound => ?_
      split
      next => exact traces_of_not fun _ _ => not_raises_make
      next hasync =>
        exact (traces_runBody ih.blocks f bound s₁).inside
          (.function hf (by simpa using hasync) hbound)
    | _ => cases hf
  · exact traces_self fun raised t hr =>
      .fails (.call (fun f hf => hfunction ⟨f, hf⟩) (fun self h => htensor ⟨self, h⟩) hr)

theorem TracesAll.await_succ (ih : TracesAll n) (caller : Frame.Caller) (awaited : Value)
    (s : Scene) :
    Traces (Arises (.await (n + 1) caller awaited) s)
      (Execution.await (n + 1) caller awaited) s := by
  by_cases hwork : ∃ f bound, s.store.natureOf awaited = some (.coroutine (.call f bound) .waiting)
  · obtain ⟨f, bound, hwork⟩ := hwork
    cases awaited with
    | ref a =>
      refine traces_bind_look ?_
      rw [hwork]
      refine traces_setProgress.bind fun _ s₁ hrunning => ?_
      have hbody : Traces (Arises (.await (n + 1) caller (.ref a)) s)
          (runBody (fun frame => runBlock (exec n frame)) caller f bound) s₁ :=
        (traces_runBody ih.blocks f bound s₁).inside (.awaited hwork hrunning)
      refine hbody.attempt_bind (fun v s₂ _ => traces_setProgress.bind fun _ _ _ => traces_pure)
        fun raised s₂ hraised htraced => ?_
      refine traces_setProgress.bind fun _ s₃ hover =>
        traces_seal (fun hstop raised' t hr => ?_) htraced
      exact .fails (.ended hwork hrunning hraised hover hstop hr)
    | _ => cases hwork
  · exact traces_self fun raised t hr =>
      .fails (.await (fun f bound h => hwork ⟨f, bound, h⟩) hr)

theorem traces_test (h : Traces X (eval n frame e) s) : Traces X (test n frame e) s :=
  h.bind fun _ _ _ => traces_look

theorem TracesAll.statement_succ (ih : TracesAll n) (frame : Frame) (x : Stmt) (s : Scene) :
    Traces (Arises (.statement (n + 1) frame x) s) (exec (n + 1) frame x) s := by
  have hv := ih.value frame
  have hb := ih.blocks
  have hsubject {e : Expr} (h : subject? x = some e) :
      Traces (Arises (.statement (n + 1) frame x) s) (eval n frame e) s :=
    (hv e s).inside (.subject h)
  cases x with
  | expr pos e => exact (hsubject rfl).bind fun _ _ _ => traces_pure
  | assign pos targets e =>
    refine (hsubject rfl).bind fun v s₁ hvalue => ?_
    refine (traces_assignAll hv v targets fun before e' after s' htargets hbefore =>
      .target hvalue htargets hbefore).bind fun _ _ _ => traces_pure
  | augment pos target op e =>
    exact (traces_augment hv pos op target e s).bind fun _ _ _ => traces_pure
  | delete pos targets =>
    refine (traces_deleteEach hv targets fun before e' after s' htargets hbefore =>
      .deleted htargets hbefore).bind fun _ _ _ => traces_pure
  | pass pos => exact traces_pure
  | assert pos e message =>
    refine (traces_test (hsubject rfl)).bind fun holds s₁ htest => ?_
    cases holds with
    | true => exact traces_pure
    | false =>
      have hargs : Traces (Arises (.statement (n + 1) frame (.assert pos e message)) s)
          (assertion n frame message) s₁ := by
        cases message with
        | none => exact traces_pure
        | some e' => exact ((hv e' s₁).inside (.message htest)).map _
      have hfails : Traces (Arises (.statement (n + 1) frame (.assert pos e message)) s)
          (do
            let args ← assertion n frame message
            frame.here pos (Eval.fail (.make .assertionError (args.map .leaf)) : Eval Flow)) s₁ :=
        hargs.bind fun args s₂ h => traces_step_here fun raised t hr => .assert htest h hr
      cases message <;> exact hfails
  | raise pos value cause =>
    cases value with
    | none =>
      unfold exec raiseHandled
      dsimp only
      split
      next a ha => exact traces_raiseAgain ⟨[], _, s, .fails (.raiseHandled ha), rfl⟩
      next hnone => exact traces_step_here fun raised t hr => .nothingHandled hnone hr
    | some e =>
      refine (hsubject rfl).bind fun v s₁ hvalue => ?_
      have hcause : Traces (Arises (.statement (n + 1) frame (.raise pos (some e) cause)) s)
          (causeOf n frame cause) s₁ := by
        cases cause with
        | none => exact traces_pure
        | some e' => exact ((hv e' s₁).inside (.cause hvalue)).map _
      have hraises : Traces (Arises (.statement (n + 1) frame (.raise pos (some e) cause)) s)
          (do
            let because ← causeOf n frame cause
            frame.here pos (raiseValue v because)) s₁ :=
        hcause.bind fun because s₂ h => traces_step_here fun raised t hr => .raise hvalue h hr
      cases cause <;> exact hraises
  | importModules pos items =>
    have hmodules : Traces (Arises (.statement (n + 1) frame (.importModules pos items)) s)
        (bindModules frame pos items) s :=
      traces_bindEach rfl (fun _ _ => rfl) fun before item after s' hitems hbefore raised t hr =>
        .fails (.importModule hitems hbefore hr)
    exact hmodules.bind fun _ _ _ => traces_pure
  | importFrom pos level path items =>
    exact (traces_runImportFrom pos level path items).bind fun _ _ _ => traces_pure
  | importAll pos level path asterisk =>
    exact (traces_runImportAll pos level path asterisk).bind fun _ _ _ => traces_pure
  | branch pos e yes no =>
    refine (traces_test (hsubject rfl)).bind fun b s₁ htest => ?_
    cases b with
    | true => exact (hb frame yes s₁).inside (.branch htest)
    | false => exact (hb frame no s₁).inside (.branch htest)
  | forEach pos target source body after =>
    refine (hsubject rfl).bind fun v s₁ hvalue =>
      (traces_step_here fun raised t hr => .iterate hvalue hr).bind fun start s₂ hstart => ?_
    replace hstart := returns_here.mp hstart
    have hround (cursor : Cursor) (s : Scene) :
        Traces (Arises (.items n frame pos target body cursor) s)
          (eachRound n frame pos target body cursor) s := by
      refine (traces_step_here fun raised t hr => .item hr).bind fun found s₁ hfound => ?_
      cases found with
      | none => exact traces_pure
      | some found =>
        obtain ⟨item, cursor'⟩ := found
        replace hfound := returns_here.mp hfound
        refine Traces.bind ?_ fun _ _ _ => traces_pure
        refine ((traces_assignTo hv target item s₁).inside (.item hfound)).bind fun _ s₂ hitem => ?_
        exact (hb frame body s₂).inside (.each hfound hitem)
    refine ((traces_rounds hround (fun cursor s cursor' s' hnext places raised t h =>
      .inside (.nextItem hnext) h) roundLimit start s₂).inside (.forEach hvalue hstart)).bind
      fun ending s₃ hending => ?_
    unfold afterLoop
    split
    next => exact (hb frame after s₃).inside (.afterItems hvalue hstart hending)
    next => exact traces_pure
  | loop pos e body after =>
    have hround (u : Unit) (s : Scene) :
        Traces (Arises (.tests n frame e body) s) (whileRound n frame e body u) s := by
      refine (traces_test ((hv e s).inside .tested)).bind fun b s₁ htest => ?_
      cases b with
      | true => exact ((hb frame body s₁).inside (.round htest)).bind fun _ _ _ => traces_pure
      | false => exact traces_pure
    refine ((traces_rounds hround (fun _ s _ s' hnext places raised t h =>
      .inside (.nextTest hnext) h) roundLimit () s).inside .loop).bind fun ending s₁ hending => ?_
    unfold afterLoop
    split
    next => exact (hb frame after s₁).inside (.afterTests hending)
    next => exact traces_pure
  | attempt pos body handlers otherwise finally_ =>
    exact traces_runAttempt hv hb pos body handlers otherwise finally_ s
  | define pos isAsync name params body =>
    refine (traces_evalDefaults fun before p after e known s' hparams hdefault hbefore =>
      (hv e s').inside (.default hparams hdefault hbefore)).bind fun parameters s₁ _ =>
        Traces.bind (traces_of_not fun _ _ => not_raises_make) fun f s₂ _ =>
          traces_mapScene.bind fun _ _ _ => traces_pure
  | returns pos e =>
    cases e with
    | none => exact traces_pure
    | some e => exact (hsubject rfl).map _
  | breaks pos => exact traces_pure
  | continues pos => exact traces_pure

/-- All that code raises is traced to where it arose. -/
theorem tracesAll (n : Nat) : TracesAll n := by
  induction n with
  | zero =>
    exact ⟨fun _ _ _ => traces_exhausted, fun _ _ _ _ _ => traces_exhausted,
      fun _ _ _ => traces_exhausted, fun _ _ _ => traces_exhausted⟩
  | succ n ih =>
    exact ⟨ih.value_succ, ih.call_succ, ih.await_succ, ih.statement_succ⟩

/-! What leaves a chunk. -/

/-- The text of a chunk is read: it has these statements and this last expression. -/
def Parsed (file : Datum) (source name : String) (body : List Stmt) (tail : Option Expr) : Prop :=
  fileName file = .ok name ∧ ∃ statements, readSource name source = .ok statements ∧
    splitTail (isQuiet source) statements = (body, tail)

/-- Code at the top that is not refused knows the built-in names. -/
def permit (globals : Address) (name : String) (complaint : Option Complaint) : Eval Unit := do
  refuse name complaint
  addBuiltins globals

/-- Runs what is before the last expression of a chunk. -/
def runFront (globals : Address) (name : String) (body : List Stmt) : Eval Unit :=
  if body = [] then pure () else runStatements globals name true body

/-- In a chunk an exception arises: its text or one of its parts is refused, or it runs. The places
are those of the frames that are active then. -/
inductive ArisesIn (globals : Address) (file : Datum) (source : String) (s : Scene) :
    List Place → Raised → Scene → Prop
  | unnamed {raised : Raised} {t : Scene} (h : Raises (Eval.ofExcept (fileName file)) s raised t) :
      ArisesIn globals file source s [] raised t
  | unread {name : String} {raised : Raised} {t : Scene} (hname : fileName file = .ok name)
      (h : Raises (Eval.ofExcept (readSource name source)) s raised t) :
      ArisesIn globals file source s [] raised t
  | refused {name : String} {body : List Stmt} {tail : Option Expr} {raised : Raised} {t : Scene}
      (hparsed : Parsed file source name body tail)
      (h : Raises (permit globals name (refusal? true body)) s raised t) :
      ArisesIn globals file source s [] raised t
  | front {name : String} {body : List Stmt} {tail : Option Expr} {s' t : Scene}
      {passed : List Place} {raised : Raised} (hparsed : Parsed file source name body tail)
      (hpermit : Returns (permit globals name (refusal? true body)) s () s')
      (h : Arises (.block (depth + 1) (topFrame globals name) body) s' passed raised t) :
      ArisesIn globals file source s passed raised t
  | tailRefused {name : String} {body : List Stmt} {e : Expr} {s' t : Scene} {raised : Raised}
      (hparsed : Parsed file source name body (some e))
      (hfront : Returns (runFront globals name body) s () s')
      (h : Raises (permit globals name (tailRefusal? true e)) s' raised t) :
      ArisesIn globals file source s [] raised t
  | tail {name : String} {body : List Stmt} {e : Expr} {s₁ s' t : Scene} {passed : List Place}
      {raised : Raised} (hparsed : Parsed file source name body (some e))
      (hfront : Returns (runFront globals name body) s () s₁)
      (hpermit : Returns (permit globals name (tailRefusal? true e)) s₁ () s')
      (h : Arises (.value depth (topFrame globals name) e) s' passed raised t) :
      ArisesIn globals file source s passed raised t

variable {globals : Address} {file : Datum} {name source : String} {body : List Stmt}
  {tail : Option Expr} {s : Scene}

theorem evalTail_some (globals : Address) (name : String) (e : Expr) :
    evalTail globals name (some e) =
      permit globals name (tailRefusal? true e) >>= fun _ =>
        eval depth (topFrame globals name) e := by
  simp only [evalTail, permit, bind_assoc]

theorem runStatements_permit (globals : Address) (name : String) (body : List Stmt) :
    runStatements globals name true body =
      permit globals name (refusal? true body) >>= fun _ =>
        runBlock (exec (depth + 1) (topFrame globals name)) body >>= fun _ => pure () := by
  simp only [runStatements, permit, bind_assoc]

theorem evalChunk_front {quiet : Bool} {statements : List Stmt}
    (h : splitTail quiet statements = (body, tail)) :
    evalChunk globals name quiet statements =
      runFront globals name body >>= fun _ => evalTail globals name tail := by
  unfold runFront
  split
  next hbody => simp only [evalChunk_tail (hbody ▸ h), pure_bind]
  next hbody => exact evalChunk_body hbody h

theorem traces_runFront (hparsed : Parsed file source name body tail) :
    Traces (ArisesIn globals file source s) (runFront globals name body) s := by
  unfold runFront
  split
  · exact traces_pure
  · rw [runStatements_permit]
    refine (traces_self fun _ _ => .refused hparsed).bind fun _ s' hpermit =>
      Traces.bind ?_ fun _ _ _ => traces_pure
    exact ((tracesAll (depth + 1)).blocks _ _ _).mono fun _ _ _ => .front hparsed hpermit

theorem traces_evalTail (hparsed : Parsed file source name body tail) {s' : Scene}
    (hfront : Returns (runFront globals name body) s () s') :
    Traces (ArisesIn globals file source s) (evalTail globals name tail) s' := by
  cases tail with
  | none => exact traces_pure
  | some e =>
    rw [evalTail_some]
    refine (traces_self fun _ _ => .tailRefused hparsed hfront).bind fun _ s'' hpermit => ?_
    exact ((tracesAll depth).value _ e s'').mono fun _ _ _ => .tail hparsed hfront hpermit

/-- What a chunk raises has passed the frames that were active where it arose. -/
theorem traces_evalSource (globals : Address) (file : Datum) (source : String) (s : Scene) :
    Traces (ArisesIn globals file source s) (evalSource globals file source) s := by
  unfold evalSource
  refine (traces_self fun _ _ => .unnamed).bind fun name s₁ hnamed => ?_
  obtain ⟨hname, rfl⟩ := returns_ofExcept.mp hnamed
  refine (traces_self fun _ _ => .unread hname).bind fun statements s₂ hread => ?_
  obtain ⟨hstatements, rfl⟩ := returns_ofExcept.mp hread
  rcases hsplit : splitTail (isQuiet source) statements with ⟨body, tail⟩
  have hparsed : Parsed file source name body tail := ⟨hname, statements, hstatements, hsplit⟩
  rw [evalChunk_front hsplit]
  exact (traces_runFront hparsed).bind fun _ _ hfront => traces_evalTail hparsed hfront

end Chunkwise.Execution
