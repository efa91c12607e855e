import Chunkwise.Code.Placement
import Chunkwise.Execution.Evaluation
import Chunkwise.Proofs.Execution.Keeps

/-!
How statements end. Outside all functions only the end of the text or an exception ends a block
whose statements stand where they may: what leaves a loop stands in one. So a block can be cut
anywhere.
-/
namespace Chunkwise.Execution
open Code Eval

variable {α β : Type}

namespace Eval

/-- Whatever happens meanwhile, a computation that gives something gives something right. -/
abbrev Yields (m : Eval α) (post : α → Prop) : Prop :=
  Gives (fun _ => False) (fun _ _ => True : Unit → Scene → Prop) m post

variable {m : Eval α} {post : α → Prop}

theorem yields_any (m : Eval α) : m.Yields fun _ => True := by
  intro x s _
  induction m s with
  | done result s => exact ⟨trivial, by cases result <;> simp [Sound]⟩
  | suspended s resume ih => exact ⟨trivial, fun _ s' _ => ih s'⟩
  | exhausted => trivial

theorem yields_fail (fault : Fault) : (fail fault : Eval α).Yields post := by
  intro x s _
  simp only [fail, step]
  split <;> exact ⟨trivial, id⟩

theorem yields_raiseAgain (a : Address) : (raiseAgain a : Eval α).Yields post :=
  gives_raiseAgain id

/-- Whatever a computation gives, the next one gives something right. -/
theorem yields_after {next : α → Eval β} {post : β → Prop} (h : ∀ a, (next a).Yields post) :
    (m >>= next).Yields post :=
  (yields_any m).bind fun a _ => h a

theorem yields_ite {n : Eval α} {p : Prop} [Decidable p] (h : m.Yields post) (h' : n.Yields post) :
    (if p then m else n).Yields post := by
  split
  · exact h
  · exact h'

/-- Rounds give what one of them gives in the end. -/
theorem yields_rounds {round : α → Eval (α ⊕ β)} {post : β → Prop}
    (h : ∀ a, (round a).Yields (Sum.elim (fun _ => True) post)) (n : Nat) (a : α) :
    Yields (rounds round n a) post := by
  induction n generalizing a with
  | zero => exact keeps_exhausted
  | succ n ih =>
    rw [rounds_succ]
    refine (h a).bind fun result hresult => ?_
    cases result with
    | inl a' => exact ih a'
    | inr b => exact gives_give hresult

/-- What comes next hangs only on what can be given. -/
theorem Yields.bind_congr {next next' : α → Eval β} (h : m.Yields post)
    (hnext : ∀ a, post a → next a = next' a) : m >>= next = m >>= next' := by
  funext s
  change (m s).andThen _ = (m s).andThen _
  have hrun := h () s trivial
  generalize m s = r at hrun
  induction r with
  | done result s =>
    cases result with
    | ok a => exact congrFun (hnext a hrun.2) s
    | error raised => rfl
  | suspended s resume ih =>
    exact congrArg (Run.suspended s) (funext fun s' => ih s' (hrun.2 () s' trivial))
  | exhausted => rfl

end Eval

/-! How a statement may end. -/

/-- The ways in which a statement may end outside all functions: inside a loop it may leave it. -/
def Flow.Fits (inLoop : Bool) : Flow → Prop
  | .next => True
  | .broke | .continued => inLoop = true
  | .returned _ => False

/-- Blocks end as their statements may. -/
theorem fits_runBlock {run : Stmt → Eval Flow} {inLoop : Bool} {body : List Stmt}
    (h : ∀ s ∈ body, (run s).Yields (Flow.Fits inLoop)) :
    (runBlock run body).Yields (Flow.Fits inLoop) := by
  induction body with
  | nil => exact gives_pure trivial
  | cons s rest ih =>
    refine (h s List.mem_cons_self).bind fun flow hflow => ?_
    have hrest := ih fun s hs => h s (List.mem_cons_of_mem _ hs)
    cases flow with
    | next => exact hrest
    | _ => exact gives_pure hflow

theorem fits_afterLoop {after : Eval Flow} {inLoop : Bool} (h : after.Yields (Flow.Fits inLoop))
    {ending : Flow × Bool} (hending : ending.1 = .next) :
    (afterLoop after ending).Yields (Flow.Fits inLoop) := by
  obtain ⟨flow, byItself⟩ := ending
  obtain rfl : flow = .next := hending
  cases byItself with
  | true => exact h
  | false => exact gives_pure trivial

/-- A body that leaves no more than its own loop ends that, or calls for another round. -/
theorem elim_afterBody {α : Type} (state : α) {flow : Flow} (h : flow.Fits true) :
    Sum.elim (fun _ => True) (fun ending : Flow × Bool => ending.1 = .next)
      (afterBody state flow) := by
  cases flow with
  | returned v => exact h.elim
  | _ => trivial

theorem fits_itemRound {next : Store.Cursor → Eval (Option (Value × Store.Cursor))}
    {body : Value → Eval Flow} (h : ∀ v, (body v).Yields (Flow.Fits true)) (cursor : Store.Cursor) :
    (itemRound next body cursor).Yields
      (Sum.elim (fun _ => True) fun ending : Flow × Bool => ending.1 = .next) := by
  refine yields_after fun item => ?_
  cases item with
  | none => exact gives_pure rfl
  | some item => exact (h item.1).bind fun flow hflow => gives_pure (elim_afterBody _ hflow)

theorem fits_testRound {test : Eval Bool} {body : Eval Flow} (h : body.Yields (Flow.Fits true))
    (state : Unit) :
    (testRound test body state).Yields
      (Sum.elim (fun _ => True) fun ending : Flow × Bool => ending.1 = .next) :=
  yields_after fun _ => yields_ite (h.bind fun _ hflow => gives_pure (elim_afterBody _ hflow))
    (gives_pure rfl)

/-! Guarded blocks. -/

/-- The statements of a handler. -/
def handled : Handler → List Stmt
  | .mk _ _ _ body => body

variable {frame : Frame} {value : Expr → Eval Value} {run : Frame → List Stmt → Eval Flow}
  {inLoop : Bool}

theorem fits_raiseValue (v : Value) (cause : Option Value) :
    (raiseValue v cause).Yields (Flow.Fits inLoop) := by
  refine yields_after fun a => ?_
  cases cause with
  | none => exact yields_raiseAgain a
  | some c => exact yields_after fun _ => yields_raiseAgain a

/-- A handler that is found is one of those given. -/
theorem findHandler_mem (kind : Fault.Kind) (handlers : List Handler) :
    (findHandler frame value kind handlers).Yields fun found => ∀ h ∈ found, h ∈ handlers := by
  induction handlers with
  | nil => exact gives_pure (by simp)
  | cons handler rest ih =>
    obtain ⟨pos, kinds, as, body⟩ := handler
    cases kinds with
    | none => exact gives_pure (by simp)
    | some e =>
      refine yields_after fun v => yields_after fun kinds => yields_ite (gives_pure (by simp)) ?_
      exact ih.mono fun found hfound h hh => List.mem_cons_of_mem _ (hfound h hh)

theorem fits_runHandler (a : Address) (handler : Handler)
    (h : ∀ frame, (run frame (handled handler)).Yields (Flow.Fits inLoop)) :
    (runHandler frame run a handler).Yields (Flow.Fits inLoop) := by
  obtain ⟨pos, kinds, as, body⟩ := handler
  cases as with
  | none => exact h _
  | some name =>
    exact yields_after fun _ => ((h _).attempt).bind fun result hresult => yields_after fun _ =>
      gives_ofResult hresult

theorem fits_runGuarded {body otherwise : List Stmt} {handlers : List Handler}
    (hbody : ∀ frame, (run frame body).Yields (Flow.Fits inLoop))
    (hotherwise : ∀ frame, (run frame otherwise).Yields (Flow.Fits inLoop))
    (hhandlers : ∀ h ∈ handlers, ∀ frame, (run frame (handled h)).Yields (Flow.Fits inLoop)) :
    (runGuarded frame value run body handlers otherwise).Yields (Flow.Fits inLoop) := by
  refine ((hbody frame).attempt).bind fun result hresult => ?_
  cases result with
  | ok flow =>
    cases flow with
    | next => exact hotherwise frame
    | _ => exact gives_pure hresult
  | error raised =>
    refine yields_after fun _ => yields_after fun e =>
      (findHandler_mem _ _).bind fun found hfound => ?_
    cases found with
    | none => exact yields_raiseAgain _
    | some handler => exact fits_runHandler _ _ (hhandlers handler (hfound handler rfl))

theorem fits_runFinally {body : List Stmt} (h : ∀ frame, (run frame body).Yields (Flow.Fits inLoop))
    {result : Except Raised Flow} (hresult : Sound (fun _ => False) (Flow.Fits inLoop) result) :
    (runFinally frame run body result).Yields (Flow.Fits inLoop) := by
  cases result with
  | ok flow =>
    refine (h frame).bind fun other hother => ?_
    cases other with
    | next => exact gives_pure hresult
    | _ => exact gives_pure hother
  | error raised =>
    refine yields_after fun _ => (h _).bind fun other hother => ?_
    cases other with
    | next => exact yields_raiseAgain _
    | _ => exact gives_pure hother

/-! Statements that stand where they may. -/

theorem blockMisplaced_eq_nil {inside : Enclosure} {body : List Stmt} :
    blockMisplaced inside body = [] ↔ ∀ s ∈ body, s.misplaced inside = [] := by
  induction body with
  | nil => simp [blockMisplaced]
  | cons s rest ih => simp [blockMisplaced, ih]

theorem body_misplaced {inside : Enclosure} {handlers : List Handler}
    (h : handlersMisplaced inside handlers = []) :
    ∀ handler ∈ handlers, blockMisplaced inside.deeper (handled handler) = [] := by
  induction handlers with
  | nil => simp
  | cons handler rest ih =>
    obtain ⟨pos, kinds, as, body⟩ := handler
    simp only [handlersMisplaced, List.append_eq_nil_iff] at h
    rintro handler (_ | ⟨_, hmem⟩)
    · exact h.1.2
    · exact ih h.2 handler hmem

/-- Code outside all functions, in a loop or not. -/
structure Outside (inLoop : Bool) (inside : Enclosure) : Prop where
  function : inside.function = none
  loop : inside.loop = inLoop

theorem Outside.ite {first second : Enclosure} {p : Prop} [Decidable p] (h : Outside inLoop first)
    (h' : Outside inLoop second) : Outside inLoop (if p then first else second) := by
  split
  · exact h
  · exact h'

/-- A statement outside all functions ends in a way that fits its place. -/
theorem fits_exec (n : Nat) {inside : Enclosure} (houtside : Outside inLoop inside) (frame : Frame)
    {s : Stmt} (h : s.misplaced inside = []) : (exec n frame s).Yields (Flow.Fits inLoop) := by
  induction n generalizing inLoop inside frame s with
  | zero => exact keeps_exhausted
  | succ n ih =>
    have hblock {inLoop : Bool} {inside : Enclosure} (houtside : Outside inLoop inside)
        {body : List Stmt} (h : blockMisplaced inside body = []) (frame : Frame) :
        (runBlock (exec n frame) body).Yields (Flow.Fits inLoop) :=
      fits_runBlock fun s hs => ih houtside frame (blockMisplaced_eq_nil.mp h s hs)
    have hloop : Outside true inside.inLoop := ⟨houtside.function, rfl⟩
    have hdeeper {around : Enclosure} (h : Outside inLoop around) : Outside inLoop around.deeper :=
      ⟨h.function, h.loop⟩
    cases s with
    | branch pos e yes no =>
      simp only [Stmt.misplaced, List.append_eq_nil_iff] at h
      exact yields_after fun _ =>
        yields_ite (hblock houtside h.1.2 frame) (hblock houtside h.2 frame)
    | forEach pos target source body after =>
      simp only [Stmt.misplaced, List.append_eq_nil_iff] at h
      have hround (item : Value) : Eval.Yields (do
          assignTo frame (Execution.eval n frame) target item
          runBlock (exec n frame) body) (Flow.Fits true) :=
        yields_after fun _ => hblock hloop h.1.2 frame
      exact yields_after fun _ => yields_after fun start =>
        (yields_rounds (fits_itemRound hround) _ _).bind
          fun ending hending => fits_afterLoop (hblock houtside h.2 frame) hending
    | loop pos e body after =>
      simp only [Stmt.misplaced, List.append_eq_nil_iff] at h
      exact (yields_rounds (fits_testRound (hblock hloop h.1.2 frame)) _ _).bind
        fun ending hending => fits_afterLoop (hblock houtside h.2 frame) hending
    | attempt pos body handlers otherwise finally_ =>
      simp only [Stmt.misplaced, List.append_eq_nil_iff] at h
      obtain ⟨⟨⟨⟨⟨-, hbody⟩, hotherwise⟩, hhandlers⟩, hfinally⟩, -⟩ := h
      have haround := houtside.ite (p := finally_.isEmpty) (hdeeper houtside)
      have hguarded := haround.ite (p := handlers.isEmpty) (hdeeper haround)
      exact ((fits_runGuarded (hblock hguarded hbody) (hblock haround hotherwise)
        fun handler hmem => hblock (hdeeper hguarded)
          (body_misplaced hhandlers handler hmem)).attempt).bind
        fun result hresult => fits_runFinally (hblock houtside hfinally) hresult
    | returns pos e => simp [Stmt.misplaced, houtside.function] at h
    | breaks pos | continues pos =>
      cases hin : inside.loop with
      | true => exact gives_pure (houtside.loop.symm.trans hin)
      | false => simp [Stmt.misplaced, hin] at h
    | raise pos value cause =>
      cases value with
      | none =>
        change (raiseHandled frame pos).Yields _
        unfold raiseHandled
        split
        · exact yields_raiseAgain _
        · exact (yields_fail _).here _ _
      | some e =>
        refine yields_after fun v => ?_
        cases cause <;> exact yields_after fun _ => (fits_raiseValue v _).here _ _
    | assert pos e message =>
      refine yields_after fun _ => yields_ite (gives_pure trivial) ?_
      cases message <;> exact yields_after fun _ => Gives.here (yields_fail _) _ _
    | pass pos => exact gives_pure trivial
    | define => exact yields_after fun _ => yields_after fun _ => yields_after fun _ =>
        gives_pure trivial
    | assign => exact yields_after fun _ => yields_after fun _ => gives_pure trivial
    | _ => exact yields_after fun _ => gives_pure trivial

end Chunkwise.Execution
