import Chunkwise.Proofs.Session.Places
import Chunkwise.Proofs.World.Leaves

/-!
Sessions in which nothing is under way. A request that is taken then is served alone: one event at
a time is ready, so what comes of it is one chain of sessions.
-/
namespace Chunkwise.Session
open Chunkwise.Execution Store

variable {s s' s'' : Session} {n i a c : Nat}

/-! What comes of the ready events. -/

/-- When the ready events are taken in order, one session comes of another. -/
def Leads : Session → Session → Prop :=
  Relation.ReflTransGen fun s s' => s.advance = some s'

theorem Leads.refl : Leads s s :=
  Relation.ReflTransGen.refl

theorem Leads.trans (h : Leads s s') (h' : Leads s' s'') : Leads s s'' :=
  Relation.ReflTransGen.trans h h'

theorem Leads.head (h : s.advance = some s') (h' : Leads s' s'') : Leads s s'' :=
  Relation.ReflTransGen.head h h'

/-- What comes of a session is all that comes of it when nothing more is ready. -/
theorem Leads.settle (h : Leads s s') (hrest : s'.advance = none) :
    ∃ enough, ∀ k, enough ≤ k → s.settle k = s' := by
  induction h using Relation.ReflTransGen.head_induction_on with
  | refl => exact ⟨0, fun k _ => settle_of_rest hrest k⟩
  | @head s₁ s₂ hstep _ ih =>
    obtain ⟨enough, ih⟩ := ih
    refine ⟨enough + 1, fun k hk => ?_⟩
    obtain ⟨k, rfl⟩ : ∃ j, k = j + 1 := ⟨k - 1, by omega⟩
    rw [Session.settle, hstep]
    exact ih k (by omega)

/-- The only ready event happens next. -/
theorem advance_wake (hh : s.halted = none) (hr : s.ready = []) (event : Event) :
    (s.wake event).advance = some (s.fire event) := by
  obtain ⟨settings, world, cells, crossings, constructions, attempts, jobs, current, construction,
    bridge, resolving, ready, halted, deeds⟩ := s
  subst hh hr
  rfl

theorem advance_of_ready (hr : s.ready = []) : s.advance = none := by
  simp only [advance, hr]
  cases s.halted <;> rfl

theorem advance_of_halted {fault : Fault} (hh : s.halted = some fault) : s.advance = none := by
  simp only [advance, hh]

/-- Who is told that what it waits for has ended goes on next. -/
theorem leads_relay (hh : s.halted = none) (hr : s.ready = []) (n : Nat) :
    Leads (s.wake (.relay n)) (s.continueJob n) :=
  .head (advance_wake hh hr _) (.head (advance_wake hh hr _) .refl)

/-! Nothing is under way. -/

/-- An interpreter binds the names of its chunks at an address. -/
def IsTop (s : Session) (a : Address) : Prop :=
  ∃ cell ∈ s.cells, cell.interpreter.globals = a

/-- No code runs and nothing is ready. All names of chunks are where they are kept. -/
structure Still (s : Session) : Prop where
  halted : s.halted = none
  ready : s.ready = []
  cells : ∀ cell ∈ s.cells, cell.lock = {} ∧ cell.interpreter.pending = []
  guarded : Guarded s.IsTop s.world.store
  host : ¬s.IsTop hostScope

/-- No evaluation, no attempt and no construction is under way. -/
structure Quiet (s : Session) : Prop extends Still s where
  resolving : s.resolving = {}
  current : ∀ i, s.current = some i → i < s.cells.length
  inflight : s.crossing.inflight = none
  construction : s.current = none → ∀ c, s.construction = some c →
    ∃ fault, s.making? c = some (.ended (.error fault))
  hosted : s.cells = [] → hostScope < s.world.store.objects.size

/-- What comes next is the turn of a job that is to evaluate a chunk. -/
structure OnTurn (n : Nat) (chunk : String) (s : Session) : Prop where
  still : Still s
  job : ∃ stage, s.jobs[n]? = some ⟨.evaluate chunk, stage⟩

/-- A session in which things were done that have changed the world. -/
def after (w : World) (deeds : List Deed) (s : Session) : Session :=
  { s with world := w, deeds := s.deeds ++ deeds }

@[simp] theorem after_after (w w' : World) (deeds more : List Deed) (s : Session) :
    (s.after w deeds).after w' more = s.after w' (deeds ++ more) := by
  simp [after]

theorem after_did (w : World) (deeds : List Deed) (deed : Deed) (s : Session) :
    (s.after w deeds).did deed = s.after w (deeds ++ [deed]) :=
  after_after w w deeds [deed] s

theorem after_nil (w : World) (s : Session) : s.after w [] = { s with world := w } := by
  simp [after]

/-- The scopes that are kept are still there. -/
theorem Still.after (h : Still s) {w : World} (hw : Guarded s.IsTop w.store) (deeds : List Deed) :
    Still (s.after w deeds) :=
  ⟨h.halted, h.ready, h.cells, hw, h.host⟩

theorem Still.mapWorld (h : Still s) {f : World → World}
    (hw : Guarded s.IsTop (f s.world).store) : Still (s.mapWorld f) :=
  ⟨h.halted, h.ready, h.cells, hw, h.host⟩

theorem Still.setJob (h : Still s) (n : Nat) (stage : Stage) : Still (s.setJob n stage) :=
  ⟨h.halted, h.ready, h.cells, h.guarded, h.host⟩

theorem cell_eq (h : i < s.cells.length) : s.cells[i]? = some (s.cell i) := by
  simp [Session.cell, h]

theorem cell_mem (h : i < s.cells.length) : s.cell i ∈ s.cells :=
  List.mem_of_getElem? (cell_eq h)

theorem Still.lock (h : Still s) (hi : i < s.cells.length) : (s.cell i).lock = {} :=
  (h.cells _ (cell_mem hi)).1

theorem Still.pending (h : Still s) (hi : i < s.cells.length) :
    (s.cell i).interpreter.pending = [] :=
  (h.cells _ (cell_mem hi)).2

theorem isTop_globals (hi : i < s.cells.length) : s.IsTop (s.cell i).interpreter.globals :=
  ⟨_, cell_mem hi, rfl⟩

theorem Still.scene (h : Still s) (hi : i < s.cells.length) :
    s.scene i = { pending := some [], world := s.world } := by
  simp [Session.scene, Interpreter.scene, h.pending hi]

/-- A change of an item that leaves it as it is. -/
theorem modify_of_self {α : Type} {items : List α} {j : Nat} {f : α → α}
    (h : ∀ x, items[j]? = some x → f x = x) : items.modify j f = items := by
  refine List.ext_getElem? fun k => ?_
  rw [List.getElem?_modify]
  rcases hk : items[k]? with _ | x
  · split <;> rfl
  · split
    · next hjk => exact congrArg some (h x (hjk ▸ hk))
    · rfl

/-- Code that leaves nothing pending leaves its interpreter as it was. -/
theorem leave_eq {scene : Scene} (hi : i < s.cells.length)
    (hp : (s.cell i).interpreter.pending = []) (hs : scene.pending = some []) :
    s.leave i scene = { s with world := scene.world } := by
  have hcells : s.cells.modify i (fun c => { c with interpreter := c.interpreter.leftBy scene }) =
      s.cells := by
    refine modify_of_self fun cell hcell => ?_
    obtain rfl : s.cell i = cell := Option.some.inj ((cell_eq hi).symm.trans hcell)
    simp [Interpreter.leftBy, hs, ← hp]
  simp only [leave, mapCell, hcells]

/-! A job's record. -/

theorem setJob_self {request : Request} {stage : Stage} (h : s.jobs[n]? = some ⟨request, stage⟩) :
    s.setJob n stage = s := by
  have hjobs : s.jobs.modify n (fun job => { job with stage := stage }) = s.jobs := by
    refine modify_of_self fun job hjob => ?_
    obtain rfl := Option.some.inj (h.symm.trans hjob)
    rfl
  simp only [Session.setJob, hjobs]

theorem setJob_setJob (n : Nat) (stage stage' : Stage) (s : Session) :
    (s.setJob n stage').setJob n stage = s.setJob n stage := by
  simp only [setJob, List.modify_modify_eq]
  rfl

theorem jobs_setJob {request : Request} {stage₀ : Stage} (h : s.jobs[n]? = some ⟨request, stage₀⟩)
    (stage : Stage) : (s.setJob n stage).jobs[n]? = some ⟨request, stage⟩ := by
  simp [setJob, h]

theorem OnTurn.setJob {chunk : String} (h : OnTurn n chunk s) (stage : Stage) :
    OnTurn n chunk (s.setJob n stage) := by
  obtain ⟨stage₀, hjob⟩ := h.job
  exact ⟨h.still.setJob n stage, stage, jobs_setJob hjob stage⟩

theorem OnTurn.after {chunk : String} (h : OnTurn n chunk s) {w : World}
    (hw : Guarded s.IsTop w.store) (deeds : List Deed) : OnTurn n chunk (s.after w deeds) :=
  ⟨h.still.after hw deeds, h.job⟩

theorem OnTurn.request? {chunk : String} (h : OnTurn n chunk s) :
    s.request? n = some (.evaluate chunk) := by
  obtain ⟨stage, hjob⟩ := h.job
  simp [Session.request?, hjob]

theorem OnTurn.stage?_setJob {chunk : String} (h : OnTurn n chunk s) (stage : Stage) :
    (s.setJob n stage).stage? n = some stage := by
  obtain ⟨stage₀, hjob⟩ := h.job
  simp [Session.stage?, jobs_setJob hjob]

end Chunkwise.Session
