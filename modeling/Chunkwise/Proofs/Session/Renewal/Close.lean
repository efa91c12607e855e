import Chunkwise.Proofs.Session.Alone.Succession
import Chunkwise.Proofs.Session.Renewal.Course
import Chunkwise.Proofs.Session.Renewal.Rest

/-!
A session that is closed at rest is as good as new. Nothing is sent to the host, and whatever comes
afterwards goes the same way as in a new session: all that was before is only there, and nothing
refers to it.
-/
namespace Chunkwise.Session
open Chunkwise.Execution

variable {rule : Rule} {settings : Settings} {world : World} {s : Session}

theorem Visits.settings_eq {s₀ : Session} {p : Point} (h : Visits rule s₀ p s) :
    s.settings = s₀.settings := by
  induction h with
  | start => rfl
  | move _ m ih => exact m.settings_eq.trans ih
  | _ => assumption

/-- What comes of a session that is closed while nothing runs in it. -/
theorem close_of_calm (hs : ∀ i, CalmAt i s) : ∃ (w : World) (cells : List Cell),
    w.host = s.world.host ∧ w.written = s.world.written ∧ w.journal = s.world.journal ∧
      cells.map (·.lock) = s.cells.map (·.lock) ∧
      s.close = (none, { s with
        world := w
        cells := cells
        current := none
        construction := none
        crossings := s.crossings ++ [{}]
        bridge := s.crossings.length }) := by
  rcases hcurrent : s.current with _ | i
  · exact ⟨s.world, s.cells, rfl, rfl, rfl, rfl, by simp only [Session.close, hcurrent]⟩
  · have hpending : (s.cell i).interpreter.pending = [] := by
      rcases hcell : s.cells[i]? with _ | cell
      · simp only [Session.cell, hcell]
        rfl
      · simpa [Session.cell, hcell] using (hs i cell hcell).pending
    let it : Interpreter := { (s.cell i).interpreter with closed := true }
    let w := (s.world.mark .flushed).mapStore
      (·.mapNames (s.cell i).interpreter.globals fun _ => [])
    refine ⟨w, (s.mapCell i fun cell => { cell with interpreter := it }).cells, rfl, rfl, rfl,
      locks_mapCell i (f := fun cell => { cell with interpreter := it }) (fun _ => rfl) s, ?_⟩
    simp only [Session.close, hcurrent, close_of_pending hpending]
    rfl

/-- Nothing is under way: all that was asked for has ended, and nothing more is to happen. -/
structure AtRest (s : Session) : Prop where
  finished : Finished s
  ready : s.ready = []
  halted : s.halted = none

/-- A session that was closed at rest is a new session with a past. -/
theorem close_eq_before (h : Reaches rule (fresh settings world [] none) s) (hs : AtRest s) :
    ∃ past : Past, past.jobs = s.jobs ∧ past.deeds = s.deeds ∧ s.close.1 = none ∧
      s.close.2.world.host = s.world.host ∧ s.close.2.world.written = s.world.written ∧
      s.close.2 = past.before (fresh settings s.close.2.world [] none) := by
  have hv := visits_of_reaches h
  have hcalm := h.calmAt hs.finished
  obtain ⟨w, cells, hhost, hwritten, -, hlocks, hclose⟩ := close_of_calm hcalm
  have hunheld : ∀ cell ∈ cells, cell.lock.held = false := by
    intro cell hcell
    have hlock : cell.lock ∈ s.cells.map (·.lock) := hlocks ▸ List.mem_map_of_mem hcell
    obtain ⟨old, hold, hlock⟩ := List.mem_map.mp hlock
    obtain ⟨i, hi⟩ := List.getElem?_of_mem hold
    exact hlock ▸ (hcalm i old hi).held
  let past : Past :=
    ⟨cells, s.crossings, s.constructions, s.attempts, s.jobs, s.deeds, hunheld⟩
  refine ⟨past, rfl, rfl, by rw [hclose], by rw [hclose, hhost], by rw [hclose, hwritten], ?_⟩
  have hresolving := hv.resolving_eq hs.finished
  have hsettings : s.settings = settings := hv.settings_eq
  rw [hclose]
  simp [Past.before, fresh, past, Past.bridge, Past.crossing, Past.lock, hresolving, hsettings,
    hs.ready, hs.halted]

/-- To close a session at rest sends nothing to the host. Whatever comes to be evaluated afterwards,
in whatever order things happen and however the world changes meanwhile, it comes to the same world
and the same results as in a new session, and the same is done but for the numbers by which jobs,
interpreters and the like are known. -/
theorem close_renews (settings : Settings) (world : World) {s : Session}
    (h : Reaches .anything (fresh settings world [] none) s) (hs : AtRest s) :
    s.close.1 = none ∧ s.close.2.world.host = s.world.host ∧
      s.close.2.world.written = s.world.written ∧
      ∃ past : Past, past.jobs = s.jobs ∧ past.deeds = s.deeds ∧
        ∀ happenings,
          let closed := s.close.2.course happenings
          let new := (fresh settings s.close.2.world [] none).course happenings
          closed.world = new.world ∧
            (∀ n, closed.outcome? (s.jobs.length + n) = new.outcome? n) ∧
            closed.deeds = s.deeds ++ new.deeds.map past.deed := by
  obtain ⟨past, hjobs, hdeeds, hfault, hhost, hwritten, hbefore⟩ := close_eq_before h hs
  refine ⟨hfault, hhost, hwritten, past, hjobs, hdeeds, fun happenings => ?_⟩
  have hcourse : s.close.2.course happenings =
      past.before ((fresh settings s.close.2.world [] none).course happenings) :=
    (congrArg (course happenings) hbefore).trans (Past.before_course happenings _)
  dsimp only
  refine ⟨by rw [hcourse]; rfl, fun n => ?_, by rw [hcourse, ← hdeeds]; rfl⟩
  have htask : s.jobs.length + n = past.task n := by rw [Past.task, hjobs]
  rw [hcourse, htask, Past.before_outcome?]

/-- The installer fails at first, and the host refuses what the second chunk prints. -/
theorem close_renews_after_failures : ∃ world s, Reaches .anything (fresh default world [] none) s ∧
    AtRest s ∧ (s.jobs.length = 2 ∧ (s.result? 0).any (!·.isOk) ∧ (s.result? 1).any (!·.isOk)) ∧
      s.close.1 = none ∧ ∀ happenings, (s.close.2.course happenings).world =
        ((fresh default s.close.2.world [] none).course happenings).world := by
  let world : World :=
    { installer := .scripted { preparations := [some ⟨.runtimeError, "offline", none, none⟩] }
      host := { audience := .receiver { refused := ["1\n"] } } }
  let s := (((fresh default world [] none).serve (.evaluate "2")).2.serve (.evaluate "print(1)")).2
  have hs : Reaches .anything (fresh default world [] none) s :=
    reaches_serve (reaches_serve .refl trivial fun _ _ => trivial) trivial fun _ _ => trivial
  have hrest : AtRest s := ⟨by decide +kernel, by decide +kernel,
    Option.isNone_iff_eq_none.mp (by decide +kernel)⟩
  obtain ⟨hclose, -, -, _, -, -, hcourse⟩ := close_renews default world hs hrest
  exact ⟨world, s, hs, hrest, by decide +kernel, hclose, fun happenings => (hcourse happenings).1⟩

end Chunkwise.Session
