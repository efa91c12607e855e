import Chunkwise.Proofs.Session.Alone.Account

/-!
One request after another. A session in which nothing is under way is one again when a request that
was taken alone has been served, and when it has been closed.
-/
namespace Chunkwise.Session
open Chunkwise.Execution Chunkwise.World Store

variable {s s' : Session} {chunk : String}

theorem quiet_fresh (settings : Settings) {world : World}
    (h : hostScope < world.store.objects.size) : Quiet (fresh settings world [] none) where
  halted := rfl
  ready := rfl
  cells := by simp [fresh]
  guarded := fun a ⟨cell, hcell, _⟩ => by simp [fresh] at hcell
  host := fun ⟨cell, hcell, _⟩ => by simp [fresh] at hcell
  resolving := rfl
  current := by simp [fresh]
  inflight := rfl
  construction := by simp [fresh]
  hosted := fun _ => h

/-- An evaluation that has come to its end leaves nothing under way, unless its fault has stopped
everything. -/
theorem Serves.quiet (hq : Quiet s) (h : Serves (.evaluate chunk) s s')
    (hended : (s'.outcome? s.jobs.length).isSome) (hh : s'.halted = none) : Quiet s' := by
  obtain ⟨outcome, w, deeds, s₁, -, hs, hserves⟩ := serves_evaluation hq chunk
  obtain rfl := h.unique hserves
  exact hs.quiet (hs.ends ▸ hended) hh

/-- The world outside may change meanwhile, as long as it leaves all objects alone. -/
theorem Quiet.outside (hq : Quiet s) {world : World} (h : world.store = s.world.store) :
    Quiet { s with world := world } :=
  ⟨⟨hq.halted, hq.ready, hq.cells, h ▸ hq.guarded, hq.host⟩, hq.resolving, hq.current, hq.inflight,
    hq.construction, h ▸ hq.hosted⟩

/-- An interpreter with nothing pending is closed: nothing is sent, and all its names are
forgotten. -/
theorem close_of_pending {it : Interpreter} (hp : it.pending = []) (w : World) :
    it.close w = (none, { it with closed := true },
      (w.mark .flushed).mapStore (·.mapNames it.globals fun _ => [])) := by
  have hflush : (it.scene w).flush = (none, it.scene (w.mark .flushed)) := by
    simp [Scene.flush, Interpreter.scene, hp, Output.flush]
  unfold Interpreter.close
  rw [hflush]
  simp [Interpreter.leftBy, Interpreter.scene]

/-- What comes of a session when it is closed. -/
theorem Quiet.close (hq : Quiet s) : Quiet s.close.2 := by
  rcases hcurrent : s.current with _ | i
  · simp only [Session.close, hcurrent]
    exact ⟨⟨hq.halted, hq.ready, hq.cells, hq.guarded, hq.host⟩, hq.resolving, by simp,
      by simp [Session.crossing], by simp, hq.hosted⟩
  · have hi := hq.current i hcurrent
    let it := (s.cell i).interpreter
    let cells := s.cells.modify i fun cell => { cell with interpreter := { it with closed := true } }
    have hcell {cell : Cell} (hmem : cell ∈ cells) :
        (cell.lock = {} ∧ cell.interpreter.pending = []) ∧
          s.IsTop cell.interpreter.globals := by
      obtain ⟨j, hj⟩ := List.mem_iff_getElem?.1 hmem
      simp only [cells, List.getElem?_modify] at hj
      split at hj
      next hij =>
        subst hij
        obtain rfl : _ = cell := by simpa [cell_eq hi] using hj
        exact ⟨⟨hq.toStill.lock hi, hq.toStill.pending hi⟩, isTop_globals hi⟩
      next =>
        have hmem : cell ∈ s.cells := List.mem_of_getElem? (by simpa using hj)
        exact ⟨hq.cells cell hmem, cell, hmem, rfl⟩
    have htop (a : Address) (h : ∃ cell ∈ cells, cell.interpreter.globals = a) : s.IsTop a := by
      obtain ⟨cell, hmem, rfl⟩ := h
      exact (hcell hmem).2
    simp only [Session.close, hcurrent, close_of_pending (hq.toStill.pending hi)]
    refine ⟨⟨hq.halted, hq.ready, fun cell hmem => (hcell hmem).1, ?_, fun h => hq.host (htop _ h)⟩,
      hq.resolving, by simp, by simp [Session.crossing], by simp, fun hnil => ?_⟩
    · exact fun a ha => hq.guarded.mapNames _ _ a (htop a ha)
    · have hnil : cells = [] := hnil
      have hlength := congrArg List.length hnil
      simp only [cells, List.length_modify, List.length_nil] at hlength
      omega
theorem leads_settle (k : Nat) (s : Session) : Leads s (s.settle k) := by
  induction k generalizing s with
  | zero => exact .refl
  | succ k ih =>
    unfold settle
    split
    · exact .refl
    next h => exact .head h (ih _)

/-- A request is served when all that comes of it has been waited for. -/
theorem serves_serve {request : Request} (h : (s.serve request).2.advance.isNone) :
    Serves request s (s.serve request).2 :=
  ⟨leads_settle patience _, Option.isNone_iff_eq_none.1 h⟩

end Chunkwise.Session
