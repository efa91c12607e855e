import Chunkwise.Proofs.Session.Alone.Quiet

/-!
Code that runs alone. Turns that it leaves are taken by nobody else, so it goes on from the scene
that it has left, until it has ended and its interpreter is as it was before.
-/
namespace Chunkwise.Session
open Chunkwise.Execution Store

variable {s : Session} {i : Nat} {w : World} {pending : List Char}

/-- A session while code of an interpreter runs. -/
def busy (i : Nat) (pending : List Char) (w : World) (s : Session) : Session :=
  { s with
    world := w
    cells := s.cells.modify i fun c =>
      { interpreter := { c.interpreter with pending := pending }, lock := { held := true } } }

theorem busy_scene (hi : i < s.cells.length) :
    (busy i pending w s).scene i = { pending := some pending, world := w } := by
  simp [Session.scene, Session.cell, busy, Interpreter.scene, hi]

theorem busy_leave {scene : Scene} {left : List Char} (hp : scene.pending = some left) :
    (busy i pending w s).leave i scene = busy i left scene.world s := by
  simp only [leave, busy, mapCell, List.modify_modify_eq, Interpreter.leftBy, hp, Option.getD_some]
  rfl

theorem busy_globals (j : Nat) :
    ((busy i pending w s).cell j).interpreter.globals = (s.cell j).interpreter.globals := by
  simp only [Session.cell, busy, List.getElem?_modify]
  split
  next hij =>
    subst hij
    rcases s.cells[i]? with _ | cell <;> rfl
  next => rcases s.cells[j]? with _ | cell <;> rfl

theorem busy_take (h : Still s) : s.mapLock i Lock.take = busy i [] s.world s := by
  simp only [mapLock, mapCell, busy, Lock.take]
  congr 1
  refine List.ext_getElem? fun j => ?_
  simp only [List.getElem?_modify]
  rcases hj : s.cells[j]? with _ | ⟨⟨globals, pending, closed⟩, lock⟩
  · split <;> rfl
  · obtain ⟨rfl, rfl⟩ := h.cells _ (List.mem_of_getElem? hj)
    rfl

/-- When code has ended its interpreter is as it was before. -/
theorem busy_release (h : Still s) (hi : i < s.cells.length) :
    (busy i [] w s).releaseRun i = { s with world := w } := by
  have hwaiting : ((busy i [] w s).cell i).lock.waiting = [] := by
    simp [Session.cell, busy, hi]
  have hcells : ((busy i [] w s).mapLock i Lock.release).cells = s.cells := by
    simp only [mapLock, mapCell, busy, List.modify_modify_eq]
    refine modify_of_self fun cell hcell => ?_
    obtain ⟨⟨globals, pending, closed⟩, lock⟩ := cell
    obtain ⟨rfl, rfl⟩ := h.cells _ (List.mem_of_getElem? hcell)
    rfl
  unfold releaseRun
  rw [hwaiting]
  simp only [wakeAll, List.head?_nil, Option.toList_none, List.append_nil]
  simp only [mapLock, mapCell] at hcells ⊢
  rw [hcells]
  rfl

/-- The run that is left of one when all its turns are taken. -/
def finished (r : Run (Except Fault Value)) : Run (Except Fault Value) :=
  match r.finish with
  | some (result, scene) => .done result scene
  | none => .exhausted

/-- What a run that has come to its end leaves of an interpreter and the world. -/
def leaving (it : Interpreter) (ended : Option (Except Fault Value × Scene)) :
    Option (Except Fault Value × Interpreter × World) :=
  ended.map fun (result, scene) => (result, it.leftBy scene, scene.world)

/-- Code is at its start, or the rest of it is held until its next turn. -/
def Holding (hold : (Scene → Run (Except Fault Value)) → Session → Session) (s s' : Session) :
    Prop :=
  s' = s ∨ ∃ resume, s' = hold resume s

/-- How the run of code is followed: when it leaves a turn the rest of it is held, and an event
goes on with it. -/
structure Follows (i : Nat) (event : Event)
    (hold : (Scene → Run (Except Fault Value)) → Session → Session)
    (follow : Run (Except Fault Value) → Session → Session) (s : Session) : Prop where
  still : ∀ resume, Still (hold resume s)
  again : ∀ resume resume', hold resume' (hold resume s) = hold resume' s
  pause : ∀ scene resume left pending w, scene.pending = some left →
    follow (.suspended scene resume) (busy i pending w s) =
      (busy i left scene.world (hold resume s)).wake event
  goesOn : ∀ resume scene left, scene.pending = some left →
    (busy i left scene.world (hold resume s)).fire event =
      follow (resume scene) (busy i left scene.world (hold resume s))

/-- Code that leaves all that it wrote in the buffer is followed to its end. -/
theorem leads_follow {event : Event}
    {hold : (Scene → Run (Except Fault Value)) → Session → Session}
    {follow : Run (Except Fault Value) → Session → Session} {r : Run (Except Fault Value)}
    {P : Scene → Prop} {Q : Except Fault Value → Scene → Prop} (hr : r.All P Q)
    (hP : ∀ scene, P scene → scene.pending.isSome)
    (hf : ∀ s', Holding hold s s' → Follows i event hold follow s') (pending : List Char)
    (w : World) :
    ∃ pending' w' s', Holding hold s s' ∧
      Leads (follow r (busy i pending w s)) (follow (finished r) (busy i pending' w' s')) := by
  induction r generalizing s pending w with
  | done | exhausted => exact ⟨pending, w, s, .inl rfl, .refl⟩
  | suspended scene resume ih =>
    obtain ⟨left, hp⟩ := Option.isSome_iff_exists.1 (hP _ hr.1)
    have hnow := hf s (.inl rfl)
    -- what is held later is held in place of what is held now
    have hlater {s' : Session} (h : Holding hold (hold resume s) s') :
        ∃ resume', s' = hold resume' s := by
      rcases h with rfl | ⟨resume', rfl⟩
      · exact ⟨resume, rfl⟩
      · exact ⟨resume', hnow.again resume resume'⟩
    obtain ⟨pending', w', s', hs', hrest⟩ := ih scene (hr.2 () scene hr.1)
      (fun s' h => hf s' (.inr (hlater h))) left scene.world
    have hfirst := advance_wake (s := busy i left scene.world (hold resume s))
      (hnow.still resume).halted (hnow.still resume).ready event
    rw [hnow.goesOn resume scene left hp] at hfirst
    refine ⟨pending', w', s', .inr (hlater hs'), ?_⟩
    rw [hnow.pause scene resume left pending w hp]
    exact .head hfirst hrest

end Chunkwise.Session
