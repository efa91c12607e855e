import Chunkwise.Proofs.Session.Renewal.Indifference
import Mathlib.Data.List.InsertIdx

/-!
The course of a session: chunks come to be evaluated, ready events happen in any order, and the
world changes without the session. It is the same behind a past as without.
-/
namespace Chunkwise.Session

/-- What happens next in a session. -/
inductive Happening where
  /-- A chunk comes to be evaluated. -/
  | evaluate (chunk : String)
  /-- The event that is ready at a place happens. -/
  | take (place : Nat)
  /-- The world changes without the session. -/
  | outside (world : World)

/-- Lets the event happen that is ready at a place. After a fatal fault nothing happens. -/
def take (place : Nat) (s : Session) : Session :=
  match s.halted, s.ready[place]? with
  | none, some event => { s with ready := s.ready.eraseIdx place }.fire event
  | _, _ => s

def happen (s : Session) : Happening → Session
  | .evaluate chunk => s.submit (.evaluate chunk)
  | .take place => s.take place
  | .outside world => { s with world := world }

/-- A session after one happening after another. -/
def course (happenings : List Happening) (s : Session) : Session :=
  happenings.foldl happen s

theorem course_cons (t : Happening) (happenings : List Happening) (s : Session) :
    s.course (t :: happenings) = (s.happen t).course happenings := rfl

variable {s : Session} {event : Event} {place : Nat}

theorem take_of_ready (hh : s.halted = none) (hr : s.ready[place]? = some event) :
    s.take place = { s with ready := s.ready.eraseIdx place }.fire event := by
  unfold take
  split
  next hr' =>
    cases hr.symm.trans hr'
    rfl
  next h => exact absurd hr (h event hh)

theorem take_of_not_ready (h : s.halted = none → s.ready[place]? = none) : s.take place = s := by
  unfold take
  split
  next hh hr => cases (h hh).symm.trans hr
  next => rfl

theorem advance_eq_take (s : Session) : s.advance.getD s = s.take 0 := by
  unfold advance
  split
  next event rest hh hr =>
    rw [take_of_ready hh (by rw [hr]; rfl), hr]
    rfl
  next h =>
    rw [take_of_not_ready]
    · rfl
    · intro hh
      cases hr : s.ready with
      | nil => rfl
      | cons event rest => exact absurd hr (h event rest hh)

/-- That all happens which comes of a session, in the order in which events become ready, is one
course of many. -/
theorem settle_eq_course (k : Nat) (s : Session) :
    s.settle k = s.course (List.replicate k (.take 0)) := by
  induction k generalizing s with
  | zero => rfl
  | succ k ih =>
    have hhappen : s.course (List.replicate (k + 1) (.take 0)) =
        (s.advance.getD s).course (List.replicate k (.take 0)) := by
      rw [advance_eq_take]
      rfl
    rw [hhappen, ← ih, settle]
    rcases h : s.advance with _ | s'
    · exact (settle_of_rest h k).symm
    · rfl

theorem serve_eq_course (chunk : String) (s : Session) :
    (s.serve (.evaluate chunk)).2 =
      s.course (.evaluate chunk :: List.replicate patience (.take 0)) := by
  have hhappenings (k : Nat) : s.course (.evaluate chunk :: List.replicate k (.take 0)) =
      (s.submit (.evaluate chunk)).settle k := by
    rw [settle_eq_course]
    rfl
  rw [hhappenings]
  unfold serve
  exact Eq.refl ((s.submit (.evaluate chunk)).settle patience)

namespace Past

variable {past : Past}

theorem before_submit (request : Request) :
    (past.before s).submit (past.request request) = past.before (s.submit request) := by
  let s' : Session := { s with jobs := s.jobs ++ [{ request := request }] }
  have hlength : (past.before s).jobs.length = past.task s.jobs.length := by
    simp [before, task]
  have hbefore : past.before s' =
      { past.before s with
        jobs := (past.before s).jobs ++ [{ request := past.request request }] } := by
    simp [s', before, job, stage]
  refine Eq.trans ?_ (past.before_wake s' (.job s.jobs.length))
  rw [hbefore]
  simp only [submit, hlength]
  rfl

theorem before_take (place : Nat) : (past.before s).take place = past.before (s.take place) := by
  have hready : (past.before s).ready[place]? = s.ready[place]?.map past.event :=
    List.getElem?_map
  by_cases h : s.halted = none ∧ s.ready[place]? ≠ none
  · obtain ⟨hh, hr⟩ := h
    obtain ⟨event, hr⟩ := Option.ne_none_iff_exists'.mp hr
    let s' : Session := { s with ready := s.ready.eraseIdx place }
    have hbefore : past.before s' =
        { past.before s with ready := (past.before s).ready.eraseIdx place } := by
      simp [s', before, List.eraseIdx_map]
    have hr' : (past.before s).ready[place]? = some (past.event event) := by
      rw [hready, hr]
      rfl
    rw [take_of_ready hh hr, take_of_ready (s := past.before s) hh hr', ← hbefore]
    exact before_fire (s := s') event
  · have hstay (hh : s.halted = none) : s.ready[place]? = none := by
      simpa [hh] using h
    have hstay' (hh : (past.before s).halted = none) : (past.before s).ready[place]? = none := by
      rw [hready, hstay hh]
      rfl
    rw [take_of_not_ready hstay, take_of_not_ready hstay']

theorem before_happen (t : Happening) : (past.before s).happen t = past.before (s.happen t) := by
  cases t with
  | evaluate chunk => exact before_submit (.evaluate chunk)
  | take place => exact before_take place
  | outside world => rfl

theorem before_course (happenings : List Happening) (s : Session) :
    (past.before s).course happenings = past.before (s.course happenings) := by
  induction happenings generalizing s with
  | nil => rfl
  | cons t happenings ih =>
    rw [course_cons, course_cons, before_happen, ih]

theorem before_result? (n : Nat) : (past.before s).result? (past.task n) = s.result? n := by
  simp only [result?, before_stage?]
  rcases s.stage? n with _ | stage
  · rfl
  · cases stage <;> rfl

theorem before_outcome? (n : Nat) : (past.before s).outcome? (past.task n) = s.outcome? n := by
  simp only [outcome?, before_result?, before_halted]

end Past

end Chunkwise.Session
