import Chunkwise.Session.Schedule
import Mathlib.Data.List.Basic
import Mathlib.Logic.Relation

/-!
Runs of a session in any order. A run need not take ready events in the order in which they became
ready, requests may come at any time, and the world outside may change between any two events: that
covers every number of turns that something takes, and every pattern of failures.
-/
namespace Chunkwise.Session

/-- A session in which nothing has happened; there may be interpreters. -/
def fresh (settings : Settings) (world : World) (cells : List Cell) (current : Option Nat) :
    Session :=
  { settings := settings, world := world, cells := cells, current := current }

/-- What makes a session go on. -/
inductive Cause where
  | submit (request : Request)
  | fire (event : Event)
  | close
  /-- The world changes without the session. -/
  | outside (world : World)

inductive Step : Cause → Session → Session → Prop
  | submit {s : Session} (request : Request) : Step (.submit request) s (s.submit request)
  | fire {s : Session} {event : Event} (ready : event ∈ s.ready) :
      Step (.fire event) s ({ s with ready := s.ready.erase event }.fire event)
  | close {s : Session} : Step .close s s.close.2
  | outside {s : Session} (world : World) : Step (.outside world) s { s with world := world }

/-- What may happen in a session. -/
abbrev Rule := Cause → Session → Prop

namespace Rule

def anything : Rule := fun _ _ => True

/-- Evaluations come and go: the session is not closed, and nobody loads the heavy library but for
a chunk. -/
def evaluating : Rule := fun cause _ =>
  match cause with
  | .submit (.bootstrap _) | .close => False
  | .submit _ | .fire _ | .outside _ => True

end Rule

/-- A session comes from another by steps that a rule allows. -/
def Reaches (rule : Rule) : Session → Session → Prop :=
  Relation.ReflTransGen fun s s' => ∃ cause, Step cause s s' ∧ rule cause s

variable {rule : Rule} {s s' : Session}

theorem Reaches.step {cause : Cause} {s₀ : Session} (h : Reaches rule s₀ s) (hs : Step cause s s')
    (hr : rule cause s) : Reaches rule s₀ s' :=
  h.tail ⟨cause, hs, hr⟩

/-- What happens when the first ready event is taken is a step. -/
theorem step_of_advance (h : s.advance = some s') : ∃ event, Step (.fire event) s s' := by
  unfold advance at h
  split at h
  next event rest _ hready =>
    have hstep : Step (.fire event) s _ := .fire (by simp [hready])
    rw [hready, List.erase_cons_head, Option.some.inj h] at hstep
    exact ⟨event, hstep⟩
  next => contradiction

theorem settle_of_rest (h : s.advance = none) (k : Nat) : s.settle k = s := by
  cases k with
  | zero => rfl
  | succ k => simp [settle, h]

/-- Whatever comes of the ready events in order is reached by steps. -/
theorem reaches_settle (hr : ∀ event s, rule (.fire event) s) (n : Nat) (s : Session) :
    Reaches rule s (s.settle n) := by
  induction n generalizing s with
  | zero => exact .refl
  | succ n ih =>
    unfold settle
    split
    next => exact .refl
    next s' h =>
      obtain ⟨event, hstep⟩ := step_of_advance h
      exact .head ⟨_, hstep, hr _ _⟩ (ih s')

/-- What comes of a request is reached by steps. -/
theorem reaches_serve {s₀ : Session} (h : Reaches rule s₀ s) {request : Request}
    (hr : rule (.submit request) s) (hfire : ∀ event s, rule (.fire event) s) :
    Reaches rule s₀ (s.serve request).2 :=
  (h.step (.submit request) hr).trans (reaches_settle hfire patience _)

end Chunkwise.Session
