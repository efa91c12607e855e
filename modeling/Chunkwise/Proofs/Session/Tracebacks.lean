import Chunkwise.Proofs.Execution.Tracebacks
import Chunkwise.Proofs.Report.Exceptions
import Chunkwise.Proofs.Session.Alone.Succession
import Chunkwise.Proofs.Session.Executions

/-!
Chunks that raise. The failure of such a chunk lists the frames of chunks that were active where the
exception arose.
-/
namespace Chunkwise.Session
open Chunkwise.Execution Chunkwise.Report

variable {rule : Rule} {settings : Settings} {world : World} {s t : Session} {n i : Nat}
  {file : Datum} {source name : String}

/-- A run of a chunk ends as its code does, when what it wrote has been handed on. -/
theorem ends_runChunk {globals : Address} {scene u : Scene} {result : Except Fault Value}
    (h : (runChunk globals file source scene).Ends result u) :
    ∃ ending u', (evalSource globals file source (scene.opens (.source source))).Ends ending u' ∧
      closing ending u' = (result, u) := by
  obtain ⟨ending, u', hcode, h⟩ := Run.ends_andThen.mp h
  refine ⟨ending, u', hcode, ?_⟩
  unfold closing
  generalize outcome ending u' = out at h ⊢
  obtain ⟨result', s'⟩ := out
  dsimp only at h ⊢
  generalize s'.flush = flushed at h ⊢
  obtain ⟨_ | fault, s''⟩ := flushed <;> obtain ⟨rfl, rfl⟩ := Run.ends_done.mp h <;> rfl

/-- The code of a job's chunk. -/
def chunkCode (n i : Nat) (t : Session) : Eval Value :=
  evalSource (t.cell i).interpreter.globals t.file (t.scanOf n).source

/-- The scene in which the code of a job's chunk begins. -/
def chunkScene (n i : Nat) (t : Session) : Scene :=
  (t.scene i).opens (.source (t.scanOf n).source)

/-- In the code of a job's chunk an exception arises. -/
def ArisesInChunk (n i : Nat) (t : Session) : List Chunkwise.Place → Raised → Scene → Prop :=
  ArisesIn (t.cell i).interpreter.globals t.file (t.scanOf n).source (chunkScene n i t)

/-- The code of a job's chunk has ended so, and the job with it. If an exception has left the code,
it arose there behind the places that it has passed, and the job has failed on it. -/
structure EndedBy (name : String) (n i : Nat) (t : Session) (ending : Except Raised Value)
    (u : Scene) (result : Except Fault Value) : Prop where
  ends : (chunkCode n i t (chunkScene n i t)).Ends ending u
  concludes : result = (concluded t.file (t.scanOf n).source (closing ending u).1
    (closing ending u).2.world).1
  reports {raised : Raised} : ending = .error raised → ∃ places first u',
    ArisesInChunk n i t places first u' ∧ raised = first.behind places ∧
      ∀ e, Departs raised e u →
        result = .error (.executionFailure
          (traceback name (places ++ first.trace) (departed u.store raised))
          (departed u.store raised) (innermost name (places ++ first.trace)))

theorem EndedBy.of_ends {ending : Except Raised Value} {u : Scene} (hfile : t.file = .str name)
    (h : (chunkCode n i t (chunkScene n i t)).Ends ending u) :
    EndedBy name n i t ending u (concluded t.file (t.scanOf n).source (closing ending u).1
      (closing ending u).2.world).1 := by
  refine ⟨h, rfl, fun {raised} hraised => ?_⟩
  subst hraised
  obtain ⟨places, first, u', harises, rfl⟩ := traces_evalSource _ _ _ _ raised u h
  refine ⟨places, first, u', harises, rfl, fun e hdeparts => ?_⟩
  rw [hdeparts.closing, hfile]
  exact congrArg Except.error (hdeparts.executionFault name _)

/-- What an evaluation has failed with. -/
def failure? : Option (Except Fault Value) → Option Fault
  | some (.error failure) => some failure
  | _ => none

theorem failure?_eq_some {result : Option (Except Fault Value)} {failure : Fault} :
    failure? result = some failure ↔ result = some (.error failure) := by
  rcases result with _ | _ | _ <;> simp [failure?]

/-- What a chunk raises in a scene is the original of its failure, whatever ordinary exception that
is unless one of grammar. -/
def ReportsAll (source : String) (scene : Scene) : Prop :=
  ∀ raised u fault v,
    (evalSource Store.hostScope (.str "<chunk>") source).Raises (scene.opens (.source source))
      raised u →
    (runChunk Store.hostScope (.str "<chunk>") source scene).Ends (.error fault) v →
    (Eval.exceptionAt u.store raised.exception).kind.isOrdinary →
    (Eval.exceptionAt u.store raised.exception).kind.isA .syntaxError = false →
    executionFault (.str "<chunk>") source fault =
      .executionFailure (traceback "<chunk>" raised.trace (departed u.store raised))
        (departed u.store raised) (innermost "<chunk>" raised.trace)

/-- The failure tells of another fault. -/
theorem not_reportsAll {source : String} {scene : Scene} (own other : String) (hne : own ≠ other)
    (hcode : (match evalSource Store.hostScope (.str "<chunk>") source
        (scene.opens (.source source)) with
      | .done (.error raised) u =>
        (Eval.exceptionAt u.store raised.exception).kind.isOrdinary &&
          !(Eval.exceptionAt u.store raised.exception).kind.isA .syntaxError &&
          decide (traceback "<chunk>" raised.trace (departed u.store raised) = own)
      | _ => false) = true)
    (hrun : (match runChunk Store.hostScope (.str "<chunk>") source scene with
      | .done (.error fault) _ =>
        decide ((executionFault (.str "<chunk>") source fault).text.toOption = some other)
      | _ => false) = true) : ¬ReportsAll source scene := by
  intro h
  split at hcode
  next raised u hraised =>
    split at hrun
    next fault v hended =>
      simp only [Bool.and_eq_true, Bool.not_eq_true', decide_eq_true_eq] at hcode hrun
      obtain ⟨⟨hordinary, hreadable⟩, hown⟩ := hcode
      have hfailure := h raised u fault v (by rw [Eval.Raises, hraised]; exact .done)
        (by rw [hended]; exact .done) hordinary hreadable
      rw [hfailure, hown] at hrun
      exact hne (Option.some.inj hrun)
    next => cases hrun
  next => cases hcode

/-- The place that the failure of an evaluation marks. -/
def mark? : Option (Except Fault Value) → Option Report.Mark
  | some (.error fault) =>
    match fault.detail with
    | some (.execution mark) => mark
    | _ => none
  | _ => none

/-- A session in which a function was defined whose third line fails. -/
def withFailing : Session :=
  ((fresh default {} [] none).serve (.evaluate "def f():\n  pass\n  1 / 0\n")).2

theorem quiet_withFailing : Quiet withFailing :=
  (serves_serve (by decide +kernel)).quiet (quiet_fresh default (by decide +kernel))
    (by decide +kernel) (by decide +kernel)

end Chunkwise.Session
