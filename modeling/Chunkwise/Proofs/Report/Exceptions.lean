import Chunkwise.Execution.Source
import Chunkwise.Proofs.Execution.Splits
import Chunkwise.Session.Evaluate

/-!
The report on an exception. It shows the class of the exception, its places and its notes as they
are, and its parts as they are read. For one that leaves a chunk it lists the places in the code of
chunks that the exception has passed; the last of these places is marked.
-/
namespace Chunkwise

namespace Store

variable {store : Store} {a : Address}

/-- A value that is no object is read as it is. -/
theorem readIn_of_ne_ref (store : Store) {v : Value} (h : ∀ b, v ≠ .ref b) (view : View) (n : Nat)
    (opened : List Address) :
    store.readIn view n opened v = .leaf v := by
  cases n with
  | zero => cases v <;> rfl
  | succ n => exact readIn.eq_3 store view opened v n fun b hb => h b hb

/-- An exception is reported with its parts as they are read behind it. -/
theorem report_eq {e : Exception} {attributes : Bindings}
    (h : store.get? a = some { nature := .exception e, attributes := attributes }) :
    ∃ n, store.report a = readException store .shown (n + 1) [a] e attributes := by
  have hdeep : 3 ≤ store.depth := by
    simp only [depth, nestingLimit]
    omega
  obtain ⟨n, hn⟩ := Nat.exists_eq_add_of_le' hdeep
  refine ⟨n, ?_⟩
  simp only [report, read, hn, readIn, h, readObject]
  rfl

/-- An exception keeps its class and what it holds while the places are set that it has passed. -/
theorem report_setNature {e : Exception} {attributes : Bindings} (trace : List Place)
    (h : store.get? a = some { nature := .exception e, attributes := attributes }) :
    ∃ n, (store.setNature a (.exception { e with trace := trace })).report a =
      readException (store.setNature a (.exception { e with trace := trace })) .shown (n + 1) [a]
        { e with trace := trace } attributes := by
  refine report_eq ?_
  simp [setNature, get?_modify, h]

end Store

namespace Execution

variable {s : Scene}

theorem exceptionAt_eq {store : Store} {a : Address} {e : Exception} {attributes : Bindings}
    (h : store.get? a = some { nature := .exception e, attributes := attributes }) :
    Eval.exceptionAt store a = e := by
  simp [Eval.exceptionAt, Store.nature?, h]

/-- An exception that leaves code is reported with the places that it has passed. -/
theorem outcome_raised (α : Type) (raised : Raised) {e : Exception} {attributes : Bindings}
    (h : s.store.get? raised.exception = some { nature := .exception e, attributes := attributes }) :
    ∃ store n, outcome (.error raised : Except Raised α) s =
      (.error (Store.readException store .shown (n + 1) [raised.exception]
        { e with trace := raised.trace } attributes),
        { s with world := { s.world with store := store } }) := by
  obtain ⟨n, hreport⟩ := Store.report_setNature raised.trace h
  refine ⟨s.store.setNature raised.exception (.exception { e with trace := raised.trace }), n, ?_⟩
  rw [← hreport, ← exceptionAt_eq h]
  rfl

end Execution

namespace Report

/-- The report on a fault at some places: those in code of a file, outermost first, and what the
fault says. -/
def traceback (name : String) (places : List Place) (fault : Fault) : String :=
  "\n".intercalate
    (("Traceback (most recent call last):" :: (places.filter (·.file = name)).map placeLine ++
      closingLines fault).map bare)

/-- The line of the last of some places that is in code of a file. -/
def innermost (name : String) (places : List Place) : Option Mark :=
  (places.filter (·.file = name)).getLast?.map fun place => (.int place.line, .null)

theorem describe_traceback (name : String) {fault : Fault} (source : String)
    (h : fault.kind.isA .syntaxError = false) :
    describe (.str name) fault source =
      .ok (traceback name fault.trace fault, innermost name fault.trace) := by
  simp only [describe, h, Bool.false_eq_true, if_false]
  rfl

end Report

namespace Execution
open Report Store

variable {s : Scene} {raised : Raised} {e : Exception}

/-- An exception as a fault, with the places that it has passed. -/
def departed (store : Store) (raised : Raised) : Fault :=
  (store.setNature raised.exception (.exception
    { Eval.exceptionAt store raised.exception with trace := raised.trace })).report raised.exception

theorem outcome_departed (α : Type) (raised : Raised) (s : Scene) :
    (outcome (.error raised : Except Raised α) s).1 = .error (departed s.store raised) := rfl

/-- The fault has the class of the exception. -/
theorem departed_fields {attributes : Bindings} {store : Store}
    (h : store.get? raised.exception = some { nature := .exception e, attributes := attributes }) :
    (departed store raised).kind = e.kind ∧ (departed store raised).trace = raised.trace := by
  obtain ⟨n, hreport⟩ := report_setNature raised.trace h
  rw [departed, exceptionAt_eq h, hreport]
  exact ⟨rfl, rfl⟩

/-- An exception that leaves a chunk is ordinary or asks for an exit, and is neither one of grammar
nor one that ends an iteration. The host takes the output that the chunk has left. -/
structure Departs (raised : Raised) (e : Exception) (s : Scene) : Prop where
  exception : ∃ attributes,
    s.store.get? raised.exception = some { nature := .exception e, attributes := attributes }
  caught : e.kind.isOrdinary ∨ e.kind.isA .systemExit
  readable : e.kind.isA .syntaxError = false
  open_ : e.kind.isA .stopIteration = false
  taken : (outcome (.error raised : Except Raised Value) s).2.flush.1 = none

/-- In the end it is a fault. -/
theorem Departs.closing (h : Departs raised e s) :
    (Execution.closing (.error raised) s).1 = .error (departed s.store raised) := by
  obtain ⟨attributes, hget⟩ := h.exception
  have hsealed : (departed s.store raised).sealed = departed s.store raised :=
    if_neg (by simp [(departed_fields hget).1, h.open_])
  have hout := outcome_departed Value raised s
  have htaken := h.taken
  unfold Execution.closing
  generalize outcome (.error raised : Except Raised Value) s = out at hout htaken ⊢
  obtain ⟨result, s'⟩ := out
  subst hout
  dsimp only at htaken ⊢
  generalize s'.flush = flushed at htaken ⊢
  obtain ⟨_ | fault, s''⟩ := flushed
  · exact congrArg Except.error hsealed
  · cases htaken

/-- The fault of the chunk tells of the places that the exception has passed. -/
theorem Departs.executionFault (h : Departs raised e s) (name source : String) :
    Session.executionFault (.str name) source (departed s.store raised) =
      .executionFailure (traceback name raised.trace (departed s.store raised))
        (departed s.store raised) (innermost name raised.trace) := by
  obtain ⟨attributes, hget⟩ := h.exception
  obtain ⟨hkind, htrace⟩ := departed_fields hget
  rw [Session.executionFault, if_pos (by simpa [hkind] using h.caught),
    describe_traceback name source (by rw [hkind, h.readable]), htrace]

end Execution

end Chunkwise
