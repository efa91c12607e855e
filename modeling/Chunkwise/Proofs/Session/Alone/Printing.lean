import Chunkwise.Proofs.Output.Completion
import Chunkwise.Proofs.Session.Alone.Reception
import Mathlib.Data.List.Forall2

/-!
What is on the stream of a console. Each evaluation leaves whole lines on it, so what the next one
prints begins a line.
-/
namespace Chunkwise.Session
open Chunkwise.Execution Chunkwise.World Chunkwise.Output

/-- The evaluation of a chunk: the session that it began in and the one that it left. -/
structure Evaluated where
  chunk : String
  before : Session
  after : Session

variable {start s s' : Session} {turns : List Evaluated} {chunk before : String}

/-- Chunks are evaluated one after another, each when the one before has ended and unless its fault
has stopped everything. Meanwhile the session may be closed, and the world outside may change what
is not the stream's. -/
inductive InTurn (start : Session) : List Evaluated → Session → Prop
  | start : InTurn start [] start
  | evaluate {turns : List Evaluated} {chunk : String} {s s' : Session} (h : InTurn start turns s)
      (hgoes : s.halted = none) (hserves : Serves (.evaluate chunk) s s')
      (hended : (s'.outcome? s.jobs.length).isSome) : InTurn start (turns ++ [⟨chunk, s, s'⟩]) s'
  | close {turns : List Evaluated} {s : Session} (h : InTurn start turns s) (hgoes : s.halted = none) :
      InTurn start turns s.close.2
  | outside {turns : List Evaluated} {s : Session} {world : World} (h : InTurn start turns s)
      (hstore : world.store = s.world.store)
      (haudience : world.host.audience = s.world.host.audience) :
      InTurn start turns { s with world := world }

theorem InTurn.quiet (hq : Quiet start) (h : InTurn start turns s) (hgoes : s.halted = none) :
    Quiet s := by
  induction h with
  | start => exact hq
  | evaluate _ hbefore hserves hended ih => exact hserves.quiet (ih hbefore) hended hgoes
  | close _ hbefore ih => exact (ih hbefore).close
  | outside _ hstore _ ih => exact (ih hgoes).outside hstore

/-- Nothing is sent when a session is closed in which nothing is under way. -/
theorem Quiet.audience_close (hq : Quiet s) :
    s.close.2.world.host.audience = s.world.host.audience := by
  rcases hcurrent : s.current with _ | i
  · simp only [Session.close, hcurrent]
  · simp only [Session.close, hcurrent, close_of_pending (hq.toStill.pending (hq.current i hcurrent))]
    rfl

/-- What an evaluation puts on the stream: all that is written in it, each stretch between two
flushes completed, and then the text of the value. What is written without a flush inside a line is
completed as one text. -/
structure Prints (turn : Evaluated) (deeds : List Deed) (outcome : Except Fault Value)
    (adapter : Option String) (episodes : List Episode) (text? : Option String) (part : List Char) :
    Prop where
  receives : Receives turn.before.jobs.length turn.chunk turn.before deeds outcome turn.after adapter
    episodes text?
  consists : part = (episodes.flatMap fun e => e.stretches.flatMap completed) ++ printed text?.toList
  unparted : ∀ e ∈ episodes, Unparted e.stretches →
    e.stretches.flatMap completed = completed e.stretches.flatten
  whole : Whole part
  stream : ∀ before, turn.before.world.host.audience = .stream before →
    turn.after.world.host.audience = .stream (before ++ String.ofList part)

theorem Receives.prints (turn : Evaluated) {deeds : List Deed} {outcome : Except Fault Value}
    {adapter : Option String} {episodes : List Episode} {text? : Option String}
    (h : Receives turn.before.jobs.length turn.chunk turn.before deeds outcome turn.after adapter
      episodes text?) : ∃ part, Prints turn deeds outcome adapter episodes text? part := by
  have hprinted : printed ((episodes.flatMap fun e => handedOn e.stretches) ++ text?.toList) =
      (episodes.flatMap fun e => e.stretches.flatMap completed) ++ printed text?.toList := by
    rw [printed_append, printed_flatMap]
    simp only [printed_handedOn]
  refine ⟨_, h, hprinted, fun _ _ => flatMap_completed, whole_printed _, fun before hb => ?_⟩
  rw [h.audience, hb, Audience.hear_stream]

/-- An evaluation that has ended, as one of its kind. -/
theorem Serves.prints (hq : Quiet s) (hopen : s.world.host.audience.IsOpen)
    (hserves : Serves (.evaluate chunk) s s') (hended : (s'.outcome? s.jobs.length).isSome) :
    ∃ deeds outcome adapter episodes text? part, s'.deeds = s.deeds ++ deeds ∧
      s'.outcome? s.jobs.length = some outcome ∧
      Prints ⟨chunk, s, s'⟩ deeds outcome adapter episodes text? part := by
  obtain ⟨outcome?, w, deeds, s₁, hc, hs, hserves₁⟩ := serves_evaluation hq chunk
  obtain rfl := hserves.unique hserves₁
  obtain ⟨outcome, houtcome⟩ := Option.isSome_iff_exists.mp hended
  obtain rfl : outcome? = some outcome := hs.ends.symm.trans houtcome
  obtain ⟨adapter, episodes, text?, hreceives⟩ := hc.receives hq hopen hs
  obtain ⟨part, hprints⟩ := Receives.prints ⟨chunk, s, s'⟩ hreceives
  exact ⟨deeds, outcome, adapter, episodes, text?, part, hs.did, houtcome, hprints⟩

/-- Chunks that are evaluated one after another print one after another, and each prints whole
lines. -/
theorem console_prints_in_turn (hq : Quiet start) (hstream : start.world.host.audience = .stream before)
    (h : InTurn start turns s) :
    ∃ parts : List (List Char),
      List.Forall₂ (fun turn part => ∃ deeds outcome adapter episodes text?,
        turn.after.deeds = turn.before.deeds ++ deeds ∧
        turn.after.outcome? turn.before.jobs.length = some outcome ∧
        Prints turn deeds outcome adapter episodes text? part) turns parts ∧
      s.world.host.audience = .stream (before ++ String.ofList parts.flatten) := by
  induction h with
  | start => exact ⟨[], .nil, by simpa using hstream⟩
  | @evaluate turns chunk s s' h hgoes hserves hended ih =>
    obtain ⟨parts, hparts, haudience⟩ := ih
    obtain ⟨deeds, outcome, adapter, episodes, text?, part, hdid, houtcome, hprints⟩ :=
      hserves.prints (h.quiet hq hgoes) (haudience ▸ Audience.isOpen_stream _) hended
    refine ⟨parts ++ [part], List.rel_append hparts
      (.cons ⟨_, _, _, _, _, hdid, houtcome, hprints⟩ .nil), ?_⟩
    rw [hprints.stream _ haudience]
    simp [String.ofList_append, String.append_assoc]
  | close h hgoes ih =>
    obtain ⟨parts, hparts, haudience⟩ := ih
    exact ⟨parts, hparts, (h.quiet hq hgoes).audience_close.trans haudience⟩
  | outside h _ hsame ih =>
    obtain ⟨parts, hparts, haudience⟩ := ih
    exact ⟨parts, hparts, hsame.trans haudience⟩

/-- Two chunks, the first of which ends within a line. -/
theorem console_prints_partial_line :
    let fresh := fresh default { host := { audience := .stream "" } } [] none
    let first := (fresh.serve (.evaluate "print('a', end='')")).2
    let second := (first.serve (.evaluate "print(1)\n'b'")).2
    ∃ parts : List (List Char),
      List.Forall₂ (fun turn part => ∃ deeds outcome adapter episodes text?,
        turn.after.deeds = turn.before.deeds ++ deeds ∧
        turn.after.outcome? turn.before.jobs.length = some outcome ∧
        Prints turn deeds outcome adapter episodes text? part)
        [⟨"print('a', end='')", fresh, first⟩, ⟨"print(1)\n'b'", first, second⟩] parts ∧
      second.world.host.audience = .stream ("" ++ String.ofList parts.flatten) ∧
      second.world.host.audience = .stream "a\n1\n'b'\n" := by
  intro fresh first second
  have hquiet : Quiet fresh := quiet_fresh default (by decide +kernel)
  have hfirst : InTurn fresh [⟨"print('a', end='')", fresh, first⟩] first :=
    InTurn.start.evaluate rfl (serves_serve (by decide +kernel)) (by decide +kernel)
  have hsecond : InTurn fresh [⟨"print('a', end='')", fresh, first⟩,
      ⟨"print(1)\n'b'", first, second⟩] second :=
    hfirst.evaluate (by decide +kernel) (serves_serve (by decide +kernel)) (by decide +kernel)
  obtain ⟨parts, hparts, hstream⟩ := console_prints_in_turn hquiet rfl hsecond
  exact ⟨parts, hparts, hstream, by decide +kernel⟩

/-- A flush inside a line ends it on the stream: what is written is one line, and two are printed. -/
theorem flush_ends_line :
    ¬∀ (s s' : Session) (chunk before : String), Quiet s → s.world.host.audience = .stream before →
      s.world.record = [] → Serves (.evaluate chunk) s s' →
      ((s'.outcome? s.jobs.length).any fun outcome => outcome.toOption.any (·.isNull)) →
      s'.world.host.audience =
        .stream (before ++ String.ofList (completed (passages s'.world.record).flatten)) := by
  intro h
  let chunk := "print('a', end='', flush=True)\nprint('b')"
  let s := fresh default { host := { audience := .stream "" } } [] none
  have hstream := h s (s.serve (.evaluate chunk)).2 chunk "" (quiet_fresh default (by decide +kernel))
    rfl rfl (serves_serve (by decide +kernel)) (by decide +kernel)
  have hprinted : (s.serve (.evaluate chunk)).2.world.host.audience = .stream "a\nb\n" := by
    decide +kernel
  have hwritten : completed (passages (s.serve (.evaluate chunk)).2.world.record).flatten =
      "ab\n".toList := by decide +kernel
  rw [hprinted, hwritten] at hstream
  revert hstream
  decide +kernel

end Chunkwise.Session
