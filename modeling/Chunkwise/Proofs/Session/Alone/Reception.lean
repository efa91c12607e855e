import Chunkwise.Proofs.Session.Alone.Succession
import Mathlib.Data.String.Basic

/-!
What the host receives. The adapter source, the modules that are probed and the code of the chunk
write one after another, and the text of the value is sent in the end. Each text that is written
between two flushes is handed on in lines.
-/
namespace Chunkwise

namespace Session
open Chunkwise.Execution Chunkwise.World Chunkwise.Output

variable {s s' : Session} {chunk : String}

theorem pairwise_asked (settings : Settings) (chunk : String) :
    (asked settings chunk).roots.Pairwise (· < ·) := by
  unfold asked
  split <;> exact Text.pairwise_sortedSet _

/-- What a host that refuses nothing has received by the end of an evaluation: what has come of the
episodes in turn, and then the text of the value. The adapter source writes first, if it is run,
then the module of each package that is probed, and then the code of the chunk. An evaluation that
does not begin its code has failed in what was before. -/
structure Receives (n : Nat) (chunk : String) (s : Session) (deeds : List Deed)
    (outcome : Except Fault Value) (s' : Session) (adapter : Option String)
    (episodes : List Episode) (text? : Option String) : Prop where
  record : s'.world.record = text?.toList.map .sent ++ told episodes ++ s.world.record
  audience : s'.world.host.audience = s.world.host.audience.hear
    ((episodes.flatMap fun e => handedOn e.stretches) ++ text?.toList)
  adapted : adapter.isSome ↔ ∃ a, .adapt a ∈ deeds
  probed : rootsProbed deeds <+: (asked s.settings chunk).roots
  ends : (∀ m i, .run m i ∉ deeds) ∧ (∃ fault, outcome = .error fault) ∧
      episodes.map Episode.writer = voices adapter (rootsProbed deeds) ∧ text? = none ∨
    (∃ i, .run n i ∈ deeds) ∧ rootsProbed deeds = (asked s.settings chunk).roots ∧
      episodes.map Episode.writer =
        voices adapter (rootsProbed deeds) ++ [.source (asked s.settings chunk).source] ∧
      Tells s'.world.store outcome text?

/-- What is heard of episodes that leave nothing behind, and then of a value. -/
theorem hear_told {w w' : World} {episodes : List Episode} {text? : Option String}
    (h : Hears w w' (text?.toList.map .sent ++ told episodes))
    (hfaithful : ∀ e ∈ episodes, Faithful e.marks []) :
    w'.record = text?.toList.map .sent ++ told episodes ++ w.record ∧
      w'.host.audience = w.host.audience.hear
        ((episodes.flatMap fun e => handedOn e.stretches) ++ text?.toList) := by
  refine ⟨h.record, ?_⟩
  have hsent : sent (text?.toList.map .sent ++ told episodes) =
      (episodes.flatMap fun e => handedOn e.stretches) ++ text?.toList := by
    rw [sent_append, sent_map_sent, sent_told hfaithful]
    cases text? <;> rfl
  rw [← hsent]
  exact h.audience

/-- What a host that refuses nothing has received of an evaluation that has come to its end. -/
theorem Course.receives (hq : Quiet s) (hopen : s.world.host.audience.IsOpen)
    {outcome : Except Fault Value} {w : World} {deeds : List Deed}
    (hc : Course s s.jobs.length chunk (some outcome) w deeds)
    (hs : Comes s.jobs.length s (some outcome) w deeds s') : ∃ adapter episodes text?,
      Receives s.jobs.length chunk s deeds outcome s' adapter episodes text? := by
  obtain ⟨adapter, episodes, hadapter, hroots, hwriters, hcases⟩ := hc.account hq hs
  rcases hcases with ⟨hnot, hforgoes⟩ | ⟨e, hwriter, hall, hran, -, hspeaks, -⟩
  · have hhears : Hears s.world s'.world (none.toList.map .sent ++ told episodes) := hforgoes.hears
    obtain ⟨hrecord, haudience⟩ := hear_told hhears (hforgoes.faithful hopen)
    obtain ⟨fault, hfault⟩ := hforgoes.failed
    have hfailed : outcome = .error fault := Option.some.inj (hs.ends.symm.trans hfault)
    exact ⟨adapter, episodes, none, hrecord, haudience, hadapter, hroots,
      .inl ⟨hnot, ⟨fault, hfailed⟩, hwriters, rfl⟩⟩
  · obtain ⟨text?, hspeaks⟩ := hspeaks hopen
    obtain ⟨hrecord, haudience⟩ := hear_told hspeaks.hears hspeaks.faithful
    exact ⟨adapter, episodes ++ [e], text?, hrecord, haudience, hadapter, hroots,
      .inr ⟨hran, hall, by simp [hwriters, hwriter], hspeaks.tells⟩⟩

end Session

end Chunkwise
