import Chunkwise.Proofs.Session.Alone.Succession

/-!
Evaluations that fail early. When there is no interpreter, the heavy library cannot be loaded or a
package is not to be had, the code of the chunk is not begun; when it cannot be read, nothing of it
is executed.
-/
namespace Chunkwise.Session
open Chunkwise.Execution Chunkwise.World Chunkwise.Output

variable {s s' : Session} {n i a : Nat} {chunk : String} {w w' : World} {it : Interpreter}
  {scan : Import.Scan} {deed : Deed} {deeds : List Deed} {outcome : Option (Except Fault Value)}

/-- Something that an evaluation needs has failed: the construction or the attempt that it has waited
for, a probe or an install. -/
def Deed.Failed (s' : Session) : Deed → Prop
  | .awaitConstruction _ c => ∃ fault, s'.making? c = some (.ended (.error fault))
  | .awaitAttempt _ a => ∃ fault, s'.loading? a = some (.ended (some fault))
  | deed => deed.fails

/-- No statement of a chunk has been executed. The evaluation fails; only the adapter source and the
modules of packages that were probed have written, and nothing else was sent; what is bound for
chunks is what an attempt has bound in the interpreter that was entered. -/
def Unexecuted (n : Nat) (chunk : String) (s : Session) (deeds : List Deed) (s' : Session) : Prop :=
  ∃ (adapter : Option String) (episodes own : List Episode),
    (adapter.isSome ↔ ∃ a, .adapt a ∈ deeds) ∧
    episodes.map Episode.writer = voices adapter (rootsProbed deeds) ∧
    (∀ e ∈ own, e.writer = .source (asked s.settings chunk).source ∧ e.marks = [.flushed]) ∧
    Forgoes n s deeds (episodes ++ own) s'

/-! What follows a failure. -/

/-- A search or an install that has failed ends the evaluation. -/
theorem Finishes.of_fails {file : Datum} (h : Finishes it file n i scan w outcome w' deeds)
    (hd : deed ∈ deeds) (hf : deed.fails) :
    (∃ fault, outcome = some (.error fault)) ∧ ∀ m j, .run m j ∉ deeds := by
  cases h with
  | @unresolved fault _ _ hr =>
    refine ⟨⟨fault, rfl⟩, fun m j hmem => ?_⟩
    have hsearcher := hr.searcher? _ hmem
    simp [Deed.searcher?] at hsearcher
  | resolved hr _ =>
    rcases List.mem_append.1 hd with hsearch | hrun
    · simp [hr.fine deed hsearch] at hf
    · obtain rfl := List.mem_singleton.1 hrun
      simp [Deed.fails] at hf

theorem Proceeds.of_fails (h : Proceeds s it n i scan w outcome w' deeds) (hd : deed ∈ deeds)
    (hf : deed.fails) : (∃ fault, outcome = some (.error fault)) ∧ ∀ m j, .run m j ∉ deeds := by
  have hawait {a : Nat} : (Deed.awaitAttempt n a).fails = false := rfl
  cases h with
  | straight _ hfinishes => exact hfinishes.of_fails hd hf
  | uncrossed _ _ htoils | stuck _ _ htoils =>
    rcases List.mem_cons.1 hd with rfl | hmem
    · simp [hawait] at hf
    · simp [htoils.fine deed hmem] at hf
  | @crossed _ _ _ _ _ before later _ _ _ htoils hfinishes =>
    have hlater : deed ∈ later := by
      rcases List.mem_append.1 hd with hfirst | hrest
      · rcases List.mem_cons.1 hfirst with rfl | hmem
        · simp [hawait] at hf
        · simp [htoils.fine deed hmem] at hf
      · rcases List.mem_cons.1 hrest with rfl | hmem
        · simp [Deed.fails] at hf
        · exact hmem
    obtain ⟨hfault, hnot⟩ := hfinishes.of_fails hlater hf
    exact ⟨hfault, fun m j => by simpa [hnot m j] using htoils.not_mem rfl⟩

/-- Nothing is looked for and no code is run behind an attempt that has not succeeded. -/
theorem Proceeds.of_uncrossed {m : Nat} (h : Proceeds s it n i scan w outcome w' deeds)
    (hd : .awaitAttempt m a ∈ deeds) (hnot : .crossed a i ∉ deeds) :
    ∀ deed ∈ deeds, deed.searcher? = none ∧ ∀ m j, deed ≠ .run m j := by
  cases h with
  | straight _ hf => exact absurd hd (hf.not_mem rfl nofun)
  | uncrossed _ _ htoils | stuck _ _ htoils =>
    simp only [List.forall_mem_cons]
    refine ⟨⟨rfl, nofun⟩, fun deed hdeed => ?_⟩
    have hmine := htoils.mine deed hdeed
    cases deed <;> simp_all [Deed.attempt?, Deed.searcher?]
  | @crossed _ _ _ _ _ deeds later _ _ _ htoils hf =>
    have hlater : .awaitAttempt m a ∉ later := hf.not_mem rfl nofun
    have hbefore : .awaitAttempt m a ∉ deeds := htoils.not_mem rfl
    obtain ⟨-, rfl⟩ : m = n ∧ a = s.attempts.length := by simpa [hlater, hbefore] using hd
    simp at hnot

theorem Course.of_uncrossed (hc : Course s n chunk outcome w deeds)
    (hs : Comes n s outcome w deeds s') {m : Nat} (hd : .awaitAttempt m a ∈ deeds)
    {fault : Fault} (hf : s'.loading? a = some (.ended (some fault))) :
    ∀ deed ∈ deeds, deed.searcher? = none ∧ ∀ m j, deed ≠ .run m j := by
  cases hc with
  | unbuilt h => exact absurd hd (h.not_mem nofun nofun nofun)
  | @entered i it _ _ _ before more h hp =>
    have hmore : .awaitAttempt m a ∈ more := by
      have hnot : .awaitAttempt m a ∉ before := h.not_mem nofun nofun nofun
      simpa [hnot] using hd
    have hcrossed : .crossed a i ∉ more := fun hmem => by
      have hended := hs.crossed a i (by simp [hmem])
      simp [hf] at hended
    intro deed hdeed
    rcases List.mem_append.1 hdeed with hfirst | hrest
    · obtain ⟨c, rfl | rfl | ⟨success, rfl⟩⟩ := h.deeds_cases deed hfirst <;> exact ⟨rfl, nofun⟩
    · rcases List.mem_cons.1 hrest with rfl | hmem
      · exact ⟨rfl, nofun⟩
      · exact hp.of_uncrossed hmore hcrossed deed hmem

/-- What an evaluation needs and does not get ends it, and its code is not begun. -/
theorem Course.of_failed (hc : Course s n chunk outcome w deeds)
    (hs : Comes n s outcome w deeds s') (hd : deed ∈ deeds) (hf : deed.Failed s') :
    (∃ fault, outcome = some (.error fault)) ∧ ∀ m j, .run m j ∉ deeds := by
  cases hc with
  | unbuilt h => exact ⟨⟨_, rfl⟩, fun m j => h.not_mem nofun nofun nofun⟩
  | @entered i it _ _ _ before more h hp =>
    have hbefore (m j : Nat) : .run m j ∉ before := h.not_mem nofun nofun nofun
    have hfails (hf : deed.fails) :
        (∃ fault, outcome = some (.error fault)) ∧ ∀ m j, .run m j ∉ before ++ .enter n i :: more := by
      have hmore : deed ∈ more := by
        rcases List.mem_append.1 hd with hfirst | hrest
        · obtain ⟨c, rfl | rfl | ⟨success, rfl⟩⟩ := h.deeds_cases deed hfirst <;>
            simp [Deed.fails] at hf
        · rcases List.mem_cons.1 hrest with rfl | hmem
          · simp [Deed.fails] at hf
          · exact hmem
      obtain ⟨hfault, hnot⟩ := hp.of_fails hmore hf
      exact ⟨hfault, fun m j => by simp [hbefore, hnot]⟩
    cases deed with
    | awaitConstruction m c =>
      obtain ⟨fault, hfault⟩ := hf
      obtain ⟨j, hmade⟩ := hs.constructed m c hd ⟨i, by simp⟩
      simp [hfault] at hmade
    | awaitAttempt m a =>
      obtain ⟨fault, hfault⟩ := hf
      have hnot := (Course.entered h hp).of_uncrossed hs hd hfault
      exact ⟨⟨fault, hs.attempted m a fault hd hfault⟩, fun m j hrun => (hnot _ hrun).2 m j rfl⟩
    | _ => exact hfails hf

/-- An evaluation that does not begin its code, or cannot read it, executes no statement. -/
theorem Course.unexecuted (hq : Quiet s) {outcome : Except Fault Value}
    (hc : Course s n chunk (some outcome) w deeds) (hs : Comes n s (some outcome) w deeds s')
    (h : (∀ m j, .run m j ∉ deeds) ∨ Unreadable s.file (asked s.settings chunk).source) :
    Unexecuted n chunk s deeds s' := by
  obtain ⟨adapter, episodes, hadapter, -, hwriters, hcases⟩ := hc.account hq hs
  rcases hcases with ⟨-, hforgoes⟩ | ⟨e, hwriter, -, ⟨j, hran⟩, -, -, hunread⟩
  · exact ⟨adapter, episodes, [], hadapter, hwriters, by simp, by simpa using hforgoes⟩
  · rcases h with hnot | h
    · exact absurd hran (hnot n j)
    · obtain ⟨hmarks, hforgoes⟩ := hunread h
      exact ⟨adapter, episodes, [e], hadapter, hwriters, by simp [hwriter, hmarks], hforgoes⟩

/-- Code that cannot be read comes to its end. -/
theorem Finishes.isSome_of_unreadable {file : Datum} (h : Finishes it file n i scan w outcome w' deeds)
    (hp : it.pending = []) (hunread : Unreadable file scan.source) : outcome.isSome := by
  cases h with
  | unresolved => rfl
  | resolved _ he =>
    cases he with
    | ended => rfl
    | stuck hr => exact absurd hr (run_ne_none hp hunread)

theorem Course.isSome_of_unreadable (hq : Quiet s) (hc : Course s n chunk outcome w deeds)
    (h : Unreadable s.file (asked s.settings chunk).source) {m j : Nat} (hran : .run m j ∈ deeds) :
    outcome.isSome := by
  cases hc with
  | unbuilt => rfl
  | @entered i it _ _ _ before more henters hp =>
    have hpending := (henters.entered hq).pending
    have hbefore : .run m j ∉ before := henters.not_mem nofun nofun nofun
    cases hp with
    | straight _ hf => exact hf.isSome_of_unreadable hpending h
    | uncrossed => rfl
    | crossed _ _ _ hf => exact hf.isSome_of_unreadable hpending h
    | @stuck _ _ deeds _ _ _ htoils =>
      have hnot : .run m j ∉ deeds := htoils.not_mem rfl
      simp [hbefore, hnot] at hran

end Chunkwise.Session
