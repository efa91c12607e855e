import Chunkwise.Proofs.Session.Alone.Serving

/-!
The account of an evaluation alone: who has written, what the host was told, and what is bound for
chunks when it is over.
-/
namespace Chunkwise.Session
open Chunkwise.Execution Chunkwise.World Chunkwise.Output Store

variable {s s' : Session} {n i c : Nat} {chunk : String} {w w₁ : World} {it : Interpreter}
  {deeds : List Deed} {outcome : Except Fault Value} {episodes : List Episode}

/-! The interpreter. -/

/-- What is done to get an interpreter. -/
theorem Enters.deeds_cases {result : Except Fault (Nat × Interpreter)}
    (h : Enters s n result w deeds) : ∀ deed ∈ deeds, ∃ c, deed = .awaitConstruction n c ∨
      deed = .prepare c ∨ ∃ success, deed = .prepared c success := by
  cases h <;> simp

/-- What is no part of getting an interpreter is not done for that. -/
theorem Enters.not_mem {result : Except Fault (Nat × Interpreter)} {deed : Deed}
    (h : Enters s n result w deeds) (hw : ∀ c, deed ≠ .awaitConstruction n c)
    (hp : ∀ c, deed ≠ .prepare c) (hd : ∀ c success, deed ≠ .prepared c success) :
    deed ∉ deeds := by
  intro hmem
  obtain ⟨c, rfl | rfl | ⟨success, rfl⟩⟩ := h.deeds_cases deed hmem
  · exact hw c rfl
  · exact hp c rfl
  · exact hd c success rfl

theorem Enters.rootsProbed {result : Except Fault (Nat × Interpreter)}
    (h : Enters s n result w deeds) : rootsProbed deeds = [] :=
  rootsProbed_of_searcher? fun deed hdeed => by
    obtain ⟨c, rfl | rfl | ⟨success, rfl⟩⟩ := h.deeds_cases deed hdeed <;> rfl

/-- A construction that fails leaves all scopes as they are. -/
theorem Enters.leaves_of_error {fault : Fault} (h : Enters s n (.error fault) w deeds)
    (hq : Quiet s) : Leaves s.IsTop none [] s.world w := by
  cases h with
  | known => exact .refl hq.guarded
  | failed _ _ hp =>
    have hprepared : Leaves s.IsTop none [] s.world s.world.prepareInstaller.2 :=
      leaves_prepareInstaller hq.guarded
    rwa [hp] at hprepared

/-! The account. -/

/-- What is left by an evaluation that executes no statement: it fails, the host has heard the
episodes, and what is bound for chunks is what an attempt has bound in the interpreter that was
entered. -/
structure Forgoes (n : Nat) (s : Session) (deeds : List Deed) (episodes : List Episode)
    (s' : Session) : Prop where
  failed : ∃ fault, s'.outcome? n = some (.error fault)
  hears : Hears s.world s'.world (told episodes)
  faithful : s.world.host.audience.IsOpen → ∀ e ∈ episodes, Faithful e.marks []
  entered : ∀ i, .enter n i ∈ deeds →
    Binds s.settings (s'.cell i).interpreter (s.bound i) (s'.bound i)
  others : ∀ a, s.IsTop a → (∀ i, .enter n i ∈ deeds → (s'.cell i).interpreter.globals ≠ a) →
    s'.world.store.names a = s.world.store.names a

/-- What is left by an evaluation that runs its code: the host has heard the episodes, and has been
told of the value. -/
structure Speaks (s : Session) (outcome : Except Fault Value) (episodes : List Episode)
    (s' : Session) (text? : Option String) : Prop where
  faithful : ∀ e ∈ episodes, Faithful e.marks []
  hears : Hears s.world s'.world (text?.toList.map .sent ++ told episodes)
  tells : Tells s'.world.store outcome text?

/-- What comes of an evaluation in the interpreter that it has entered. -/
theorem forgoes_entered (hen : Entered s i it w₁) (hs : Comes n s (some outcome) w deeds s')
    (hhome : s'.cells[i]?.map (·.interpreter) = some it) (honly : ∀ j, .enter n j ∈ deeds → j = i)
    (hi : .enter n i ∈ deeds) (hfault : ∃ fault, outcome = .error fault)
    (hleaves : Leaves (fun a => s.IsTop a ∨ a = it.globals) (some it.globals) episodes w₁ w)
    (hbinds : Binds s.settings it (it.names w₁) (it.names w)) :
    Forgoes n s deeds episodes s' := by
  have hworld : s'.world = w := hs.world rfl
  obtain ⟨cell, hcell, rfl⟩ := Option.map_eq_some_iff.1 hhome
  have hsame : s'.cell i = cell := by simp [Session.cell, hcell]
  obtain ⟨fault, rfl⟩ := hfault
  refine ⟨⟨fault, hs.ends⟩, ?_, ?_, fun j hj => ?_, fun a ha hne => ?_⟩
  · rw [hworld]
    simpa using hen.leaves.hears.trans hleaves.hears
  · exact fun hopen => hleaves.faithful (hen.leaves.hears.isOpen hopen)
  · obtain rfl := honly j hj
    have hbound : s'.bound j = cell.interpreter.names w := by simp only [bound, hcell, hworld]
    rw [hsame, hbound, ← hen.names]
    exact hbinds
  · have hother : cell.interpreter.globals ≠ a := hsame ▸ hne i hi
    rw [hworld, hleaves.names a (.inl ha) (by simpa using Ne.symm hother),
      hen.leaves.names a ha (by simp)]

/-- An evaluation alone fails before its code is run, or runs it. Before the code of the chunk the
adapter source writes, if it is run, and then the modules of the packages that are probed. -/
theorem Course.account (hq : Quiet s) (hc : Course s n chunk (some outcome) w deeds)
    (hs : Comes n s (some outcome) w deeds s') :
    ∃ (adapter : Option String) (episodes : List Episode),
      (adapter.isSome ↔ ∃ a, .adapt a ∈ deeds) ∧
      rootsProbed deeds <+: (asked s.settings chunk).roots ∧
      episodes.map Episode.writer = voices adapter (rootsProbed deeds) ∧
      ((∀ m j, .run m j ∉ deeds) ∧ Forgoes n s deeds episodes s' ∨
        ∃ e : Episode, e.writer = .source (asked s.settings chunk).source ∧
          rootsProbed deeds = (asked s.settings chunk).roots ∧ (∃ i, .run n i ∈ deeds) ∧
          (∀ deed ∈ deeds, deed.fails = false) ∧
          (s.world.host.audience.IsOpen →
            ∃ text?, Speaks s outcome (episodes ++ [e]) s' text?) ∧
          (Unreadable s.file (asked s.settings chunk).source →
            e.marks = [.flushed] ∧ Forgoes n s deeds (episodes ++ [e]) s')) := by
  cases hc with
  | unbuilt h =>
    have hleaves := h.leaves_of_error hq
    have hworld : s'.world = w := hs.world rfl
    have henter (i : Nat) : .enter n i ∉ deeds := h.not_mem (by simp) (by simp) (by simp)
    have hadapt (a : Nat) : .adapt a ∉ deeds := h.not_mem (by simp) (by simp) (by simp)
    refine ⟨none, [], by simp [hadapt], by simp [h.rootsProbed], by simp [h.rootsProbed, voices],
      .inl ⟨fun m j => h.not_mem (by simp) (by simp) (by simp), ⟨_, hs.ends⟩, hworld ▸ hleaves.hears,
        hleaves.faithful, fun i hi => absurd hi (henter i), fun a ha _ => ?_⟩⟩
    rw [hworld]
    exact hleaves.names a ha (by simp)
  | @entered i it _ w₁ _ before more h hp =>
    have hen := h.entered hq
    have hhome := hs.home rfl i it _ _ h
    have honly (j : Nat) (hj : .enter n j ∈ before ++ .enter n i :: more) : j = i := by
      have hbefore : .enter n j ∉ before := h.not_mem (by simp) (by simp) (by simp)
      have hmore : .enter n j ∉ more := hp.not_mem rfl rfl (by simp) (by simp) (by simp)
      simpa [hbefore, hmore] using hj
    have hbefore {deed : Deed} (hw : ∀ c, deed ≠ .awaitConstruction n c)
        (hp : ∀ c, deed ≠ .prepare c) (hd : ∀ c success, deed ≠ .prepared c success)
        (he : deed ≠ .enter n i) : deed ∈ before ++ .enter n i :: more ↔ deed ∈ more := by
      simp [h.not_mem hw hp hd, he]
    have hadapt (a : Nat) : .adapt a ∈ before ++ .enter n i :: more ↔ .adapt a ∈ more :=
      hbefore (by simp) (by simp) (by simp) (by simp)
    have hrun (m j : Nat) : .run m j ∈ before ++ .enter n i :: more ↔ .run m j ∈ more :=
      hbefore (by simp) (by simp) (by simp) (by simp)
    have hprobed : rootsProbed (before ++ .enter n i :: more) = rootsProbed more := by
      simp [h.rootsProbed, Deed.probed?]
    obtain ⟨adapter, episodes, hadapter, hroots, hwriters, hcases⟩ :=
      hp.concludes hen.guarded hen.host (.inr rfl) hen.pending
    refine ⟨adapter, episodes, by simpa only [hadapt] using hadapter, hprobed ▸ hroots,
      hprobed ▸ hwriters, ?_⟩
    rcases hcases with ⟨hfault, hnot, hleaves, hbinds⟩ |
      ⟨e, hwriter, hall, hran, hfine, hconcludes, hunread⟩
    · exact .inl ⟨fun m j => by simpa only [hrun] using hnot m j,
        forgoes_entered hen hs hhome honly (by simp) hfault hleaves hbinds⟩
    · refine .inr ⟨e, hwriter, hprobed ▸ hall, ⟨i, (hrun n i).2 hran⟩, fun deed hdeed => ?_,
        fun hopen => ?_, fun h => ?_⟩
      · rcases List.mem_append.1 hdeed with hfirst | hlater
        · obtain ⟨c, rfl | rfl | ⟨success, rfl⟩⟩ := h.deeds_cases deed hfirst <;> rfl
        · rcases List.mem_cons.1 hlater with rfl | hlater
          · rfl
          · exact hfine deed hlater
      · have hworld : s'.world = w := hs.world rfl
        obtain ⟨hfaithful, text?, hears, htells⟩ :=
          hconcludes.heard (hen.leaves.hears.isOpen hopen)
        refine ⟨text?, hfaithful, ?_, hworld ▸ htells⟩
        rw [hworld]
        simpa using hen.leaves.hears.trans hears
      · obtain ⟨hfault, hmarks, hleaves, hbinds⟩ := hunread h
        exact ⟨hmarks, forgoes_entered hen hs hhome honly (by simp) hfault hleaves hbinds⟩

end Chunkwise.Session
