import Chunkwise.Proofs.Session.Touches

/-!
Attempts in a session, whatever comes and in whatever order. The record of each attempt tells where
it stands: its steps are taken in order from the first on, no step follows one that has failed, and
it succeeds when all have.
-/
namespace Chunkwise.Session
open Chunkwise.Execution Chunkwise.Bridge Chunkwise.Store

variable {rule : Rule} {settings : Settings} {s₀ s s' s'' : Session} {p p' : Point} {a : Nat}
  {cause : Cause}

/-! What is done for others leaves an attempt alone. -/

/-- An attempt is not worked on. -/
def Point.Off (a : Nat) (p : Point) : Prop :=
  p.attempt? ≠ some a ∧ p ≠ .picked (.attempt a)

theorem Point.off_rest : Point.rest.Off a := ⟨by simp [Point.attempt?], by simp⟩

theorem Point.off_job (n : Nat) (task : Task) : (Point.job n task).Off a :=
  ⟨by simp [Point.attempt?], by simp⟩

/-- An attempt is as it was, if it is not one that has just come. -/
structure Unmoved (a : Nat) (s s' : Session) : Prop where
  strides : s'.strides a = s.strides a
  loading : s'.loading? a = s.loading? a ∨ s.loading? a = none ∧ s'.loading? a = some .starting

theorem Unmoved.refl (a : Nat) (s : Session) : Unmoved a s s :=
  ⟨rfl, .inl rfl⟩

theorem Unmoved.trans (h : Unmoved a s s') (h' : Unmoved a s' s'') : Unmoved a s s'' := by
  refine ⟨h'.strides.trans h.strides, ?_⟩
  rcases h.loading with hsame | ⟨hnone, hnew⟩
  · rw [← hsame]
    exact h'.loading
  · refine .inr ⟨hnone, ?_⟩
    rcases h'.loading with hsame | ⟨hnone', -⟩
    · exact hsame.trans hnew
    · rw [hnew] at hnone'
      contradiction

theorem Recorded.unmoved (h : Recorded settings a s) (hu : Unmoved a s s') : Recorded settings a s' := by
  rw [Recorded, hu.strides]
  rcases hu.loading with hsame | ⟨hnone, hnew⟩
  · rwa [hsame]
  · rw [Recorded, hnone] at h
    rw [hnew]
    generalize s.strides a = record at h ⊢
    cases h
    exact .starting

/-- A step of an attempt is taken where it is worked on. -/
theorem Occasion.not_off {deed : Deed} (h : Occasion p s deed) (hd : deed.attempt? = some a) :
    ¬p.Off a := by
  rintro ⟨hattempt, hpicked⟩
  cases h
  case strive hdeed => exact hattempt (hdeed.symm.trans hd)
  case adaptNext => exact hpicked (Option.some.inj hd ▸ rfl)
  case settled => exact hattempt hd
  all_goals cases hd

theorem Move.unmoved (m : Move (p, s) (p', s')) (hp : p.Off a) :
    p'.Off a ∧ Unmoved a s s' := by
  have hstrides : s'.strides a = s.strides a := by
    rcases m.deeds with hsame | ⟨last, hlast, hnew⟩
    · simp only [strides, hsame]
    · have hother : ¬last.attempt? = some a := fun hd => hlast.not_off hd hp
      simp [strides, hnew, hother]
  have hne {a' : Nat} (ha : p.attempt? = some a') : a' ≠ a := fun e => hp.1 (e ▸ ha)
  have hpicked {a' : Nat} (ha : p = .picked (.attempt a')) : some a' ≠ some a :=
    fun e => hp.2 (Option.some.inj e ▸ ha)
  have keep (hoff : p'.Off a) (hloading : s'.loading? a = s.loading? a) :
      p'.Off a ∧ Unmoved a s s' := ⟨hoff, hstrides, .inl hloading⟩
  cases m
  case load | adaptNext | adaptOn => exact keep ⟨hpicked rfl, by simp⟩ rfl
  case adapt | leaveAdapter => exact keep ⟨hp.1, by simp⟩ rfl
  case loadLater | queueAdapter | adaptLater | stickAttempt =>
    exact keep Point.off_rest (loading?_setAttempt_ne (hne rfl) _ _)
  case arrive | failAttempt | failAdapted =>
    exact keep Point.off_rest (loading?_setAttempt_ne (hne rfl) _ _)
  case watchAttempt => exact keep Point.off_rest (loading?_watchAttempt ..)
  case newAttempt =>
    refine ⟨Point.off_rest, hstrides, ?_⟩
    rw [loading?_watchAttempt]
    simp only [loading?, Session.newAttempt, wake, mapCrossing]
    grind
  all_goals first
    | exact keep hp rfl
    | exact keep Point.off_rest rfl
    | exact keep (Point.off_job _ _) rfl
    | exact keep ⟨by simp [Point.attempt?], by simp⟩ rfl

theorem moves_unmoved {x : Point × Session} (m : Moves (p, s) x) (hp : p.Off a) :
    x.1.Off a ∧ Unmoved a s x.2 := by
  induction m with
  | refl => exact ⟨hp, .refl a s⟩
  | tail _ m ih =>
    obtain ⟨hoff, hu⟩ := Move.unmoved m ih.1
    exact ⟨hoff, ih.2.trans hu⟩

/-- Only its own events take an attempt further. -/
theorem Step.unmoved (h : Step cause s s') (hc : cause ≠ .fire (.attempt a)) : Unmoved a s s' := by
  cases h with
  | submit | outside => exact ⟨rfl, .inl rfl⟩
  | @fire _ event _ =>
    have hoff : (Point.picked event).Off a := by
      refine ⟨nofun, fun heq => hc ?_⟩
      rw [Point.picked.inj heq]
    have hfire := (moves_unmoved (moves_fire event { s with ready := s.ready.erase event }) hoff).2
    exact ⟨hfire.strides, hfire.loading⟩
  | close =>
    obtain ⟨_, _, _, _, hclose | hclose⟩ := close_eq s
    all_goals
      rw [hclose]
      exact ⟨rfl, .inl rfl⟩

/-! Runs. -/

theorem Recorded.step (h : Recorded settings a s) (hs : s.settings = settings) (hstep : Step cause s s') :
    Recorded settings a s' := by
  by_cases hc : cause = .fire (.attempt a)
  · subst hc
    obtain ⟨ready⟩ := hstep
    exact Recorded.continueAttempt (s := { s with ready := s.ready.erase (.attempt a) }) h hs
  · exact h.unmoved (hstep.unmoved hc)

/-- Whatever comes, the record of each attempt tells where it stands. -/
theorem recorded_of_reaches (h₀ : ∀ a, Recorded settings a s₀) (hs₀ : s₀.settings = settings)
    (h : Reaches rule s₀ s) (a : Nat) : Recorded settings a s := by
  induction h with
  | refl => exact h₀ a
  | tail h hstep ih =>
    obtain ⟨cause, hstep, -⟩ := hstep
    exact ih.step ((visits_of_reaches h).later.settings.trans hs₀) hstep

theorem recorded_fresh (settings : Settings) (world : World) (cells : List Cell)
    (current : Option Nat) (a : Nat) : Recorded settings a (fresh settings world cells current) :=
  .unborn

/-- Nothing happens to an attempt that has ended. -/
theorem Step.ended (h : Step cause s s') {fault : Option Fault}
    (ha : s.loading? a = some (.ended fault)) :
    s'.loading? a = some (.ended fault) ∧ s'.strides a = s.strides a := by
  by_cases hc : cause = .fire (.attempt a)
  · subst hc
    obtain ⟨ready⟩ := h
    have hsame : ({ s with ready := s.ready.erase (.attempt a) } : Session).continueAttempt a =
        { s with ready := s.ready.erase (.attempt a) } := by
      have hstage : ({ s with ready := s.ready.erase (.attempt a) } : Session).loading? a =
          some (.ended fault) := ha
      simp only [continueAttempt, hstage]
    simp only [Session.fire, hsame]
    exact ⟨ha, rfl⟩
  · obtain ⟨hstrides, hsame | ⟨hnone, -⟩⟩ := h.unmoved hc
    · exact ⟨hsame.trans ha, hstrides⟩
    · rw [ha] at hnone
      contradiction

theorem Reaches.ended (h : Reaches rule s s') {fault : Option Fault}
    (ha : s.loading? a = some (.ended fault)) :
    s'.loading? a = some (.ended fault) ∧ s'.strides a = s.strides a := by
  induction h with
  | refl => exact ⟨ha, rfl⟩
  | tail _ hstep ih =>
    obtain ⟨cause, hstep, -⟩ := hstep
    obtain ⟨hstage, hstrides⟩ := hstep.ended ih.1
    exact ⟨hstage, hstrides.trans ih.2⟩

/-! An attempt ends. -/

/-- The move with which an attempt ends leaves its bridge as the attempt has ended. -/
theorem Move.lands (m : Move (p, s) (p', s')) {fault : Option Fault}
    (hne : s.loading? a ≠ some (.ended fault)) (ha : s'.loading? a = some (.ended fault)) :
    p' = .rest ∧ p.attempt? = some a ∧
      s'.crossings = s.crossings.modify (s.bridgeOf a) fun c =>
        { c with status := if fault.isNone then .ready else .failed, inflight := none } := by
  have hset {a' : Nat} {stage : Loading} (h : (s.setAttempt a' stage).loading? a = some (.ended fault)) :
      a' = a ∧ stage = .ended fault := by
    by_cases haa : a' = a
    · subst haa
      rw [loading?_setAttempt] at h
      obtain ⟨_, _, hstage⟩ := Option.map_eq_some_iff.mp h
      exact ⟨rfl, hstage⟩
    · rw [loading?_setAttempt_ne haa] at h
      exact absurd h hne
  cases m
  case loadLater paused =>
    obtain ⟨-, rfl⟩ := hset ha
    cases paused
  case queueAdapter | adaptLater | stickAttempt => cases (hset ha).2
  case arrive | failAttempt | failAdapted =>
    obtain ⟨rfl, hend⟩ := hset ha
    cases hend
    exact ⟨rfl, rfl, rfl⟩
  case watchAttempt => exact absurd ((loading?_watchAttempt ..).symm.trans ha) hne
  case newAttempt =>
    rw [loading?_watchAttempt] at ha
    simp only [loading?, Session.newAttempt, wake, mapCrossing] at ha hne
    grind
  all_goals exact absurd ha hne

/-- A bridge is ready, or has failed, as an attempt of it has. -/
def Landed (a : Nat) (fault : Option Fault) (s : Session) : Prop :=
  ∀ made, s.attempts[a]? = some made → ∃ c, s.crossings[made.bridge]? = some c ∧
    c.status = if fault.isNone then .ready else .failed

theorem Move.landed (m : Move (p, s) (p', s')) (h : Bridged p s) {fault : Option Fault}
    (hne : s.loading? a ≠ some (.ended fault)) (ha : s'.loading? a = some (.ended fault)) :
    Landed a fault s' := by
  obtain ⟨-, hhere, hcrossings⟩ := m.lands hne ha
  obtain ⟨b, flying⟩ := h.here hhere
  intro made hmade
  obtain ⟨ended, hflown⟩ := (m.flight fun _ => h.here).flights_grow flying
  obtain rfl : made.bridge = b := by
    simp only [flights, List.getElem?_map, hmade, Option.map_some, Option.some.injEq,
      Prod.mk.injEq] at hflown
    exact hflown.1
  rw [hcrossings, bridgeOf_eq flying, List.getElem?_modify,
    List.getElem?_eq_getElem (h.flights flying)]
  exact ⟨_, rfl, by simp⟩

/-- When an attempt ends, its event is over and its bridge is ready or has failed. -/
theorem moves_landed (h : Bridged p s) {x : Point × Session} (m : Moves (p, s) x)
    {fault : Option Fault} (hne : s.loading? a ≠ some (.ended fault))
    (ha : x.2.loading? a = some (.ended fault)) : x.1 = .rest ∧ Landed a fault x.2 := by
  induction m with
  | refl => exact absurd ha hne
  | @tail x y m last ih =>
    by_cases hx : x.2.loading? a = some (.ended fault)
    · exact absurd ((ih hx).1 ▸ last : Move (.rest, x.2) y) (not_move_rest y)
    · exact ⟨(Move.lands last hx ha).1, Move.landed last (moves_flying h m).1 hx ha⟩

/-! An event of an attempt. -/

/-- The world shows what an event of an attempt has put on record, and of other names only those of
the host have changed. -/
def Shows (settings : Settings) (a : Nat) (s s' : Session) : Prop :=
  Books (fun g => g ≠ hostScope ∧ (s.world.store.scope? g).isSome) settings a
    (s.cell (s.interpreterOf a)).interpreter.globals s.world (s.strides a) s'.world (s'.strides a)

/-- What an event of an attempt does. -/
structure Passes (settings : Settings) (a : Nat) (s s' : Session) : Prop where
  /-- When the attempt ends, its bridge is ready or has failed. -/
  landed : ∀ fault, s'.loading? a = some (.ended fault) → s.loading? a ≠ some (.ended fault) →
    Landed a fault s'
  /-- When the attempt starts, it looks at the means of the host first. -/
  chosen : s.loading? a = some .starting →
    (s'.strides a).head? = some (.choose a s.world.host.means)
  /-- Until the adapter source runs, the world shows what is put on record. -/
  shown : .adapt a ∉ s'.strides a → Shows settings a s s'
  /-- The text that waits to be run is the one that the network gave for the adapter source. -/
  queued : ∀ source, s'.loading? a = some (.queuedToRun source) →
    s.loading? a = some (.queuedToRun source) ∨
      s.world.web.reply (settings.get .adapterUrl) = .ok source
  /-- So is the one that is run, which is the last thing that the event does. -/
  adapted : .adapt a ∈ s'.strides a → .adapt a ∉ s.strides a →
    ∃ (t : Session) (source : String), s' = t.runAdapter a source ∧ Shows settings a s t ∧
      (s.loading? a = some (.queuedToRun source) ∨
        s.world.web.reply (settings.get .adapterUrl) = .ok source)

/-- Nothing is shown where nothing was done. -/
theorem Shows.of_eq (hw : s'.world = s.world) (hr : s'.strides a = s.strides a) :
    Shows settings a s s' := by
  rw [Shows, hw, hr]
  exact .refl ..

/-- No names are touched but those of the host, and only scripts are asked for. -/
structure Untouched (s s' : Session) : Prop where
  names : ∀ g, g ≠ hostScope → (s.world.store.scope? g).isSome →
    s'.world.store.names g = s.world.store.names g
  asked : s'.world.asked = s.world.asked

/-- While all steps come before anything is bound, nothing is touched. -/
theorem Shows.untouched (h : Shows settings a s s')
    (hearly : ∀ deed ∈ s'.strides a, deed.isStep → deed.isEarly) : Untouched s s' where
  names g hg hscope := by
    have hnone : shown boundBy (s'.strides a) = [] := by
      refine shown_eq_nil hearly fun step success field hfield => ?_
      unfold boundBy at hfield
      split at hfield
      next heq =>
        obtain ⟨rfl, -⟩ := Prod.mk.inj heq
        exact ⟨rfl, nofun⟩
      next => cases hfield
    by_cases hown : g = (s.cell (s.interpreterOf a)).interpreter.globals
    · subst hown
      obtain ⟨entries, hbound, -, hnames⟩ := h.bound ⟨hg, hscope⟩
      rw [hnone] at hbound
      obtain rfl : entries = [] := List.map_eq_nil_iff.mp (List.append_eq_nil_iff.mp hbound.symm).2
      exact hnames
    · exact h.names g ⟨hg, hscope⟩ hown
  asked := by
    have hnone : shown (askedBy settings) (s'.strides a) = [] := by
      refine shown_eq_nil hearly fun step success request hrequest => ?_
      unfold askedBy at hrequest
      split at hrequest
      next heq =>
        obtain ⟨rfl, -⟩ := Prod.mk.inj heq
        exact ⟨rfl, nofun⟩
      next => cases hrequest
    obtain ⟨more, hasked, hmore⟩ := h.asked
    rw [hnone] at hmore
    rw [hasked, (List.append_eq_nil_iff.mp hmore.symm).2, List.append_nil]

theorem adapt_not_mem_approach (f : Findings) : .adapt a ∉ approach settings a f ++ [.fetch a] := by
  have hloads : .adapt a ∉ loads settings a f.means := fun h => by
    obtain ⟨url, heq⟩ | ⟨urls, heq⟩ := mem_loads h <;> cases heq
  simp [approach, hloads]

theorem adapt_not_mem_done {steps : List Deed} (h : .adapt a ∉ steps) : .adapt a ∉ done a steps :=
  fun hmem => (mem_done hmem).elim h nofun

/-- While the adapter source waits to be run it has not been run. -/
theorem Charts.unadapted {source : String} {record : List Deed}
    (h : Charts settings a (some (.queuedToRun source)) record) : .adapt a ∉ record := by
  cases h with
  | queued => exact adapt_not_mem_done (adapt_not_mem_approach _)

theorem head?_startAttempt (h : s.strides a = []) :
    ((s.startAttempt a).strides a).head? = some (.choose a s.world.host.means) := by
  obtain ⟨more, hmore⟩ := Moves.strides (a := a) (moves_startAttempt a s)
  dsimp only at hmore
  rw [strides_did rfl, h] at hmore
  rw [← hmore]
  rfl

theorem passes_of_touches (h : Recorded settings a s) (hs : s.settings = settings)
    (hb : Bridged (.picked (.attempt a)) s) (hn : .adapt a ∉ s.strides a)
    (hq : ∀ source, s.loading? a ≠ some (.queuedToRun source)) :
    Passes settings a s (s.continueAttempt a) := by
  have ht := touches_continueAttempt (K := fun g => g ≠ hostScope ∧ (s.world.store.scope? g).isSome)
    (fun hk => hk.1 rfl) h hs (fun _ hk => hk.2) hn hq
  have hafter := h.continueAttempt hs
  constructor
  case landed => exact fun _ ha hne => (moves_landed hb (moves_continueAttempt a s) hne ha).2
  case chosen =>
    intro hstart
    rw [Recorded, hstart] at h
    simp only [continueAttempt, hstart]
    refine head?_startAttempt ?_
    generalize s.strides a = record at h
    cases h
    rfl
  case shown => exact fun hstill => (ht.still hstill).1
  case queued =>
    intro source hsource
    rw [Recorded, hsource] at hafter
    exact .inr ((ht.still hafter.unadapted).2 source hsource)
  case adapted =>
    intro hadapt _
    obtain ⟨t, source, hrun, hbooks, hreply⟩ := ht.ran hadapt
    exact ⟨t, source, hrun, hbooks, .inr hreply⟩

/-- A text that waits is run when it is its turn. -/
theorem continueAttempt_queued (settings : Settings) {source : String}
    (h : s.loading? a = some (.queuedToRun source)) :
    s.continueAttempt a = s ∨
      ∃ t, s.continueAttempt a = t.runAdapter a source ∧ Shows settings a s t := by
  simp only [continueAttempt, h]
  split
  · exact .inr ⟨_, rfl, .of_eq rfl rfl⟩
  · exact .inl rfl

/-- Nothing comes of an event of an attempt that waits or has ended. -/
theorem passes_idle (h : s.continueAttempt a = s) (hs : s.loading? a ≠ some .starting) :
    Passes settings a s (s.continueAttempt a) := by
  rw [h]
  exact ⟨fun _ ha hne => absurd ha hne, fun hstart => absurd hstart hs, fun _ => .of_eq rfl rfl,
    fun _ hq => .inl hq, fun hadapt hn => absurd hadapt hn⟩

/-- Once the adapter source runs, it is all that an event goes on with. -/
theorem passes_of_adapt (h : Recorded settings a s) (hs : s.settings = settings)
    (hb : Bridged (.picked (.attempt a)) s) (hstage : s.loading? a ≠ some .starting)
    (hadapt : .adapt a ∈ (s.continueAttempt a).strides a)
    (hrun : .adapt a ∉ s.strides a → ∃ (t : Session) (source : String),
      s.continueAttempt a = t.runAdapter a source ∧ Shows settings a s t ∧
        s.loading? a = some (.queuedToRun source)) :
    Passes settings a s (s.continueAttempt a) := by
  constructor
  case landed => exact fun _ ha hne => (moves_landed hb (moves_continueAttempt a s) hne ha).2
  case chosen => exact fun hstart => absurd hstart hstage
  case shown => exact fun hn => absurd hadapt hn
  case queued =>
    intro source hq
    have hafter := h.continueAttempt hs
    rw [Recorded, hq] at hafter
    exact absurd hadapt hafter.unadapted
  case adapted =>
    intro _ hn
    obtain ⟨t, source, heq, hshows, hq⟩ := hrun hn
    exact ⟨t, source, heq, hshows, .inl hq⟩

theorem passes_continueAttempt (h : Recorded settings a s) (hs : s.settings = settings)
    (hb : Bridged (.picked (.attempt a)) s) :
    Passes settings a s (s.continueAttempt a) := by
  have hrecorded := h
  unfold Recorded at h
  generalize hstage : s.loading? a = stage at h
  generalize hrecord : s.strides a = record at h
  have hidle (hend : stage = none ∨ stage = some .stuck ∨ ∃ fault, stage = some (.ended fault)) :
      Passes settings a s (s.continueAttempt a) := by
    rcases hend with rfl | rfl | ⟨fault, rfl⟩
    all_goals exact passes_idle (by simp only [continueAttempt, hstage]) (hstage ▸ nofun)
  have htouches (hn : .adapt a ∉ record) (hq : ∀ source, stage ≠ some (.queuedToRun source)) :
      Passes settings a s (s.continueAttempt a) :=
    passes_of_touches hrecorded hs hb (hrecord ▸ hn) (fun source => hstage ▸ hq source)
  cases h with
  | unborn => exact hidle (.inl rfl)
  | stuck => exact hidle (.inr (.inl rfl))
  | ready | failed => exact hidle (.inr (.inr ⟨_, rfl⟩))
  | starting => exact htouches List.not_mem_nil fun _ => nofun
  | appending =>
    refine htouches (fun hadapt => ?_) fun _ => nofun
    rcases List.mem_append.mp hadapt with hadapt | hadapt
    · exact adapt_not_mem_done (by simp) hadapt
    · simp at hadapt
  | @fetching f =>
    refine htouches (fun hadapt => ?_) fun _ => nofun
    rcases List.mem_append.mp hadapt with hadapt | hadapt
    · exact adapt_not_mem_done
        (fun h => adapt_not_mem_approach f (List.mem_append_left _ h)) hadapt
    · simp at hadapt
  | @queued f source =>
    rcases continueAttempt_queued settings hstage with hsame | ⟨t, hrun, hshows⟩
    · exact passes_idle hsame (hstage ▸ nofun)
    · exact passes_of_adapt hrecorded hs hb (hstage ▸ nofun)
        (hrun ▸ adapt_mem_runAdapter source t) fun _ => ⟨t, source, hrun, hshows, hstage⟩
  | @running f resume =>
    have hadapt : .adapt a ∈ s.strides a :=
      hrecord ▸ List.mem_append_right _ (List.mem_singleton_self _)
    exact passes_of_adapt hrecorded hs hb (hstage ▸ nofun)
      ((Moves.strides (moves_continueAttempt a s)).subset hadapt) fun hn => absurd hadapt hn

/-! Attempts in order. -/

/-- An attempt takes its steps in order, and ends as they do. -/
structure Orderly (settings : Settings) (a : Nat) (stage : Option Loading) (record : List Deed) :
    Prop where
  /-- The steps are the first ones of the way, and so are the effects. -/
  steps : ∃ f : Findings, record.filter (·.isStep) <+: way settings a f ∧
    record.filter (·.isEffect) <+: effects settings a f.means
  /-- The attempt is ready exactly when all was done without a fault, and there was a library with a
  tensor class. -/
  ready : stage = some (.ended none) ↔
    ∃ f : Findings, f.Complete ∧ record = done a (way settings a f)
  /-- It has failed exactly when the last thing on record is a fault. -/
  failed : (∃ fault, stage = some (.ended (some fault))) ↔
    record.getLast? = some (.settled a false)
  /-- Then all steps before have succeeded. If the last comes before anything is bound, so do all. -/
  front : ∀ fault, stage = some (.ended (some fault)) →
    ∃ (f : Findings) (front : List Deed) (step : Deed), front ++ [step] <+: way settings a f ∧
      record = done a front ++ [step, .settled a false] ∧
      (step.isEarly → ∀ deed ∈ record, deed.isStep → deed.isEarly)
  /-- What misses what it looks for is the last step. -/
  missing : ∀ deed ∈ record, ¬deed.Holds →
    (∃ fault, stage = some (.ended (some fault))) ∧
      ∃ front, record = done a front ++ [deed, .settled a false]

theorem Charts.orderly {stage : Option Loading} {record : List Deed}
    (h : Charts settings a stage record) : Orderly settings a stage record where
  steps := by
    obtain ⟨f, steps, hway, hfilter⟩ := h.steps
    refine ⟨f, ?_, ?_⟩
    · rw [hfilter _ fun _ => rfl, List.filter_eq_self.mpr fun _ hstep =>
        isStep_of_mem_way (hway.subset hstep)]
      exact hway
    · rw [hfilter _ fun _ => rfl, ← filter_way]
      exact hway.filter _
  ready := h.ready_iff
  failed := h.failed_iff
  front fault hstage := by
    subst hstage
    obtain ⟨f, front, step, hway, -, hrecord⟩ := h.of_failed
    refine ⟨f, front, step, hway, hrecord, fun hearly => ?_⟩
    have hfront := prefix_of_isEarly hway hearly
    intro deed hdeed hstep
    rw [hrecord, List.mem_append] at hdeed
    rcases hdeed with hdeed | hdeed
    · rcases mem_done hdeed with hdeed | rfl
      · exact isEarly_of_mem (hfront.subset (List.mem_append_left _ hdeed))
      · cases hstep
    · simp only [List.mem_cons, List.not_mem_nil, or_false] at hdeed
      rcases hdeed with rfl | rfl
      · exact hearly
      · cases hstep
  missing deed hdeed hmissing := h.missing hdeed hmissing

theorem Step.passes (h : Step (.fire (.attempt a)) s s') (ht : Recorded settings a s)
    (hs : s.settings = settings) (hb : Bridged .rest s) : Passes settings a s s' := by
  obtain ⟨ready⟩ := h
  have hpasses := passes_continueAttempt (s := { s with ready := s.ready.erase (.attempt a) }) ht hs
    (hb.pick (.attempt a) _)
  exact ⟨hpasses.landed, hpasses.chosen, hpasses.shown, hpasses.queued, hpasses.adapted⟩

/-- Who needs a bridge that has failed makes another attempt, for which nothing has been done. -/
theorem Bridged.retry (h : Bridged .rest s) (hfailed : s.crossing.status = .failed) (n i : Nat) :
    (s.needBridge n i).attempts =
        s.attempts ++ [{ bridge := s.bridge, interpreter := i, watchers := [n] }] ∧
      .attempt s.attempts.length ∈ (s.needBridge n i).ready := by
  have hidle : s.crossing.inflight = none := by
    by_contra hflying
    exact absurd (hfailed.symm.trans ((h.loading h.crossing?_eq).mpr hflying)) nofun
  have hready : s.crossing.status ≠ .ready := hfailed ▸ nofun
  simp only [needBridge, if_neg hready, hidle]
  constructor
  · simp only [watchAttempt, Session.newAttempt, Session.did, setJob, wake, mapCrossing]
    rw [List.modify_eq_take_cons_drop (by simp)]
    simp
  · simp [watchAttempt, Session.newAttempt, Session.did, setJob, wake]

/-- Whatever comes and in whatever order, every attempt takes its steps in order from the first on:
it loads all scripts in the order of the settings, or in one call, binds the library and its
adapters, fetches the adapter source once and runs it. It is ready exactly when all was done without
a fault and the library was there with a tensor class, whatever the adapter source has bound, and
has failed when a step has; nothing more is done for it then, and whoever needs the bridge of a
failed attempt starts another. What the record says the world shows: which scripts were loaded, what
was asked for and what was bound; and it is the fetched text that is run. As long as all steps come
before anything is bound, no names are touched but those of the host, and only scripts are asked
for. -/
theorem attempts_in_order (settings : Settings) (world : World) (cells : List Cell)
    (current : Option Nat) (h : Reaches .anything (fresh settings world cells current) s) :
    (∀ a, Orderly settings a (s.loading? a) (s.strides a) ∧
      (∀ fault, s.loading? a = some (.ended fault) → ∀ s', Reaches .anything s s' →
        s'.loading? a = some (.ended fault) ∧ s'.strides a = s.strides a) ∧
      ∀ s', Step (.fire (.attempt a)) s s' → Passes settings a s s' ∧
        ((∀ deed ∈ s'.strides a, deed.isStep → deed.isEarly) → Untouched s s')) ∧
    (s.crossing.status = .failed → ∀ n i,
      (s.needBridge n i).attempts =
          s.attempts ++ [{ bridge := s.bridge, interpreter := i, watchers := [n] }] ∧
        .attempt s.attempts.length ∈ (s.needBridge n i).ready) := by
  have hv := visits_of_reaches h
  have hb := hv.bridged (bridged_fresh settings world cells current)
  have hs : s.settings = settings := hv.later.settings
  have hrecorded := recorded_of_reaches (recorded_fresh settings world cells current) rfl h
  refine ⟨fun a => ⟨(hrecorded a).orderly, fun fault ha s' hs' => hs'.ended ha, fun s' hstep => ?_⟩,
    hb.retry⟩
  have hpasses := hstep.passes (hrecorded a) hs hb
  refine ⟨hpasses, fun hearly => (hpasses.shown fun hadapt => ?_).untouched hearly⟩
  exact absurd (hearly _ hadapt rfl) nofun

/-- Whether an attempt that has ended has succeeded. -/
def Loading.success? : Loading → Option Bool
  | .ended fault => some fault.isNone
  | _ => none

theorem ended_of_success? {success : Bool}
    (h : (s.loading? a).bind Loading.success? = some success) :
    ∃ fault, s.loading? a = some (.ended fault) ∧ fault.isNone = success := by
  obtain ⟨stage, hstage, hsuccess⟩ := Option.bind_eq_some_iff.mp h
  cases stage with
  | ended fault => exact ⟨fault, hstage, Option.some.inj hsuccess⟩
  | _ => cases hsuccess

/-- A world in which the heavy library cannot be loaded for want of a script. -/
def cutOff : World where
  host := { scripts := [("https://veehz.github.io/torch/build/browser/torch.browser.umd.js",
    { failure := some ⟨.runtimeError, "unreachable", none, none⟩ })] }
  web := stocked.web

/-- An attempt that a script has failed is followed by one that takes all steps. That one is ready
though the adapter source, which is empty, has not bound the library. -/
theorem attempt_after_failed_script :
    let made := Interpreter.make cutOff
    ∃ s, Reaches .anything (fresh default made.2 [{ interpreter := made.1 }] (some 0)) s ∧
      (s.strides 0).getLast? = some (.settled 0 false) ∧
      (∃ f : Findings, f.Complete ∧ s.strides 1 = done 1 (way default 1 f)) ∧
      ((s.cell 0).interpreter.names s.world).has "torch" = false := by
  intro made
  let s₀ := fresh default made.2 [{ interpreter := made.1 }] (some 0)
  let s₁ := (s₀.serve (.bootstrap 0)).2
  let world : World := { s₁.world with host := { s₁.world.host with scripts := stocked.host.scripts } }
  let s := (({ s₁ with world := world } : Session).serve (.bootstrap 0)).2
  have hs₁ : Reaches .anything s₀ s₁ := reaches_serve .refl trivial fun _ _ => trivial
  have hs : Reaches .anything s₀ s :=
    reaches_serve (hs₁.step (.outside world) trivial) trivial fun _ _ => trivial
  obtain ⟨hall, -⟩ := attempts_in_order default made.2 [{ interpreter := made.1 }] (some 0) hs
  have hfailed : ∃ fault, s.loading? 0 = some (.ended (some fault)) := by
    obtain ⟨_ | fault, hstage, hfault⟩ := ended_of_success?
      (show (s.loading? 0).bind Loading.success? = some false by decide +kernel)
    · cases hfault
    · exact ⟨fault, hstage⟩
  have hready : s.loading? 1 = some (.ended none) := by
    obtain ⟨_ | fault, hstage, hfault⟩ := ended_of_success?
      (show (s.loading? 1).bind Loading.success? = some true by decide +kernel)
    · exact hstage
    · cases hfault
  exact ⟨s, hs, (hall 0).1.failed.mp hfailed, (hall 1).1.ready.mp hready, by decide +kernel⟩

end Chunkwise.Session
