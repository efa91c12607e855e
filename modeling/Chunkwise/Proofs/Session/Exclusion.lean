import Chunkwise.Proofs.Session.Renewal.Tidy
import Chunkwise.Proofs.Session.Rooms
import Chunkwise.Proofs.Session.Searches

/-!
Runs in one interpreter exclude each other. Whoever runs code holds the lock of the interpreter
alone, from the moment at which the code begins to the moment at which it ends.
-/
namespace Chunkwise.Session
open Chunkwise.Execution

variable {rule : Rule} {settings : Settings} {world : World} {s s' : Session} {p p' : Point}
variable {n i j a : Nat} {e x : Event}

/-- Code of a job is running in an interpreter. -/
def Place.runs (i : Nat) : Place → Prop
  | .working (.follow j) => j = i
  | .waiting (some stage) => stage.runs i
  | _ => False

/-- The interpreter of an attempt, and where it stands. -/
def trial? (a : Nat) (s : Session) : Option (Nat × Loading) :=
  s.attempts[a]?.map fun made => (made.interpreter, made.stage)

/-- The code of a job or the adapter source of an attempt has begun to run in an interpreter and has
not ended. -/
def Runs (i : Nat) (p : Point) (s : Session) : Event → Prop
  | .job n => (place n p s).runs i ∧ .run n i ∈ s.deeds
  | .attempt a => ∃ stage, s.trial? a = some (i, stage) ∧
      (p = .adapting a ∨ p.attempt? ≠ some a ∧ stage.runs)
  | .relay _ | .construction _ => False

/-! Jobs. -/

theorem Visits.run_unique (h : Visits rule (fresh settings world [] none) p s)
    (hi : .run n i ∈ s.deeds) (hj : .run n j ∈ s.deeds) : i = j := by
  have hsame := h.deed_unique rfl hi hj rfl rfl rfl (by simp [Deed.rank])
  injection hsame

/-- The interpreter in which code of a job was running last. -/
def Place.running? : Place → Option Nat
  | .working (.follow i) | .waiting (some (.running i _)) => some i
  | _ => none

theorem Move.running? (m : Move (p, s) (p', s'))
    (hn : ∀ task, p = .job n task → s.stage? n ≠ none)
    (hi : (place n p' s').running? = some i) :
    (place n p s).running? = some i ∨ s'.deeds = s.deeds ++ [.run n i] := by
  by_cases hat : p.isAt n
  · rcases hat with rfl | ⟨task, rfl⟩
    · cases m
      case work busy _ _ => cases busy
      case idle => exact .inl hi
      all_goals simp_all [Place.running?, did, mapLock, mapCell]
    · obtain ⟨job, hjob⟩ := job_of_stage? (hn task rfl)
      cases m
      all_goals
        simp_all [Place.running?, stage?, setJob, wake, endJob, did, mapLock, mapCell,
          Session.watchAttempt, Session.newAttempt, mapCrossing]
  · exact .inl (m.place_eq hat ▸ hi)

/-- Code that runs has begun to. -/
theorem Visits.run_mem (h : Visits rule (fresh settings world [] none) p s)
    (hi : (place n p s).running? = some i) : .run n i ∈ s.deeds := by
  induction h with
  | start => cases hi
  | move h m ih =>
    rcases m.running? (fun task => h.stage?_ne_none) hi with hold | hnew
    · exact m.mem_deeds (ih hold)
    · exact hnew ▸ List.mem_append_right _ (List.mem_singleton_self _)
  | submit request _ _ ih =>
    rw [place_rest, stage?_submit] at hi
    split at hi
    · cases hi
    · exact ih hi
  | pick _ _ _ ih | change _ _ _ _ _ ih | close _ _ _ _ _ _ ih => exact ih hi

/-- Code of a job that is running was running, or begins. -/
theorem Move.runs_job (m : Move (p, s) (p', s'))
    (h : Visits rule (fresh settings world [] none) p s) (hruns : Runs i p' s' (.job n)) :
    Runs i p s (.job n) ∨ s'.deeds = s.deeds ++ [.run n i] := by
  obtain ⟨hplace, hdeed⟩ := hruns
  have hbegun : .run n i ∈ s.deeds ∨ s'.deeds = s.deeds ++ [.run n i] := by
    rcases m.deeds with hsame | ⟨deed, -, hnew⟩
    · exact .inl (hsame ▸ hdeed)
    · rw [hnew, List.mem_append, List.mem_singleton] at hdeed
      exact hdeed.imp_right fun (hlast : Deed.run n i = deed) => hlast ▸ hnew
  refine hbegun.imp_left fun hmem => ⟨?_, hmem⟩
  by_cases hat : p.isAt n
  · rcases hat with rfl | ⟨task, rfl⟩
    · cases m
      case work busy _ _ => cases busy
      case idle => exact hplace
      case executeNext hstage _ =>
        exact absurd hmem (h.not_run rfl (by simp [hstage, Place.rank, Stage.rank]) i)
      all_goals simp_all [Place.runs, Stage.runs]
    · have hwas {k : Nat} (hk : task = .follow k) : k = i := by
        have hrunning : (place n (.job n task) s).running? = some k := by
          rw [place_job, hk]
          rfl
        exact h.run_unique (h.run_mem hrunning) hmem
      obtain ⟨job, hjob⟩ := job_of_stage? (h.stage?_ne_none rfl)
      cases m
      case execute =>
        exact absurd hmem (h.not_run rfl (by simp [Place.rank, Task.rank]) i)
      all_goals
        simp_all [Place.runs, Stage.runs, stage?, setJob, wake, endJob, did, mapLock, mapCell,
          Session.watchAttempt, Session.newAttempt, mapCrossing]
  · exact m.place_eq hat ▸ hplace

/-! Attempts. -/

/-- It is the turn of an attempt. -/
def Point.isTrial (a : Nat) (p : Point) : Prop :=
  p = .picked (.attempt a) ∨ p.attempt? = some a

theorem trial?_setAttempt {b : Nat} (h : b ≠ a) (stage : Loading) (s : Session) :
    (s.setAttempt b stage).trial? a = s.trial? a := by
  simp only [trial?, setAttempt, List.getElem?_modify, if_neg h]
  cases s.attempts[a]? <;> rfl

theorem trial?_setAttempt_self (a : Nat) (stage : Loading) (s : Session) :
    (s.setAttempt a stage).trial? a = (s.trial? a).map fun made => (made.1, stage) := by
  simp only [trial?, setAttempt, List.getElem?_modify]
  cases s.attempts[a]? <;> simp

theorem trial?_watchAttempt (n i b : Nat) (s : Session) :
    (s.watchAttempt n i b).trial? a = s.trial? a := by
  simp only [trial?, Session.watchAttempt, setJob, did, List.getElem?_modify]
  cases s.attempts[a]? with
  | none => rfl
  | some made => by_cases h : b = a <;> simp [h]

theorem trial?_endAttempt (b : Nat) (fault : Option Fault) (s : Session) :
    (s.endAttempt b fault).trial? a = (s.setAttempt b (.ended fault)).trial? a := by
  cases fault <;> rfl

theorem trial?_newAttempt (i : Nat) (s : Session) : (s.newAttempt i).trial? a = s.trial? a ∨
    s.trial? a = none ∧ (s.newAttempt i).trial? a = some (i, .starting) := by
  simp only [trial?, Session.newAttempt, wake, mapCrossing]
  grind

theorem trial?_of_loading? {stage : Loading} (h : s.loading? a = some stage) :
    s.trial? a = some (s.interpreterOf a, stage) := by
  obtain ⟨made, hmade, rfl⟩ := Option.map_eq_some_iff.mp h
  simp [trial?, interpreterOf, hmade]

theorem interpreterOf_of_trial? {made : Nat × Loading} (h : s.trial? a = some made) :
    s.interpreterOf a = made.1 := by
  obtain ⟨old, hold, rfl⟩ := Option.map_eq_some_iff.mp h
  simp [interpreterOf, hold]

/-- Nobody touches an attempt but itself; there may be one more. -/
theorem Move.trial? (m : Move (p, s) (p', s')) (h : ¬p.isTrial a) :
    s'.trial? a = s.trial? a ∨ s.trial? a = none ∧ ∃ i, s'.trial? a = some (i, .starting) := by
  have hne {b : Nat} (hb : p.attempt? = some b) : b ≠ a := fun hba => h (.inr (hba ▸ hb))
  have hpicked {b : Nat} (hb : p = .picked (.attempt b)) : b ≠ a := fun hba => h (.inl (hba ▸ hb))
  cases m
  case loadLater | queueAdapter | adaptLater | stickAttempt =>
    exact .inl (trial?_setAttempt (hne rfl) ..)
  case arrive | failAttempt | failAdapted =>
    exact .inl ((trial?_endAttempt ..).trans (trial?_setAttempt (hne rfl) ..))
  case watchAttempt => exact .inl (trial?_watchAttempt ..)
  case newAttempt i _ _ =>
    rw [trial?_watchAttempt]
    exact (trial?_newAttempt i s).imp_right fun h => ⟨h.1, i, h.2⟩
  all_goals exact .inl rfl

/-- Whose turn it is not, it is not its turn afterwards. -/
theorem Move.isTrial (m : Move (p, s) (p', s')) (h : ¬p.isTrial a) : ¬p'.isTrial a := by
  simp only [Point.isTrial] at h ⊢
  cases m <;> simp_all [Point.attempt?]

/-- Code begins to run in an interpreter. -/
def Begins (i : Nat) (s : Session) (p' : Point) (s' : Session) : Event → Prop
  | .job n => s'.deeds = s.deeds ++ [.run n i]
  | .attempt a => p' = .adapting a ∧ (∃ stage, s.trial? a = some (i, stage)) ∧
      s'.deeds = s.deeds ++ [.adapt a]
  | .relay _ | .construction _ => False

/-- An adapter source that is running was running, or begins. -/
theorem Move.runs_attempt (m : Move (p, s) (p', s')) (hruns : Runs i p' s' (.attempt a)) :
    Runs i p s (.attempt a) ∨ Begins i s p' s' (.attempt a) := by
  obtain ⟨stage, hstage, hat⟩ := hruns
  have hset {new : Loading} (hnew : (s.setAttempt a new).trial? a = some (i, stage)) :
      stage = new ∧ ∃ old, s.trial? a = some (i, old) := by
    rw [trial?_setAttempt_self] at hnew
    obtain ⟨⟨_, old⟩, hold, hpair⟩ := Option.map_eq_some_iff.mp hnew
    cases hpair
    exact ⟨rfl, old, hold⟩
  have hended {fault : Option Fault}
      (hnew : (s.endAttempt a fault).trial? a = some (i, stage)) : ¬stage.runs := by
    rw [trial?_endAttempt] at hnew
    rw [(hset hnew).1]
    exact id
  by_cases htrial : p.isTrial a
  · rcases htrial with rfl | hp
    · cases m
      case work busy _ _ => cases busy
      case idle => exact .inl ⟨stage, hstage, by simpa [Point.attempt?] using hat⟩
      case adaptOn hrunning =>
        have hsame := (trial?_of_loading? hrunning).symm.trans hstage
        cases hsame
        exact .inl ⟨_, hstage, .inr ⟨nofun, trivial⟩⟩
      case adaptNext => exact .inr ⟨rfl, ⟨stage, hstage⟩, rfl⟩
      all_goals simp [Point.attempt?] at hat
    · cases m
      case work => exact .inl ⟨stage, hstage, hat⟩
      case adapt =>
        cases hp
        exact .inr ⟨rfl, ⟨stage, hstage⟩, rfl⟩
      case loadLater paused =>
        cases hp
        obtain ⟨rfl, -⟩ := hset hstage
        cases stage <;> simp_all [Point.attempt?, Loading.runs, Loading.isPaused]
      case queueAdapter =>
        cases hp
        obtain ⟨rfl, -⟩ := hset hstage
        simp [Point.attempt?, Loading.runs] at hat
      case adaptLater | stickAttempt =>
        cases hp
        obtain ⟨-, old, hold⟩ := hset hstage
        exact .inl ⟨old, hold, .inl rfl⟩
      case arrive | failAttempt | failAdapted =>
        cases hp
        exact absurd (hat.resolve_left nofun).2 (hended hstage)
      all_goals simp_all [Point.attempt?]
  · have hp' := m.isTrial htrial
    have hruns : stage.runs := by
      rcases hat with rfl | ⟨-, hruns⟩
      · exact absurd (.inr rfl) hp'
      · exact hruns
    rcases m.trial? htrial with hsame | ⟨-, _, hnew⟩
    · exact .inl ⟨stage, hsame ▸ hstage, .inr ⟨fun hp => htrial (.inr hp), hruns⟩⟩
    · rw [hnew] at hstage
      cases hstage
      cases hruns

/-! Locks. -/

theorem lock_cell (i : Nat) (s : Session) :
    (s.cell i).lock = ((s.cells.map (·.lock))[i]?).getD {} := by
  simp only [cell, List.getElem?_map]
  cases s.cells[i]? <;> rfl

theorem lock_mapLock (f : Lock → Lock) (s : Session) : ((s.mapLock i f).cell j).lock =
    if i = j ∧ j < s.cells.length then f (s.cell j).lock else (s.cell j).lock := by
  simp only [cell, mapLock, mapCell, List.getElem?_modify]
  rcases hcell : s.cells[j]? with _ | cell
  · rw [if_neg fun h => by simp [h.2] at hcell]
    rfl
  · have hj := (List.getElem?_eq_some_iff.mp hcell).1
    by_cases hij : i = j
    · rw [if_pos ⟨hij, hj⟩]
      simp [hij]
    · rw [if_neg fun h => hij h.1]
      simp [hij]

/-- Only whose code ends lets go of a lock. -/
theorem Move.held (m : Move (p, s) (p', s')) (hi : (s.cell i).lock.held) :
    (s'.cell i).lock.held ∨
      (∃ n result, p = .job n (.follow i) ∧ p' = .job n (.finish result)) ∨
      ∃ a, p = .adapting a ∧ p' = .adapted a ∧ s.interpreterOf a = i := by
  have hsame (h : s'.cells.map (·.lock) = s.cells.map (·.lock)) : (s'.cell i).lock.held := by
    rwa [lock_cell, h, ← lock_cell]
  have hmap (j : Nat) (f : Lock → Lock) (hf : ∀ l : Lock, l.held → (f l).held) :
      ((s.mapLock j f).cell i).lock.held := by
    rw [lock_mapLock]
    split
    · exact hf _ hi
    · exact hi
  have hrelease {j : Nat} (hj : j ≠ i) : ((s.releaseRun j).cell i).lock.held := by
    have heq : ((s.releaseRun j).cell i).lock = ((s.mapLock j Lock.release).cell i).lock := rfl
    rwa [heq, lock_mapLock, if_neg fun h => hj h.1]
  cases m
  case work locks _ => exact .inl (hsame locks)
  case probe locks _ _ _ => exact .inl (hsame locks)
  case abandon locks _ => exact .inl (hsame locks)
  case construct =>
    refine .inl ?_
    simp only [lock_cell, endConstruction, setConstruction, wakeAll, haltOn, did, List.map_append,
      List.getElem?_append] at hi ⊢
    grind
  case adapt | execute => exact .inl (hmap _ Lock.take fun _ _ => rfl)
  case adaptNext a _ _ _ => exact .inl (hmap _ (·.takeAfter (.attempt a)) fun _ _ => rfl)
  case executeNext n _ _ _ => exact .inl (hmap _ (·.takeAfter (.job n)) fun _ _ => rfl)
  case queueAdapter a _ _ => exact .inl (hmap _ (·.queue (.attempt a)) fun _ hl => hl)
  case queueChunk n _ _ => exact .inl (hmap _ (·.queue (.job n)) fun _ hl => hl)
  case leaveAdapter a =>
    by_cases ha : s.interpreterOf a = i
    · exact .inr (.inr ⟨a, rfl, rfl, ha⟩)
    · exact .inl (hrelease ha)
  case leave n j result =>
    by_cases hj : j = i
    · exact .inr (.inl ⟨n, result, by rw [hj], rfl⟩)
    · exact .inl (hrelease hj)
  all_goals exact .inl hi

theorem held_mapLock {f : Lock → Lock} (hf : ∀ l, (f l).held) (hi : i < s.cells.length) :
    ((s.mapLock i f).cell i).lock.held := by
  rw [lock_mapLock, if_pos ⟨rfl, hi⟩]
  exact hf _

/-- Code begins to run when nobody holds the lock. -/
theorem Move.run_takes (m : Move (p, s) (p', s')) (hnew : s'.deeds = s.deeds ++ [.run n i]) :
    (s.cell i).lock.held = false ∧ (i < s.cells.length → (s'.cell i).lock.held) := by
  cases m.occasion hnew
  case strive hnone => cases hnone
  case run =>
    cases m
    case execute free => exact ⟨Lock.held_of_isFree free, held_mapLock fun _ => rfl⟩
    all_goals simp [setJob, mapLock, mapCell] at hnew
  case runNext hstage =>
    cases m
    case executeNext hqueued turn =>
      obtain rfl : _ = i := by simpa [did, mapLock, mapCell] using hnew
      exact ⟨Lock.held_of_admits turn, held_mapLock (f := (·.takeAfter (.job n))) fun _ => rfl⟩
    all_goals simp_all

theorem Move.adapt_takes (m : Move (p, s) (.adapting a, s'))
    (hnew : s'.deeds = s.deeds ++ [.adapt a]) : (s.cell (s.interpreterOf a)).lock.held = false ∧
      (s.interpreterOf a < s.cells.length → (s'.cell (s.interpreterOf a)).lock.held) := by
  cases m
  case adapt free => exact ⟨Lock.held_of_isFree free, held_mapLock fun _ => rfl⟩
  case adaptNext turn =>
    exact ⟨Lock.held_of_admits turn, held_mapLock (f := (·.takeAfter (.attempt a))) fun _ => rfl⟩
  all_goals simp at hnew

/-! All together. -/

theorem Begins.unique (he : Begins i s p' s' e) (hx : Begins i s p' s' x) : e = x := by
  cases e <;> cases x <;> simp_all [Begins]

/-- Code that begins to run takes the lock, which nobody holds. -/
theorem Begins.takes (hb : Begins i s p' s' e) (m : Move (p, s) (p', s')) (hp : Present p s) :
    (s.cell i).lock.held = false ∧ (s'.cell i).lock.held := by
  cases e with
  | job n =>
    obtain ⟨hfree, htaken⟩ := m.run_takes hb
    exact ⟨hfree, htaken (hp.place (m.occasion hb).run_interpreter?)⟩
  | attempt a =>
    obtain ⟨rfl, ⟨stage, htrial⟩, hnew⟩ := hb
    obtain ⟨hfree, htaken⟩ := m.adapt_takes hnew
    rw [interpreterOf_of_trial? htrial] at hfree htaken
    obtain ⟨made, hmade, hpair⟩ := Option.map_eq_some_iff.mp htrial
    have hi : i ∈ s.attempts.map (·.interpreter) :=
      List.mem_map.mpr ⟨made, List.mem_of_getElem? hmade, (Prod.mk.inj hpair).1⟩
    exact ⟨hfree, htaken (hp.attempt hi)⟩
  | relay | construction => cases hb

/-- Code that is running was running, or begins. -/
theorem Move.runs (m : Move (p, s) (p', s')) (h : Visits rule (fresh settings world [] none) p s)
    (hruns : Runs i p' s' e) : Runs i p s e ∨ Begins i s p' s' e := by
  cases e with
  | job n => exact m.runs_job h hruns
  | attempt a => exact m.runs_attempt hruns
  | relay | construction => cases hruns

/-- Whoever runs code in an interpreter holds its lock, and does so alone. -/
structure Guarded (p : Point) (s : Session) : Prop where
  held {i : Nat} {e : Event} : Runs i p s e → (s.cell i).lock.held
  alone {i : Nat} {e x : Event} : Runs i p s e → Runs i p s x → e = x

theorem Guarded.move (h : Guarded p s) (m : Move (p, s) (p', s'))
    (hv : Visits .orderly (fresh settings world [] none) p s) : Guarded p' s' := by
  have hbegins {i : Nat} {e : Event} (hb : Begins i s p' s' e) := hb.takes m hv.present
  have hfree {i : Nat} {e x : Event} (hb : Begins i s p' s' e) (hx : Runs i p s x) : False := by
    have hheld := h.held hx
    rw [(hbegins hb).1] at hheld
    cases hheld
  refine ⟨fun {i e} he => ?_, fun {i e x} he hx => ?_⟩
  · rcases m.runs hv he with hold | hb
    · rcases m.held (h.held hold) with hheld | ⟨n, result, rfl, rfl⟩ | ⟨a, rfl, rfl, hi⟩
      · exact hheld
      · have hends : Runs i (.job n (.follow i)) s (.job n) := by
          refine ⟨by rw [place_job]; rfl, hv.run_mem ?_⟩
          rw [place_job]
          rfl
        obtain rfl := h.alone hold hends
        obtain ⟨hplace, -⟩ := he
        rw [place_job] at hplace
        exact hplace.elim
      · have hends : Runs i (.adapting a) s (.attempt a) := by
          obtain ⟨b, hflight⟩ := (hv.bridged (bridged_fresh ..)).here rfl
          obtain ⟨made, hmade, -⟩ := inFlight_iff.mpr hflight
          have hloading : s.loading? a = some made.stage := by rw [loading?, hmade]; rfl
          exact ⟨made.stage, hi ▸ trial?_of_loading? hloading, .inl rfl⟩
        obtain rfl := h.alone hold hends
        obtain ⟨_, -, hat | ⟨hat, -⟩⟩ := he
        · cases hat
        · exact absurd rfl hat
    · exact (hbegins hb).2
  · rcases m.runs hv he with hold | hb <;> rcases m.runs hv hx with hold' | hb'
    · exact h.alone hold hold'
    · exact (hfree hb' hold).elim
    · exact (hfree hb hold').elim
    · exact hb.unique hb'

theorem Guarded.same (h : Guarded p s) (hruns : ∀ {i e}, Runs i p' s' e → Runs i p s e)
    (hheld : ∀ i, (s.cell i).lock.held → (s'.cell i).lock.held) : Guarded p' s' :=
  ⟨fun he => hheld _ (h.held (hruns he)), fun he hx => h.alone (hruns he) (hruns hx)⟩

theorem held_of_locks {cells : List Cell} (h : cells.map (·.lock) = s.cells.map (·.lock))
    (hs' : s'.cells = cells) (i : Nat) (hi : (s.cell i).lock.held) : (s'.cell i).lock.held := by
  rwa [lock_cell, hs', h, ← lock_cell]

theorem Runs.pick {event : Event} {ready : List Event}
    (h : Runs i (.picked event) { s with ready := ready } e) : Runs i .rest s e := by
  cases e with
  | job n => exact h
  | attempt a =>
    obtain ⟨stage, htrial, hat⟩ := h
    exact ⟨stage, htrial, by simpa [Point.attempt?] using hat⟩
  | relay | construction => cases h

theorem Runs.submit {request : Request} (h : Runs i .rest (s.submit request) e) :
    Runs i .rest s e := by
  cases e with
  | job n =>
    obtain ⟨hplace, hdeed⟩ := h
    rw [place_rest, stage?_submit] at hplace
    split at hplace
    · cases hplace
    · exact ⟨hplace, hdeed⟩
  | attempt a => exact h
  | relay | construction => cases h

theorem Visits.guarded (h : Visits .orderly (fresh settings world [] none) p s) : Guarded p s := by
  induction h with
  | start =>
    have hnone {i : Nat} {e : Event} : ¬Runs i .rest (fresh settings world [] none) e := by
      intro he
      cases e with
      | job n => exact he.1
      | attempt a =>
        obtain ⟨_, htrial, -⟩ := he
        cases htrial
      | relay | construction => exact he
    exact ⟨fun he => absurd he hnone, fun he => absurd he hnone⟩
  | move h m ih => exact ih.move m h
  | submit request _ _ ih => exact ih.same Runs.submit fun _ => id
  | pick _ _ _ ih => exact ih.same Runs.pick fun _ => id
  | change world cells _ locks _ ih => exact ih.same id (held_of_locks locks rfl)
  | close world cells _ locks _ _ ih => exact ih.same id (held_of_locks locks rfl)

end Chunkwise.Session
