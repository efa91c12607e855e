import Chunkwise.Proofs.Session.Renewal.Tidy
import Chunkwise.Proofs.Session.Searches

/-!
A session at rest: whatever was asked for has ended, well or badly. No attempt is under way then,
nobody searches for packages or waits to, and no interpreter is in use.
-/
namespace Chunkwise.Session
open Chunkwise.Execution

variable {rule : Rule} {settings : Settings} {world : World} {cells : List Cell}
variable {current : Option Nat} {s s' : Session} {p p' : Point} {n i a b : Nat}

def Stage.isOver : Stage → Bool
  | .ended _ => true
  | _ => false

/-- No job is under way: each has ended, well or badly. -/
def Finished (s : Session) : Prop :=
  ∀ job ∈ s.jobs, job.stage.isOver

instance (s : Session) : Decidable (Finished s) :=
  inferInstanceAs (Decidable (∀ job ∈ s.jobs, job.stage.isOver))

theorem Finished.ended (h : Finished s) {stage : Stage} (hn : s.stage? n = some stage) :
    ∃ result, stage = .ended result := by
  obtain ⟨job, hjob, rfl⟩ := Option.map_eq_some_iff.mp hn
  have hover := h job (List.mem_of_getElem? hjob)
  cases hstage : job.stage <;> simp_all [Stage.isOver]

/-! Attempts. -/

/-- An attempt that has not ended is under way already, or a job starts it and waits for it. -/
theorem Move.flying (m : Move (p, s) (p', s')) (hb : Bridged p s)
    (hn : ∀ n task, p = .job n task → s.stage? n ≠ none)
    (ha : s'.flights[a]? = some (b, false)) :
    s.flights[a]? = some (b, false) ∨
      ∃ n i, place n p' s' = .waiting (some (.awaitingBridge i a)) := by
  have paused {c : Nat} (hc : p.attempt? = some c) (stage : Loading) (hstage : stage.isOver = false)
      (hset : (s.setAttempt c stage).flights[a]? = some (b, false)) :
      s.flights[a]? = some (b, false) := by
    obtain ⟨_, hflying⟩ := hb.here hc
    rwa [flights_pause hflying hstage] at hset
  have landed {c : Nat} (hc : p.attempt? = some c) {fault : Option Fault}
      (hset : (s.setAttempt c (.ended fault)).flights[a]? = some (b, false)) :
      s.flights[a]? = some (b, false) := by
    obtain ⟨_, hflying⟩ := hb.here hc
    rw [flights_setAttempt hflying, List.getElem?_set] at hset
    grind
  cases m
  case loadLater hpaused => exact .inl (paused rfl _ (Loading.isOver_of_isPaused hpaused) ha)
  case queueAdapter source _ => exact .inl (paused rfl (.queuedToRun source) rfl ha)
  case adaptLater resume _ => exact .inl (paused rfl (.running resume) rfl ha)
  case stickAttempt => exact .inl (paused rfl .stuck rfl ha)
  case arrive | failAttempt | failAdapted => exact .inl (landed rfl ha)
  case watchAttempt => exact .inl ((flights_watchAttempt ..).symm ▸ ha)
  case newAttempt n i _ _ =>
    have hflights : ((s.newAttempt i).watchAttempt n i s.attempts.length).flights =
        s.flights ++ [(s.bridge, false)] := (flights_watchAttempt ..).trans List.map_append
    rw [hflights, List.getElem?_append] at ha
    split at ha
    · exact .inl ha
    next hge =>
      have hlength : s.flights.length = s.attempts.length := List.length_map _
      obtain rfl : a = s.attempts.length := by
        have := (List.getElem?_eq_some_iff.mp ha).1
        simp only [List.length_singleton] at this
        omega
      exact .inr ⟨n, i, place_setJob (hn n _ rfl) (.awaitingBridge i s.attempts.length)⟩
  all_goals exact .inl ha

/-- A job waits for each attempt that has not ended. -/
def Attended (p : Point) (s : Session) : Prop :=
  ∀ a b, s.flights[a]? = some (b, false) →
    ∃ n i, place n p s = .waiting (some (.awaitingBridge i a))

theorem Attended.move (h : Attended p s) (hb : Bridged p s) (m : Move (p, s) (p', s'))
    (hn : ∀ n task, p = .job n task → s.stage? n ≠ none) : Attended p' s' := by
  intro a b ha
  rcases m.flying hb hn ha with hold | hnew
  · obtain ⟨n, i, hplace⟩ := h a b hold
    by_cases hat : p.isAt n
    · rcases hat with rfl | ⟨task, rfl⟩
      · have hstage : s.stage? n = some (.awaitingBridge i a) := by simpa using hplace
        obtain ⟨made, hmade, -, hopen⟩ := inFlight_iff.mpr hold
        have hloading : s.loading? a = some made.stage := by rw [loading?, hmade]; rfl
        cases m
        case work busy _ _ => cases busy
        case idle => exact ⟨n, i, hplace⟩
        all_goals simp_all [Loading.isOver]
      · simp at hplace
    · exact ⟨n, i, (m.place_eq hat).trans hplace⟩
  · exact hnew

theorem Visits.attended (h : Visits rule (fresh settings world cells current) p s) :
    Attended p s := by
  induction h with
  | start => exact fun a b ha => by simp [fresh, flights] at ha
  | move h m ih =>
    exact ih.move (h.bridged (bridged_fresh ..)) m fun n task => h.stage?_ne_none
  | submit request _ _ ih =>
    intro a b ha
    obtain ⟨n, i, hplace⟩ := ih a b ha
    refine ⟨n, i, (place_submit request ?_).trans hplace⟩
    intro hnone
    simp [hnone] at hplace
  | pick _ _ _ ih | change _ _ _ _ _ ih | close _ _ _ _ _ _ ih => exact ih

/-! Searches. -/

/-- Who holds the lock of searches, and who waits for it. -/
structure Lined (p : Point) (s : Session) : Prop where
  held : s.resolving.held → ∃ n, Searching n p s
  nodup : s.resolving.waiting.Nodup
  waiting : ∀ event ∈ s.resolving.waiting,
    ∃ n i, event = .job n ∧ place n p s = .waiting (some (.queuedToResolve i))

/-- What a move does to those who wait to search. -/
theorem Move.resolving_waiting (m : Move (p, s) (p', s'))
    (hn : ∀ n task, p = .job n task → s.stage? n ≠ none) :
    s'.resolving.waiting = s.resolving.waiting ∨
      (∃ n i, p = .job n (.resolve i) ∧ place n p' s' = .waiting (some (.queuedToResolve i)) ∧
        s'.resolving.waiting = s.resolving.waiting ++ [.job n]) ∨
      ∃ n, p = .picked (.job n) ∧
        s'.resolving.waiting = s.resolving.waiting.erase (.job n) := by
  cases m
  case queueSearch n i _ _ =>
    exact .inr (.inl ⟨n, i, rfl, place_setJob (hn n _ rfl) (.queuedToResolve i), rfl⟩)
  case searchNext n i _ _ => exact .inr (.inr ⟨n, rfl, rfl⟩)
  all_goals exact .inl rfl

/-- Who waits to search goes on waiting until it takes the lock. -/
theorem Move.queued (m : Move (p, s) (p', s'))
    (h : place n p s = .waiting (some (.queuedToResolve i))) :
    place n p' s' = .waiting (some (.queuedToResolve i)) ∨
      s'.resolving.waiting = s.resolving.waiting.erase (.job n) := by
  by_cases hat : p.isAt n
  · rcases hat with rfl | ⟨task, rfl⟩
    · have hstage : s.stage? n = some (.queuedToResolve i) := by simpa using h
      cases m
      case work busy _ _ => cases busy
      case idle => exact .inl h
      case searchNext => exact .inr rfl
      all_goals simp_all
    · simp at h
  · exact .inl ((m.place_eq hat).trans h)

theorem Lined.move (h : Lined p s) (m : Move (p, s) (p', s'))
    (hn : ∀ n task, p = .job n task → s.stage? n ≠ none) : Lined p' s' := by
  have hheld (hheld : s'.resolving.held) : ∃ n, Searching n p' s' := by
    cases m.hunt hn with
    | stay held same =>
      obtain ⟨n, hsearching⟩ := h.held (held ▸ hheld)
      exact ⟨n, (same n).mpr hsearching⟩
    | @start n _ _ here => exact ⟨n, here⟩
    | @stop n here ended _ deeds =>
      cases m.occasion deeds
      case strive hdeed => cases hdeed
      case searched =>
        cases m
        case work => simp at deeds
        all_goals cases hheld
  have hold {n i : Nat} (hplace : place n p s = .waiting (some (.queuedToResolve i)))
      (hstays : .job n ∈ s'.resolving.waiting) :
      place n p' s' = .waiting (some (.queuedToResolve i)) := by
    refine (m.queued hplace).resolve_right fun herased => ?_
    rw [herased] at hstays
    exact h.nodup.not_mem_erase hstays
  rcases m.resolving_waiting hn with hsame | ⟨n, i, rfl, hplace, hadded⟩ | ⟨n, rfl, herased⟩
  · refine ⟨hheld, hsame ▸ h.nodup, fun event hevent => ?_⟩
    obtain ⟨n, i, rfl, hplace⟩ := h.waiting event (hsame ▸ hevent)
    exact ⟨n, i, rfl, hold hplace hevent⟩
  · have hnew : .job n ∉ s.resolving.waiting := by
      intro hmem
      obtain ⟨_, _, hjob, hplace⟩ := h.waiting _ hmem
      cases hjob
      simp at hplace
    refine ⟨hheld, ?_, fun event hevent => ?_⟩
    · rw [hadded]
      refine List.nodup_append.mpr ⟨h.nodup, by simp, fun a ha b hb => ?_⟩
      rintro rfl
      exact hnew (List.mem_singleton.mp hb ▸ ha)
    · have hmem := hevent
      rw [hadded, List.mem_append, List.mem_singleton] at hmem
      rcases hmem with hmem | rfl
      · obtain ⟨m, j, rfl, hplace⟩ := h.waiting event hmem
        exact ⟨m, j, rfl, hold hplace hevent⟩
      · exact ⟨n, i, rfl, hplace⟩
  · refine ⟨hheld, herased ▸ h.nodup.erase _, fun event hevent => ?_⟩
    obtain ⟨m, j, rfl, hplace⟩ := h.waiting event (List.mem_of_mem_erase (herased ▸ hevent))
    exact ⟨m, j, rfl, hold hplace hevent⟩

theorem Visits.lined (h : Visits rule (fresh settings world cells current) p s) : Lined p s := by
  induction h with
  | start => exact ⟨by simp [fresh], by simp [fresh], by simp [fresh]⟩
  | move h m ih => exact ih.move m fun n task => h.stage?_ne_none
  | submit request _ _ ih =>
    refine ⟨fun hheld => ?_, ih.nodup, fun event hevent => ?_⟩
    · obtain ⟨n, hn⟩ := ih.held hheld
      exact ⟨n, by simpa only [Searching, rank_submit] using hn⟩
    · obtain ⟨n, i, hjob, hplace⟩ := ih.waiting event hevent
      refine ⟨n, i, hjob, (place_submit request ?_).trans hplace⟩
      intro hnone
      simp [hnone] at hplace
  | pick _ _ _ ih | change _ _ _ _ _ ih | close _ _ _ _ _ _ ih =>
    exact ⟨ih.held, ih.nodup, ih.waiting⟩

theorem Visits.resolving_eq (h : Visits rule (fresh settings world cells current) .rest s)
    (hs : s.Finished) : s.resolving = {} := by
  have hheld : s.resolving.held = false := by
    by_contra hheld
    obtain ⟨n, hlow, hhigh⟩ := h.lined.held (by simpa using hheld)
    simp only [place_rest] at hlow hhigh
    rcases hstage : s.stage? n with _ | stage
    · simp [hstage, Place.rank] at hlow
    · obtain ⟨result, rfl⟩ := hs.ended hstage
      simp [hstage, Place.rank, Stage.rank] at hhigh
  have hwaiting : s.resolving.waiting = [] := by
    refine List.eq_nil_iff_forall_not_mem.mpr fun event hevent => ?_
    obtain ⟨n, i, -, hplace⟩ := h.lined.waiting event hevent
    obtain ⟨result, hended⟩ := hs.ended (n := n) (by simpa using hplace)
    cases hended
  calc s.resolving = ⟨s.resolving.held, s.resolving.waiting⟩ := rfl
    _ = {} := by rw [hheld, hwaiting]

theorem Visits.not_occupied (h : Visits rule (fresh settings world cells current) .rest s)
    (hs : s.Finished) (i : Nat) : ¬Occupied i s := by
  rintro (⟨n, stage, hstage, hruns, -⟩ | ⟨a, made, hmade, -, hruns⟩)
  · obtain ⟨result, rfl⟩ := hs.ended hstage
    exact hruns
  · have hopen : made.stage.isOver = false := by
      cases hstage : made.stage <;> simp_all [Loading.runs, Loading.isOver]
    obtain ⟨n, i, hplace⟩ := h.attended a made.bridge (inFlight_iff.mp ⟨made, hmade, rfl, hopen⟩)
    obtain ⟨result, hended⟩ := hs.ended (n := n) (by simpa using hplace)
    cases hended

/-- No interpreter is in use when all that was asked for has ended. -/
theorem Reaches.calmAt (h : Reaches rule (fresh settings world [] none) s) (hs : s.Finished)
    (i : Nat) : CalmAt i s := by
  have htidy : Tidy s := h.tidy ⟨fun i _ => .inr (by simp [CalmAt, fresh]), by simp [fresh, stage?],
    by simp [fresh, loading?]⟩
  exact (htidy.calm i (by simp)).resolve_left ((visits_of_reaches h).not_occupied hs i)

end Chunkwise.Session
