import Chunkwise.Proofs.Session.Renewal.Close

/-!
Requests in a series, each taken when the one before has ended. What has ended stays as it is, so
the session is at rest between two requests and can be closed.
-/
namespace Chunkwise.Session

variable {settings : Settings} {world : World} {s s' : Session} {p p' : Point} {n : Nat}

/-- What a session was asked for, in order. -/
def requests (s : Session) : List Request :=
  s.jobs.map (·.request)

theorem getElem?_requests (n : Nat) (s : Session) : s.requests[n]? = s.request? n :=
  List.getElem?_map

theorem Move.requests_eq (m : Move (p, s) (p', s')) : s'.requests = s.requests :=
  List.ext_getElem? fun n => by simp only [getElem?_requests, m.request?_eq]

/-- A job that has ended is left alone. -/
theorem Move.place_ended (m : Move (p, s) (p', s')) {result : Except Fault Value}
    (h : place n p s = .waiting (some (.ended result))) :
    place n p' s' = .waiting (some (.ended result)) := by
  by_cases hat : p.isAt n
  · rcases hat with rfl | ⟨task, rfl⟩
    · cases m
      case work busy _ _ => cases busy
      all_goals simp_all
    · simp at h
  · exact (m.place_eq hat).trans h

/-- What stopped everything is a fault that may do so. -/
def HaltsFatally (s : Session) : Prop :=
  ∀ fault, s.halted = some fault → isFatal fault

theorem HaltsFatally.haltOn (h : HaltsFatally s) (fault : Option Fault) :
    HaltsFatally (s.haltOn fault) := by
  intro f hf
  rcases hs : s.halted with _ | old
  · simp only [Session.haltOn, hs, Option.none_or, Option.filter_eq_some_iff] at hf
    exact hf.2
  · simp only [Session.haltOn, hs, Option.some_or] at hf
    exact h f (hs.trans hf)

theorem HaltsFatally.move (h : HaltsFatally s) (m : Move (p, s) (p', s')) : HaltsFatally s' := by
  cases m
  case failConstruction | construct | arrive | failAttempt | failAdapted =>
    exact HaltsFatally.haltOn (by exact h) _
  all_goals exact h

/-! Rest. -/

/-- Between two requests nothing is under way, unless a fault has stopped everything. -/
structure Between (settings : Settings) (world : World) (s : Session) : Prop where
  reached : Reaches .anything (fresh settings world [] none) s
  finished : Finished s
  fatal : HaltsFatally s

theorem between_fresh (settings : Settings) (world : World) :
    Between settings world (fresh settings world [] none) :=
  ⟨.refl, by simp [Finished, fresh], by simp [HaltsFatally, fresh]⟩

/-- The world outside may change meanwhile. -/
theorem Between.outside (h : Between settings world s) (w : World) :
    Between settings world { s with world := w } :=
  ⟨h.reached.step (.outside w) trivial, h.finished, h.fatal⟩

/-- What every event keeps is kept by all that comes of the ready events. -/
theorem settle_induction {P : Session → Prop}
    (hP : ∀ event ready s, P s → P ({ s with ready := ready }.fire event)) (n : Nat) (h : P s) :
    P (s.settle n) := by
  induction n generalizing s with
  | zero => exact h
  | succ n ih =>
    unfold settle
    split
    · exact h
    next s' hs =>
      refine ih ?_
      unfold advance at hs
      split at hs
      next event rest _ _ =>
        obtain rfl := Option.some.inj hs
        exact hP event rest s h
      next => contradiction

/-- What every move keeps is kept by all that comes of the ready events. -/
theorem settle_move {P : Point → Session → Prop}
    (hmove : ∀ {p s p' s'}, Move (p, s) (p', s') → P p s → P p' s')
    (hpick : ∀ {s} event ready, P .rest s → P (.picked event) { s with ready := ready }) (n : Nat)
    (h : P .rest s) : P .rest (s.settle n) := by
  refine settle_induction (P := P .rest) (fun event ready s h => ?_) n h
  suffices ∀ x, Moves (.picked event, { s with ready := ready }) x → P x.1 x.2 from
    this _ (moves_fire event _)
  intro x moves
  induction moves with
  | refl => exact hpick event ready h
  | tail _ m ih => exact hmove m ih

theorem requests_serve (request : Request) (s : Session) :
    (s.serve request).2.requests = s.requests ++ [request] :=
  settle_move (P := fun _ x => x.requests = s.requests ++ [request])
    (fun m h => m.requests_eq.trans h) (fun _ _ h => h) patience (by simp [requests, submit, wake])

theorem HaltsFatally.serve (h : HaltsFatally s) (request : Request) :
    HaltsFatally (s.serve request).2 :=
  settle_move (P := fun _ => HaltsFatally) (fun m h => h.move m) (fun _ _ h => h) patience h

/-- What has ended before a request is taken has ended when that has been waited for. -/
theorem stage?_serve {result : Except Fault Value} (h : s.stage? n = some (.ended result))
    (request : Request) : (s.serve request).2.stage? n = some (.ended result) := by
  have hsubmitted : place n .rest (s.submit request) = .waiting (some (.ended result)) := by
    rw [place_submit request (by simp [h]), place_rest, h]
  have hserved := settle_move (P := fun p x => place n p x = .waiting (some (.ended result)))
    (fun m h => m.place_ended h) (fun _ _ h => h) patience hsubmitted
  exact Place.waiting.inj hserved

/-- All has ended when the request that came last has. -/
theorem Finished.serve (h : Finished s) {request : Request} {result : Except Fault Value}
    (hr : (s.serve request).2.result? s.jobs.length = some result) :
    Finished (s.serve request).2 := by
  intro job hjob
  obtain ⟨n, hn⟩ := List.getElem?_of_mem hjob
  have hlength : (s.serve request).2.jobs.length = s.jobs.length + 1 := by
    simpa [requests] using congrArg List.length (requests_serve request s)
  have hstage : (s.serve request).2.stage? n = some job.stage := by simp [stage?, hn]
  by_cases hlast : n = s.jobs.length
  · subst hlast
    unfold result? at hr
    rw [hstage] at hr
    split at hr
    next heq =>
      rw [Option.some.inj heq]
      rfl
    next => contradiction
  · have hold : n < s.jobs.length := by
      have := (List.getElem?_eq_some_iff.1 hn).1
      omega
    obtain ⟨old, hgot⟩ : ∃ old, s.jobs[n]? = some old := ⟨_, List.getElem?_eq_getElem hold⟩
    have hbefore : s.stage? n = some old.stage := by simp [stage?, hgot]
    obtain ⟨earlier, hended⟩ := h.ended hbefore
    have := stage?_serve (hbefore.trans (congrArg some hended)) request
    rw [hstage] at this
    rw [Option.some.inj this]
    rfl

/-! Accounts. -/

/-- A fault that stops everything is none to account for. -/
theorem account_of_isFatal {fault : Fault} (h : isFatal fault) :
    fault.kind.isA .evaluatorError = false ∧ fault.kind.isOrdinary = false := by
  unfold isFatal at h
  revert h
  cases fault.kind <;> decide

/-- The text of a fault of the evaluator's own is its message. -/
theorem text_of_message {fault : Fault} {message : String} (hargs : fault.args = [.str message])
    (hkind : fault.kind.isA .evaluatorError) : fault.text = .ok message := by
  obtain ⟨kind, args, detail, members, trace, notes, cause⟩ := fault
  have hplain : ∀ kind : Fault.Kind, kind.isA .evaluatorError →
      ∀ other ∈ [Fault.Kind.syntaxError, .osError, .unicodeEncodeError, .unicodeDecodeError,
        .unicodeTranslateError, .baseExceptionGroup, .keyError], kind.isA other = false := by
    intro kind
    cases kind <;> decide
  subst hargs
  have := hplain kind hkind
  simp only [List.forall_mem_cons] at this
  simp only [Fault.text, Datum.withTexts, Fault.Parts.text, this, Datum.text]
  rfl

theorem account_of_message {fault : Fault} {message : String} (hargs : fault.args = [.str message])
    (hkind : fault.kind.isA .evaluatorError) :
    account (.error fault) = .ok {
      status := "error", message := .str message
      mark := match fault.detail with
        | some (.execution mark) => mark
        | _ => none } := by
  simp only [account, if_pos hkind, text_of_message hargs hkind]
  rfl

/-- Whatever a chunk has raised is accounted for. -/
theorem account_executionFailure (message : String) (inner : Fault) (mark : Option Report.Mark) :
    account (.error (.executionFailure message inner mark)) =
      .ok { status := "error", message := .str message, mark := mark } :=
  account_of_message rfl rfl

/-! One request after another. -/

theorem Between.serve (h : Between settings world s) {request : Request}
    {result : Except Fault Value} (hr : (s.serve request).1 = some result)
    (hf : ∀ fault, result = .error fault → isFatal fault = false) :
    Between settings world (s.serve request).2 := by
  have hfatal := h.fatal.serve request
  refine ⟨reaches_serve h.reached trivial fun _ _ => trivial, ?_, hfatal⟩
  rcases hresult : (s.serve request).2.result? s.jobs.length with _ | r
  · have houtcome : (s.serve request).2.halted.map .error = some result := by
      rw [← hr]
      simp only [Session.serve, outcome?] at hresult ⊢
      rw [hresult, Option.none_or]
    obtain ⟨fault, hhalted, rfl⟩ := Option.map_eq_some_iff.1 houtcome
    have := hf fault rfl
    simp [hfatal fault hhalted] at this
  · exact h.finished.serve hresult

/-- To close the session between two requests is never refused, and nothing is written. -/
theorem Between.close (h : Between settings world s) :
    s.close.1 = none ∧ s.close.2.world.written = s.world.written ∧
      s.close.2.world.journal = s.world.journal ∧ s.close.2.current = none ∧
      s.close.2.construction = none ∧ s.close.2.crossing = {} := by
  obtain ⟨w, cells, -, hwritten, hjournal, -, hclose⟩ :=
    close_of_calm (h.reached.calmAt h.finished)
  rw [hclose]
  exact ⟨rfl, hwritten, hjournal, rfl, rfl, by simp [crossing]⟩

end Chunkwise.Session
