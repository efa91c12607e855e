import Chunkwise.Proofs.Fault.Ordinary
import Chunkwise.Proofs.Session.Causes
import Chunkwise.Proofs.Session.Renewal.Series
import Chunkwise.Proofs.Session.Setbacks
import Chunkwise.Proofs.Session.Tracebacks

/-!
What callers of an evaluation can meet. Most faults are told of in other words; those that are not
have come out of a few places, as they were raised there.
-/
namespace Chunkwise.Session
open Chunkwise.Execution Chunkwise.Bridge

variable {rule : Rule} {settings : Settings} {world : World} {s s' : Session} {n i a : Nat}
  {fault raw : Fault}

/-! The classes of faults. -/

/-- Callers of an evaluation are told of faults of this class. -/
def isDeclared (fault : Fault) : Bool :=
  match fault.kind with
  | .resolutionFailure | .bridgeUnavailable | .bridgeLoadFailure | .executionFailure => true
  | _ => false

theorem isOrdinary_of_isDeclared (h : isDeclared fault) : fault.kind.isOrdinary := by
  unfold isDeclared at h
  revert h
  cases fault.kind <;> decide

/-- A fault can come out of a step of an attempt as it was raised there, though it is of no class
that callers are told of. -/
def Deed.Leaks (settings : Settings) (fault : Fault) : Deed → Prop
  | .choose _ _ => Datum.joinTexts 0 settings.scriptUrls = .error fault
  | .load _ _ | .loadAll _ _ => fault.kind = .bridgeError
  | .seek _ _ => (settings.get .heavyDependency).hashed = .error fault
  | .bind _ field => (settings.get field).hashed = .error fault
  | .fetch _ => fault.kind.isA .httpError = false ∧
      ∀ url status, fault.detail ≠ some (.fetch url status)
  | .adapt _ => ∃ raw scene, Adapting settings (.done (.error raw) scene) ∧ raw.text = .error fault
  | _ => False

/-- So it can when the code of a chunk has ended: its value has no text, the host refuses that text,
or there is no report on what the code has raised. -/
inductive Slips (file : Datum) (source : String) (w : World) (fault : Fault) :
    Except Fault Value → Prop
  | value {v : Value} (unshown : w.store.render v = .error fault) :
      Slips file source w fault (.ok v)
  | sink {v : Value} {text : String} (shown : w.store.render v = .ok text)
      (refused : (w.send text).1 = some fault) : Slips file source w fault (.ok v)
  | report {raw : Fault} (untold : Report.describe file raw source = .error fault) :
      Slips file source w fault (.error raw)

theorem loadFault_cases (message : String) (raw : Fault) :
    isDeclared (loadFault message raw) ∨ (loadFault message raw).kind.isOrdinary = false ∨
      (loadFault message raw).kind = .bridgeError := by
  unfold loadFault
  split
  next h =>
    rcases h with h | h
    · unfold isDeclared
      revert h
      cases raw.kind <;> decide
    · exact .inr (.inl (by simpa using h))
  · exact .inl rfl

theorem installFault_cases (missing : List String) (raw : Fault) :
    isDeclared (Packages.installFault missing raw) ∨
      (Packages.installFault missing raw).kind.isOrdinary = false := by
  unfold Packages.installFault
  split
  next h =>
    rcases h with h | h
    · unfold isDeclared
      revert h
      cases raw.kind <;> decide
    · exact .inr (by simpa using h)
  · exact .inl rfl

theorem fetchFault_cases (url : Datum) (raw : Fault) :
    isDeclared (fetchFault url raw) ∨ (fetchFault url raw).kind.isA .httpError = false ∧
      ∀ url' status, (fetchFault url raw).detail ≠ some (.fetch url' status) := by
  unfold fetchFault
  dsimp only
  split
  · exact .inl rfl
  next hdetail =>
    split
    · exact .inl rfl
    next hkind => exact .inr ⟨by simpa using hkind, hdetail⟩

/-- The fault of an adapter source is told of in other words, unless it has no text or is one to
stop the program other than `SystemExit`. -/
theorem adapterFault_cases (raw : Fault) :
    (∃ text, raw.text = .ok text ∧ adapterFault raw =
        (Fault.bridgeLoadFailure s!"Adapter source failed: {raw.kind.name}: {text}" none).causedBy
          raw) ∨
      raw.text = .error (adapterFault raw) ∨
      adapterFault raw = raw ∧ raw.kind.isOrdinary = false ∧ raw.kind.isA .systemExit = false := by
  unfold adapterFault
  split
  · split
    next text htext => exact .inl ⟨text, htext, rfl⟩
    next e htext => exact .inr (.inl htext)
  next h =>
    simp only [Bool.or_eq_true, not_or, Bool.not_eq_true] at h
    exact .inr (.inr ⟨rfl, h⟩)

/-- So is the fault of a chunk's code, unless there is no report on it. -/
theorem executionFault_cases (file : Datum) (source : String) (raw : Fault) :
    (∃ message mark, executionFault file source raw = .executionFailure message raw mark) ∨
      Report.describe file raw source = .error (executionFault file source raw) ∨
      executionFault file source raw = raw ∧ raw.kind.isOrdinary = false ∧
        raw.kind.isA .systemExit = false := by
  unfold executionFault
  split
  · split
    next message mark _ => exact .inl ⟨message, mark, rfl⟩
    next e herror => exact .inr (.inl herror)
  next h =>
    simp only [Bool.or_eq_true, not_or, Bool.not_eq_true] at h
    exact .inr (.inr ⟨rfl, h⟩)

theorem Deed.Raises.cases {step : Deed} (h : step.Raises settings fault) :
    isDeclared fault ∨ fault.kind.isOrdinary = false ∨ step.Leaks settings fault := by
  cases step with
  | choose =>
    rcases h with rfl | h
    · exact .inl rfl
    · exact .inr (.inr h)
  | load | loadAll =>
    obtain ⟨message, raw, rfl⟩ := h
    exact loadFault_cases message raw
  | seek =>
    rcases h with ⟨message, rfl⟩ | h
    · exact .inl rfl
    · exact .inr (.inr h)
  | bind => exact .inr (.inr h)
  | wrap =>
    obtain rfl : fault = noTensor := h
    exact .inl rfl
  | fetch =>
    obtain ⟨raw, rfl⟩ := h
    exact (fetchFault_cases _ raw).imp_right .inr
  | adapt =>
    obtain ⟨raw, scene, hrun, hraw⟩ := h
    rcases adapterFault_cases raw with ⟨text, -, h⟩ | h | ⟨h, hordinary, -⟩
    · exact .inl (by rw [hraw, h]; rfl)
    · exact .inr (.inr ⟨raw, scene, hrun, hraw ▸ h⟩)
    · exact .inr (.inl (by rw [hraw, h, hordinary]))
  | _ => exact h.elim

/-- A host refuses a text with one fault only. -/
theorem sinkClosed_of_send {text : String} {w : World} (h : (w.send text).1 = some fault) :
    fault = Output.sinkClosed := by
  have htake : (w.host.audience.take text).1 = some fault := by
    unfold World.send at h
    split at h
    next htake => rw [htake, ← h]
    next => cases h
  unfold World.Audience.take Output.Receiver.take at htake
  grind

theorem sinkClosed_of_flush {scene scene' : Scene} (h : scene.flush = (some fault, scene')) :
    fault = Output.sinkClosed := by
  unfold Scene.flush at h
  split at h
  · cases h
  next pending _ =>
    unfold Output.flush at h
    by_cases hpending : pending = []
    · rw [if_pos hpending] at h
      cases h
    · rw [if_neg hpending] at h
      rcases hsent : World.send (String.ofList pending) (scene.world.mark .flushed)
        with ⟨refusal, w⟩
      rw [hsent] at h
      cases h
      exact sinkClosed_of_send (congrArg Prod.fst hsent)

/-- A probe fails with a fault to stop the program, or because the host refuses what was written. -/
theorem probe_cases {root : String} {scene : Scene}
    (h : (Execution.probe root scene).1 = .error fault) :
    fault.kind.isOrdinary = false ∨ fault = Output.sinkClosed := by
  unfold Execution.probe at h
  generalize hprobed : (scene.opens (.probe root)).probeModule root = probed at h
  obtain ⟨result, scene₁⟩ := probed
  dsimp only at h
  split at h
  · dsimp only at h
    subst h
    unfold Scene.probeModule at hprobed
    split at hprobed
    · cases hprobed
    · split at hprobed
      · cases hprobed
      next raw _ _ =>
        obtain ⟨hraw, -⟩ := Prod.mk.inj hprobed
        split at hraw
        · cases hraw
        next hordinary =>
          cases hraw
          exact .inl (by simpa using hordinary)
  next hflush =>
    cases h
    exact .inr (sinkClosed_of_flush hflush)

theorem slips_of_forwardValue {file : Datum} {source : String} {v : Value} {w w' : World}
    (h : forwardValue v w = (some fault, w')) : Slips file source w fault (.ok v) := by
  unfold forwardValue at h
  split at h
  · cases h
  · split at h
    next hshown =>
      cases h
      exact .value hshown
    next hshown => exact .sink hshown (congrArg Prod.fst h)

/-- What comes of a chunk whose code has ended. -/
theorem concluded_cases {file : Datum} {source : String} {ran : Except Fault Value} {w : World}
    (h : (concluded file source ran w).1 = .error fault) :
    isDeclared fault ∨ fault.kind.isOrdinary = false ∧ fault.kind.isA .systemExit = false ∨
      Slips file source w fault ran := by
  cases ran with
  | error raw =>
    obtain rfl : executionFault file source raw = fault := Except.error.inj h
    rcases executionFault_cases file source raw with ⟨message, mark, h⟩ | h | ⟨h, hkind⟩
    · exact .inl (by rw [h]; rfl)
    · exact .inr (.inr (.report h))
    · exact .inr (.inl (by rwa [h]))
  | ok v =>
    unfold concluded at h
    dsimp only at h
    split at h
    · cases h
    next refusal w' hforward =>
      cases h
      exact .inr (.inr (slips_of_forwardValue hforward))

/-- A job whose code has begun ends with what its code has ended with, in the words of a result. -/
theorem Reaches.concluded (h : Reaches rule (fresh settings world [] none) s)
    (hrun : .run n i ∈ s.deeds) {result : Except Fault Value}
    (hresult : s.result? n = some result) :
    ∃ t before ran u, Visits rule (fresh settings world [] none) (.job n (.follow i)) t ∧
      t.deeds = before ++ [.run n i] ∧ (chunkRun n i t).Ends ran u ∧
      result = (concluded (settings.get .filename) (t.scanOf n).source ran u.world).1 := by
  obtain ⟨t, before, stage, hv, hdeeds, -, hstage, he⟩ := h.executed hrun
  have hfile : t.file = settings.get .filename := by
    simp only [Session.file, hv.later.settings]
    rfl
  rw [hfile] at he
  unfold result? at hresult
  rw [hstage] at hresult
  cases he with
  | waits | stuck => cases hresult
  | ended hends => exact ⟨t, before, _, _, hv, hdeeds, hends, (Option.some.inj hresult).symm⟩

/-- A fault has left an evaluation as it was raised: by the construction or the attempt that the
evaluation has waited for, by a probe or by its code. -/
inductive Escaped (rule : Rule) (settings : Settings) (world : World) (s : Session) (n : Nat)
    (fault : Fault) : Prop
  | construction {c : Nat} (waited : .awaitConstruction n c ∈ s.deeds)
      (ended : s.making? c = some (.ended (.error fault)))
  | attempt {a : Nat} {record : List Deed} {last : Deed} (waited : .awaitAttempt n a ∈ s.deeds)
      (ended : s.loading? a = some (.ended (some fault)))
      (shows : s.strides a = record ++ [last, .settled a false]) (leaks : last.Leaks settings fault)
  | probe {root : String} (failed : .probe n root none ∈ s.deeds)
      (refused : fault = Output.sinkClosed)
  | code {i : Nat} {u : Scene} {begun : Session} {ran : Except Fault Value}
      (visited : Visits rule (fresh settings world [] none) (.job n (.follow i)) begun)
      (began : ∃ before, begun.deeds = before ++ [.run n i])
      (ends : (chunkRun n i begun).Ends ran u)
      (slips : Slips (settings.get .filename) (begun.scanOf n).source u.world fault ran)

/-- An evaluation fails with a fault of a class that callers are told of, or with one to stop the
program, or with one that has left it as it was raised. An install lets no such fault through, and a
probe only that of the host. It is so however evaluations come, and whatever else happens. -/
theorem failures_declared (settings : Settings) (world : World) {rule : Rule} {s : Session}
    {n : Nat} {fault : Fault} (h : Reaches rule (fresh settings world [] none) s)
    (hresult : s.result? n = some (.error fault)) :
    isDeclared fault ∨ fault.kind.isOrdinary = false ∨
      Escaped rule settings world s n fault := by
  cases h.failedBy hresult with
  | construction waited ended => exact .inr (.inr (.construction waited ended))
  | @attempt a waited ended =>
    obtain ⟨record, last, hrecord, hlast⟩ := explained_of_reaches h a _ ended
    rcases hlast.cases with h | h | h
    · exact .inl h
    · exact .inr (.inl h)
    · exact .inr (.inr (.attempt waited ended hrecord h))
  | probe failed raised =>
    rcases probe_cases raised with h | h
    · exact .inr (.inl h)
    · exact .inr (.inr (.probe failed h))
  | install refused told =>
    subst told
    exact (installFault_cases _ _).imp_right .inl
  | code begun =>
    obtain ⟨t, before, ran, u, hv, hdeeds, hends, hconcluded⟩ := h.concluded begun hresult
    rcases concluded_cases hconcluded.symm with h | ⟨h, -⟩ | h
    · exact .inl h
    · exact .inr (.inl h)
    · exact .inr (.inr (.code hv ⟨before, hdeeds⟩ hends h))

/-- A world whose host refuses the text of one value. -/
def refusing : World :=
  { host := { audience := .receiver { refused := ["1"] } } }

/-- The value of the only chunk of a session is refused. -/
theorem failures_declared_of_refusal :
    ∃ s fault, Reaches .anything (fresh default refusing [] none) s ∧
      s.result? 0 = some (.error fault) ∧ fault.kind = .osError ∧
      (isDeclared fault ∨ fault.kind.isOrdinary = false ∨
        Escaped .anything default refusing s 0 fault) := by
  let s := ((fresh default refusing [] none).serve (.evaluate "1")).2
  have hs : Reaches .anything (fresh default refusing [] none) s :=
    reaches_serve .refl trivial fun _ _ => trivial
  have hshown : (failure? (s.result? 0)).map (·.kind) = some .osError := by decide +kernel
  obtain ⟨fault, hfault, hkind⟩ := Option.map_eq_some_iff.mp hshown
  have hresult := failure?_eq_some.mp hfault
  exact ⟨s, fault, hs, hresult, hkind, failures_declared default refusing hs hresult⟩

/-- A session with an interpreter, whose host refuses the text of one value. -/
def withRefusal : Session :=
  ((fresh default refusing [] none).serve (.evaluate "")).2

theorem quiet_withRefusal : Quiet withRefusal :=
  (serves_serve (by decide +kernel)).quiet (quiet_fresh default (by decide +kernel))
    (by decide +kernel) (by decide +kernel)

/-- The fault of a host that refuses a value leaves an evaluation as it was raised. -/
theorem undeclared_of_refusal :
    ¬∀ (s : Session) (chunk : String) (fault : Fault), Quiet s → s.current.isSome →
      (s.serve (.evaluate chunk)).1 = some (.error fault) → fault.kind.isOrdinary →
        isDeclared fault := by
  intro h
  have hkind : (failure? (withRefusal.serve (.evaluate "1")).1).map (·.kind) = some .osError := by
    decide +kernel
  obtain ⟨fault, hfailure, hraised⟩ := Option.map_eq_some_iff.mp hkind
  have hdeclared := h withRefusal "1" fault quiet_withRefusal (by decide +kernel)
    (failure?_eq_some.mp hfailure) (by rw [hraised]; rfl)
  rw [isDeclared, hraised] at hdeclared
  cases hdeclared

/-! Faults to stop the program. -/

theorem no_exit_of_isOrdinary {kind : Fault.Kind} (h : kind.isOrdinary) :
    kind.isA .systemExit = false := by
  revert h
  cases kind <;> decide

/-- An account fails with `SystemExit` only for an evaluation that has failed so. -/
theorem exit_of_account {result : Except Fault Value} (h : account result = .error fault)
    (hexit : fault.kind.isA .systemExit) : result = .error fault := by
  cases result with
  | ok => cases h
  | error raw =>
    -- a fault whose text cannot be had is told of with an ordinary one
    have htold {f : String → Report.Summary} : raw.text.map f ≠ .error fault := by
      intro hf
      simp [no_exit_of_isOrdinary ((Fault.ordinary_text raw).map f fault hf)] at hexit
    unfold account at h
    dsimp only at h
    split at h
    · exact absurd h htold
    · split at h
      · exact absurd h htold
      · rw [Except.error.inj h]

/-- `SystemExit` that a chunk's code has raised is accounted for. -/
theorem account_concluded_exit {file : Datum} {source : String} {w : World}
    (hraw : raw.kind.isA .systemExit) : ∃ message mark,
      account (concluded file source (.error raw) w).1 =
        .ok { status := "error", message := .str message, mark := mark } := by
  have hreadable : raw.kind.isA .syntaxError = false := by
    revert hraw
    cases raw.kind <;> decide
  obtain ⟨message, mark, hreport⟩ := Report.describe_isOk hreadable file source
  refine ⟨message, mark, ?_⟩
  have hfault : executionFault file source raw = .executionFailure message raw mark := by
    rw [executionFault, if_pos (by simp [hraw]), hreport]
  change account (.error (executionFault file source raw)) = _
  rw [hfault, account_executionFailure]

theorem Slips.isOrdinary {file : Datum} {source : String} {w : World} {ran : Except Fault Value}
    (h : Slips file source w fault ran) : fault.kind.isOrdinary := by
  cases h with
  | value unshown => exact Store.ordinary_render _ _ fault unshown
  | sink shown refused =>
    rw [sinkClosed_of_send refused]
    rfl
  | report untold => exact Report.ordinary_describe _ _ _ fault untold

/-- No chunk's code makes an evaluation fail with `SystemExit`. -/
theorem concluded_no_exit {file : Datum} {source : String} {ran : Except Fault Value} {w : World}
    (h : (concluded file source ran w).1 = .error fault) : fault.kind.isA .systemExit = false := by
  rcases concluded_cases h with hown | ⟨-, hkind⟩ | hslips
  · exact no_exit_of_isOrdinary (isOrdinary_of_isDeclared hown)
  · exact hkind
  · exact no_exit_of_isOrdinary hslips.isOrdinary

/-- How an adapter source that raises `SystemExit` is told of. -/
theorem account_adapterFault_exit (hraw : raw.kind.isA .systemExit) :
    (∃ text, raw.text = .ok text ∧ account (.error (adapterFault raw)) =
        .ok { status := "error"
              message := .str s!"Adapter source failed: {raw.kind.name}: {text}" }) ∨
      raw.text = .error (adapterFault raw) := by
  rcases adapterFault_cases raw with ⟨text, htext, h⟩ | h | ⟨-, -, h⟩
  · refine .inl ⟨text, htext, ?_⟩
    rw [h]
    exact account_of_message rfl rfl
  · exact .inr h
  · simp [hraw] at h

/-- No adapter source makes an attempt fail with `SystemExit`. -/
theorem adapterFault_no_exit (raw : Fault) : (adapterFault raw).kind.isA .systemExit = false := by
  rcases adapterFault_cases raw with ⟨text, -, h⟩ | h | ⟨h, -, hkind⟩
  · rw [h]
    rfl
  · exact no_exit_of_isOrdinary (Fault.ordinary_text raw _ h)
  · rw [h, hkind]

/-- An evaluation taken alone that is accounted for has left nothing under way. -/
theorem Serves.quiet_of_account {chunk : String} {result : Except Fault Value}
    {summary : Report.Summary} (hq : Quiet s) (h : Serves (.evaluate chunk) s s')
    (hresult : s'.result? s.jobs.length = some result) (htold : account result = .ok summary) :
    Quiet s' := by
  obtain ⟨outcome, w, deeds, s₁, -, hcomes, hserves⟩ := serves_evaluation hq chunk
  obtain rfl := h.unique hserves
  have houtcome : outcome = some result := by
    rw [← hcomes.ends, outcome?, hresult]
    rfl
  refine hcomes.quiet (by simp [houtcome]) ?_
  refine Option.eq_none_iff_forall_ne_some.mpr fun fault hf => ?_
  obtain ⟨hfatal, hended⟩ := hcomes.halted fault hf
  obtain rfl : result = .error fault := Option.some.inj (houtcome.symm.trans hended)
  obtain ⟨hown, hordinary⟩ := account_of_isFatal hfatal
  simp [account, hown, hordinary] at htold

/-- How a session that can be reached tells of `SystemExit`. -/
structure ExitsTold (rule : Rule) (settings : Settings) (world : World) (s : Session) : Prop where
  /-- A job whose code has begun to run ends as that does. If the code, or a module that it imports,
  has raised `SystemExit`, that is accounted for. -/
  code {n i : Nat} {result : Except Fault Value} : .run n i ∈ s.deeds → s.result? n = some result →
    ∃ t before ran u, Visits rule (fresh settings world [] none) (.job n (.follow i)) t ∧
      t.deeds = before ++ [.run n i] ∧ (chunkRun n i t).Ends ran u ∧
      result = (concluded (settings.get .filename) (t.scanOf n).source ran u.world).1 ∧
      ∀ raw, ran = .error raw → raw.kind.isA .systemExit → ∃ message mark,
        account result = .ok { status := "error", message := .str message, mark := mark }
  /-- An attempt that has failed though its adapter source was run failed by that. If the source has
  raised `SystemExit`, that is accounted for wherever it has a text. -/
  adapter {a : Nat} {fault : Fault} : .adapt a ∈ s.deeds →
    s.loading? a = some (.ended (some fault)) → ∃ raw scene,
      Adapting settings (.done (.error raw) scene) ∧ fault = adapterFault raw ∧
      fault.kind.isA .systemExit = false ∧ (raw.kind.isA .systemExit →
        (∃ text, raw.text = .ok text ∧ account (.error fault) =
          .ok { status := "error"
                message := .str s!"Adapter source failed: {raw.kind.name}: {text}" }) ∨
        raw.text = .error fault)
  /-- `SystemExit` that is not accounted for has stopped a job before its code began: at a probe, at
  an install, or by the construction or the attempt that it has waited for. The latter has not come
  to its adapter source. -/
  escape {n : Nat} {result : Except Fault Value} {fault : Fault} : s.result? n = some result →
    account result = .error fault → fault.kind.isA .systemExit → Unbegun n s ∧
      ((∃ root, .probe n root none ∈ s.deeds) ∨
        (∃ missing, .installed n missing false ∈ s.deeds) ∨
        (∃ c, .awaitConstruction n c ∈ s.deeds ∧ s.making? c = some (.ended (.error fault))) ∨
        ∃ a, .awaitAttempt n a ∈ s.deeds ∧ s.loading? a = some (.ended (some fault)) ∧
          .adapt a ∉ s.deeds)
  /-- `SystemExit` that has stopped everything has come out of such a construction or attempt. -/
  halt {fault : Fault} : s.halted = some fault → fault.kind.isA .systemExit →
    (∃ c, s.making? c = some (.ended (.error fault))) ∨
      ∃ a, s.loading? a = some (.ended (some fault)) ∧ .adapt a ∉ s.deeds
  /-- The session has nothing under way after an evaluation taken alone that is accounted for. -/
  further {s₁ : Session} {chunk : String} {result : Except Fault Value} {summary : Report.Summary} :
    Quiet s₁ → Serves (.evaluate chunk) s₁ s → s.result? s₁.jobs.length = some result →
      account result = .ok summary → Quiet s

/-- `SystemExit` that a chunk's code, a module that it imports or an adapter source raises is
accounted for as an error, and the session goes on. Only a probe, an install, a construction and the
way to an adapter source let it through. It is so however evaluations come, and whatever else
happens. -/
theorem exits_told (settings : Settings) (world : World) {rule : Rule} {s : Session}
    (h : Reaches rule (fresh settings world [] none) s) : ExitsTold rule settings world s := by
  have hadapter {a : Nat} {fault : Fault} (hexit : fault.kind.isA .systemExit)
      (hended : s.loading? a = some (.ended (some fault))) : .adapt a ∉ s.deeds := fun hadapt => by
    obtain ⟨raw, -, -, rfl⟩ := h.adapted hadapt hended
    simp [adapterFault_no_exit] at hexit
  have hcode {n i : Nat} {result : Except Fault Value} {fault : Fault}
      (hresult : s.result? n = some result) (htold : account result = .error fault)
      (hexit : fault.kind.isA .systemExit) : .run n i ∉ s.deeds := fun hrun => by
    obtain ⟨t, -, ran, u, -, -, -, hconcluded⟩ := h.concluded hrun hresult
    have hfailed := hconcluded.symm.trans (exit_of_account htold hexit)
    simp [concluded_no_exit hfailed] at hexit
  refine ⟨?code, ?adapter, ?escape, ?halt, fun hq hserves => hserves.quiet_of_account hq⟩
  case code =>
    intro n i result hrun hresult
    obtain ⟨t, before, ran, u, hv, hdeeds, hends, hconcluded⟩ := h.concluded hrun hresult
    refine ⟨t, before, ran, u, hv, hdeeds, hends, hconcluded, fun raw hran hexit => ?_⟩
    rw [hconcluded, hran]
    exact account_concluded_exit hexit
  case adapter =>
    intro a fault hadapt hended
    obtain ⟨raw, scene, hrun, rfl⟩ := h.adapted hadapt hended
    exact ⟨raw, scene, hrun, rfl, adapterFault_no_exit raw, account_adapterFault_exit⟩
  case escape =>
    intro n result fault hresult htold hexit
    refine ⟨fun i => hcode hresult htold hexit, ?_⟩
    cases h.failedBy (exit_of_account htold hexit ▸ hresult) with
    | construction waited ended => exact .inr (.inr (.inl ⟨_, waited, ended⟩))
    | attempt waited ended => exact .inr (.inr (.inr ⟨_, waited, ended, hadapter hexit ended⟩))
    | probe failed => exact .inl ⟨_, failed⟩
    | install refused => exact .inr (.inl ⟨_, refused⟩)
    | code begun => exact absurd begun (hcode hresult htold hexit)
  case halt =>
    intro fault hhalted hexit
    exact ((visits_of_reaches h).haltedBy fault hhalted).imp_right fun ⟨a, hended⟩ =>
      ⟨a, hended, hadapter hexit hended⟩

/-- The text of the message with which an evaluation is accounted for. -/
def message? (result : Except Fault Value) : Option String :=
  (account result).toOption.bind (·.message.text.toOption)

/-- The only chunk of a session raises `SystemExit`, and the session goes on. -/
theorem exits_told_of_chunk :
    ∃ s result, Reaches .anything (fresh default {} [] none) s ∧ .run 0 0 ∈ s.deeds ∧
      s.result? 0 = some result ∧ message? result = some
        ("Traceback (most recent call last):\n  File \"<chunk>\", line 1, in <module>\n" ++
          "SystemExit: 1") ∧
      ExitsTold .anything default {} s := by
  let s := ((fresh default {} [] none).serve (.evaluate "raise SystemExit(1)")).2
  have hs : Reaches .anything (fresh default {} [] none) s :=
    reaches_serve .refl trivial fun _ _ => trivial
  have hrun : .run 0 0 ∈ s.deeds := mem_begun.mp (by decide +kernel)
  have hshown : (s.result? 0).bind message? = some
      ("Traceback (most recent call last):\n  File \"<chunk>\", line 1, in <module>\n" ++
        "SystemExit: 1") := by decide +kernel
  obtain ⟨result, hresult, hmessage⟩ := Option.bind_eq_some_iff.mp hshown
  exact ⟨s, result, hs, hrun, hresult, hmessage, exits_told default {} hs⟩

/-- A module that raises `SystemExit`. -/
def exiting : World.ModuleCode :=
  { value := .null, failure := some ⟨.systemExit, "1", none, none⟩ }

/-- A session with an interpreter, in whose world there is such a module. -/
def withExit : Session :=
  ((fresh default { modules := { declared := [("m", exiting)] } } [] none).serve (.evaluate "")).2

theorem quiet_withExit : Quiet withExit :=
  (serves_serve (by decide +kernel)).quiet (quiet_fresh default (by decide +kernel))
    (by decide +kernel) (by decide +kernel)

/-- An evaluation lets `SystemExit` through where a module raises that when it is probed. -/
theorem exit_of_probe :
    ¬∀ (s : Session) (chunk : String) (fault : Fault), Quiet s → s.current.isSome →
      (s.serve (.evaluate chunk)).1.map account = some (.error fault) →
        fault.kind.isA .systemExit = false := by
  intro h
  have hkind : (failure? (withExit.serve (.evaluate "import m")).1).map (·.kind) =
      some .systemExit := by decide +kernel
  obtain ⟨fault, hfailure, hexit⟩ := Option.map_eq_some_iff.mp hkind
  have hraised := h withExit "import m" fault quiet_withExit (by decide +kernel)
    (by rw [failure?_eq_some.mp hfailure, Option.map_some, account, hexit]; rfl)
  rw [hexit] at hraised
  cases hraised

end Chunkwise.Session
