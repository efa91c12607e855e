import Chunkwise.Proofs.Execution.Passages
import Chunkwise.Proofs.Session.Bridges
import Chunkwise.Proofs.Session.Places

/-!
Interpreters in which nothing runs are left tidy: nobody holds the lock and nothing is pending. What
an event does in an interpreter it either finishes, and then it cleans up, or goes on with later.
-/
namespace Chunkwise.Session
open Chunkwise.Execution

variable {s s' : Session} {n i j a c : Nat} {except : Option Nat}

/-- Code of a job is running in an interpreter, or the bound of its evaluation was too small. -/
def Stage.runs (i : Nat) : Stage → Prop
  | .running j _ => j = i
  | .stuck => True
  | _ => False

/-- An adapter source is running, or the bound of its run was too small. -/
def Loading.runs : Loading → Prop
  | .running _ | .stuck => True
  | _ => False

/-- Code is running in an interpreter. -/
def Occupied (i : Nat) (s : Session) : Prop :=
  (∃ n stage, s.stage? n = some stage ∧ stage.runs i ∧ .run n i ∈ s.deeds) ∨
    ∃ (a : Nat) (made : Attempt),
      s.attempts[a]? = some made ∧ made.interpreter = i ∧ made.stage.runs

/-- Nobody holds the lock of an interpreter and nothing is pending in it. -/
structure Cell.Calm (cell : Cell) : Prop where
  held : cell.lock.held = false
  pending : cell.interpreter.pending = []

def CalmAt (i : Nat) (s : Session) : Prop :=
  ∀ cell, s.cells[i]? = some cell → cell.Calm

/-- Code that goes on cleans up in the end. -/
def Clearing (resume : Scene → Run (Except Fault Value)) : Prop :=
  ∀ scene, Buffered scene → (resume scene).Clears

/-- All interpreters are calm in which no code is running, but for one at most that is being worked
in. -/
structure TidyBut (except : Option Nat) (s : Session) : Prop where
  calm : ∀ i, except ≠ some i → Occupied i s ∨ CalmAt i s
  jobs : ∀ {n i : Nat} {resume}, s.stage? n = some (.running i resume) →
    Clearing resume ∧ .run n i ∈ s.deeds
  attempts : ∀ {a : Nat} {resume}, s.loading? a = some (.running resume) → Clearing resume

abbrev Tidy : Session → Prop :=
  TidyBut none

/-- No code of a job is running, but in the interpreter that is being worked in. -/
def Paused (n : Nat) (except : Option Nat) (s : Session) : Prop :=
  ∀ stage i, s.stage? n = some stage → stage.runs i → except = some i

/-- No adapter source of an attempt is running, but in the interpreter that is being worked in. -/
def PausedAttempt (a : Nat) (except : Option Nat) (s : Session) : Prop :=
  ∀ made, s.attempts[a]? = some made → made.stage.runs → except = some made.interpreter

theorem TidyBut.same (h : TidyBut except s) (hcells : s'.cells = s.cells) (hjobs : s'.jobs = s.jobs)
    (hattempts : s'.attempts = s.attempts)
    (hdeeds : ∀ deed ∈ s.deeds, deed ∈ s'.deeds) : TidyBut except s' := by
  have hstage (n : Nat) : s'.stage? n = s.stage? n := by simp only [stage?, hjobs]
  have hloading (a : Nat) : s'.loading? a = s.loading? a := by simp only [loading?, hattempts]
  refine ⟨fun i hi => (h.calm i hi).imp ?_ ?_,
    fun hn => (h.jobs ((hstage _).symm.trans hn)).imp_right (hdeeds _),
    fun ha => h.attempts ((hloading _).symm.trans ha)⟩
  · rintro (⟨n, stage, hn, hruns, hdeed⟩ | hattempt)
    · exact .inl ⟨n, stage, (hstage n).trans hn, hruns, hdeeds _ hdeed⟩
    · exact .inr (hattempts ▸ hattempt)
  · simp only [CalmAt, hcells]
    exact id

theorem Tidy.but (h : Tidy s) (except : Option Nat) : TidyBut except s :=
  ⟨fun i _ => h.calm i (by simp), h.jobs, h.attempts⟩

/-- The interpreter that was worked in is calm again, or is worked in later. -/
theorem TidyBut.close (h : TidyBut (some i) s) (hi : Occupied i s ∨ CalmAt i s) : Tidy s := by
  refine ⟨fun j _ => ?_, h.jobs, h.attempts⟩
  by_cases hij : i = j
  · exact hij ▸ hi
  · exact h.calm j (by simpa using hij)

/-! Jobs and attempts. -/

theorem Occupied.setJob (h : Occupied i s) (hn : Paused n except s) (hi : except ≠ some i)
    (stage : Stage) : Occupied i (s.setJob n stage) := by
  rcases h with ⟨m, stage', hm, hruns, hdeed⟩ | hattempt
  · refine .inl ⟨m, stage', ?_, hruns, hdeed⟩
    rw [stage?_setJob_ne, hm]
    rintro rfl
    exact hi (hn stage' i hm hruns)
  · exact .inr hattempt

theorem TidyBut.setJob (h : TidyBut except s) (hn : Paused n except s) (stage : Stage)
    (hstage : ∀ i resume, stage = .running i resume → Clearing resume ∧ .run n i ∈ s.deeds) :
    TidyBut except (s.setJob n stage) := by
  refine ⟨fun i hi => ?_, fun {m i resume} hm => ?_, h.attempts⟩
  · exact (h.calm i hi).imp (fun hoccupied => hoccupied.setJob hn hi stage) id
  · by_cases hmn : n = m
    · subst hmn
      rw [stage?_setJob] at hm
      obtain ⟨_, _, hstage'⟩ := Option.map_eq_some_iff.mp hm
      exact hstage i resume hstage'
    · rw [stage?_setJob_ne hmn] at hm
      exact h.jobs hm

theorem Occupied.setAttempt (h : Occupied i s) (ha : PausedAttempt a except s)
    (hi : except ≠ some i) (stage : Loading) : Occupied i (s.setAttempt a stage) := by
  rcases h with hjob | ⟨b, made, hb, rfl, hruns⟩
  · exact .inl hjob
  · refine .inr ⟨b, made, ?_, rfl, hruns⟩
    have hab : a ≠ b := by
      rintro rfl
      exact hi (ha made hb hruns)
    simp [Session.setAttempt, hab, hb]

theorem TidyBut.setAttempt (h : TidyBut except s) (ha : PausedAttempt a except s) (stage : Loading)
    (hstage : ∀ resume, stage = .running resume → Clearing resume) :
    TidyBut except (s.setAttempt a stage) := by
  refine ⟨fun i hi => ?_, h.jobs, fun {c resume} hc => ?_⟩
  · exact (h.calm i hi).imp (fun hoccupied => hoccupied.setAttempt ha hi stage) id
  · by_cases hac : a = c
    · subst hac
      rw [loading?_setAttempt] at hc
      obtain ⟨_, _, hstage'⟩ := Option.map_eq_some_iff.mp hc
      exact hstage resume hstage'
    · rw [loading?_setAttempt_ne hac] at hc
      exact h.attempts hc

/-! Interpreters. -/

theorem TidyBut.mapCell (h : TidyBut (some i) s) (f : Cell → Cell) :
    TidyBut (some i) (s.mapCell i f) := by
  refine ⟨fun j hj => (h.calm j hj).imp id fun hcalm cell hcell => hcalm cell ?_, h.jobs,
    h.attempts⟩
  have hij : i ≠ j := by simpa using hj
  obtain ⟨old, hold, rfl⟩ := getElem?_modify_some hcell
  simpa [hij] using hold

theorem TidyBut.leave (h : TidyBut (some i) s) (scene : Scene) :
    TidyBut (some i) (s.leave i scene) :=
  (h.mapCell fun c => { c with interpreter := c.interpreter.leftBy scene }).same rfl rfl rfl
    fun _ => id

theorem TidyBut.releaseRun (h : TidyBut (some i) s) : TidyBut (some i) (s.releaseRun i) :=
  (h.mapCell fun c => { c with lock := c.lock.release }).same rfl rfl rfl fun _ => id

/-- Code that is over leaves its interpreter calm. -/
theorem calmAt_leave_releaseRun {scene : Scene} (hscene : scene.pending = some []) (i : Nat)
    (s : Session) : CalmAt i ((s.leave i scene).releaseRun i) := by
  intro cell hcell
  obtain ⟨released, hreleased, rfl⟩ := getElem?_modify_some hcell
  obtain ⟨old, -, rfl⟩ := getElem?_modify_some hreleased
  exact ⟨by simp [Lock.release], by simp [Interpreter.leftBy, hscene]⟩

/-- A change of the lock that neither takes nor releases it. -/
theorem Tidy.mapLock (h : Tidy s) (i : Nat) {f : Lock → Lock} (hf : ∀ l, (f l).held = l.held) :
    Tidy (s.mapLock i f) := by
  refine ⟨fun j hj => (h.calm j hj).imp id fun hcalm cell hcell => ?_, h.jobs, h.attempts⟩
  obtain ⟨old, hold, rfl⟩ := getElem?_modify_some hcell
  have hcalm := hcalm old hold
  split
  · exact ⟨(hf _).trans hcalm.held, hcalm.pending⟩
  · exact hcalm

/-- Code that runs in an interpreter where nobody else's runs leaves nothing pending. -/
theorem Tidy.leave (h : Tidy s) (i : Nat) {scene : Scene}
    (hi : Occupied i s ∨ scene.pending = some []) : Tidy (s.leave i scene) := by
  refine ((h.but (some i)).leave scene).close ?_
  rcases hi with hoccupied | hscene
  · exact .inl hoccupied
  · refine (h.calm i (by simp)).imp id fun hcalm cell hcell => ?_
    obtain ⟨old, hold, rfl⟩ := getElem?_modify_some hcell
    exact ⟨by simp [(hcalm old hold).held], by simp [Interpreter.leftBy, hscene]⟩

/-! Constructions. -/

theorem tidy_settleConstruction (h : Tidy s) (c : Nat) (fault : Option Fault) :
    Tidy (s.settleConstruction c fault) := by
  cases fault with
  | some fault => exact h.same rfl rfl rfl fun _ => List.mem_append_left _
  | none =>
    let made := Interpreter.make s.world
    have hcell : Tidy { s with cells := s.cells ++ [{ interpreter := made.1 }] } := by
      refine ⟨fun i hi => (h.calm i hi).imp id fun hcalm cell hcell => ?_, h.jobs, h.attempts⟩
      rw [List.getElem?_append] at hcell
      split at hcell
      · exact hcalm cell hcell
      · obtain rfl := List.mem_singleton.mp (List.mem_of_getElem? hcell)
        exact ⟨rfl, rfl⟩
    exact hcell.same rfl rfl rfl fun _ => List.mem_append_left _

theorem tidy_prepare (h : Tidy s) (c : Nat) (fault : Option Fault) (turns : Nat) :
    Tidy (s.prepare c fault turns) := by
  cases turns with
  | zero => exact tidy_settleConstruction h c fault
  | succ turns => exact h.same rfl rfl rfl fun _ => id

theorem tidy_continueConstruction (h : Tidy s) (c : Nat) : Tidy (s.continueConstruction c) := by
  unfold continueConstruction
  split
  · refine tidy_prepare ?_ c _ _
    exact h.same rfl rfl rfl fun _ => List.mem_append_left _
  · exact tidy_prepare h c _ _
  · exact h
  · exact h

/-! Attempts. -/

/-- It is the turn of an attempt, and its adapter source is not running or has just ended. -/
structure AtTrial (except : Option Nat) (a : Nat) (s : Session) : Prop where
  tidy : TidyBut except s
  calm : ∀ i, except = some i → CalmAt i s
  paused : PausedAttempt a except s
  made : ∃ made, s.attempts[a]? = some made

theorem AtTrial.same (h : AtTrial except a s) (hcells : s'.cells = s.cells)
    (hjobs : s'.jobs = s.jobs) (hattempts : s'.attempts = s.attempts)
    (hdeeds : ∀ deed ∈ s.deeds, deed ∈ s'.deeds) : AtTrial except a s' := by
  refine ⟨h.tidy.same hcells hjobs hattempts hdeeds, ?_, ?_, ?_⟩
  · simpa only [CalmAt, hcells] using h.calm
  · simpa only [PausedAttempt, hattempts] using h.paused
  · simpa only [hattempts] using h.made

theorem AtTrial.withWorld (h : AtTrial except a s) (world : World) :
    AtTrial except a { s with world := world } :=
  h.same rfl rfl rfl fun _ => id

theorem AtTrial.setAttempt (h : AtTrial except a s) (stage : Loading)
    (hstage : ∀ resume, stage ≠ .running resume) : Tidy (s.setAttempt a stage) := by
  have hset := TidyBut.setAttempt h.tidy h.paused stage fun resume e => absurd e (hstage resume)
  cases except with
  | none => exact hset
  | some i => exact hset.close (.inr (h.calm i rfl))

theorem AtTrial.endAttempt (h : AtTrial except a s) (fault : Option Fault) :
    Tidy (s.endAttempt a fault) := by
  have hended := h.setAttempt (.ended fault) (by simp)
  cases fault with
  | none => exact hended.same rfl rfl rfl fun _ => List.mem_append_left _
  | some fault => exact hended.same rfl rfl rfl fun _ => id

theorem AtTrial.did (h : AtTrial except a s) (deed : Deed) : AtTrial except a (s.did deed) :=
  h.same rfl rfl rfl fun _ => List.mem_append_left _

theorem AtTrial.failAttempt (h : AtTrial except a s) (fault : Fault) :
    Tidy (s.failAttempt a fault) := by
  have hsettled := h.did (.settled a false)
  simp only [Session.failAttempt]
  split
  · exact (hsettled.withWorld _).endAttempt _
  · exact hsettled.endAttempt _

theorem tidy_followAdapter {run : Run (Except Fault Value)}
    (h : TidyBut (some (s.interpreterOf a)) s) (ha : PausedAttempt a (some (s.interpreterOf a)) s)
    (hmade : ∃ made, s.attempts[a]? = some made) (hrun : run.Clears) :
    Tidy (s.followAdapter a (s.interpreterOf a) run) := by
  have hoccupied (t : Session) (ht : t.attempts = s.attempts) {stage : Loading}
      (hstage : stage.runs) : Occupied (s.interpreterOf a) (t.setAttempt a stage) := by
    obtain ⟨made, hmade⟩ := hmade
    have hi : made.interpreter = s.interpreterOf a := by simp [interpreterOf, hmade]
    exact .inr
      ⟨a, { made with stage := stage }, by simp [Session.setAttempt, ht, hmade], hi, hstage⟩
  cases run with
  | exhausted =>
    exact (TidyBut.setAttempt h ha _ (by simp)).close (.inl (hoccupied s rfl trivial))
  | suspended scene resume =>
    have hleft := TidyBut.setAttempt (h.leave scene) ha (.running resume)
      (by rintro _ ⟨⟩; exact hrun.2 ())
    exact (hleft.close (.inl (hoccupied (s.leave _ scene) rfl trivial))).same rfl rfl rfl
      fun _ => id
  | done result scene =>
    have hleft : AtTrial (some (s.interpreterOf a)) a
        ((s.leave (s.interpreterOf a) scene).releaseRun (s.interpreterOf a)) := by
      refine ⟨(h.leave scene).releaseRun, ?_, ha, hmade⟩
      rintro _ ⟨⟩
      exact calmAt_leave_releaseRun hrun _ s
    cases result with
    | ok v =>
      have hsettled := hleft.did (.settled a true)
      simp only [followAdapter, adapterNote]
      split
      · exact (hsettled.withWorld _).endAttempt none
      · exact (hsettled.withWorld _).endAttempt none
    | error fault => exact hleft.failAttempt _

theorem scene_buffered (i : Nat) (s : Session) : Buffered (s.scene i) :=
  Option.some_ne_none _

theorem PausedAttempt.weaken (h : PausedAttempt a none s) (except : Option Nat) :
    PausedAttempt a except s := by
  intro made hmade hruns
  cases h made hmade hruns

/-- The lock is taken and the adapter source begins to run. -/
theorem AtTrial.runAdapter (h : AtTrial none a s) (source : String) {f : Lock → Lock} :
    Tidy ((s.mapLock (s.interpreterOf a) f).runAdapter a source) := by
  let s' := (s.mapLock (s.interpreterOf a) f).did (.adapt a)
  have htaken : TidyBut (some (s.interpreterOf a)) s' :=
    (Tidy.but h.tidy _).mapCell (fun c => { c with lock := f c.lock }) |>.same rfl rfl rfl
      fun _ => List.mem_append_left _
  exact tidy_followAdapter (s := s') htaken (PausedAttempt.weaken h.paused _) h.made
    (clears_runChunk _ _ (scene_buffered _ _))

theorem AtTrial.queueAdapter (h : AtTrial none a s) (source : String) :
    Tidy (s.queueAdapter a source) := by
  simp only [Session.queueAdapter]
  split
  · exact h.runAdapter source
  · have hqueued : Tidy (s.mapLock (s.interpreterOf a) (·.queue (.attempt a))) :=
      Tidy.mapLock h.tidy _ fun _ => rfl
    exact TidyBut.setAttempt hqueued h.paused _ (by simp)

theorem AtTrial.fetchAdapter (h : AtTrial none a s) (turns : Nat) :
    Tidy (s.fetchAdapter a turns) := by
  cases turns with
  | succ turns => exact (h.setAttempt (.fetching turns) (by simp)).same rfl rfl rfl fun _ => id
  | zero =>
    simp only [Session.fetchAdapter]
    split
    · exact ((h.withWorld _).did _).queueAdapter _
    · exact (h.withWorld _).failAttempt _

theorem AtTrial.bindName (h : AtTrial none a s) (i : Nat) (field : Settings.Field) (v : Value) :
    AtTrial none a (s.bindName i field v).2 := by
  unfold Session.bindName
  split
  · exact h.withWorld _
  · split <;> exact h

theorem AtTrial.bindLibrary (h : AtTrial none a s) (library : Value) :
    Tidy (s.bindLibrary a library) := by
  have hraw := (h.did (.bind a .rawBinding)).bindName (s.interpreterOf a) .rawBinding library
  simp only [Session.bindLibrary]
  split
  next fault s₁ heq =>
    rw [heq] at hraw
    exact hraw.failAttempt fault
  next s₁ heq =>
    rw [heq] at hraw
    have hwrapped := (hraw.did (.settled a true)).did (.wrap a (s₁.tensorOf library))
    split
    · exact (hwrapped.withWorld _).failAttempt _
    next adapters w _ =>
      have hutils := (((hwrapped.withWorld w).did (.settled a true)).did
        (.bind a .utilsBinding)).bindName (s.interpreterOf a) .utilsBinding adapters
      split
      next fault s₂ heq =>
        rw [heq] at hutils
        exact hutils.failAttempt fault
      next s₂ heq =>
        rw [heq] at hutils
        exact ((hutils.did (.settled a true)).did (.fetch a)).fetchAdapter _

theorem AtTrial.afterScripts (h : AtTrial none a s) : Tidy (s.afterScripts a) := by
  have hsought := h.did (.seek a s.library?)
  simp only [Session.afterScripts]
  split
  · exact hsought.failAttempt _
  · split
    · exact hsought.failAttempt _
    · exact hsought.failAttempt _
    · exact (hsought.did _).bindLibrary _

theorem AtTrial.settleScript {next : Session → Session} {result : Option Fault × Session}
    (h : AtTrial none a result.2) (hnext : ∀ s, AtTrial none a s → Tidy (next s)) :
    Tidy (settleScript a next result) := by
  obtain ⟨_ | fault, s⟩ := result
  · exact hnext _ (h.did _)
  · exact h.failAttempt fault

theorem AtTrial.append (h : AtTrial none a s) (url : Datum) :
    AtTrial none a (Bridge.append lookUpScript url s).2 := by
  rw [Bridge.append_snd]
  exact h.withWorld _

theorem AtTrial.appendScripts (h : AtTrial none a s) (urls : List Datum) :
    Tidy (s.appendScripts a urls) := by
  induction urls generalizing s with
  | nil => exact h.afterScripts
  | cons url rest ih =>
    simp only [Session.appendScripts]
    have hload : AtTrial none a ((s.did (.load a url)).mapWorld (Bridge.appendNote url)) :=
      (h.did _).withWorld _
    split
    next turns _ =>
      exact (hload.setAttempt (.appending url rest turns) (by simp)).same rfl rfl rfl fun _ => id
    · exact (hload.append url).settleScript fun s hs => ih hs

/-- Scripts may write into an interpreter where something is running. -/
theorem AtTrial.runHostScript (h : AtTrial none a s) (url : Datum) (source : String) :
    AtTrial none a (s.runHostScript url source).2 := by
  unfold Session.runHostScript
  split
  next i hi =>
    obtain ⟨hlt, hheld, -⟩ := List.findIdx?_eq_some_iff_getElem.mp hi
    have hoccupied : Occupied i s := (h.tidy.calm i (by simp)).resolve_right fun hcalm => by
      simp [(hcalm _ (List.getElem?_eq_getElem hlt)).held] at hheld
    exact ⟨Tidy.leave h.tidy i (.inl hoccupied), by simp, h.paused, h.made⟩
  next => exact h.withWorld _

theorem AtTrial.importScript (h : AtTrial none a s) (url : Datum) :
    AtTrial none a (importScript url s).2 := by
  unfold Session.importScript
  split
  · split
    · exact h.withWorld _
    · exact (h.withWorld _).runHostScript url _
  · exact h.withWorld _

theorem AtTrial.importAll (h : AtTrial none a s) (urls : List Datum) :
    AtTrial none a (Bridge.importAll Session.importScript (callForAll a urls) urls s).2 :=
  Bridge.importAll_keeps (P := AtTrial none a)
    (fun _ _ hs => ((hs.did (.settled a true)).did (.loadAll a urls)).withWorld _)
    (fun url _ hs => hs.importScript url) urls h

theorem AtTrial.startAttempt (h : AtTrial none a s) : Tidy (s.startAttempt a) := by
  simp only [Session.startAttempt]
  generalize hnoted : s.mapWorld _ = s₁
  have h₁ : AtTrial none a s₁ := hnoted ▸ h.withWorld _
  have h₂ := h₁.did (.choose a s₁.world.host.means)
  split
  · exact h₂.failAttempt _
  · exact (h₂.did _).appendScripts _
  · exact (h₂.importAll _).settleScript fun s hs => hs.afterScripts

/-- An attempt that has come to a stage where its adapter source is not running. -/
theorem atTrial_of_loading? (h : Tidy s) {stage : Loading} (ha : s.loading? a = some stage)
    (hstage : ¬stage.runs) : AtTrial none a s := by
  obtain ⟨made, hmade, rfl⟩ := Option.map_eq_some_iff.mp ha
  refine ⟨h, by simp, fun made' hmade' hruns => ?_, made, hmade⟩
  obtain rfl := Option.some.inj (hmade.symm.trans hmade')
  exact absurd hruns hstage

theorem tidy_continueAttempt (h : Tidy s) (a : Nat) : Tidy (s.continueAttempt a) := by
  unfold continueAttempt
  split
  next ha => exact (atTrial_of_loading? h ha id).startAttempt
  next ha =>
    exact ((atTrial_of_loading? h ha id).append _).settleScript fun s hs => hs.appendScripts _
  next ha =>
    exact ((atTrial_of_loading? h ha id).setAttempt _ (by simp)).same rfl rfl rfl fun _ => id
  next ha => exact (atTrial_of_loading? h ha id).fetchAdapter _
  next ha =>
    split
    · exact (atTrial_of_loading? h ha id).runAdapter _
    · exact h
  next resume ha =>
    obtain ⟨made, hmade, hstage⟩ := Option.map_eq_some_iff.mp ha
    refine tidy_followAdapter (Tidy.but h _) (fun made' hmade' _ => ?_) ⟨made, hmade⟩
      (h.attempts ha _ (scene_buffered _ s))
    simp [interpreterOf, hmade']
  all_goals exact h

/-! Jobs. -/

/-- It is the turn of a job whose code is not running, or has just ended. -/
structure AtWork (except : Option Nat) (n : Nat) (s : Session) : Prop where
  tidy : TidyBut except s
  calm : ∀ i, except = some i → CalmAt i s
  paused : Paused n except s
  asked : s.stage? n ≠ none

theorem AtWork.same (h : AtWork except n s) (hcells : s'.cells = s.cells)
    (hjobs : s'.jobs = s.jobs) (hattempts : s'.attempts = s.attempts)
    (hdeeds : ∀ deed ∈ s.deeds, deed ∈ s'.deeds) : AtWork except n s' := by
  have hstage : s'.stage? n = s.stage? n := by simp only [stage?, hjobs]
  refine ⟨h.tidy.same hcells hjobs hattempts hdeeds, ?_, ?_, hstage ▸ h.asked⟩
  · simpa only [CalmAt, hcells] using h.calm
  · simpa only [Paused, hstage] using h.paused

theorem AtWork.withWorld (h : AtWork except n s) (world : World) :
    AtWork except n { s with world := world } :=
  h.same rfl rfl rfl fun _ => id

theorem AtWork.setJob (h : AtWork except n s) (stage : Stage)
    (hstage : ∀ i resume, stage ≠ .running i resume) : Tidy (s.setJob n stage) := by
  have hset := TidyBut.setJob h.tidy h.paused stage fun i resume e => absurd e (hstage i resume)
  cases except with
  | none => exact hset
  | some i => exact hset.close (.inr (h.calm i rfl))

theorem AtWork.endJob (h : AtWork except n s) (result : Except Fault Value) :
    Tidy (s.endJob n result) :=
  h.setJob _ (by simp)

theorem AtWork.concludeChunk (h : AtWork except n s) (source : String)
    (result : Except Fault Value) : Tidy (s.concludeChunk n source result) := by
  unfold Session.concludeChunk
  split
  · exact h.endJob _
  · split
    · exact (h.withWorld _).endJob _
    · exact (h.withWorld _).endJob _

theorem tidy_followChunk {run : Run (Except Fault Value)} (h : TidyBut (some i) s)
    (hn : Paused n (some i) s) (hasked : s.stage? n ≠ none) (hbegun : .run n i ∈ s.deeds)
    (source : String) (hrun : run.Clears) : Tidy (s.followChunk n i source run) := by
  have hoccupied (t : Session) (ht : t.stage? n ≠ none) (hdeeds : t.deeds = s.deeds)
      {stage : Stage} (hstage : stage.runs i) : Occupied i (t.setJob n stage) := by
    obtain ⟨old, hold⟩ := Option.ne_none_iff_exists'.mp ht
    exact .inl ⟨n, stage, by rw [stage?_setJob, hold]; rfl, hstage, hdeeds ▸ hbegun⟩
  cases run with
  | exhausted =>
    exact (TidyBut.setJob h hn _ (by simp)).close (.inl (hoccupied s hasked rfl trivial))
  | suspended scene resume =>
    have hleft := TidyBut.setJob (h.leave scene) hn (.running i resume)
      (by rintro _ _ ⟨⟩; exact ⟨hrun.2 (), hbegun⟩)
    exact (hleft.close (.inl (hoccupied (s.leave i scene) hasked rfl rfl))).same rfl rfl rfl
      fun _ => id
  | done result scene =>
    have hleft : AtWork (some i) n ((s.leave i scene).releaseRun i) := by
      refine ⟨(h.leave scene).releaseRun, ?_, hn, hasked⟩
      rintro _ ⟨⟩
      exact calmAt_leave_releaseRun hrun _ s
    exact hleft.concludeChunk source result

theorem Paused.weaken (h : Paused n none s) (except : Option Nat) : Paused n except s := by
  intro stage i hstage hruns
  cases h stage i hstage hruns

/-- The lock is taken and the chunk begins to run. -/
theorem AtWork.startChunk (h : AtWork none n s) (i : Nat) {f : Lock → Lock} :
    Tidy ((s.mapLock i f).startChunk n i) := by
  have htaken : TidyBut (some i) ((s.mapLock i f).did (.run n i)) :=
    (Tidy.but h.tidy _).mapCell (fun c => { c with lock := f c.lock }) |>.same rfl rfl rfl
      fun _ => List.mem_append_left _
  exact tidy_followChunk htaken (Paused.weaken h.paused _) h.asked (by simp [did]) _
    (clears_runChunk _ _ (scene_buffered _ _))

theorem AtWork.queueChunk (h : AtWork none n s) (i : Nat) : Tidy (s.queueChunk n i) := by
  simp only [Session.queueChunk]
  generalize hnoted : s.mapWorld _ = s₁
  have h₁ : AtWork none n s₁ := hnoted ▸ h.withWorld _
  split
  · exact h₁.startChunk i
  · have hqueued : Tidy (s₁.mapLock i (·.queue (.job n))) := Tidy.mapLock h₁.tidy _ fun _ => rfl
    exact TidyBut.setJob hqueued h₁.paused _ (by simp)

theorem AtWork.install (h : AtWork none n s) (i : Nat) (missing : List String) (turns : Nat) :
    Tidy (s.install n i missing turns) := by
  cases turns with
  | succ turns =>
    exact (h.setJob (.installing i missing turns) (by simp)).same rfl rfl rfl fun _ => id
  | zero =>
    have hdeeds {deed first second : Deed} (hdeed : deed ∈ s.deeds) :
        deed ∈ s.deeds ++ [first] ++ [second] :=
      List.mem_append_left _ (List.mem_append_left _ hdeed)
    simp only [Session.install]
    split
    · refine AtWork.queueChunk ?_ i
      exact h.same rfl rfl rfl fun _ => hdeeds
    · refine AtWork.endJob (?_ : AtWork none n _) _
      exact h.same rfl rfl rfl fun _ => hdeeds

/-- A probe hands on what it has written and leaves nothing pending. -/
theorem AtWork.probe (h : AtWork none n s) (i : Nat) (root : String) :
    AtWork none n ((environment n i).probe root s).2 := by
  have hleft := Tidy.leave h.tidy i (.inr (pending_probe root (scene_buffered i s)))
  exact ⟨hleft.same rfl rfl rfl (fun _ => List.mem_append_left _), by simp, h.paused, h.asked⟩

theorem AtWork.missing (h : AtWork none n s) (i : Nat) (roots : List String) :
    AtWork none n (Packages.missing (environment n i) roots s).2 := by
  induction roots generalizing s with
  | nil => exact h
  | cons root rest ih =>
    have hprobe := h.probe i root
    rw [Packages.missing]
    revert hprobe
    rcases (environment n i).probe root s with ⟨fault | importable, s₁⟩
    · exact id
    · intro hprobe
      have hnoted :
          AtWork none n ((environment n i).note (Packages.probeEntry root importable) s₁) :=
        hprobe.withWorld _
      have hrest := ih hnoted
      dsimp only
      revert hrest
      rcases Packages.missing (environment n i) rest _ with ⟨_ | names, s₂⟩ <;> exact id

theorem AtWork.findPackages (h : AtWork none n s) (i : Nat) : Tidy (s.findPackages n i) := by
  have hbegun : AtWork none n (s.did (.search n)) :=
    h.same rfl rfl rfl fun _ => List.mem_append_left _
  have hmissing := hbegun.missing i (s.scanOf n).roots
  unfold Session.findPackages
  revert hmissing
  rcases Packages.missing (environment n i) (s.scanOf n).roots (s.did (.search n)) with
    ⟨fault | _ | ⟨first, rest⟩, s₁⟩
  · intro hmissing
    refine AtWork.endJob (?_ : AtWork none n _) _
    exact hmissing.same rfl rfl rfl fun _ => List.mem_append_left _
  · intro hmissing
    refine AtWork.queueChunk ?_ i
    exact hmissing.same rfl rfl rfl fun _ => List.mem_append_left _
  · intro hmissing
    refine AtWork.install ?_ i _ _
    exact hmissing.same rfl rfl rfl fun _ => List.mem_append_left _

theorem AtWork.queueResolving (h : AtWork none n s) (i : Nat) : Tidy (s.queueResolving n i) := by
  unfold Session.queueResolving
  split
  · exact h.queueChunk i
  · split
    · refine AtWork.findPackages ?_ i
      exact h.same rfl rfl rfl fun _ => id
    · have hqueued : AtWork none n { s with resolving := s.resolving.queue (.job n) } :=
        h.same rfl rfl rfl fun _ => id
      exact hqueued.setJob _ (by simp)

theorem AtWork.afterBridge (h : AtWork none n s) (i : Nat) : Tidy (s.afterBridge n i) := by
  unfold Session.afterBridge
  split
  · exact h.queueResolving i
  · exact h.endJob _

/-- A change of attempts by which none begins or ceases to run an adapter source. -/
theorem AtWork.withAttempts (h : AtWork none n s) {attempts : List Attempt}
    (hkept : ∀ (a : Nat) (made : Attempt), s.attempts[a]? = some made → made.stage.runs →
      ∃ made', attempts[a]? = some made' ∧ made'.interpreter = made.interpreter ∧
        made'.stage = made.stage)
    (hold : ∀ (a : Nat) (made : Attempt), attempts[a]? = some made → made.stage.runs →
      s.loading? a = some made.stage) : AtWork none n { s with attempts := attempts } := by
  refine ⟨⟨fun i hi => (h.tidy.calm i hi).imp ?_ id, h.tidy.jobs, fun {a resume} ha => ?_⟩, by simp,
    h.paused, h.asked⟩
  · rintro (hjob | ⟨a, made, hmade, rfl, hruns⟩)
    · exact .inl hjob
    · obtain ⟨made', hmade', hi', hstage⟩ := hkept a made hmade hruns
      exact .inr ⟨a, made', hmade', hi', hstage ▸ hruns⟩
  · obtain ⟨made, hmade, hstage⟩ := Option.map_eq_some_iff.mp ha
    exact h.tidy.attempts ((hold a made hmade (hstage ▸ trivial)).trans (congrArg some hstage))

theorem AtWork.newAttempt (h : AtWork none n s) (i : Nat) : AtWork none n (s.newAttempt i) := by
  have hadded : AtWork none n
      { s with attempts := s.attempts ++ [{ bridge := s.bridge, interpreter := i }] } := by
    refine h.withAttempts (fun a made hmade _ => ⟨made, ?_, rfl, rfl⟩) fun a made hmade hruns => ?_
    · exact List.getElem?_append_left (List.getElem?_eq_some_iff.mp hmade).1 ▸ hmade
    · rw [List.getElem?_append] at hmade
      split at hmade
      · rw [loading?, hmade]
        rfl
      · obtain rfl := List.mem_singleton.mp (List.mem_of_getElem? hmade)
        exact hruns.elim
  exact hadded.same rfl rfl rfl fun _ => id

theorem AtWork.watchAttempt (h : AtWork none n s) (i a : Nat) : Tidy (s.watchAttempt n i a) := by
  have hwatched : AtWork none n { s with attempts := s.attempts.modify a fun made =>
      { made with watchers := made.watchers ++ [n] } } := by
    refine h.withAttempts (fun b made hmade _ => ?_) fun b made hmade _ => ?_
    · rw [List.getElem?_modify, hmade]
      refine ⟨_, rfl, ?_⟩
      split <;> exact ⟨rfl, rfl⟩
    · obtain ⟨old, hold, rfl⟩ := getElem?_modify_some hmade
      rw [loading?, hold]
      split <;> rfl
  have hnoted : AtWork none n { s.did (.awaitAttempt n a) with
      attempts := s.attempts.modify a fun made =>
        { made with watchers := made.watchers ++ [n] } } :=
          hwatched.same rfl rfl rfl fun _ => List.mem_append_left _
  exact hnoted.setJob _ (by simp)

theorem AtWork.needBridge (h : AtWork none n s) (i : Nat) : Tidy (s.needBridge n i) := by
  unfold Session.needBridge
  split
  · exact h.afterBridge i
  · split
    · exact h.watchAttempt i _
    · exact (h.newAttempt i).watchAttempt i _

theorem AtWork.withInterpreter (h : AtWork none n s) (i : Nat) : Tidy (s.withInterpreter n i) := by
  have hentered : AtWork none n (s.did (.enter n i)) :=
    h.same rfl rfl rfl fun _ => List.mem_append_left _
  simp only [Session.withInterpreter]
  split
  · split
    · exact hentered.needBridge i
    · exact hentered.queueResolving i
  · exact hentered.endJob _

theorem AtWork.learnInterpreter (h : AtWork none n s) (c : Nat) (result : Except Fault Nat) :
    Tidy (s.learnInterpreter n c result) := by
  cases result with
  | ok i => exact h.withInterpreter i
  | error fault =>
    simp only [Session.learnInterpreter]
    split
    · refine AtWork.endJob (?_ : AtWork none n _) _
      exact h.same rfl rfl rfl fun _ => id
    · exact h.endJob _

theorem AtWork.watchConstruction (h : AtWork none n s) (c : Nat) :
    Tidy (s.watchConstruction n c) := by
  simp only [Session.watchConstruction]
  split
  · refine AtWork.learnInterpreter ?_ c _
    exact h.same rfl rfl rfl fun _ => List.mem_append_left _
  · refine AtWork.setJob (?_ : AtWork none n _) _ (by simp)
    exact h.same rfl rfl rfl fun _ => List.mem_append_left _

theorem AtWork.needInterpreter (h : AtWork none n s) : Tidy (s.needInterpreter n) := by
  unfold Session.needInterpreter
  split
  · exact h.withInterpreter _
  · exact h.watchConstruction _
  · refine AtWork.watchConstruction ?_ _
    exact h.same rfl rfl rfl fun _ => id

/-- A job that has come to a stage where its code is not running. -/
theorem atWork_of_stage? (h : Tidy s) {stage : Stage} (hn : s.stage? n = some stage)
    (hstage : ∀ i, ¬stage.runs i) : AtWork none n s := by
  refine ⟨h, by simp, fun stage' i hn' hruns => ?_, by simp [hn]⟩
  obtain rfl := Option.some.inj (hn.symm.trans hn')
  exact absurd hruns (hstage i)

theorem tidy_continueJob (h : Tidy s) (n : Nat) : Tidy (s.continueJob n) := by
  unfold continueJob
  split
  next hn =>
    unfold startJob
    split
    · exact (atWork_of_stage? h hn (by simp [Stage.runs])).needBridge _
    · exact (atWork_of_stage? h hn (by simp [Stage.runs])).needInterpreter
  next hn =>
    split
    · exact (atWork_of_stage? h hn (by simp [Stage.runs])).learnInterpreter _ _
    · exact h
  next hn =>
    split
    · exact (atWork_of_stage? h hn (by simp [Stage.runs])).afterBridge _
    · exact (atWork_of_stage? h hn (by simp [Stage.runs])).endJob _
    · exact h
  next i hn =>
    split
    · refine AtWork.findPackages ?_ i
      exact (atWork_of_stage? h hn (by simp [Stage.runs])).same rfl rfl rfl fun _ => id
    · exact h
  next hn => exact (atWork_of_stage? h hn (by simp [Stage.runs])).install _ _ _
  next hn =>
    split
    · exact (atWork_of_stage? h hn (by simp [Stage.runs])).startChunk _
    · exact h
  next i resume hn =>
    obtain ⟨hclearing, hbegun⟩ := h.jobs hn
    refine tidy_followChunk (Tidy.but h _) (fun stage j hstage hruns => ?_) (by simp [hn]) hbegun _
      (hclearing _ (scene_buffered i s))
    obtain rfl := Option.some.inj (hn.symm.trans hstage)
    exact congrArg some hruns
  all_goals exact h

/-! Runs. -/

theorem tidy_fire (h : Tidy s) (event : Event) : Tidy (s.fire event) := by
  cases event with
  | job n => exact tidy_continueJob h n
  | relay n => exact h.same rfl rfl rfl fun _ => id
  | construction c => exact tidy_continueConstruction h c
  | attempt a => exact tidy_continueAttempt h a

theorem tidy_submit (h : Tidy s) (request : Request) : Tidy (s.submit request) := by
  refine ⟨fun i hi => (h.calm i hi).imp ?_ id, fun {n i resume} hn => ?_, h.attempts⟩
  · rintro (⟨n, stage, hn, hruns, hdeed⟩ | hattempt)
    · refine .inl ⟨n, stage, ?_, hruns, hdeed⟩
      rw [stage?_submit, if_neg, hn]
      rintro rfl
      simp [stage?] at hn
    · exact .inr hattempt
  · rw [stage?_submit] at hn
    split at hn
    · cases hn
    · exact h.jobs hn

/-- To close an interpreter leaves nothing pending in it, even if the host refuses what was. -/
theorem pending_close (it : Interpreter) (w : World) : (it.close w).2.1.pending = [] := by
  have hbuffered : Buffered (it.scene w) := Option.some_ne_none _
  have hflush := hbuffered.pending_flush
  unfold Interpreter.close
  split
  all_goals
    next heq =>
      rw [heq] at hflush
      dsimp only at hflush
      simp [Interpreter.leftBy, hflush]

theorem tidy_close (h : Tidy s) : Tidy s.close.2 := by
  rcases hcurrent : s.current with _ | i
  · simp only [Session.close, hcurrent]
    exact h.same rfl rfl rfl fun _ => id
  · have hpending := pending_close (s.cell i).interpreter s.world
    simp only [Session.close, hcurrent]
    revert hpending
    rcases (s.cell i).interpreter.close s.world with ⟨fault, interpreter, w⟩
    intro hpending
    dsimp only at hpending
    have hclosed : Tidy (s.mapCell i fun c => { c with interpreter := interpreter }) := by
      refine ((Tidy.but h (some i)).mapCell _).close
        ((h.calm i (by simp)).imp id fun hcalm cell hcell => ?_)
      obtain ⟨old, hold, rfl⟩ := getElem?_modify_some hcell
      exact ⟨by simp [(hcalm old hold).held], by simp [hpending]⟩
    cases fault with
    | none => exact hclosed.same rfl rfl rfl fun _ => id
    | some fault => exact hclosed.same rfl rfl rfl fun _ => id

theorem Reaches.tidy {rule : Rule} {s₀ : Session} (h : Reaches rule s₀ s) (h₀ : Tidy s₀) :
    Tidy s := by
  induction h with
  | refl => exact h₀
  | tail _ hstep ih =>
    obtain ⟨cause, hstep, -⟩ := hstep
    cases hstep with
    | submit request => exact tidy_submit ih request
    | fire ready =>
      refine tidy_fire ?_ _
      exact ih.same rfl rfl rfl fun _ => id
    | close => exact tidy_close ih
    | outside world => exact ih.same rfl rfl rfl fun _ => id

end Chunkwise.Session
