import Chunkwise.Packages.Resolution
import Chunkwise.Proofs.Import.Concatenation

/-!
Resolving packages, step by step. Each distinct name is probed once and in order, what is missing is
asked for in one batch, and the answer of the installer is handed on in one of three ways. Whoever
resolves the same names again, in whatever order, finds them there.
-/
namespace Chunkwise.Packages
open Text

variable {σ : Type} {env : Environment σ} {install : List String → σ → Option Fault × σ}
  {names order roots : List String} {s s' : σ}

/-! Environments that remember. -/

/-- Something that is asked. -/
inductive Query where
  /-- Whether a name can be imported. There is no answer if the probe failed. -/
  | probe (root : String) (answer : Option Bool)
  | install (names : List String)
  deriving DecidableEq, Repr

/-- The environment, with a record of what it is asked. -/
def Environment.recorded (env : Environment σ) : Environment (List Query × σ) where
  probe root s :=
    match env.probe root s.2 with
    | (result, s') => (result, s.1 ++ [.probe root result.toOption], s')
  note entry s := (s.1, env.note entry s.2)

/-- The installer, with a record of what it is asked for. -/
def recordedInstall (install : List String → σ → Option Fault × σ) (names : List String)
    (s : List Query × σ) : Option Fault × (List Query × σ) :=
  match install names s.2 with
  | (fault, s') => (fault, s.1 ++ [.install names], s')

/-- Resolving with a record that is empty at first. -/
abbrev resolved (env : Environment σ) (install : List String → σ → Option Fault × σ)
    (roots : List String) (s : σ) : Except Fault (List String) × (List Query × σ) :=
  resolve env.recorded (recordedInstall install) roots ([], s)

/-- No probe fails. -/
def Environment.Answers (env : Environment σ) : Prop :=
  ∀ root s, ∃ importable, (env.probe root s).1 = .ok importable

/-- The record of a search that was answered. -/
def probes (answer : String → Bool) (order : List String) : List Query :=
  order.map fun root => .probe root (some (answer root))

/-- The record of the batch: there is none when nothing is missing. -/
def batch (missing : List String) : List Query :=
  if missing = [] then [] else [.install missing]

/-- A search goes on behind a probe that was answered. -/
theorem missing_cons {root : String} {rest : List String} {importable : Bool} {s₁ s₂ : σ}
    (hprobe : env.probe root s = (.ok importable, s₁))
    (hrest : missing env rest (env.note (probeEntry root importable) s₁) = (.ok names, s₂)) :
    missing env (root :: rest) s = (.ok (if importable then names else root :: names), s₂) := by
  simp only [missing, hprobe, hrest]

/-- A search probes each name in turn and finds those missing that were answered so. The record
changes nothing and holds the probes. -/
theorem missing_eq (h : env.Answers) (hn : order.Nodup) (s : σ) :
    ∃ (answer : String → Bool) (s' : σ),
      missing env order s = (.ok (order.filter fun root => !answer root), s') ∧
      ∀ queries, missing env.recorded order (queries, s) =
        (.ok (order.filter fun root => !answer root), queries ++ probes answer order, s') := by
  induction order generalizing s with
  | nil => exact ⟨fun _ => true, s, rfl, fun queries => by simp [missing, probes]⟩
  | cons root rest ih =>
    obtain ⟨hroot, hrest⟩ := List.nodup_cons.mp hn
    obtain ⟨importable, hprobe⟩ := h root s
    obtain ⟨s₁, hprobe⟩ : ∃ s₁, env.probe root s = (.ok importable, s₁) := ⟨_, Prod.ext hprobe rfl⟩
    obtain ⟨answer, s₂, hplain, hrecorded⟩ := ih hrest (env.note (probeEntry root importable) s₁)
    -- the answers of the rest say nothing of the first name, which is not among them
    have hother : ∀ r ∈ rest, Function.update answer root importable r = answer r := fun r hr =>
      Function.update_of_ne (ne_of_mem_of_not_mem hr hroot) ..
    have hfilter : (root :: rest).filter (fun r => !Function.update answer root importable r) =
        if importable then rest.filter (fun r => !answer r)
        else root :: rest.filter (fun r => !answer r) := by
      rw [List.filter_cons, Function.update_self,
        List.filter_congr fun r hr => by rw [hother r hr]]
      cases importable <;> rfl
    have hprobes : probes (Function.update answer root importable) (root :: rest) =
        .probe root (some importable) :: probes answer rest := by
      rw [probes, List.map_cons, Function.update_self,
        List.map_congr_left fun r hr => by rw [hother r hr]]
      rfl
    refine ⟨Function.update answer root importable, s₂, ?_, fun queries => ?_⟩
    · rw [hfilter]
      exact missing_cons hprobe hplain
    · have hfirst : env.recorded.probe root (queries, s) =
          (.ok importable, queries ++ [.probe root (some importable)], s₁) := by
        simp only [Environment.recorded, hprobe]
        rfl
      rw [hfilter, hprobes, List.append_cons]
      exact missing_cons hfirst (hrecorded (queries ++ [.probe root (some importable)]))

/-! What comes of the batch. -/

/-- How the fault of an install is told: a failed resolution and what is no ordinary fault are told
as they are, and any other as a failed resolution of all that was asked for, caused by it. -/
structure Told (names : List String) (fault told : Fault) : Prop where
  resolution : fault.kind.isA .resolutionFailure → told = fault
  extraordinary : ¬fault.kind.isOrdinary → told = fault
  ordinary : fault.kind.isOrdinary → ¬fault.kind.isA .resolutionFailure →
    told.kind = .resolutionFailure ∧ told.detail = some (.resolution names fault.safeText) ∧
      told.cause = some fault

theorem told_installFault (names : List String) (fault : Fault) :
    Told names fault (installFault names fault) where
  resolution h := if_pos (.inl h)
  extraordinary h := if_pos (.inr h)
  ordinary h hother := by
    rw [installFault, if_neg (not_or.mpr ⟨hother, not_not_intro h⟩)]
    exact ⟨rfl, rfl, rfl⟩

/-- What resolving comes to when the search has found what is missing. -/
theorem resolve_of_missing (h : missing env (sortedSet roots) s = (.ok names, s')) :
    resolve env install roots s =
      if names = [] then (.ok [], s')
      else
        match install names s' with
        | (none, s'') => (.ok names, s'')
        | (some fault, s'') => (.error (installFault names fault), s'') := by
  cases names with
  | nil => simp only [resolve, h, if_pos]
  | cons name rest =>
    rcases hinstall : install (name :: rest) s' with ⟨_ | fault, s''⟩ <;>
      simp [resolve, h, hinstall]

/-- The record changes nothing and holds the probes and then the batch. -/
theorem resolve_eq (h : env.Answers) (install : List String → σ → Option Fault × σ)
    (roots : List String) (s : σ) : ∃ (answer : String → Bool) (s' : σ),
      missing env (sortedSet roots) s =
        (.ok ((sortedSet roots).filter fun root => !answer root), s') ∧
      ∀ queries, resolve env.recorded (recordedInstall install) roots (queries, s) =
        ((resolve env install roots s).1,
          queries ++ probes answer (sortedSet roots) ++
            batch ((sortedSet roots).filter fun root => !answer root),
          (resolve env install roots s).2) := by
  have hnodup : (sortedSet roots).Nodup := (pairwise_sortedSet roots).imp fun hlt => ne_of_lt hlt
  obtain ⟨answer, s', hplain, hrecorded⟩ := missing_eq h hnodup s
  refine ⟨answer, s', hplain, fun queries => ?_⟩
  rw [resolve_of_missing hplain, resolve_of_missing (hrecorded queries), batch]
  split
  next => rw [List.append_nil]
  next hsome =>
    simp only [recordedInstall]
    rcases install _ s' with ⟨_ | fault, s''⟩ <;> rfl

/-! Names that have been found stay found. -/

/-- A name can be imported. -/
def Environment.Finds (env : Environment σ) (s : σ) (root : String) : Prop :=
  (env.probe root s).1 = .ok true

/-- What can be imported stays so, and so can be what was installed. -/
structure Environment.Provides (env : Environment σ)
    (install : List String → σ → Option Fault × σ) : Prop where
  probe : ∀ {root : String} (other : String) {s : σ},
    env.Finds s root → env.Finds (env.probe other s).2 root
  note : ∀ {root : String} (entry : World.Entry) {s : σ},
    env.Finds s root → env.Finds (env.note entry s) root
  keep : ∀ {names : List String} {s s' : σ}, install names s = (none, s') →
    ∀ {root : String}, env.Finds s root → env.Finds s' root
  supply : ∀ {names : List String} {s s' : σ}, install names s = (none, s') →
    ∀ root ∈ names, env.Finds s' root

/-- What is not missing behind a search can be imported. -/
theorem Environment.Provides.finds_of_missing (h : env.Provides install)
    (hmissing : missing env order s = (.ok names, s')) :
    (∀ {root}, env.Finds s root → env.Finds s' root) ∧
      ∀ root ∈ order, root ∉ names → env.Finds s' root := by
  induction order generalizing s names with
  | nil =>
    obtain ⟨-, rfl⟩ := Prod.mk.inj hmissing
    exact ⟨id, nofun⟩
  | cons first rest ih =>
    rw [missing] at hmissing
    rcases hprobe : env.probe first s with ⟨_ | importable, s₁⟩
    · rw [hprobe] at hmissing
      cases hmissing
    · have hkeep {root : String} (hroot : env.Finds s root) :
          env.Finds (env.note (probeEntry first importable) s₁) root := by
        have := h.note (probeEntry first importable) (h.probe first hroot)
        rwa [hprobe] at this
      rw [hprobe] at hmissing
      dsimp only at hmissing
      rcases hrest : missing env rest (env.note (probeEntry first importable) s₁) with
        ⟨_ | left, s₂⟩
      · rw [hrest] at hmissing
        cases hmissing
      · rw [hrest] at hmissing
        obtain ⟨hnames, rfl⟩ := Prod.mk.inj hmissing
        obtain rfl := Except.ok.inj hnames
        obtain ⟨hlast, hfound⟩ := ih hrest
        refine ⟨fun hroot => hlast (hkeep hroot), fun root hroot habsent => ?_⟩
        rcases List.mem_cons.mp hroot with rfl | hroot
        · cases importable with
          | true => exact hlast (hkeep (by rw [Environment.Finds, hprobe]))
          | false => exact absurd List.mem_cons_self habsent
        · refine hfound root hroot fun hmem => habsent ?_
          split
          next => exact hmem
          next => exact List.mem_cons_of_mem first hmem

/-- A search for what can be imported finds it all. -/
theorem Environment.Provides.missing_of_finds (h : env.Provides install)
    (hfinds : ∀ root ∈ order, env.Finds s root) : ∃ s', missing env order s = (.ok [], s') := by
  induction order generalizing s with
  | nil => exact ⟨s, rfl⟩
  | cons first rest ih =>
    obtain ⟨s₁, hprobe⟩ : ∃ s₁, env.probe first s = (.ok true, s₁) :=
      ⟨_, Prod.ext (hfinds first List.mem_cons_self) rfl⟩
    have hrest : ∀ root ∈ rest, env.Finds (env.note (probeEntry first true) s₁) root := by
      intro root hroot
      have := h.note (probeEntry first true)
        (h.probe first (hfinds root (List.mem_cons_of_mem first hroot)))
      rwa [hprobe] at this
    obtain ⟨s₂, hleft⟩ := ih hrest
    exact ⟨s₂, missing_cons hprobe hleft⟩

/-- What was resolved can be imported. -/
theorem Environment.Provides.finds_of_resolve (h : env.Provides install) (hanswers : env.Answers)
    (hresolve : resolve env install roots s = (.ok names, s')) : ∀ root ∈ roots, env.Finds s' root := by
  obtain ⟨answer, s₁, hmissing, -⟩ := resolve_eq hanswers install roots s
  obtain ⟨-, hfound⟩ := h.finds_of_missing hmissing
  rw [resolve_of_missing hmissing] at hresolve
  intro root hroot
  have hroot : root ∈ sortedSet roots := mem_sortedSet.mpr hroot
  split at hresolve
  next hnone =>
    obtain ⟨-, rfl⟩ := Prod.mk.inj hresolve
    exact hfound root hroot (hnone ▸ List.not_mem_nil)
  next =>
    rcases hinstall : install ((sortedSet roots).filter fun root => !answer root) s₁ with
      ⟨_ | fault, s₂⟩
    · rw [hinstall] at hresolve
      obtain ⟨-, rfl⟩ := Prod.mk.inj hresolve
      by_cases hmem : root ∈ (sortedSet roots).filter fun root => !answer root
      · exact h.supply hinstall root hmem
      · exact h.keep hinstall (hfound root hroot hmem)
    · rw [hinstall] at hresolve
      cases hresolve

/-- Names that can be imported are probed, and nothing else is asked. -/
theorem Environment.Provides.resolved_of_finds (h : env.Provides install) (hanswers : env.Answers)
    (hfinds : ∀ root ∈ roots, env.Finds s root) :
    (resolved env install roots s).1 = .ok [] ∧
      (resolved env install roots s).2.1 = probes (fun _ => true) (sortedSet roots) := by
  obtain ⟨answer, s₁, hmissing, hrecorded⟩ := resolve_eq hanswers install roots s
  obtain ⟨s₂, hall⟩ := h.missing_of_finds fun root hroot => hfinds root (mem_sortedSet.mp hroot)
  obtain ⟨hnone, -⟩ := Prod.mk.inj (hmissing.symm.trans hall)
  have hnone := Except.ok.inj hnone
  have hanswer : ∀ root ∈ sortedSet roots, answer root = true := by
    simpa [List.filter_eq_nil_iff] using hnone
  have hresolve : resolve env install roots s = (.ok [], s₁) := by
    rw [resolve_of_missing hmissing, if_pos hnone]
  rw [resolved, hrecorded, hresolve, hnone]
  refine ⟨rfl, ?_⟩
  have hprobes : probes answer (sortedSet roots) = probes (fun _ => true) (sortedSet roots) :=
    List.map_congr_left fun root hroot => by rw [hanswer root hroot]
  rw [hprobes]
  exact List.append_nil _

/-- What resolving does where no probe fails. Each distinct name is probed once, in the order of code
points, and before anything is installed; then the names found missing are asked for in one batch, if
there are any, in the same order. They are given when the installer has met the request, and its fault
is told when it has not. The record that says so changes nothing. Where what can be imported stays so
and what is installed can be imported, all the names can be imported behind a success, and whoever
resolves them again installs nothing. All this hangs on which names there are, and not on their order
or number. -/
theorem resolve_contract (h : env.Answers) (install : List String → σ → Option Fault × σ)
    (roots : List String) (s : σ) :
    ∃ (order absent : List String) (answer : String → Bool) (s' : σ),
      order.Pairwise (· < ·) ∧ (∀ root, root ∈ order ↔ root ∈ roots) ∧
      absent = order.filter (fun root => !answer root) ∧ s' = (missing env order s).2 ∧
      (resolved env install roots s).2.1 = probes answer order ++ batch absent ∧
      ((resolved env install roots s).1, (resolved env install roots s).2.2) =
        resolve env install roots s ∧
      (absent = [] → resolve env install roots s = (.ok [], s')) ∧
      (absent ≠ [] →
        (∀ s'', install absent s' = (none, s'') → resolve env install roots s = (.ok absent, s'')) ∧
        ∀ fault s'', install absent s' = (some fault, s'') →
          ∃ told, resolve env install roots s = (.error told, s'') ∧ Told absent fault told) ∧
      (env.Provides install → ∀ names s'', resolve env install roots s = (.ok names, s'') →
        (∀ root ∈ roots, env.Finds s'' root) ∧ (resolved env install roots s'').1 = .ok [] ∧
        (resolved env install roots s'').2.1 = probes (fun _ => true) order) ∧
      ∀ roots', (∀ root, root ∈ roots' ↔ root ∈ roots) →
        resolved env install roots' s = resolved env install roots s := by
  obtain ⟨answer, s', hmissing, hrecorded⟩ := resolve_eq h install roots s
  refine ⟨sortedSet roots, _, answer, s', pairwise_sortedSet roots, fun root => mem_sortedSet, rfl,
    by rw [hmissing], ?_, ?_, fun hnone => ?_, fun hsome => ⟨fun s'' hinstall => ?_,
    fun fault s'' hinstall => ⟨_, ?_, told_installFault _ fault⟩⟩, fun hprovides names s'' hok => ?_,
    fun roots' hsame => ?_⟩
  · rw [resolved, hrecorded]
    rfl
  · rw [resolved, hrecorded]
  · rw [resolve_of_missing hmissing, if_pos hnone]
  · rw [resolve_of_missing hmissing, if_neg hsome, hinstall]
  · rw [resolve_of_missing hmissing, if_neg hsome, hinstall]
  · have hfinds := hprovides.finds_of_resolve h hok
    exact ⟨hfinds, hprovides.resolved_of_finds h hfinds⟩
  · simp only [resolved, resolve, sortedSet_congr hsame]

/-- Two names of three are missing: one batch makes them importable, and the second time nothing is. -/
theorem resolve_contract_of_two_missing :
    let env : Environment (List String) :=
      { probe := fun root s => (.ok (decide (root ∈ s)), s), note := fun _ s => s }
    let install : List String → List String → Option Fault × List String :=
      fun names s => (none, s ++ names)
    env.Answers ∧ env.Provides install ∧
      resolve env install ["b", "os", "a", "b"] ["os"] = (.ok ["a", "b"], ["os", "a", "b"]) ∧
      (resolved env install ["b", "os", "a", "b"] ["os", "a", "b"]).1 = .ok [] := by
  intro env install
  have hanswers : env.Answers := fun root s => ⟨decide (root ∈ s), rfl⟩
  have hprovides : env.Provides install :=
    { probe := fun _ => id
      note := fun _ => id
      keep := by
        rintro names s s' hinstall root hroot
        obtain ⟨-, rfl⟩ := Prod.mk.inj hinstall
        simp_all [Environment.Finds, env]
      supply := by
        rintro names s s' hinstall root hroot
        obtain ⟨-, rfl⟩ := Prod.mk.inj hinstall
        simp [Environment.Finds, env, hroot] }
  have hresolve : resolve env install ["b", "os", "a", "b"] ["os"] =
      (.ok ["a", "b"], ["os", "a", "b"]) := by cbv
  obtain ⟨order, absent, answer, s', -, -, -, -, -, -, -, -, hagain, -⟩ :=
    resolve_contract hanswers install ["b", "os", "a", "b"] ["os"]
  exact ⟨hanswers, hprovides, hresolve, (hagain hprovides _ _ hresolve).2.1⟩

end Chunkwise.Packages
