import Chunkwise.Proofs.Execution.Actions
import Chunkwise.Proofs.Session.Books

/-!
What an event of an attempt does. The world shows what it has put on record, and the text that it
runs is the one that the network gives for the adapter source.
-/
namespace Chunkwise.Session
open Store Execution Bridge

/-- What an event of an attempt has done, which began with a world and a record. -/
structure Touches (K : Address → Prop) (settings : Settings) (a : Nat) (own : Address) (w : World)
    (r : List Deed) (s : Session) : Prop where
  /-- Until the adapter source runs, the world shows what was put on record. A text that waits to be
  run was given for the adapter source. -/
  still : .adapt a ∉ s.strides a → Books K settings a own w r s.world (s.strides a) ∧
    ∀ source, s.loading? a = some (.queuedToRun source) →
      w.web.reply (settings.get .adapterUrl) = .ok source
  /-- So was a text that runs, which it does last. -/
  ran : .adapt a ∈ s.strides a → ∃ (t : Session) (source : String), s = t.runAdapter a source ∧
    Books K settings a own w r t.world (t.strides a) ∧
      w.web.reply (settings.get .adapterUrl) = .ok source

/-- An attempt is at work in an event that began with a world and a record, and has this on record
now. The adapter source does not run yet. -/
structure Underway (K : Address → Prop) (given : Settings) (a : Nat) (own : Address) (w : World)
    (r record : List Deed) (s : Session) : Prop extends Stands given a record s where
  unadapted : .adapt a ∉ record
  home : (s.cell (s.interpreterOf a)).interpreter.globals = own
  guarded : Guarded K s.world.store
  books : Books K given a own w r s.world record

variable {K : Address → Prop} {settings : Settings} {a : Nat} {own : Address} {w : World}
  {r record : List Deed} {step : Deed} {s s' : Session}

theorem Touches.of_still (hn : .adapt a ∉ s.strides a)
    (hb : Books K settings a own w r s.world (s.strides a))
    (hq : ∀ source, s.loading? a = some (.queuedToRun source) →
      w.web.reply (settings.get .adapterUrl) = .ok source) :
    Touches K settings a own w r s :=
  ⟨fun _ => ⟨hb, hq⟩, fun hran => absurd hran hn⟩

namespace Underway

/-- A step begins. -/
theorem begin_step (h : Underway K settings a own w r record s) (deed : Deed)
    (hd : deed.attempt? = some a) (hs : deed.isStep) (hne : deed ≠ .adapt a)
    (hi : importedOf [deed] = []) : Underway K settings a own w r (record ++ [deed]) (s.did deed) where
  toStands := h.toStands.did deed hd
  unadapted := by simpa [h.unadapted] using hne.symm
  home := h.home
  guarded := h.guarded
  books := h.books.trans (.begin_step hs hi)

/-- A step has succeeded, with what the world shows of that. -/
theorem settle (h : Underway K settings a own w r record s) (world : World)
    (hg : Guarded K world.store)
    (hb : Books K settings a own s.world record world (record ++ [.settled a true])) :
    Underway K settings a own w r (record ++ [.settled a true])
      (({ s with world := world } : Session).did (.settled a true)) where
  toStands := (h.toStands.withWorld world).did _ rfl
  unadapted := by simpa using h.unadapted
  home := h.home
  guarded := hg
  books := h.books.trans hb

/-- A step has succeeded of which the world shows nothing. -/
theorem succeed (h : Underway K settings a own w r (record ++ [step]) s) (hs : step.isStep)
    (hsilent : Silent settings (step, true)) :
    Underway K settings a own w r (record ++ [step] ++ [.settled a true]) (s.did (.settled a true)) :=
  h.settle s.world h.guarded (.end_step hs hsilent)

/-- A step changes nothing that is reserved. -/
theorem withWorld (h : Underway K settings a own w r record s) (world : World)
    (hr : World.Reserved K s.world world)
    (hl : world.host.loaded = s.world.host.loaded ∨ ∃ urls, .loadAll a urls ∈ record) :
    Underway K settings a own w r record { s with world := world } where
  toStands := h.toStands.withWorld world
  unadapted := h.unadapted
  home := h.home
  guarded := hr.spared.guarded
  books := h.books.trans (.of_reserved hr hl)

/-- An attempt that fails does nothing more. -/
theorem fail (h : Underway K settings a own w r record s) (world : World) (fault : Fault)
    (hb : Books K settings a own s.world record world (record ++ [.settled a false])) :
    Touches K settings a own w r (({ s with world := world } : Session).failAttempt a fault) := by
  obtain ⟨hstage, hrecord⟩ := (h.toStands.withWorld world).failAttempt fault
  have hn : .adapt a ∉ record ++ [.settled a false] := by simpa using h.unadapted
  refine .of_still (hrecord ▸ hn) ?_ (by simp [hstage])
  rw [hrecord]
  -- the note on the failure is in the journal
  unfold Session.failAttempt
  split <;> exact (h.books.trans hb).of_eq rfl rfl rfl

/-- A step has failed, and the world shows nothing of that. -/
theorem fail_step (h : Underway K settings a own w r (record ++ [step]) s) (fault : Fault)
    (hs : step.isStep) (hsilent : Silent settings (step, false)) :
    Touches K settings a own w r (s.failAttempt a fault) :=
  h.fail s.world fault (.end_step hs hsilent)

/-- An attempt that pauses does nothing more. -/
theorem pause (h : Underway K settings a own w r record s) (stage : Loading) (s' : Session)
    (hs : s'.attempts = (s.setAttempt a stage).attempts) (hd : s'.deeds = s.deeds)
    (hw : s'.world = s.world)
    (hq : ∀ source, stage = .queuedToRun source →
      w.web.reply (settings.get .adapterUrl) = .ok source) :
    Touches K settings a own w r s' := by
  obtain ⟨hstage, hrecord⟩ := h.stage stage s' hs hd
  refine .of_still (hrecord ▸ h.unadapted) (by rw [hrecord, hw]; exact h.books) fun source hsource => ?_
  rw [hstage] at hsource
  exact hq source (Option.some.inj hsource)

end Underway

/-- What is run is on record. -/
theorem adapt_mem_runAdapter (source : String) (s : Session) :
    .adapt a ∈ (s.runAdapter a source).strides a := by
  refine (Moves.strides (moves_runAdapter a source s)).subset ?_
  rw [strides_did rfl]
  exact List.mem_append_right _ (List.mem_singleton_self _)

/-- A text that is run at once, or when it is its turn, is run last. -/
theorem Touches.of_run {source : String} (h : s'.strides a = s.strides a) (hw : s'.world = s.world)
    (hb : Books K settings a own w r s.world (s.strides a))
    (hq : w.web.reply (settings.get .adapterUrl) = .ok source) :
    Touches K settings a own w r (s'.runAdapter a source) :=
  ⟨fun hn => absurd (adapt_mem_runAdapter source s') hn,
    fun _ => ⟨s', source, rfl, by rw [h, hw]; exact hb, hq⟩⟩

/-- The network answers as long as its replies are the same. -/
theorem reply_of_fetch {w' w'' : World} {url timeout : Datum} {source : String}
    (hw : w'.web.replies = w.web.replies)
    (h : w'.fetch url timeout false = (.ok source, w'')) : w.web.reply url = .ok source := by
  have hreply : w'.web.reply url = w.web.reply url := by simp only [World.Web.reply, hw]
  simp only [World.fetch, World.Web.fetch, hreply, Prod.mk.injEq] at h
  rcases hok : w.web.reply url with fault | text
  · simp [hok, Except.mapError] at h
  · simpa [hok, Except.mapError] using h.1

namespace Underway

/-- A name is bound in the interpreter of an attempt, or nothing happens. -/
theorem bindName {field : Settings.Field} {v : Value} {result : Option Fault × Session}
    (h : Underway K settings a own w r (record ++ [.bind a field]) s)
    (hfits : Fits a record (field, v))
    (hresult : s.bindName (s.interpreterOf a) field v = result) :
    (result.1 = none → Underway K settings a own w r
      (record ++ [.bind a field] ++ [.settled a true]) (result.2.did (.settled a true)) ∧
      result.2.interpreterOf a = s.interpreterOf a) ∧
    (result.1 ≠ none → result.2 = s) := by
  subst hresult
  have hnot {world : World} (hweb : world.web = s.world.web) (hhost : world.host = s.world.host)
      (hg : Guarded K world.store) (hown : K own → world.store.names own =
        bindAs settings (s.world.store.names own) (field, v))
      (hnames : ∀ g, K g → g ≠ own → world.store.names g = s.world.store.names g) :=
    h.settle world hg (.bind_step hfits hweb hhost hown hnames)
  unfold Session.bindName
  rw [h.settings]
  split
  next name hname =>
    refine ⟨fun _ => ⟨hnot rfl rfl (h.guarded.mapNames _ _) (fun hown => ?_) fun g _ hne => ?_, rfl⟩,
      fun hfault => absurd rfl hfault⟩
    · simp only [bindAs, hname, ← h.home]
      exact World.names_bind (h.guarded _ (h.home ▸ hown)) name v
    · exact names_mapNames_ne (h.home ▸ hne.symm) _
  next key hkey =>
    split
    · refine ⟨fun _ => ⟨hnot rfl rfl h.guarded (fun _ => ?_) fun _ _ _ => rfl, rfl⟩, fun _ => rfl⟩
      simp only [bindAs]
    · exact ⟨fun hnone => absurd hnone (Option.some_ne_none _), fun _ => rfl⟩

theorem queueAdapter (h : Underway K settings a own w r record s) {source : String}
    (hq : w.web.reply (settings.get .adapterUrl) = .ok source) :
    Touches K settings a own w r (s.queueAdapter a source) := by
  simp only [Session.queueAdapter]
  split
  · exact .of_run (s := s) rfl rfl (h.onRecord ▸ h.books) hq
  · refine h.pause (.queuedToRun source) _ rfl rfl rfl fun source' heq => ?_
    cases heq
    exact hq

theorem fetchAdapter (h : Underway K settings a own w r (record ++ [.fetch a]) s) (turns : Nat) :
    Touches K settings a own w r (s.fetchAdapter a turns) := by
  cases turns with
  | succ turns => exact h.pause (.fetching turns) _ rfl rfl rfl (by simp)
  | zero =>
    obtain rfl := h.settings
    have hasked (success : Bool) : Books K s.settings a own s.world (record ++ [.fetch a])
        (s.world.fetch (s.settings.get .adapterUrl) (s.settings.get .httpTimeout) false).2
        (record ++ [.fetch a] ++ [.settled a success]) := .fetch_step success
    have hguarded : Guarded K (s.world.fetch (s.settings.get .adapterUrl)
      (s.settings.get .httpTimeout) false).2.store := h.guarded
    simp only [Session.fetchAdapter]
    rcases hfetch : s.world.fetch (s.settings.get .adapterUrl) (s.settings.get .httpTimeout) false
      with ⟨fault | source, world⟩
    all_goals rw [hfetch] at hasked hguarded
    · exact h.fail world _ (hasked false)
    · exact (h.settle world hguarded (hasked true)).queueAdapter
        (reply_of_fetch h.books.replies hfetch)

theorem bindLibrary {library : Value} (h : Underway K settings a own w r record s)
    (hfound : .seek a (some library) ∈ record) :
    Touches K settings a own w r (s.bindLibrary a library) := by
  have hraw := h.begin_step (.bind a .rawBinding) rfl rfl nofun rfl
  unfold Session.bindLibrary
  dsimp only
  rcases hresult : (s.did (.bind a .rawBinding)).bindName (s.interpreterOf a) .rawBinding library
    with ⟨_ | fault, s₁⟩
  case some =>
    obtain rfl := (hraw.bindName hfound hresult).2 nofun
    exact hraw.fail_step fault rfl ⟨rfl, rfl, rfl⟩
  case none =>
    obtain ⟨hbound, hi⟩ := (hraw.bindName hfound hresult).1 rfl
    have hwrap := hbound.begin_step (.wrap a (s₁.tensorOf library)) rfl rfl nofun rfl
    have hfound' : .seek a (some library) ∈ record ++ [.bind a .rawBinding] ++ [.settled a true] ++
        [.wrap a (s₁.tensorOf library)] ++ [.settled a true] := by simp [hfound]
    change ((s₁.did (.settled a true)).did (.wrap a (s₁.tensorOf library))).interpreterOf a =
      s.interpreterOf a at hi
    dsimp only at hwrap ⊢
    rw [← hi]
    generalize record ++ [.bind a .rawBinding] ++ [.settled a true] = record₁ at hwrap hfound'
    generalize (s₁.did (.settled a true)).did (.wrap a (s₁.tensorOf library)) = s₂ at hwrap ⊢
    -- making adapters adds an object and nothing else
    have hmade := hwrap.withWorld (s₂.world.act (makeAdapters library)).2
      (World.reserved_act hwrap.guarded (spares_makeAdapters library)) (.inl rfl)
    rcases hact : s₂.world.act (makeAdapters library) with ⟨fault | adapters, world⟩
    all_goals rw [hact] at hmade
    case error => exact hmade.fail_step fault rfl ⟨rfl, rfl, rfl⟩
    case ok =>
      have hutils := (hmade.succeed rfl ⟨rfl, rfl, rfl⟩).begin_step (.bind a .utilsBinding) rfl rfl
        nofun rfl
      have hfits : Fits a (record₁ ++ [.wrap a (s₁.tensorOf library)] ++ [.settled a true])
          (.utilsBinding, adapters) := ⟨library, s₂.world.store, hfound', congrArg (·.1) hact⟩
      dsimp only at hutils ⊢
      rcases hresult : Session.bindName (s₂.interpreterOf a) .utilsBinding adapters _
        with ⟨_ | fault, s₃⟩
      · exact (((hutils.bindName hfits hresult).1 rfl).1.begin_step (.fetch a) rfl rfl nofun
          rfl).fetchAdapter _
      · obtain rfl := (hutils.bindName hfits hresult).2 nofun
        exact hutils.fail_step fault rfl ⟨rfl, rfl, rfl⟩

theorem afterScripts (h : Underway K settings a own w r record s) :
    Touches K settings a own w r (s.afterScripts a) := by
  have hsought := h.begin_step (.seek a s.library?) rfl rfl nofun rfl
  have hmissing (fault : Fault) := hsought.fail_step fault rfl ⟨rfl, rfl, rfl⟩
  have hfound := hsought.succeed rfl ⟨rfl, rfl, rfl⟩
  have hsame : (s.did (.seek a s.library?)).library? = s.library? := rfl
  unfold Session.afterScripts
  dsimp only
  split
  · exact hmissing _
  · rw [hsame]
    generalize s.library? = found at hmissing hfound ⊢
    split
    · exact hmissing _
    · exact hmissing _
    · exact hfound.bindLibrary (by simp)

end Underway

/-! Scripts. -/

/-- A script that cannot be loaded leaves the world as it was. -/
theorem loadScript_failed {url : Datum} {world : World} {fault : Fault}
    (h : w.loadScript url = (some fault, world)) : world = w := by
  unfold World.loadScript at h
  dsimp only at h
  split at h <;> cases h
  rfl

/-- Code leaves an interpreter with the scope in which it binds names. -/
theorem globals_leave (i j : Nat) (scene : Scene) (s : Session) :
    ((s.leave i scene).cell j).interpreter.globals = (s.cell j).interpreter.globals := by
  simp only [cell, leave, mapCell, List.getElem?_modify]
  cases s.cells[j]? with
  | none => rfl
  | some c =>
    by_cases h : i = j
    · simp [h, Interpreter.leftBy]
    · simp [h]

namespace Underway

section
variable (hK : ¬K hostScope)
include hK

theorem settleAppend {next : Session → Session} {url : Datum}
    (h : Underway K settings a own w r (record ++ [.load a url]) s)
    (hnext : ∀ s, Underway K settings a own w r (record ++ [.load a url] ++ [.settled a true]) s →
      Touches K settings a own w r (next s)) :
    Touches K settings a own w r (settleScript a next (append lookUpScript url s)) := by
  have hloaded (hdone : (s.world.loadScript url).1 = none) :
      Books K settings a own s.world (record ++ [.load a url]) (s.world.loadScript url).2
        (record ++ [.load a url] ++ [.settled a true]) := .load_step h.guarded hK hdone
  have hguarded := (World.reserved_loadScript h.guarded hK url).spared.guarded
  unfold append lookUpScript
  rcases hload : s.world.loadScript url with ⟨_ | fault, world⟩
  · rw [hload] at hloaded hguarded
    exact hnext _ (h.settle world hguarded (hloaded rfl))
  · obtain rfl := loadScript_failed hload
    exact h.fail_step _ rfl ⟨rfl, rfl, rfl⟩

theorem appendScripts (h : Underway K settings a own w r record s) (urls : List Datum) :
    Touches K settings a own w r (s.appendScripts a urls) := by
  induction urls generalizing record s with
  | nil => exact h.afterScripts
  | cons url rest ih =>
    have hload := (h.begin_step (.load a url) rfl rfl nofun rfl).withWorld
      (appendNote url s.world) (.of_eq (.refl h.guarded) rfl rfl rfl) (.inl rfl)
    simp only [Session.appendScripts]
    split
    next turns _ => exact hload.pause (.appending url rest turns) _ rfl rfl rfl (by simp)
    · exact hload.settleAppend hK fun s hs => ih hs

theorem lookUpScript {urls : List Datum} (h : Underway K settings a own w r record s)
    (hall : .loadAll a urls ∈ record) (url : Datum) :
    Underway K settings a own w r record (Session.lookUpScript url s).2 :=
  h.withWorld (s.world.loadScript url).2 (World.reserved_loadScript h.guarded hK url)
    (.inr ⟨urls, hall⟩)

theorem runHostScript {urls : List Datum} (h : Underway K settings a own w r record s)
    (hall : .loadAll a urls ∈ record) (url : Datum) (source : String) :
    Underway K settings a own w r record (s.runHostScript url source).2 := by
  have hran (scene : Scene) (hscene : scene.world = s.world) : Underway K settings a own w r record
      { s with world := (runScript url source scene).2.world } :=
    h.withWorld _ (hscene ▸ reserved_runScript (hscene ▸ h.guarded) hK url source)
      (.inr ⟨urls, hall⟩)
  unfold Session.runHostScript
  split
  next i _ =>
    have hleft := hran (s.scene i) rfl
    exact ⟨⟨hleft.settings, hleft.alive, hleft.onRecord⟩, hleft.unadapted,
      (globals_leave i _ _ s).trans h.home, hleft.guarded, hleft.books⟩
  next => exact hran { pending := none, world := s.world } rfl

theorem importScript {urls : List Datum} (h : Underway K settings a own w r record s)
    (hall : .loadAll a urls ∈ record) (url : Datum) :
    Underway K settings a own w r record (Session.importScript url s).2 := by
  unfold Session.importScript
  split
  · have hfetched := h.withWorld (s.world.fetch url (s.settings.get .httpTimeout) true).2
      (World.reserved_fetch h.guarded url _) (.inl rfl)
    split
    next fault world heq =>
      rw [heq] at hfetched
      exact hfetched
    next source world heq =>
      rw [heq] at hfetched
      exact hfetched.runHostScript hK hall url source
  · exact h.lookUpScript hK hall url

theorem settleImport {next : Session → Session} {means : World.Means}
    (h : Underway K settings a own w r (record ++ [.choose a means]) s) (urls : List Datum)
    (hnext : ∀ s record, Underway K settings a own w r record s →
      Touches K settings a own w r (next s)) :
    Touches K settings a own w r
      (settleScript a next (importAll Session.importScript (callForAll a urls) urls s)) := by
  unfold importAll
  split
  next fault _ => exact h.fail_step fault rfl ⟨rfl, rfl, rfl⟩
  next names hnames =>
    have hchosen := h.succeed rfl ⟨rfl, rfl, rfl⟩
    have hcalled : Underway K settings a own w r
        (record ++ [.choose a means] ++ [.settled a true] ++ [.loadAll a urls])
        (callForAll a urls names s) :=
      { toStands := ((hchosen.did (.loadAll a urls) rfl).withWorld _)
        unadapted := by simpa using hchosen.unadapted
        home := hchosen.home
        guarded := hchosen.guarded
        books := hchosen.books.trans (.call_step (Datum.joinTexts_eq hnames)) }
    have hall : .loadAll a urls ∈
        record ++ [.choose a means] ++ [.settled a true] ++ [.loadAll a urls] := by simp
    have hloaded := loadInOrder_keeps
      (P := Underway K settings a own w r
        (record ++ [.choose a means] ++ [.settled a true] ++ [.loadAll a urls]))
      (fun url _ hs => hs.importScript hK hall url) urls hcalled
    generalize loadInOrder Session.importScript _ _ = result at hloaded ⊢
    obtain ⟨_ | fault, s'⟩ := result
    · exact hnext _ _ (hloaded.succeed rfl ⟨rfl, rfl, rfl⟩)
    · exact hloaded.fail_step _ rfl ⟨rfl, rfl, rfl⟩

theorem startAttempt (h : Underway K settings a own w r record s) :
    Touches K settings a own w r (s.startAttempt a) := by
  have hchosen (message : String) := (h.withWorld (s.world.note .info .bridge message)
    (.of_eq (.refl h.guarded) rfl rfl rfl) (.inl rfl)).begin_step (.choose a s.world.host.means)
      rfl rfl nofun rfl
  unfold Session.startAttempt
  dsimp only
  split
  · exact (hchosen _).fail_step _ rfl ⟨rfl, rfl, rfl⟩
  · exact ((hchosen _).succeed rfl ⟨rfl, rfl, rfl⟩).appendScripts hK _
  · exact (hchosen _).settleImport hK _ fun s _ hs => hs.afterScripts

end

end Underway

/-- What an event of an attempt does before the adapter source runs or waits to be run. -/
theorem touches_continueAttempt (hK : ¬K hostScope) (h : Recorded settings a s)
    (hs : s.settings = settings) (hg : Guarded K s.world.store) (hn : .adapt a ∉ s.strides a)
    (hq : ∀ source, s.loading? a ≠ some (.queuedToRun source)) :
    Touches K settings a (s.cell (s.interpreterOf a)).interpreter.globals s.world (s.strides a)
      (s.continueAttempt a) := by
  have hidle : Touches K settings a (s.cell (s.interpreterOf a)).interpreter.globals s.world
      (s.strides a) s :=
    .of_still hn (.refl ..) fun source hsource => absurd hsource (hq source)
  have hbegun (halive : (s.loading? a).isSome) : Underway K settings a
      (s.cell (s.interpreterOf a)).interpreter.globals s.world (s.strides a) (s.strides a) s :=
    ⟨⟨hs, halive, rfl⟩, hn, rfl, hg, .refl ..⟩
  unfold Recorded at h
  unfold Session.continueAttempt
  generalize s.loading? a = stage at h hq hbegun ⊢
  generalize s.strides a = record at h hn hbegun hidle ⊢
  cases h with
  | starting => exact (hbegun rfl).startAttempt hK
  | @appending front rest url turns _ =>
    cases turns with
    | zero => exact (hbegun rfl).settleAppend hK fun s' hs' => hs'.appendScripts hK rest
    | succ turns =>
      exact (hbegun rfl).pause (.appending url rest turns) _ rfl rfl rfl (by simp)
  | @fetching f turns _ => exact (hbegun rfl).fetchAdapter turns
  | queued => exact absurd rfl (hq _)
  | running | stuck => exact absurd (List.mem_append_right _ (List.mem_singleton_self _)) hn
  | unborn | ready | failed => exact hidle

end Chunkwise.Session
