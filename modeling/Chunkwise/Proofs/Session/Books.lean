import Chunkwise.Proofs.Session.Strides
import Chunkwise.Proofs.World.Leaves

/-!
What the world shows of the steps of an attempt: the scripts that were loaded, the calls for all
scripts, the requests for the adapter source, and the names that were bound. Nothing else is touched
but the names of the host, which belong to the scripts.
-/
namespace Chunkwise
open Store Execution

variable {K : Address → Prop}

namespace World

/-- The requests that the program does not wait for: those for adapter sources. -/
def asked (w : World) : List Request :=
  w.web.requests.filter fun request => !request.blocking

/-- What scripts leave as it is: the names in scopes that are kept, what the network answers, what it
was asked but for scripts, and the calls for scripts. -/
structure Reserved (K : Address → Prop) (w w' : World) : Prop where
  spared : Spared K w.store w'.store
  replies : w'.web.replies = w.web.replies
  asked : w'.asked = w.asked
  imported : w'.host.imported = w.host.imported

variable {w w' w'' : World}

theorem Reserved.refl (h : Guarded K w.store) : Reserved K w w :=
  ⟨h.refl, rfl, rfl, rfl⟩

/-- Nothing that is reserved has changed further. -/
theorem Reserved.of_eq (h : Reserved K w w') (hs : w''.store = w'.store) (hw : w''.web = w'.web)
    (hi : w''.host.imported = w'.host.imported) : Reserved K w w'' :=
  ⟨hs ▸ h.spared, hw ▸ h.replies, by rw [World.asked, hw]; exact h.asked, hi.trans h.imported⟩

theorem reserved_loadScript (h : Guarded K w.store) (hK : ¬K hostScope) (url : Datum) :
    Reserved K w (w.loadScript url).2 := by
  unfold World.loadScript
  dsimp only
  split
  · exact .refl h
  · exact ⟨spared_apply _ h hK, rfl, rfl, rfl⟩

/-- The program waits for the text of a script. -/
theorem reserved_fetch (h : Guarded K w.store) (url timeout : Datum) :
    Reserved K w (w.fetch url timeout true).2 :=
  ⟨h.refl, rfl, by simp [World.asked, World.fetch, Web.fetch], rfl⟩

theorem reserved_act {α : Type} {action : Action α} (h : Guarded K w.store)
    (hs : Action.Spares K action) : Reserved K w (w.act action).2 :=
  ⟨(hs w.store h).1, rfl, rfl, rfl⟩

/-- What is sent changes who has heard it. -/
theorem send_web (text : String) (w : World) :
    ((w.send text).2.web, (w.send text).2.host.imported) = (w.web, w.host.imported) := by
  unfold World.send
  split <;> rfl

end World

namespace Execution

theorem Scene.write_web (text : List Char) (s : Scene) :
    ((s.write text).2.world.web, (s.write text).2.world.host.imported) =
      (s.world.web, s.world.host.imported) := by
  unfold Scene.write
  split
  · rfl
  · exact Output.forward_eq (f := fun w : World => (w.web, w.host.imported)) World.send_web _ _ _

theorem Scene.flush_web (s : Scene) :
    (s.flush.2.world.web, s.flush.2.world.host.imported) = (s.world.web, s.world.host.imported) := by
  unfold Scene.flush
  split
  · rfl
  · exact Output.flush_eq (f := fun w : World => (w.web, w.host.imported)) World.send_web _ _

/-- Code of the host leaves alone what is reserved. -/
theorem closed_reserved {own : Address} {w : World} (hown : ¬K own) :
    Closed K own fun s => World.Reserved K w s.world where
  guarded h := h.spared.guarded
  spared h hs := ⟨h.spared.trans hs, h.replies, h.asked, h.imported⟩
  bound f h ha := by
    have hnot := ha.elim (fun e => e ▸ hown) id
    exact ⟨h.spared.trans (World.spared_mapNames h.spared.guarded hnot f), h.replies, h.asked,
      h.imported⟩
  written text h := by
    obtain ⟨hweb, himported⟩ := Prod.mk.inj (Scene.write_web text _)
    exact h.of_eq (Scene.write_store text _) hweb himported
  flushed h := by
    obtain ⟨hweb, himported⟩ := Prod.mk.inj (Scene.flush_web _)
    exact h.of_eq (Scene.flush_store _) hweb himported
  loaded _ h := h.of_eq rfl rfl rfl

theorem reserved_runScript {scene : Scene} (h : Guarded K scene.world.store) (hK : ¬K hostScope)
    (url : Datum) (source : String) :
    World.Reserved K scene.world (runScript url source scene).2.world :=
  kept_runScript (closed_reserved hK) (.refl h) url source

end Execution

namespace Session
open Bridge

/-! What the record says. -/

/-- The steps on record that are over, with how they went. -/
def outcomes : List Deed → List (Deed × Bool)
  | step :: .settled _ success :: rest => (step, success) :: outcomes rest
  | _ :: rest => outcomes rest
  | [] => []

/-- What the world shows of the steps that are over. -/
def shown {α : Type} (trace : Deed × Bool → Option α) (record : List Deed) : List α :=
  (outcomes record).filterMap trace

/-- A script was loaded on its own. -/
def loadedBy : Deed × Bool → Option Datum
  | (.load _ url, true) => some url
  | _ => none

/-- The adapter source was asked for, whatever came of it. -/
def askedBy (settings : Settings) : Deed × Bool → Option World.Request
  | (.fetch _, _) => some ⟨settings.get .adapterUrl, settings.get .httpTimeout, false⟩
  | _ => none

/-- A name was bound. -/
def boundBy : Deed × Bool → Option Settings.Field
  | (.bind _ field, true) => some field
  | _ => none

/-- The world shows nothing of how a step went. -/
def Silent (settings : Settings) (outcome : Deed × Bool) : Prop :=
  loadedBy outcome = none ∧ askedBy settings outcome = none ∧ boundBy outcome = none

/-- The calls for all scripts, of which the host learns before they are loaded. -/
def importedOf (record : List Deed) : List (List Datum) :=
  record.filterMap fun
    | .loadAll _ urls => some urls
    | _ => none

/-- The value of a name that an attempt binds is the library that was found, or the adapters around
it. -/
def Fits (a : Nat) (record : List Deed) : Settings.Field × Value → Prop
  | (.rawBinding, v) => .seek a (some v) ∈ record
  | (.utilsBinding, v) => ∃ library store, .seek a (some library) ∈ record ∧
      (makeAdapters library store).1 = .ok v
  | _ => False

/-- Binds a value under the name that a setting gives. -/
def bindAs (settings : Settings) (names : Bindings) : Settings.Field × Value → Bindings
  | (field, v) =>
    match settings.get field with
    | .str name => names.set name v
    | _ => names

/-! What the world shows of it. -/

/-- Two lists grow by the same items. -/
def Grown {α : Type} (l l' r r' : List α) : Prop :=
  ∃ more, l' = l ++ more ∧ r' = r ++ more

/-- The names of chunks change as names are bound. -/
def Bound (settings : Settings) (a : Nat) (names : Bindings) (r : List Deed) (names' : Bindings)
    (r' : List Deed) : Prop :=
  ∃ entries : List (Settings.Field × Value),
    shown boundBy r' = shown boundBy r ++ entries.map (·.1) ∧
    (∀ entry ∈ entries, Fits a r' entry) ∧ names' = entries.foldl (bindAs settings) names

/-- From one moment to another the world has changed as the record of an attempt says. -/
structure Books (K : Address → Prop) (settings : Settings) (a : Nat) (own : Address) (w : World)
    (r : List Deed) (w' : World) (r' : List Deed) : Prop where
  longer : r <+: r'
  replies : w'.web.replies = w.web.replies
  /-- The scripts that are loaded one by one. -/
  loaded : (∀ urls, .loadAll a urls ∉ r') →
    Grown w.host.loaded w'.host.loaded (shown loadedBy r) (shown loadedBy r')
  /-- The calls for all of them. -/
  imported : Grown w.host.imported w'.host.imported (importedOf r) (importedOf r')
  /-- The requests for the adapter source. -/
  asked : Grown w.asked w'.asked (shown (askedBy settings) r) (shown (askedBy settings) r')
  /-- The names that are bound, all in one scope. -/
  bound : K own → Bound settings a (w.store.names own) r (w'.store.names own) r'
  /-- The other scopes that are kept. -/
  names : ∀ g, K g → g ≠ own → w'.store.names g = w.store.names g

variable {settings : Settings} {a : Nat} {own : Address} {w w' w'' : World}
  {r r' r'' : List Deed} {step : Deed} {success : Bool} {names names' names'' : Bindings}

theorem outcomes_step (h : step.isStep) (record : List Deed) :
    outcomes (record ++ [step]) = outcomes record := by
  fun_induction outcomes record with
  | case1 step' a' success' rest ih => simp only [List.cons_append, outcomes, ih]
  | case2 other rest hne ih =>
    rw [← ih]
    cases rest with
    | nil => cases step <;> first | rfl | cases h
    | cons next rest => cases next <;> first | rfl | exact absurd rfl (hne _ _ _)
  | case3 => cases step <;> rfl

theorem outcomes_settled (h : step.isStep) (a : Nat) (success : Bool) (record : List Deed) :
    outcomes (record ++ [step] ++ [.settled a success]) = outcomes record ++ [(step, success)] := by
  fun_induction outcomes record with
  | case1 step' a' success' rest ih => simp only [List.cons_append, outcomes, ih]
  | case2 other rest hne ih =>
    rw [← ih]
    cases rest with
    | nil => cases step <;> first | rfl | cases h
    | cons next rest => cases next <;> first | rfl | exact absurd rfl (hne _ _ _)
  | case3 => rfl

section
variable {α : Type} {trace : Deed × Bool → Option α}

theorem shown_step (h : step.isStep) (r : List Deed) : shown trace (r ++ [step]) = shown trace r := by
  rw [shown, shown, outcomes_step h]

theorem shown_settled (h : step.isStep) (a : Nat) (success : Bool) (r : List Deed) :
    shown trace (r ++ [step] ++ [.settled a success]) =
      shown trace (r ++ [step]) ++ (trace (step, success)).toList := by
  rw [shown_step h, shown, outcomes_settled h, List.filterMap_append, ← shown]
  cases hone : trace (step, success) <;> simp [hone]

/-- What is shown was done. -/
theorem exists_of_shown {x : α} (h : x ∈ shown trace r) :
    ∃ step ∈ r, ∃ success, trace (step, success) = some x := by
  obtain ⟨⟨step, success⟩, hmem, htrace⟩ := List.mem_filterMap.mp h
  refine ⟨step, ?_, success, htrace⟩
  clear h htrace
  fun_induction outcomes r with
  | case1 step' a' success' rest ih =>
    rcases List.mem_cons.mp hmem with heq | hmem
    · exact (Prod.mk.inj heq).1 ▸ List.mem_cons_self
    · exact List.mem_cons_of_mem _ (List.mem_cons_of_mem _ (ih hmem))
  | case2 other rest hne ih => exact List.mem_cons_of_mem _ (ih hmem)
  | case3 => cases hmem

/-- Nothing is shown of steps that come before anything is bound. -/
theorem shown_eq_nil (h : ∀ deed ∈ r, deed.isStep → deed.isEarly)
    (htrace : ∀ step success x, trace (step, success) = some x → step.isStep ∧ ¬step.isEarly) :
    shown trace r = [] := by
  refine List.eq_nil_iff_forall_not_mem.mpr fun x hx => ?_
  obtain ⟨step, hmem, success, hshown⟩ := exists_of_shown hx
  obtain ⟨hstep, hlate⟩ := htrace step success x hshown
  exact hlate (h step hmem hstep)

variable {l l' l'' m m' m'' : List α}

theorem Grown.of_eq (h : l' = l) (h' : m' = m) : Grown l l' m m' :=
  ⟨[], by rw [h, List.append_nil], by rw [h', List.append_nil]⟩

theorem Grown.trans (h : Grown l l' m m') (h' : Grown l' l'' m' m'') : Grown l l'' m m'' := by
  obtain ⟨more, rfl, rfl⟩ := h
  obtain ⟨more', rfl, rfl⟩ := h'
  exact ⟨more ++ more', by simp⟩

end

theorem importedOf_append (r r' : List Deed) :
    importedOf (r ++ r') = importedOf r ++ importedOf r' :=
  List.filterMap_append

theorem importedOf_settled (a : Nat) (success : Bool) (r : List Deed) :
    importedOf (r ++ [.settled a success]) = importedOf r := by
  rw [importedOf_append]
  exact List.append_nil _

theorem Fits.mono {entry : Settings.Field × Value} (h : Fits a r entry) (hr : r <+: r') :
    Fits a r' entry := by
  unfold Fits at h ⊢
  split at h
  · exact hr.subset h
  · obtain ⟨library, store, hfound, hmade⟩ := h
    exact ⟨library, store, hr.subset hfound, hmade⟩
  · exact h

theorem Bound.of_eq (h : names' = names) (hr : shown boundBy r' = shown boundBy r) :
    Bound settings a names r names' r' :=
  ⟨[], by rw [hr]; exact (List.append_nil _).symm, nofun, h⟩

theorem Bound.trans (h : Bound settings a names r names' r')
    (h' : Bound settings a names' r' names'' r'') (hr : r' <+: r'') :
    Bound settings a names r names'' r'' := by
  obtain ⟨entries, hshown, hfits, rfl⟩ := h
  obtain ⟨entries', hshown', hfits', rfl⟩ := h'
  refine ⟨entries ++ entries', ?_, ?_, (List.foldl_append ..).symm⟩
  · rw [hshown', hshown, List.map_append, List.append_assoc]
  · intro entry hentry
    rcases List.mem_append.mp hentry with hentry | hentry
    · exact (hfits entry hentry).mono hr
    · exact hfits' entry hentry

namespace Books

theorem trans (h : Books K settings a own w r w' r') (h' : Books K settings a own w' r' w'' r'') :
    Books K settings a own w r w'' r'' where
  longer := h.longer.trans h'.longer
  replies := h'.replies.trans h.replies
  loaded hn := (h.loaded fun urls hmem => hn urls (h'.longer.subset hmem)).trans (h'.loaded hn)
  imported := h.imported.trans h'.imported
  asked := h.asked.trans h'.asked
  bound hown := (h.bound hown).trans (h'.bound hown) h'.longer
  names g hg hne := (h'.names g hg hne).trans (h.names g hg hne)

/-- The world has not changed further. -/
theorem of_eq (h : Books K settings a own w r w' r') (hs : w''.store = w'.store)
    (hw : w''.web = w'.web) (hh : w''.host = w'.host) : Books K settings a own w r w'' r' where
  longer := h.longer
  replies := hw ▸ h.replies
  loaded := hh ▸ h.loaded
  imported := hh ▸ h.imported
  asked := by
    rw [show w''.asked = w'.asked by rw [World.asked, hw, ← World.asked]]
    exact h.asked
  bound := hs ▸ h.bound
  names := hs ▸ h.names

/-- The world shows nothing of what is put on record. -/
theorem of_silent (hr : r <+: r') (hl : shown loadedBy r' = shown loadedBy r)
    (hi : importedOf r' = importedOf r)
    (ha : shown (askedBy settings) r' = shown (askedBy settings) r)
    (hb : shown boundBy r' = shown boundBy r) : Books K settings a own w r w r' :=
  ⟨hr, rfl, fun _ => .of_eq rfl hl, .of_eq rfl hi, .of_eq rfl ha, fun _ => .of_eq rfl hb,
    fun _ _ _ => rfl⟩

theorem refl (K : Address → Prop) (settings : Settings) (a : Nat) (own : Address) (w : World)
    (r : List Deed) : Books K settings a own w r w r :=
  of_silent List.prefix_rfl rfl rfl rfl rfl

/-- A step begins. -/
theorem begin_step (h : step.isStep) (hi : importedOf [step] = []) :
    Books K settings a own w r w (r ++ [step]) :=
  of_silent (List.prefix_append _ _) (shown_step h r)
    (by rw [importedOf_append, hi, List.append_nil]) (shown_step h r) (shown_step h r)

/-- A step is over, and the world shows nothing of how it went. -/
theorem end_step (h : step.isStep) (hs : Silent settings (step, success)) :
    Books K settings a own w (r ++ [step]) w (r ++ [step] ++ [.settled a success]) := by
  obtain ⟨hl, ha, hb⟩ := hs
  refine of_silent (List.prefix_append _ _) ?_ (importedOf_settled ..) ?_ ?_
  · rw [shown_settled h, hl, Option.toList_none, List.append_nil]
  · rw [shown_settled h, ha, Option.toList_none, List.append_nil]
  · rw [shown_settled h, hb, Option.toList_none, List.append_nil]

/-- A script is loaded on its own. -/
theorem load_step {url : Datum} (hg : Guarded K w.store) (hK : ¬K hostScope)
    (h : (w.loadScript url).1 = none) :
    Books K settings a own w (r ++ [.load a url]) (w.loadScript url).2
      (r ++ [.load a url] ++ [.settled a true]) := by
  have hreserved := World.reserved_loadScript hg hK url
  have hloaded : (w.loadScript url).2.host.loaded = w.host.loaded ++ [url] := by
    revert h
    unfold World.loadScript
    dsimp only
    split
    · intro h
      cases h
    · exact fun _ => rfl
  have hsilent {α : Type} {trace : Deed × Bool → Option α} (hs : trace (.load a url, true) = none) :
      shown trace (r ++ [.load a url] ++ [.settled a true]) = shown trace (r ++ [.load a url]) := by
    rw [shown_settled rfl, hs, Option.toList_none, List.append_nil]
  constructor
  case longer => exact List.prefix_append _ _
  case replies => exact hreserved.replies
  case loaded => exact fun _ => ⟨[url], hloaded, shown_settled rfl ..⟩
  case imported => exact .of_eq hreserved.imported (importedOf_settled ..)
  case asked => exact .of_eq hreserved.asked (hsilent rfl)
  case bound => exact fun hown => .of_eq (hreserved.spared.names own hown) (hsilent rfl)
  case names => exact fun g hg _ => hreserved.spared.names g hg

/-- All scripts are called for. -/
theorem call_step {names : List String} {urls : List Datum} (h : names.map .str = urls) :
    Books K settings a own w r (importNote names w) (r ++ [.loadAll a urls]) where
  longer := List.prefix_append _ _
  replies := rfl
  loaded hn := absurd (List.mem_append_right _ (List.mem_singleton_self _)) (hn urls)
  imported := ⟨[urls], by rw [← h]; rfl, importedOf_append _ _⟩
  asked := .of_eq rfl (shown_step rfl r)
  bound _ := .of_eq rfl (shown_step rfl r)
  names _ _ _ := rfl

/-- The adapter source is asked for. -/
theorem fetch_step (success : Bool) :
    Books K settings a own w (r ++ [.fetch a])
      (w.fetch (settings.get .adapterUrl) (settings.get .httpTimeout) false).2
      (r ++ [.fetch a] ++ [.settled a success]) where
  longer := List.prefix_append _ _
  replies := rfl
  loaded _ := .of_eq rfl (by rw [shown_settled rfl]; exact List.append_nil _)
  imported := .of_eq rfl (importedOf_settled ..)
  asked := by
    refine ⟨[⟨settings.get .adapterUrl, settings.get .httpTimeout, false⟩], ?_,
      shown_settled rfl ..⟩
    simp [World.asked, World.fetch, World.Web.fetch]
  bound _ := .of_eq rfl (by rw [shown_settled rfl]; exact List.append_nil _)
  names _ _ _ := rfl

/-- A name is bound. -/
theorem bind_step {field : Settings.Field} {v : Value} (hfits : Fits a r (field, v))
    (hweb : w'.web = w.web) (hhost : w'.host = w.host)
    (hown : K own → w'.store.names own = bindAs settings (w.store.names own) (field, v))
    (hnames : ∀ g, K g → g ≠ own → w'.store.names g = w.store.names g) :
    Books K settings a own w (r ++ [.bind a field]) w'
      (r ++ [.bind a field] ++ [.settled a true]) where
  longer := List.prefix_append _ _
  replies := by rw [hweb]
  loaded _ := .of_eq (by rw [hhost]) (by rw [shown_settled rfl]; exact List.append_nil _)
  imported := .of_eq (by rw [hhost]) (importedOf_settled ..)
  asked := .of_eq (by rw [World.asked, hweb, ← World.asked])
    (by rw [shown_settled rfl]; exact List.append_nil _)
  bound hk := by
    refine ⟨[(field, v)], shown_settled rfl .., ?_, hown hk⟩
    rintro entry hentry
    rw [List.mem_singleton.mp hentry]
    exact hfits.mono ((List.prefix_append _ _).trans (List.prefix_append _ _))
  names := hnames

/-- While all scripts are being loaded, or none, what is reserved is left alone. -/
theorem of_reserved (h : World.Reserved K w w')
    (hl : w'.host.loaded = w.host.loaded ∨ ∃ urls, .loadAll a urls ∈ r) :
    Books K settings a own w r w' r where
  longer := List.prefix_rfl
  replies := h.replies
  loaded hn := by
    rcases hl with hsame | ⟨urls, hmem⟩
    · exact .of_eq hsame rfl
    · exact absurd hmem (hn urls)
  imported := .of_eq h.imported rfl
  asked := .of_eq h.asked rfl
  bound hown := .of_eq (h.spared.names own hown) rfl
  names g hg _ := h.spared.names g hg

end Books

end Session
end Chunkwise
