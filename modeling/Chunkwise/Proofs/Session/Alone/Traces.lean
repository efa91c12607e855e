import Chunkwise.Proofs.Session.Alone.Course
import Chunkwise.Proofs.Session.Alone.Quiet

/-!
What an evaluation leaves of the world, stage by stage: who has written, and what is bound for
chunks.
-/
namespace Chunkwise.Session
open Chunkwise.Execution Chunkwise.World Chunkwise.Output Store

variable {K : Address → Prop} {own : Option Address} {settings : Settings} {it : Interpreter}
  {w w' : World}

/-! The heavy library. -/

theorem leaves_loadHeavy (settings : Settings) (hg : Guarded K w.store) (hK : ¬K hostScope) :
    Leaves K none [] w (loadHeavy settings w).2 := by
  unfold loadHeavy
  split
  · exact .refl hg
  · refine leaves_loadInOrder (fun url w hg => ?_) _ hg
    have hnoted : Leaves K none [] w (Bridge.appendNote url w) := leaves_of_eq hg rfl rfl rfl
    rw [Bridge.append_snd]
    exact hnoted.trans (leaves_loadScript hnoted.guarded hK url)
  · refine Bridge.importAll_keeps (P := Leaves K none [] w) (fun names w' hw => ?_)
      (fun url w' hw => hw.trans (leaves_importScript hw.guarded hK _ url)) _ (.refl hg)
    exact hw.trans (leaves_of_eq hw.guarded rfl rfl rfl)

theorem leaves_findHeavy (settings : Settings) (hg : Guarded K w.store) (hK : ¬K hostScope) :
    Leaves K none [] w (findHeavy settings w).2 := by
  have hload := leaves_loadHeavy settings hg hK
  unfold findHeavy
  revert hload
  rcases loadHeavy settings w with ⟨_ | fault, w'⟩ <;> exact id

theorem leaves_bindSetting (settings : Settings) (it : Interpreter) (field : Settings.Field)
    (v : Value) (hg : Guarded K w.store) :
    Leaves K (some it.globals) [] w (bindSetting settings it field v w).2 := by
  unfold bindSetting
  split
  · exact leaves_bind hg _ v
  · split <;> exact .refl hg

theorem leaves_bindHeavy (settings : Settings) (it : Interpreter) (library : Value)
    (hg : Guarded K w.store) :
    Leaves K (some it.globals) [] w (bindHeavy settings it library w).2 := by
  have hraw := leaves_bindSetting settings it .rawBinding library hg
  unfold bindHeavy
  revert hraw
  rcases bindSetting settings it .rawBinding library w with ⟨_ | fault, w₁⟩ <;> intro hraw
  · have hact := hraw.trans (leaves_act hraw.guarded (Bridge.spares_makeAdapters library))
    dsimp only
    revert hact
    rcases w₁.act (Bridge.makeAdapters library) with ⟨fault | adapters, w₂⟩ <;> intro hact
    · exact hact
    · exact hact.trans (leaves_bindSetting settings it .utilsBinding adapters hact.guarded)
  · exact hraw

theorem Fetches.leaves {library : Value} {reply : Except Fault String}
    (h : Fetches settings it w library reply w') (hg : Guarded K w.store) (hK : ¬K hostScope) :
    Leaves K (some it.globals) [] w w' := by
  have hfound : Leaves K (some it.globals) [] w (findHeavy settings w).2 :=
    (leaves_findHeavy settings hg hK).any
  have hbound := hfound.trans (leaves_bindHeavy settings it library hfound.guarded)
  have hfetched : w' = ((bindHeavy settings it library (findHeavy settings w).2).2.fetch
      (settings.get .adapterUrl) (settings.get .httpTimeout) false).2 := by rw [h.fetched]
  rw [hfetched]
  exact hbound.trans (leaves_fetch hbound.guarded _ _ _)

theorem Adapts.leaves {source : String} {fault : Option Fault}
    (h : Adapts settings it source w (some fault) w') (hg : Guarded K w.store)
    (hp : it.pending = []) :
    ∃ e : Episode, e.writer = .source source ∧ Leaves K (some it.globals) [e] w w' := by
  cases h with
  | ended hr => exact (leaves_run hg hp hr).2

/-- An attempt lets the adapter source write, if it comes to that. -/
theorem Crosses.leaves {fault : Option Fault} {adapter : Option String}
    (h : Crosses settings it w (some fault) w' adapter) (hg : Guarded K w.store) (hK : ¬K hostScope)
    (hp : it.pending = []) :
    ∃ episodes : List Episode, episodes.map Episode.writer = adapter.toList.map .source ∧
      Leaves K (some it.globals) episodes w w' := by
  cases h with
  | lost h =>
    have hfound := leaves_findHeavy settings hg hK
    rw [h] at hfound
    exact ⟨[], rfl, hfound.any⟩
  | @unbound library _ w₁ _ h hb =>
    have hfound := leaves_findHeavy settings hg hK
    rw [h] at hfound
    have hbound := leaves_bindHeavy settings it library hfound.guarded
    rw [hb] at hbound
    exact ⟨[], rfl, hfound.any.trans hbound⟩
  | unfetched h => exact ⟨[], rfl, h.leaves hg hK⟩
  | @fetched library source _ w₁ _ h ha =>
    have hfetched := h.leaves hg hK
    obtain ⟨e, hwriter, hadapted⟩ := ha.leaves hfetched.guarded hp
    exact ⟨[e], by simp [hwriter], hfetched.trans hadapted⟩

/-! Packages and the chunk's code. -/

/-- Each package that is probed lets its module write, in turn. -/
theorem Searches.leaves {roots : List String} {result : Except Fault (List String)}
    {deeds : List Deed} {n : Nat} (h : Searches it n roots w result w' deeds)
    (hg : Guarded K w.store) (hp : it.pending = []) :
    rootsProbed deeds <+: roots ∧ (result.isOk → rootsProbed deeds = roots) ∧
      ∃ episodes : List Episode, episodes.map Episode.writer = (rootsProbed deeds).map .probe ∧
        Leaves K none episodes w w' := by
  induction h with
  | done => exact ⟨List.prefix_rfl, fun _ => rfl, [], rfl, .refl hg⟩
  | @abandoned root rest fault w w₁ h =>
    obtain ⟨-, e, hwriter, hleaves⟩ := leaves_probing root hg hp
    rw [h] at hleaves
    exact ⟨by simp [Deed.probed?], by simp [Except.isOk, Except.toBool], [e],
      by simp [Deed.probed?, hwriter], hleaves⟩
  | @probed root rest answer result w w₁ w₂ deeds h hs ih =>
    obtain ⟨-, e, hwriter, hleaves⟩ := leaves_probing root hg hp
    rw [h] at hleaves
    have hnoted := hleaves.trans (leaves_noting hleaves.guarded [Packages.probeEntry root answer])
    obtain ⟨hroots, hall, episodes, hwriters, hrest⟩ := ih hnoted.guarded
    refine ⟨by simpa [Deed.probed?] using hroots, fun hok => ?_, e :: episodes,
      by simp [Deed.probed?, hwriter, hwriters], hnoted.trans hrest⟩
    rw [rootsProbed_cons, hall (by cases result <;> simp_all [Except.map, Except.isOk, Except.toBool])]
    rfl

theorem Resolves.leaves {roots : List String} {fault : Option Fault} {deeds : List Deed} {n : Nat}
    (h : Resolves it n roots w fault w' deeds) (hg : Guarded K w.store) (hp : it.pending = []) :
    rootsProbed deeds <+: roots ∧ (fault = none → rootsProbed deeds = roots) ∧
      ∃ episodes : List Episode, episodes.map Episode.writer = (rootsProbed deeds).map .probe ∧
        Leaves K none episodes w w' := by
  cases h with
  | nothing h => exact ⟨List.nil_prefix, fun _ => h.symm, [], rfl, .refl hg⟩
  | abandoned hs =>
    obtain ⟨hroots, -, episodes, hwriters, hleaves⟩ := hs.leaves hg hp
    exact ⟨by simpa [Deed.probed?] using hroots, nofun, episodes,
      by simpa [Deed.probed?] using hwriters, hleaves⟩
  | found _ hs =>
    obtain ⟨hroots, hall, episodes, hwriters, hleaves⟩ := hs.leaves hg hp
    exact ⟨by simpa [Deed.probed?] using hroots, fun _ => by simpa [Deed.probed?] using hall rfl,
      episodes, by simpa [Deed.probed?] using hwriters, hleaves⟩
  | @installed missing w₁ _ _ _ hs hi | @refused missing _ w₁ _ _ _ hs hi =>
    obtain ⟨hroots, hall, episodes, hwriters, hleaves⟩ := hs.leaves hg hp
    have hinstall : Leaves K none [] w₁ (w₁.install missing).2 :=
      leaves_install missing hleaves.guarded
    rw [hi] at hinstall
    have hboth := hleaves.trans hinstall
    rw [List.append_nil] at hboth
    exact ⟨by simpa [Deed.probed?] using hroots, fun _ => by simpa [Deed.probed?] using hall rfl,
      episodes, by simpa [Deed.probed?] using hwriters, hboth⟩

/-- What the host is told of how an evaluation has ended: the text of a value that is something. -/
def Tells (store : Store) (outcome : Except Fault Value) (text? : Option String) : Prop :=
  match outcome with
  | .error _ => text? = none
  | .ok v => if v.isNull then text? = none else ∃ text, store.render v = .ok text ∧ text? = some text

theorem forwardValue_store (v : Value) (w : World) : (forwardValue v w).2.store = w.store := by
  unfold forwardValue
  split
  · rfl
  · split
    · rfl
    · exact Scene.send_store _ w

/-- The value is forwarded once the code has run. -/
theorem concluded_store (file : Datum) (source : String) (result : Except Fault Value) (w : World) :
    (concluded file source result w).2.store = w.store := by
  cases result with
  | error fault => rfl
  | ok v =>
    have hstore := forwardValue_store v w
    unfold concluded
    dsimp only
    split
    next h => rw [h] at hstore; exact hstore
    next h => rw [h] at hstore; exact hstore

/-- A host that refuses nothing is told the text of the value, and nothing else. -/
theorem hears_concluded (file : Datum) (source : String) (result : Except Fault Value)
    (hopen : w.host.audience.IsOpen) :
    ∃ text? : Option String,
      Hears w (concluded file source result w).2 (text?.toList.map .sent) ∧
        Tells w.store (concluded file source result w).1 text? := by
  cases result with
  | error fault => exact ⟨none, .refl w, rfl⟩
  | ok v =>
    by_cases hnull : v.isNull
    · have hforward : forwardValue v w = (none, w) := by simp [forwardValue, hnull]
      simp only [concluded, hforward, Tells, if_pos hnull]
      exact ⟨none, .refl w, rfl⟩
    · rcases hrender : w.store.render v with fault | text
      · have hforward : forwardValue v w = (some fault, w) := by simp [forwardValue, hnull, hrender]
        simp only [concluded, hforward, Tells]
        exact ⟨none, .refl w, rfl⟩
      · obtain ⟨hsent, hears⟩ := send_open hopen text
        have hforward : forwardValue v w = (none, (w.send text).2) := by
          rw [← hsent]
          simp [forwardValue, hnull, hrender]
        simp only [concluded, hforward, Tells, if_neg hnull]
        exact ⟨some text, hears, text, hrender, rfl⟩

/-- What an evaluation leaves of a world: scopes that are kept bind what they bound, but for one, and
a host that refuses nothing hears the episodes and is then told of the outcome. -/
structure Concludes (K : Address → Prop) (own : Option Address) (episodes : List Episode)
    (w : World) (outcome : Except Fault Value) (w' : World) : Prop where
  guarded : Guarded K w'.store
  names : ∀ a, K a → some a ≠ own → w'.store.names a = w.store.names a
  heard : w.host.audience.IsOpen → (∀ e ∈ episodes, Faithful e.marks []) ∧
    ∃ text? : Option String, Hears w w' (text?.toList.map .sent ++ told episodes) ∧
      Tells w'.store outcome text?

theorem concludes_concluded {episodes : List Episode} (h : Leaves K own episodes w w') (file : Datum)
    (source : String) (result : Except Fault Value) :
    Concludes K own episodes w (concluded file source result w').1
      (concluded file source result w').2 := by
  have hstore := concluded_store file source result w'
  refine ⟨hstore ▸ h.guarded, fun a ha hne => hstore ▸ h.names a ha hne, fun hopen => ?_⟩
  obtain ⟨text?, hears, htells⟩ := hears_concluded file source result (h.hears.isOpen hopen)
  exact ⟨h.faithful hopen, text?, h.hears.trans hears, hstore ▸ htells⟩

theorem Concludes.after {episodes more : List Episode} {w₀ : World} {outcome : Except Fault Value}
    (h : Concludes K own more w outcome w') (h₀ : Leaves K own episodes w₀ w) :
    Concludes K own (episodes ++ more) w₀ outcome w' := by
  refine ⟨h.guarded, fun a ha hne => (h.names a ha hne).trans (h₀.names a ha hne), fun hopen => ?_⟩
  obtain ⟨hfaithful, text?, hears, htells⟩ := h.heard (h₀.hears.isOpen hopen)
  refine ⟨fun e he => (List.mem_append.1 he).elim (h₀.faithful hopen e) (hfaithful e), text?, ?_,
    htells⟩
  rw [told_append, ← List.append_assoc]
  exact h₀.hears.trans hears

/-- The code of a chunk writes, and its value is told of. Code that cannot be read fails, and neither
writes nor binds anything. -/
theorem Executes.concludes {file : Datum} {source : String} {outcome : Except Fault Value}
    (h : Executes it file source w (some outcome) w') (hg : Guarded K w.store)
    (hp : it.pending = []) :
    ∃ e : Episode, e.writer = .source source ∧ Concludes K (some it.globals) [e] w outcome w' ∧
      (Unreadable file source →
        (∃ fault, outcome = .error fault) ∧ e.marks = [.flushed] ∧ Leaves K none [e] w w') := by
  cases h with
  | @ended result w₁ hr =>
    have hnoted : Leaves K (some it.globals) [] w (announced source w) := leaves_noting hg _
    obtain ⟨-, e, hwriter, hleaves⟩ := leaves_run hnoted.guarded hp hr
    refine ⟨e, hwriter, concludes_concluded (hnoted.trans hleaves) file source result,
      fun hunread => ?_⟩
    obtain ⟨fault, rfl, hnames, hrecord⟩ := run_unread hnoted.guarded hp hunread hr
    have hmarks : e.record = [.flushed] ++ [.opened (.source source)] := by
      have hheard := hleaves.hears.record
      rw [told_singleton, hrecord] at hheard
      exact (List.append_cancel_right hheard).symm
    refine ⟨⟨_, rfl⟩, (List.append_inj' hmarks rfl).1, hleaves.guarded, fun a ha _ => hnames a ha,
      (hnoted.trans hleaves).hears, (hnoted.trans hleaves).faithful⟩

/-- What is done in a search for packages is done for the job that asks for them. -/
theorem Searches.searcher? {roots : List String} {result : Except Fault (List String)}
    {deeds : List Deed} {n : Nat} (h : Searches it n roots w result w' deeds) :
    ∀ deed ∈ deeds, deed.searcher? = some n := by
  induction h with
  | done => simp
  | abandoned => simp [Deed.searcher?]
  | probed _ _ ih => simpa [Deed.searcher?] using ih

theorem Resolves.searcher? {roots : List String} {fault : Option Fault} {deeds : List Deed} {n : Nat}
    (h : Resolves it n roots w fault w' deeds) : ∀ deed ∈ deeds, deed.searcher? = some n := by
  have hframe {before after : List Deed} (hb : ∀ deed ∈ before, deed.searcher? = some n)
      (ha : ∀ deed ∈ after, deed.searcher? = some n) :
      ∀ deed ∈ .search n :: before ++ after, deed.searcher? = some n := by
    simp only [List.cons_append, List.mem_cons, List.mem_append]
    rintro deed (rfl | hdeed | hdeed)
    · rfl
    · exact hb deed hdeed
    · exact ha deed hdeed
  cases h with
  | nothing => simp
  | abandoned hs => exact hframe hs.searcher? (by simp [Deed.searcher?])
  | found _ hs => exact hframe hs.searcher? (by simp [Deed.searcher?])
  | installed _ hs => exact hframe hs.searcher? (by simp [Deed.searcher?])
  | refused _ hs => exact hframe hs.searcher? (by simp [Deed.searcher?])

theorem Searches.fine {roots missing : List String} {deeds : List Deed} {n : Nat}
    (h : Searches it n roots w (.ok missing) w' deeds) : ∀ deed ∈ deeds, deed.fails = false := by
  generalize hresult : (.ok missing : Except Fault (List String)) = result at h
  induction h generalizing missing with
  | done => simp
  | abandoned => cases hresult
  | @probed root rest answer result w w₁ w₂ deeds h hs ih =>
    cases result with
    | error => cases hresult
    | ok names => simpa [Deed.fails] using ih rfl

/-- Nothing fails in a search that succeeds. -/
theorem Resolves.fine {roots : List String} {deeds : List Deed} {n : Nat}
    (h : Resolves it n roots w none w' deeds) : ∀ deed ∈ deeds, deed.fails = false := by
  cases h with
  | nothing => simp
  | found _ hs => simpa [or_imp, forall_and, Deed.fails] using hs.fine
  | installed _ hs => simpa [or_imp, forall_and, Deed.fails] using hs.fine

/-! What is bound for chunks. -/

/-- The names of chunks when the name that a setting gives is bound. -/
def withSetting (settings : Settings) (field : Settings.Field) (v : Value) (names : Bindings) :
    Bindings :=
  match settings.get field with
  | .str name => names.set name v
  | _ => names

/-- The names of chunks differ from what they were by what an attempt to load the heavy library has
bound: the library, the adapters around it, and what the adapter source has bound then. -/
inductive Binds (settings : Settings) (it : Interpreter) (names names' : Bindings) : Prop
  | nothing (h : names' = names)
  | library {library : Value} (h : names' = withSetting settings .rawBinding library names)
  | adapters {library adapters : Value}
      (h : names' = withSetting settings .utilsBinding adapters
        (withSetting settings .rawBinding library names))
  | adapted {library adapters : Value} {source : String} {result : Except Fault Value}
      {w w' : World}
      (h : it.names w = withSetting settings .utilsBinding adapters
        (withSetting settings .rawBinding library names))
      (hr : it.run (settings.get .filename) source w = some (result, it, w'))
      (h' : names' = it.names w')

theorem names_bindSetting (settings : Settings) (field : Settings.Field) (v : Value)
    (h : (w.store.scope? it.globals).isSome) :
    it.names (bindSetting settings it field v w).2 = withSetting settings field v (it.names w) := by
  unfold withSetting
  split
  next name hkey => simp only [bindSetting, hkey, names_bind h]
  next hkey =>
    unfold bindSetting
    split
    next name hname => exact absurd hname (hkey name)
    next => split <;> rfl

/-- What is left of a world by what binds nothing. -/
theorem names_of_leaves {episodes : List Episode} (h : Leaves K none episodes w w')
    (hit : K it.globals) : it.names w' = it.names w :=
  h.names _ hit (by simp)

theorem binds_bindHeavy (settings : Settings) (library : Value) (hg : Guarded K w.store)
    (hit : K it.globals) :
    let bound := bindHeavy settings it library w
    Binds settings it (it.names w) (it.names bound.2) ∧
      (bound.1 = none → ∃ adapters, it.names bound.2 = withSetting settings .utilsBinding adapters
        (withSetting settings .rawBinding library (it.names w))) := by
  have hraw := leaves_bindSetting settings it .rawBinding library hg
  have hnames := names_bindSetting settings .rawBinding library (hg _ hit)
  unfold bindHeavy
  revert hraw hnames
  rcases bindSetting settings it .rawBinding library w with ⟨_ | fault, w₁⟩ <;>
    intro hraw hnames <;> dsimp only at hraw hnames ⊢
  · have hact : Leaves K none [] w₁ (w₁.act (Bridge.makeAdapters library)).2 :=
      leaves_act hraw.guarded (Bridge.spares_makeAdapters library)
    revert hact
    rcases w₁.act (Bridge.makeAdapters library) with ⟨fault | adapters, w₂⟩ <;> intro hact <;>
      dsimp only at hact ⊢
    · exact ⟨.library ((names_of_leaves hact hit).trans hnames), nofun⟩
    · have hutils := names_bindSetting settings .utilsBinding adapters (hact.guarded _ hit)
      rw [names_of_leaves hact hit, hnames] at hutils
      exact ⟨.adapters hutils, fun _ => ⟨adapters, hutils⟩⟩
  · exact ⟨.library hnames, nofun⟩

theorem Crosses.binds {fault : Option Fault} {adapter : Option String}
    (h : Crosses settings it w (some fault) w' adapter) (hg : Guarded K w.store) (hK : ¬K hostScope)
    (hit : K it.globals) :
    Binds settings it (it.names w) (it.names w') := by
  have hfind := leaves_findHeavy settings hg hK
  have hfound := names_of_leaves hfind hit
  -- all that is bound for chunks up to the end of a fetch
  have hfetched {library : Value} {reply : Except Fault String} {w₁ : World}
      (h : Fetches settings it w library reply w₁) : ∃ adapters, it.names w₁ =
        withSetting settings .utilsBinding adapters
          (withSetting settings .rawBinding library (it.names w)) := by
    have hbound := binds_bindHeavy settings library hfind.guarded hit
    obtain ⟨adapters, hnames⟩ := hbound.2 h.bound
    rw [hfound] at hnames
    refine ⟨adapters, Eq.trans ?_ hnames⟩
    have hworld : _ = w₁ := congrArg Prod.snd h.fetched
    rw [← hworld]
    rfl
  cases h with
  | lost h =>
    rw [h] at hfound
    exact .nothing hfound
  | @unbound library fault w₁ w₂ h hb =>
    rw [h] at hfound hfind
    have hbound := (binds_bindHeavy settings library hfind.guarded hit).1
    rw [hfound] at hbound
    rwa [hb] at hbound
  | unfetched h =>
    obtain ⟨adapters, hnames⟩ := hfetched h
    exact .adapters hnames
  | fetched h ha =>
    obtain ⟨adapters, hnames⟩ := hfetched h
    cases ha with
    | ended hr => exact .adapted hnames hr rfl

/-! All of it. -/

/-- Packages are probed, and if all is well the code of the chunk is run. -/
theorem Finishes.concludes {file : Datum} {n i : Nat} {scan : Import.Scan}
    {outcome : Except Fault Value} {deeds : List Deed}
    (h : Finishes it file n i scan w (some outcome) w' deeds) (hg : Guarded K w.store)
    (hp : it.pending = []) :
    ∃ episodes : List Episode, rootsProbed deeds <+: scan.roots ∧
      episodes.map Episode.writer = (rootsProbed deeds).map .probe ∧
      ((∃ fault, outcome = .error fault) ∧ (∀ m j, .run m j ∉ deeds) ∧
          Leaves K none episodes w w' ∨
        ∃ e : Episode, e.writer = .source scan.source ∧ rootsProbed deeds = scan.roots ∧
          .run n i ∈ deeds ∧ (∀ deed ∈ deeds, deed.fails = false) ∧
          Concludes K (some it.globals) (episodes ++ [e]) w outcome w' ∧
          (Unreadable file scan.source → (∃ fault, outcome = .error fault) ∧
            e.marks = [.flushed] ∧ Leaves K none (episodes ++ [e]) w w')) := by
  cases h with
  | @unresolved fault w₁ deeds hr =>
    obtain ⟨hroots, -, episodes, hwriters, hleaves⟩ := hr.leaves hg hp
    have hrun (m j : Nat) : .run m j ∉ deeds := fun h => by
      have hsearcher := hr.searcher? _ h
      simp [Deed.searcher?] at hsearcher
    exact ⟨episodes, hroots, hwriters, .inl ⟨⟨fault, rfl⟩, hrun, hleaves⟩⟩
  | resolved hr he =>
    obtain ⟨hroots, hall, episodes, hwriters, hleaves⟩ := hr.leaves hg hp
    obtain ⟨e, hwriter, hconcludes, hunread⟩ := he.concludes hleaves.guarded hp
    have hfine := hr.fine
    refine ⟨episodes, by simpa [Deed.probed?] using hroots, by simpa [Deed.probed?] using hwriters,
      .inr ⟨e, hwriter, by simpa [Deed.probed?] using hall rfl, by simp,
        by simpa [or_imp, forall_and, Deed.fails] using hfine, hconcludes.after hleaves.any,
        fun h => ?_⟩⟩
    obtain ⟨hfault, hmarks, hleft⟩ := hunread h
    exact ⟨hfault, hmarks, hleaves.trans hleft⟩

/-- All that is done from the search for packages on is part of the search or begins to run the
chunk. -/
theorem Finishes.not_mem {file : Datum} {n i : Nat} {scan : Import.Scan} {deed : Deed}
    {outcome : Option (Except Fault Value)} {deeds : List Deed}
    (h : Finishes it file n i scan w outcome w' deeds) (hs : deed.searcher? = none)
    (hr : deed ≠ .run n i) : deed ∉ deeds := by
  have hresolves {fault : Option Fault} {w₁ : World} {deeds : List Deed}
      (hr : Resolves it n scan.roots w fault w₁ deeds) : deed ∉ deeds := fun hmem => by
    simpa [hs] using hr.searcher? _ hmem
  cases h with
  | unresolved hr => exact hresolves hr
  | resolved hr' _ => simpa [hr] using hresolves hr'

theorem Finishes.guarded {file : Datum} {n i : Nat} {scan : Import.Scan}
    {outcome : Except Fault Value} {deeds : List Deed}
    (h : Finishes it file n i scan w (some outcome) w' deeds) (hg : Guarded K w.store)
    (hp : it.pending = []) : Guarded K w'.store := by
  obtain ⟨_, -, -, ⟨-, -, hleaves⟩ | ⟨_, -, -, -, -, hconcludes, -⟩⟩ := h.concludes hg hp
  · exact hleaves.guarded
  · exact hconcludes.guarded

/-- Who writes before the code of a chunk: the adapter source, if it is run, and the modules of the
packages that are probed. -/
def voices (adapter : Option String) (probed : List String) : List Writer :=
  adapter.toList.map .source ++ probed.map .probe

/-- What is not done for an attempt is not among what is done for one. -/
theorem Toils.not_mem {adapter : Option String} {deeds : List Deed} {a : Nat} {deed : Deed}
    (h : Toils a adapter deeds) (hd : deed.attempt? = none) : deed ∉ deeds := fun hmem => by
  simpa [hd] using h.mine _ hmem

/-- No package is probed for an attempt. -/
theorem Toils.rootsProbed {adapter : Option String} {deeds : List Deed} {a : Nat}
    (h : Toils a adapter deeds) : rootsProbed deeds = [] := by
  refine rootsProbed_of_searcher? fun deed hdeed => ?_
  have hmine := h.mine deed hdeed
  cases deed <;> first | rfl | simp [Deed.attempt?] at hmine

theorem Toils.fine {adapter : Option String} {deeds : List Deed} {a : Nat}
    (h : Toils a adapter deeds) : ∀ deed ∈ deeds, deed.fails = false := by
  intro deed hdeed
  have hmine := h.mine deed hdeed
  cases deed <;> first | rfl | simp [Deed.attempt?] at hmine

/-- The adapter source is run for an attempt, if at all. -/
theorem Toils.adapts_iff {adapter : Option String} {deeds : List Deed} {a : Nat}
    (h : Toils a adapter deeds) : adapter.isSome ↔ ∃ b, .adapt b ∈ deeds := by
  rw [← h.adapts]
  refine ⟨fun hmem => ⟨a, hmem⟩, fun ⟨b, hmem⟩ => ?_⟩
  obtain rfl : b = a := Option.some.inj (h.mine _ hmem)
  exact hmem

/-- What is done in an interpreter. -/
theorem Proceeds.not_mem {s : Session} {n i : Nat} {scan : Import.Scan} {deed : Deed}
    {outcome : Option (Except Fault Value)} {deeds : List Deed}
    (h : Proceeds s it n i scan w outcome w' deeds) (hs : deed.searcher? = none)
    (ha : deed.attempt? = none) (hw : ∀ a, deed ≠ .awaitAttempt n a)
    (hc : ∀ a, deed ≠ .crossed a i) (hr : deed ≠ .run n i) : deed ∉ deeds := by
  cases h with
  | straight _ hf => exact hf.not_mem hs hr
  | uncrossed _ _ hd | stuck _ _ hd => simpa [hw] using hd.not_mem ha
  | crossed _ _ hd hf => simpa [hw, hc] using ⟨hd.not_mem ha, hf.not_mem hs hr⟩

/-- An evaluation in its interpreter fails before its code is run, or runs it. -/
theorem Proceeds.concludes {s : Session} {n i : Nat} {scan : Import.Scan}
    {outcome : Except Fault Value} {deeds : List Deed}
    (h : Proceeds s it n i scan w (some outcome) w' deeds) (hg : Guarded K w.store)
    (hK : ¬K hostScope) (hit : K it.globals) (hp : it.pending = []) :
    ∃ (adapter : Option String) (episodes : List Episode),
      (adapter.isSome ↔ ∃ a, .adapt a ∈ deeds) ∧ rootsProbed deeds <+: scan.roots ∧
      episodes.map Episode.writer = voices adapter (rootsProbed deeds) ∧
      ((∃ fault, outcome = .error fault) ∧ (∀ m j, .run m j ∉ deeds) ∧
          Leaves K (some it.globals) episodes w w' ∧
          Binds s.settings it (it.names w) (it.names w') ∨
        ∃ e : Episode, e.writer = .source scan.source ∧ rootsProbed deeds = scan.roots ∧
          .run n i ∈ deeds ∧ (∀ deed ∈ deeds, deed.fails = false) ∧
          Concludes K (some it.globals) (episodes ++ [e]) w outcome w' ∧
          (Unreadable s.file scan.source → (∃ fault, outcome = .error fault) ∧
            e.marks = [.flushed] ∧ Leaves K (some it.globals) (episodes ++ [e]) w w' ∧
            Binds s.settings it (it.names w) (it.names w'))) := by
  cases h with
  | straight _ hf =>
    obtain ⟨episodes, hroots, hwriters, hcases⟩ := hf.concludes hg hp
    have hnone (a : Nat) : .adapt a ∉ deeds := hf.not_mem rfl nofun
    refine ⟨none, episodes, by simp [hnone], hroots, hwriters, ?_⟩
    rcases hcases with ⟨hfault, hrun, hleaves⟩ | ⟨e, hwriter, hall, hrun, hfine, hconcludes, hunread⟩
    · exact .inl ⟨hfault, hrun, hleaves.any, .nothing (names_of_leaves hleaves hit)⟩
    · refine .inr ⟨e, hwriter, hall, hrun, hfine, hconcludes, fun h => ?_⟩
      obtain ⟨hfault, hmarks, hleft⟩ := hunread h
      exact ⟨hfault, hmarks, hleft.any, .nothing (names_of_leaves hleft hit)⟩
  | @uncrossed fault entries more w₁ deeds adapter hn hc hd =>
    have hnoted : Leaves K (some it.globals) [] w (w.noting entries) := leaves_noting hg entries
    obtain ⟨episodes, hwriters, hleaves⟩ := hc.leaves hnoted.guarded hK hp
    have hmore := (hnoted.trans hleaves).trans (leaves_noting hleaves.guarded more)
    rw [List.append_nil] at hmore
    have hprobed : rootsProbed (.awaitAttempt n s.attempts.length :: deeds) = [] := by
      simp [Deed.probed?, hd.rootsProbed]
    refine ⟨adapter, episodes, by simpa using hd.adapts_iff, hprobed ▸ List.nil_prefix,
      by simpa [hprobed, voices] using hwriters,
      .inl ⟨⟨fault, rfl⟩, fun m j => by simpa using hd.not_mem rfl, hmore,
        hc.binds hnoted.guarded hK hit⟩⟩
  | @crossed _ entries more w₁ _ deeds later adapter hn hc hd hf =>
    have hnoted : Leaves K (some it.globals) [] w (w.noting entries) := leaves_noting hg entries
    obtain ⟨before, hbefore, hleaves⟩ := hc.leaves hnoted.guarded hK hp
    have hmore := (hnoted.trans hleaves).trans (leaves_noting hleaves.guarded more)
    rw [List.append_nil] at hmore
    have hbinds := hc.binds hnoted.guarded hK hit
    obtain ⟨episodes, hroots, hwriters, hcases⟩ := hf.concludes hmore.guarded hp
    have hprobed : rootsProbed (.awaitAttempt n s.attempts.length :: deeds ++
        .crossed s.attempts.length i :: later) = rootsProbed later := by
      simp [Deed.probed?, hd.rootsProbed]
    have hlater (a : Nat) : .adapt a ∉ later := hf.not_mem rfl nofun
    rw [hprobed]
    refine ⟨adapter, before ++ episodes, by simpa [hlater] using hd.adapts_iff, hroots,
      by simp [voices, hbefore, hwriters], ?_⟩
    rcases hcases with ⟨hfault, hrun, hfails⟩ | ⟨e, hwriter, hall, hrun, hfine, hconcludes, hunread⟩
    · refine .inl ⟨hfault, fun m j => ?_, hmore.trans hfails.any, ?_⟩
      · simpa [hrun m j] using hd.not_mem rfl
      · rwa [names_of_leaves hfails hit]
    · refine .inr ⟨e, hwriter, hall, by simp [hrun], ?_, ?_, fun h => ?_⟩
      · simpa [or_imp, forall_and, Deed.fails] using ⟨hd.fine, hfine⟩
      · rw [List.append_assoc]
        exact hconcludes.after hmore
      · obtain ⟨hfault, hmarks, hleft⟩ := hunread h
        rw [List.append_assoc, names_of_leaves hleft hit]
        exact ⟨hfault, hmarks, hmore.trans hleft.any, hbinds⟩

/-- What is bound for the chunks of an interpreter. One that is yet to be made knows the initial
names. -/
def bound (i : Nat) (s : Session) : Bindings :=
  match s.cells[i]? with
  | some cell => cell.interpreter.names s.world
  | none => initialNames

/-- An interpreter that is there or has been made binds names at a scope of its own. -/
structure Entered (s : Session) (i : Nat) (it : Interpreter) (w : World) : Prop where
  leaves : Leaves (fun a => s.IsTop a) none [] s.world w
  guarded : Guarded (fun a => s.IsTop a ∨ a = it.globals) w.store
  host : ¬(s.IsTop hostScope ∨ hostScope = it.globals)
  pending : it.pending = []
  names : it.names w = s.bound i

theorem entered_present {s : Session} {i : Nat} (hq : Quiet s) (hi : i < s.cells.length) :
    Entered s i (s.cell i).interpreter s.world := by
  have htop := isTop_globals hi
  refine ⟨.refl hq.guarded, ?_, ?_, hq.toStill.pending hi, ?_⟩
  · rintro a (ha | rfl)
    · exact hq.guarded a ha
    · exact hq.guarded _ htop
  · rintro (h | h)
    · exact hq.host h
    · exact hq.host (h ▸ htop)
  · simp only [bound, cell_eq hi]

theorem prepareInstaller_store (w : World) : w.prepareInstaller.2.store = w.store := by
  unfold prepareInstaller
  split <;> rfl

theorem names_make (w : World) :
    (Interpreter.make w).1.names (Interpreter.make w).2 = initialNames := by
  simp [Interpreter.make, Interpreter.names, World.add, Store.add, Store.names, scope?, nature?, get?]

theorem entered_made {s : Session} (hq : Quiet s) (hp : s.world.prepareInstaller = (none, w)) :
    Entered s s.cells.length (Interpreter.make w).1
      ((Interpreter.make w).2.note .info .interpreter "Embedded runtime ready") := by
  have hprepared : Leaves s.IsTop none [] s.world s.world.prepareInstaller.2 :=
    leaves_prepareInstaller hq.guarded
  rw [hp] at hprepared
  have hmade := hprepared.trans (leaves_make hprepared.guarded)
  have hnoted : Leaves s.IsTop none [] s.world
      ((Interpreter.make w).2.note .info .interpreter "Embedded runtime ready") :=
    hmade.trans (leaves_of_eq hmade.guarded rfl rfl rfl)
  have hstore : w.store = s.world.store := by
    rw [← prepareInstaller_store s.world, hp]
  -- the names of the host are in the first scope, and the new ones are behind all that is there
  have hbehind : hostScope ≠ (Interpreter.make w).1.globals := by
    rw [make_globals, hstore]
    rcases hcells : s.cells with _ | ⟨cell, cells⟩
    · exact Nat.ne_of_lt (hq.hosted hcells)
    · have htop := hq.guarded.lt_size ⟨cell, by simp [hcells], rfl⟩
      exact (Nat.ne_of_gt (Nat.zero_lt_of_lt htop)).symm
  refine ⟨hnoted, ?_, ?_, rfl, ?_⟩
  · rintro a (ha | rfl)
    · exact hnoted.guarded a ha
    · exact scope?_make w
  · rintro (h | h)
    · exact hq.host h
    · exact hbehind h
  · have hnew : s.bound s.cells.length = initialNames := by simp [bound]
    rw [hnew]
    exact names_make w

theorem Enters.entered {s : Session} {n i : Nat} {deeds : List Deed}
    (h : Enters s n (.ok (i, it)) w deeds) (hq : Quiet s) : Entered s i it w := by
  cases h with
  | present h => exact entered_present hq (hq.current _ h)
  | made _ _ hp => exact entered_made hq hp

end Chunkwise.Session
