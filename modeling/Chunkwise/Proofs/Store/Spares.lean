import Chunkwise.Proofs.Store.Guards
import Chunkwise.Store.Attribute
import Chunkwise.Store.Subscript

/-!
Steps on a store spare the scopes that are kept: each of them looks at an object before it changes
it, and none takes a scope for what it is to change.
-/
namespace Chunkwise.Store
open Code

variable {α β : Type} {K : Address → Prop}

namespace Action

/-- A step spares the scopes kept, and what it gives is as it should be. -/
def Gives (K : Address → Prop) (action : Action α) (post : α → Prop) : Prop :=
  ∀ store, Guarded K store →
    Spared K store (action store).2 ∧ ∀ a, (action store).1 = .ok a → post a

/-- A step spares the scopes kept. -/
abbrev Spares (K : Address → Prop) (action : Action α) : Prop :=
  Gives K action fun _ => True

theorem bind_apply (m : Action α) (f : α → Action β) (store : Store) :
    (m >>= f) store =
      match m store with
      | (.ok a, store') => f a store'
      | (.error fault, store') => (.error fault, store') := by
  change (ExceptT.bindCont f (m store).1 : StateM Store _) (m store).2 = _
  rcases m store with ⟨_ | a, store'⟩ <;> rfl

theorem Gives.mono {action : Action α} {post post' : α → Prop} (h : Gives K action post)
    (himp : ∀ a, post a → post' a) : Gives K action post' :=
  fun store hg => ⟨(h store hg).1, fun a ha => himp a ((h store hg).2 a ha)⟩

theorem Gives.spares {action : Action α} {post : α → Prop} (h : Gives K action post) :
    Spares K action :=
  h.mono fun _ _ => trivial

theorem Gives.bind {m : Action α} {f : α → Action β} {post : α → Prop} {post' : β → Prop}
    (hm : Gives K m post) (hf : ∀ a, post a → Gives K (f a) post') : Gives K (m >>= f) post' := by
  intro store hg
  have h := hm store hg
  rw [bind_apply]
  rcases hr : m store with ⟨fault | a, store'⟩ <;> rw [hr] at h
  · exact ⟨h.1, fun _ ha => by simp at ha⟩
  · have h' := hf a (h.2 a rfl) store' h.1.guarded
    exact ⟨h.1.trans h'.1, h'.2⟩

theorem Spares.bind {m : Action α} {f : α → Action β} {post : β → Prop} (hm : Spares K m)
    (hf : ∀ a, Gives K (f a) post) : Gives K (m >>= f) post :=
  Gives.bind hm fun a _ => hf a

theorem gives_pure {post : α → Prop} {a : α} (h : post a) : Gives K (pure a : Action α) post :=
  fun _ hg => ⟨hg.refl, fun _ ha => Except.ok.inj ha ▸ h⟩

theorem spares_pure {a : α} : Spares K (pure a : Action α) :=
  gives_pure trivial

theorem Spares.map {m : Action α} (f : α → β) (h : Spares K m) : Spares K (f <$> m) :=
  h.bind fun _ => spares_pure

/-- What is read of a store in which the scopes are kept. -/
theorem gives_reading (f : Store → α) :
    Gives K (reading f) fun a => ∃ store, Guarded K store ∧ a = f store :=
  fun store hg => ⟨hg.refl, fun _ ha => ⟨store, hg, (Except.ok.inj ha).symm⟩⟩

theorem spares_reading (f : Store → α) : Spares K (reading f) :=
  (gives_reading f).spares

theorem spares_checking (f : Store → Except Fault α) : Spares K (checking f) :=
  fun _ hg => ⟨hg.refl, fun _ _ => trivial⟩

theorem spares_ofExcept (result : Except Fault α) : Spares K (ofExcept result) :=
  fun _ hg => ⟨hg.refl, fun _ _ => trivial⟩

theorem gives_fail {post : α → Prop} (fault : Fault) : Gives K (fail fault : Action α) post :=
  fun _ hg => ⟨hg.refl, fun _ ha => by simp [fail] at ha⟩

theorem spares_fail (fault : Fault) : Spares K (fail fault : Action α) :=
  gives_fail fault

/-- Nothing follows a failure. -/
theorem spares_fail_bind (fault : Fault) (f : α → Action β) : Spares K (fail fault >>= f) :=
  fun _ hg => ⟨hg.refl, fun _ _ => trivial⟩

theorem spares_make (object : Object) : Spares K (make object) :=
  fun _ hg => ⟨hg.add object, fun _ _ => trivial⟩

theorem spares_setNature {a : Address} {nature : Nature} (ha : ¬K a) :
    Spares K (setNature a nature) :=
  fun _ hg => ⟨hg.setNature ha, fun _ _ => trivial⟩

theorem spares_of_read {action : Action α} (h : ∀ store, (action store).2 = store) :
    Spares K action :=
  fun store hg => ⟨by rw [h store]; exact hg.refl, fun _ _ => trivial⟩

theorem spares_mapM {γ : Type} {f : γ → Action α} (h : ∀ c, Spares K (f c)) (items : List γ) :
    Spares K (items.mapM f) := by
  induction items with
  | nil => simpa using spares_pure
  | cons c items ih =>
    rw [List.mapM_cons]
    exact (h c).bind fun _ => ih.bind fun _ => spares_pure

/-- What is read as the nature of a value that is no scope is at an address not kept. -/
theorem gives_natureOf (v : Value) :
    Gives K (reading (·.natureOf v)) fun nature? =>
      ∀ a nature, v = .ref a → nature? = some nature → (∀ s, nature ≠ .scope s) → ¬K a := by
  refine (gives_reading _).mono ?_
  rintro _ ⟨store, hg, rfl⟩ a nature rfl hn hs
  exact hg.not_of_nature hn hs

end Action
open Store.Action

/-! Data that are brought into a store. -/

mutual

theorem Guarded.load {store : Store} (h : Guarded K store) (d : Datum) :
    Spared K store (store.load d).2 := by
  cases d with
  | leaf v => exact h.refl
  | again text => exact h.refl
  | bytes data => exact h.add _
  | plain => exact h.add _
  | object type text => exact h.add _
  | seq form items =>
    have hall := h.loadAll items
    exact hall.trans (hall.guarded.add _)
  | map form entries =>
    have hall := h.loadEntries entries
    exact hall.trans (hall.guarded.add _)
  | convertible type toHost toList items =>
    have hhost := h.loadConversion? toHost
    have hlist := hhost.guarded.loadConversion? toList
    have hitems := hlist.guarded.loadOption items
    exact hhost.trans (hlist.trans (hitems.trans (hitems.guarded.add _)))
  | tensor data requiresGrad =>
    have hdata := h.load data
    have hgrad := hdata.guarded.load requiresGrad
    exact hdata.trans (hgrad.trans (hgrad.guarded.add _))
  | badRepr message =>
    have hmessage := h.load message
    exact hmessage.trans (hmessage.guarded.add _)
  | fault f => exact h.loadFault f

theorem Guarded.loadAll {store : Store} (h : Guarded K store) (items : List Datum) :
    Spared K store (store.loadAll items).2 := by
  cases items with
  | nil => exact h.refl
  | cons d rest =>
    have hd := h.load d
    exact hd.trans (hd.guarded.loadAll rest)

theorem Guarded.loadEntries {store : Store} (h : Guarded K store)
    (entries : List (Datum × Datum)) : Spared K store (store.loadEntries entries).2 := by
  match entries with
  | [] => exact h.refl
  | (k, d) :: rest =>
    have hk := h.load k
    have hd := hk.guarded.load d
    exact hk.trans (hd.trans (hd.guarded.loadEntries rest))

theorem Guarded.loadNamed {store : Store} (h : Guarded K store)
    (named : List (String × Datum)) : Spared K store (store.loadNamed named).2 := by
  match named with
  | [] => exact h.refl
  | (name, d) :: rest =>
    have hd := h.load d
    exact hd.trans (hd.guarded.loadNamed rest)

theorem Guarded.loadOption {store : Store} (h : Guarded K store) (items : Option (List Datum)) :
    Spared K store (store.loadOption items).2 := by
  cases items with
  | none => exact h.refl
  | some items => exact h.loadAll items

theorem Guarded.loadConversion {store : Store} (h : Guarded K store) (c : Conversion Datum) :
    Spared K store (store.loadConversion c).2 := by
  cases c with
  | number n => exact h.refl
  | returns d => exact h.load d
  | raises d => exact h.load d

theorem Guarded.loadConversion? {store : Store} (h : Guarded K store)
    (c : Option (Conversion Datum)) : Spared K store (store.loadConversion? c).2 := by
  cases c with
  | none => exact h.refl
  | some c => exact h.loadConversion c

theorem Guarded.loadFault {store : Store} (h : Guarded K store) (f : Fault) :
    Spared K store (store.loadFault f).2 := by
  obtain ⟨kind, args, detail, members, trace, notes, cause⟩ := f
  have hargs := h.loadAll args
  have hmembers := hargs.guarded.loadNamed members
  have hcause := hmembers.guarded.loadCause cause
  exact hargs.trans (hmembers.trans (hcause.trans (hcause.guarded.add _)))

theorem Guarded.loadCause {store : Store} (h : Guarded K store) (cause : Option Fault) :
    Spared K store (store.loadCause cause).2 := by
  cases cause with
  | none => exact h.refl
  | some f => exact h.loadFault f

end

/-- A fault that is raised becomes an object of its own. -/
theorem Guarded.not_loadFault {store : Store} (h : Guarded K store) (f : Fault) :
    ¬K (store.loadFault f).1 := by
  obtain ⟨kind, args, detail, members, trace, notes, cause⟩ := f
  have hargs := h.loadAll args
  have hmembers := hargs.guarded.loadNamed members
  exact (hmembers.guarded.loadCause cause).guarded.not_added _

/-! Items. -/

theorem spares_begin (v : Value) : Spares K (begin_ v) := by
  apply spares_of_read
  intro store
  unfold begin_
  split <;> rfl

theorem spares_next (cursor : Cursor) : Spares K cursor.next := by
  cases cursor with
  | place a i => exact spares_of_read fun _ => rfl
  | key a i size =>
    apply spares_of_read
    intro store
    simp only [Cursor.next]
    split
    · split <;> rfl
    · rfl
  | range next step left =>
    apply spares_of_read
    intro store
    cases left <;> rfl
  | rest items =>
    apply spares_of_read
    intro store
    cases items <;> rfl
  | once a =>
    intro store hg
    simp only [Cursor.next]
    split
    next form items hn =>
      split
      · exact ⟨hg.refl, fun _ _ => trivial⟩
      · exact ⟨hg.setNature (hg.not_of_nature hn (by simp)), fun _ _ => trivial⟩
    next => exact ⟨hg.refl, fun _ _ => trivial⟩

theorem spares_take (n : Nat) (cursor : Cursor) : Spares K (take n cursor) := by
  induction n generalizing cursor with
  | zero => exact spares_pure
  | succ n ih =>
    refine (spares_next cursor).bind fun found => ?_
    rcases found with _ | ⟨v, cursor⟩
    · exact spares_pure
    · exact (ih cursor).bind fun _ => spares_pure

theorem spares_drain (v : Value) : Spares K (drain v) := by
  intro store hg
  refine ⟨?_, fun _ _ => trivial⟩
  unfold drain
  split
  · dsimp only
    split
    · exact hg.refl
    · split <;> exact hg.refl
  · split
    · exact hg.refl
    · split
      next a items hn => exact hg.setNature (hg.not_of_nature hn (by simp))
      next => exact hg.refl

theorem spares_spread (n : Nat) (v : Value) : Spares K (spread n v) := by
  refine (spares_reading _).bind fun cursor => ?_
  rcases cursor with _ | cursor
  · exact (spares_reading _).bind fun _ => spares_fail _
  · refine (spares_take _ _).bind fun items => ?_
    split
    · exact spares_fail _
    · split
      · exact spares_fail _
      · exact spares_pure

/-! Operators. -/

theorem spares_chainValue (c : Chain) : Spares K c.value := by
  match c with
  | .text s | .bytes false data => exact spares_pure
  | .bytes true data | .elements true items | .elements false items => exact spares_make _

theorem spares_times (c : Chain) (count : Value) : Spares K (times c count) :=
  (spares_checking _).bind fun _ => (spares_ofExcept _).bind spares_chainValue

theorem spares_joined (symbol : String) (l r : Value) : Spares K (joined symbol l r) := by
  refine (spares_reading _).bind fun store => ?_
  dsimp only
  split
  · exact spares_pure
  · exact spares_fail _
  · exact spares_chainValue _
  · exact spares_fail _
  · split
    · exact spares_chainValue _
    · exact spares_fail _
  · exact spares_fail _
  · exact spares_checking _

theorem spares_binary (symbol : String) (op : BinaryOp) (l r : Value) :
    Spares K (binary symbol op l r) := by
  unfold binary
  split
  · exact spares_ofExcept _
  · refine (spares_reading _).bind fun store => ?_
    cases op with
    | add => exact spares_joined _ _ _
    | mul =>
      dsimp only
      split
      · exact spares_times _ _
      · exact spares_times _ _
      · exact spares_ofExcept _
    | sub =>
      dsimp only
      split
      · split
        · exact spares_make _
        · exact spares_ofExcept _
      · exact spares_ofExcept _
    | _ => exact spares_ofExcept _

theorem spares_update (op : BinaryOp) (l r : Value) : Spares K (update op l r) := by
  unfold update
  refine (gives_reading id).bind ?_
  rintro _ ⟨store, hg, rfl⟩
  dsimp only [id]
  split
  next a form items hn =>
    split
    · exact (spares_drain r).bind fun _ =>
        (spares_setNature (hg.not_of_nature hn (by simp))).bind fun _ => spares_pure
    · exact spares_binary _ _ _ _
  next a form items hn =>
    split
    · refine (spares_checking _).bind fun _ => (spares_ofExcept _).bind fun c => ?_
      split
      · exact (spares_setNature (hg.not_of_nature hn (by simp))).bind
          fun _ => spares_pure
      · exact spares_pure
    · exact spares_binary _ _ _ _
  next a data hn =>
    split
    · exact (spares_setNature (hg.not_of_nature hn (by simp))).bind fun _ => spares_pure
    · exact spares_fail _
  next a data hn =>
    refine (spares_checking _).bind fun _ => (spares_ofExcept _).bind fun c => ?_
    split
    · exact (spares_setNature (hg.not_of_nature hn (by simp))).bind fun _ => spares_pure
    · exact spares_pure
  next a xs hn =>
    split
    · split
      · exact (spares_setNature (hg.not_of_nature hn (by simp))).bind
          fun _ => spares_pure
      · exact spares_binary _ _ _ _
    · exact spares_binary _ _ _ _
  next => exact spares_binary _ _ _ _

theorem spares_among (v : Value) (n : Nat) (cursor : Cursor) : Spares K (among v n cursor) := by
  induction n generalizing cursor with
  | zero => exact spares_pure
  | succ n ih =>
    refine (spares_next cursor).bind fun found => ?_
    rcases found with _ | ⟨x, cursor⟩
    · exact spares_pure
    · refine (spares_checking _).bind fun same => ?_
      split
      · exact spares_pure
      · exact ih cursor

theorem spares_contained (v container : Value) : Spares K (contained v container) := by
  refine (spares_reading _).bind fun store => ?_
  dsimp only
  split
  · exact spares_pure
  · exact spares_fail _
  · exact spares_ofExcept _
  · exact spares_ofExcept _
  · exact (spares_ofExcept _).bind fun _ => spares_pure
  · split
    · exact spares_pure
    · exact spares_among _ _ _
  · split
    all_goals
      try refine (spares_ofExcept _).bind fun _ => ?_
      split
      · exact spares_among _ _ _
      · exact spares_fail _

theorem spares_compared (op : Comparison) (l r : Value) : Spares K (compared op l r) := by
  cases op with
  | isIn => exact spares_contained _ _
  | isNotIn => exact (spares_contained _ _).map _
  | ne => exact (spares_checking _).map _
  | isSame | isNotSame => exact spares_reading _
  | _ => exact spares_checking _

/-! Items and attributes. -/

theorem spares_setItem (v index new : Value) : Spares K (setItem v index new) := by
  refine (gives_reading id).bind ?_
  rintro _ ⟨store, hg, rfl⟩
  dsimp only [id]
  split
  next a form items hn =>
    split
    · refine (spares_ofExcept _).bind fun n => ?_
      split
      · exact spares_setNature (hg.not_of_nature hn (by simp))
      · exact spares_ofExcept _
    · exact spares_fail _
  next a form entries hn =>
    split
    · exact spares_fail _
    · exact (spares_ofExcept _).bind fun _ =>
        spares_setNature (hg.not_of_nature hn (by simp))
  next a data hn =>
    refine (spares_ofExcept _).bind fun n => (spares_ofExcept _).bind fun b => ?_
    split
    · exact spares_setNature (hg.not_of_nature hn (by simp))
    · exact spares_ofExcept _
  next => exact spares_fail _

theorem spares_deleteItem (v index : Value) : Spares K (deleteItem v index) := by
  refine (gives_reading id).bind ?_
  rintro _ ⟨store, hg, rfl⟩
  dsimp only [id]
  split
  next a form items hn =>
    split
    · refine (spares_ofExcept _).bind fun n => ?_
      split
      · exact spares_setNature (hg.not_of_nature hn (by simp))
      · exact spares_ofExcept _
    · exact spares_fail _
  next a form entries hn =>
    split
    · exact spares_fail _
    · refine (spares_ofExcept _).bind fun _ => ?_
      split
      · exact spares_setNature (hg.not_of_nature hn (by simp))
      · exact spares_fail _
  next a data hn =>
    refine (spares_ofExcept _).bind fun n => ?_
    split
    · exact spares_setNature (hg.not_of_nature hn (by simp))
    · exact spares_ofExcept _
  next => exact spares_fail _

theorem spares_exceptionAttribute (e : Exception) (name : String) :
    Spares K (exceptionAttribute? e name) := by
  unfold exceptionAttribute?
  split
  · exact Spares.map _ (spares_make _)
  all_goals exact spares_pure

theorem spares_natural (a : Address) (nature : Nature) (name : String) :
    Spares K (natural? a nature name) := by
  unfold natural?
  split
  · exact spares_exceptionAttribute _ _
  all_goals exact spares_pure

theorem spares_attribute (v : Value) (name : String) : Spares K (attribute? v name) := by
  unfold attribute?
  cases v with
  | ref a =>
    refine (spares_reading _).bind fun object => ?_
    rcases object with _ | object
    · exact spares_pure
    · dsimp only
      split
      · exact spares_pure
      · exact spares_natural _ _ _
  | _ => exact spares_pure

theorem spares_getAttribute (v : Value) (name : String) : Spares K (getAttribute v name) := by
  refine (spares_attribute v name).bind fun held => ?_
  rcases held with _ | held
  · exact (spares_reading _).bind fun _ => spares_fail _
  · exact spares_pure

theorem spares_refuseBinding (v : Value) (name : String) : Spares K (refuseBinding v name) := by
  unfold refuseBinding
  split
  · exact spares_fail _
  · exact (spares_reading _).bind fun _ => spares_fail _

theorem spares_modify (a : Address) {f : Object → Object}
    (h : ∀ object, (f object).nature = object.nature) : Spares K (changing (·.modify a f)) :=
  fun _ hg => ⟨hg.modifyAttributes a h, fun _ _ => trivial⟩

theorem spares_setAttribute (v : Value) (name : String) (new : Value) :
    Spares K (setAttribute v name new) := by
  refine (gives_natureOf v).bind fun nature? hn => ?_
  split
  next a nature =>
    split
    · exact (spares_drain _).bind fun _ =>
        spares_setNature (hn a _ rfl rfl (by simp))
    · exact spares_setNature (hn a _ rfl rfl (by simp))
    · exact spares_setNature (hn a _ rfl rfl (by simp))
    · split
      · exact spares_modify a fun _ => rfl
      · exact spares_refuseBinding _ _
  next => exact spares_refuseBinding _ _

theorem spares_deleteAttribute (v : Value) (name : String) :
    Spares K (deleteAttribute v name) := by
  unfold deleteAttribute
  split
  next a =>
    refine (spares_reading _).bind fun object => ?_
    rcases object with _ | object
    · exact spares_refuseBinding _ _
    · dsimp only
      split
      · exact spares_refuseBinding _ _
      · split
        · exact spares_modify a fun _ => rfl
        · exact spares_fail _
  next => exact spares_refuseBinding _ _

/-! Exceptions. -/

theorem spares_draftGrammar (kind : Fault.Kind) (args : List Value) :
    Spares K (draftGrammar kind args) := by
  unfold draftGrammar
  split
  · exact spares_pure
  · refine (spares_drain _).bind fun parts => (spares_ofExcept _).bind fun _ => ?_
    dsimp only
    split
    · exact spares_fail_bind _ _
    · exact spares_pure
  · exact spares_pure

theorem spares_draftSystem (kind : Fault.Kind) (args : List Value) :
    Spares K (draftSystem kind args) := by
  unfold draftSystem
  split
  · dsimp only
    split
    · exact spares_pure
    · split
      · exact spares_pure
      · exact spares_pure
      · split
        · exact (spares_checking _).bind fun _ => spares_pure
        · exact spares_pure
  · exact spares_pure

theorem spares_draftCoding (kind : Fault.Kind) (args : List Value) :
    Spares K (draftCoding kind args) := by
  refine (spares_reading _).bind fun store => (spares_ofExcept _).bind fun _ => ?_
  dsimp only
  split
  · exact (spares_ofExcept _).bind fun _ => (spares_ofExcept _).bind fun _ =>
      (spares_ofExcept _).bind fun _ => (spares_ofExcept _).bind fun _ => spares_pure
  · refine (spares_ofExcept _).bind fun _ => ?_
    have rest (start stop reason object : Value) (d : Draft) : Spares K (do
        Action.ofExcept (store.wordArgument start)
        Action.ofExcept (store.wordArgument stop)
        Action.ofExcept (store.textArgument "" 5 reason)
        if kind = .unicodeDecodeError ∧ (store.bytes? object).isNone then
          Action.fail (.of .typeError
            s!"a bytes-like object is required, not '{store.typeName object}'")
        return d) := by
      refine (spares_ofExcept _).bind fun _ => (spares_ofExcept _).bind fun _ =>
        (spares_ofExcept _).bind fun _ => ?_
      split
      · exact spares_fail_bind _ _
      · exact spares_pure
    split
    · exact (spares_ofExcept _).bind fun _ => rest _ _ _ _ _
    · exact rest _ _ _ _ _
  · exact spares_pure

theorem spares_draftGroup (kind : Fault.Kind) (args : List Value) :
    Spares K (draftGroup kind args) := by
  refine (spares_reading _).bind fun store => (spares_ofExcept _).bind fun _ => ?_
  dsimp only
  split
  · refine (spares_ofExcept _).bind fun _ => ?_
    split
    · exact spares_fail_bind _ _
    · refine (spares_drain _).bind fun members => ?_
      split
      · exact spares_fail_bind _ _
      · split
        · exact spares_fail_bind _ _
        · split
          · exact spares_fail_bind _ _
          · exact (spares_make _).bind fun _ => spares_pure
  · exact spares_pure

theorem spares_bundled (args : List Value) : Spares K (bundled args) := by
  unfold bundled
  split
  · exact spares_pure
  · exact spares_pure
  · exact spares_make _

theorem spares_draft (kind : Fault.Kind) (args : List Value) (keywords : List (String × Value)) :
    Spares K (draft kind args keywords) := by
  unfold draft
  split
  · exact (spares_ofExcept _).bind fun _ => spares_pure
  · split
    · refine (spares_draftGroup _ _).bind fun d => ?_
      split
      · exact spares_pure
      · exact spares_fail _
    · split
      · exact spares_fail _
      · split
        · exact spares_draftGrammar _ _
        · split
          · exact spares_draftSystem _ _
          · split
            · exact spares_draftCoding _ _
            · split
              · exact spares_pure
              · split
                · exact (spares_bundled _).bind fun _ => spares_pure
                · exact spares_pure

/-- An exception is made where nothing is kept. -/
theorem gives_construct (kind : Fault.Kind) (args : List Value)
    (keywords : List (String × Value)) : Gives K (construct kind args keywords) (¬K ·) := by
  unfold construct
  split
  · refine (spares_reading _).bind fun store => (spares_ofExcept _).bind fun fault => ?_
    exact fun store hg => ⟨hg.loadFault fault, fun _ ha => Except.ok.inj ha ▸ hg.not_loadFault fault⟩
  · refine (spares_draft _ _ _).bind fun d => ?_
    exact fun store hg => ⟨hg.add _, fun _ ha => Except.ok.inj ha ▸ hg.not_added _⟩

end Chunkwise.Store
