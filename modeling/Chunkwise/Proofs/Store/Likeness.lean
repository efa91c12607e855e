import Chunkwise.Proofs.Store.Places
import Chunkwise.Proofs.Store.Spares

/-!
Steps on a store go by what is there, not by where code stands: on two stores that are the same but
for places they do the same, and what they leave is again the same but for places.
-/
namespace Chunkwise.Store
open Code

variable {α β : Type}

namespace Action

/-- Two steps do the same to stores that are the same but for places. -/
def Alike (m m' : Action α) : Prop :=
  ∀ s s' : Store, s.unplaced = s'.unplaced →
    unplacedResult (m s).1 = unplacedResult (m' s').1 ∧ (m s).2.unplaced = (m' s').2.unplaced

/-- A step does the same to stores that are the same but for places. -/
abbrev Blind (m : Action α) : Prop :=
  Alike m m

variable {m m' m'' : Action α}

theorem Alike.symm (h : Alike m m') : Alike m' m := fun s s' hs =>
  have hr := h s' s hs.symm
  ⟨hr.1.symm, hr.2.symm⟩

theorem Alike.trans (h : Alike m m') (h' : Alike m' m'') : Alike m m'' := fun s s' hs =>
  have hr := h s s' hs
  have hr' := h' s' s' rfl
  ⟨hr.1.trans hr'.1, hr.2.trans hr'.2⟩

theorem Alike.of_eq (h : m = m') (hm' : Blind m') : Alike m m' :=
  h ▸ hm'

/-- It is enough to compare with a store that has no places. -/
theorem blind_of_unplaced (h : ∀ s : Store,
    unplacedResult (m s.unplaced).1 = unplacedResult (m s).1 ∧
      (m s.unplaced).2.unplaced = (m s).2.unplaced) : Blind m := by
  intro s s' hs
  have hr := h s
  rw [hs] at hr
  exact ⟨hr.1.symm.trans (h s').1, hr.2.symm.trans (h s').2⟩

/-- A step that leaves the store as it is goes by what it gives. -/
theorem blind_of_read (hread : ∀ s, (m s).2 = s)
    (h : ∀ s : Store, (m s.unplaced).1 = (m s).1) : Blind m :=
  blind_of_unplaced fun s => by simp only [hread, h, unplaced_unplaced, and_self]

theorem Alike.bind {f f' : α → Action β} (h : Alike m m') (hf : ∀ a, Alike (f a) (f' a)) :
    Alike (m >>= f) (m' >>= f') := by
  intro s s' hs
  have hr := h s s' hs
  rw [bind_apply, bind_apply]
  rcases hm : m s with ⟨fault | a, t⟩ <;> rcases hm' : m' s' with ⟨fault' | a', t'⟩ <;>
    rw [hm, hm'] at hr
  · exact ⟨congrArg Except.error (Except.error.inj hr.1), hr.2⟩
  · cases hr.1
  · cases hr.1
  · obtain rfl : a = a' := Except.ok.inj hr.1
    exact hf a t t' hr.2

/-- What follows may begin with something else that comes of the same. -/
theorem Alike.ok_bind {a a' : β} {f f' : β → Action α} (h : Alike (f a) (f' a')) :
    Alike (ofExcept (.ok a) >>= f) (ofExcept (.ok a') >>= f') :=
  h

theorem blind_pure {a : α} : Blind (pure a) :=
  fun _ _ hs => ⟨rfl, hs⟩

theorem Alike.map (f : α → β) (h : Alike m m') : Alike (f <$> m) (f <$> m') :=
  h.bind fun _ => blind_pure

/-- What is read may have places, as long as they make no difference to what follows. -/
theorem alike_reading_bind {γ : Type} {g : Store → γ} {f f' : γ → Action α}
    (h : ∀ s s' : Store, s.unplaced = s'.unplaced → Alike (f (g s)) (f' (g s'))) :
    Alike (reading g >>= f) (reading g >>= f') :=
  fun s s' hs => h s s' hs s s' hs

theorem blind_reading_bind {γ : Type} {g : Store → γ} {f : γ → Action α}
    (h : ∀ s, Alike (f (g s.unplaced)) (f (g s))) : Blind (reading g >>= f) := by
  refine alike_reading_bind fun s s' hs => ?_
  have hread := h s
  rw [hs] at hread
  exact hread.symm.trans (h s')

theorem blind_reading {g : Store → α} (h : ∀ s, g s.unplaced = g s) : Blind (reading g) := by
  refine blind_of_read (fun _ => rfl) fun s => ?_
  simp only [reading, h]

theorem blind_checking {g : Store → Except Fault α} (h : ∀ s, g s.unplaced = g s) :
    Blind (checking g) := by
  refine blind_of_read (fun _ => rfl) fun s => ?_
  simp only [checking, h]

/-- What a reading complains of may have passed places, but that is all that they change. -/
theorem blind_complaining {g : Store → Except Fault α}
    (h : ∀ s, g s.unplaced = unplacedResult (g s)) : Blind (checking g) :=
  fun s s' hs => ⟨(h s).symm.trans ((congrArg g hs).trans (h s')), hs⟩

theorem blind_ofExcept (result : Except Fault α) : Blind (ofExcept result) :=
  fun _ _ hs => ⟨rfl, hs⟩

theorem alike_ofExcept {result result' : Except Fault α}
    (h : unplacedResult result = unplacedResult result') :
    Alike (ofExcept result) (ofExcept result') :=
  fun _ _ hs => ⟨h, hs⟩

theorem blind_fail (fault : Fault) : Blind (fail fault : Action α) :=
  fun _ _ hs => ⟨rfl, hs⟩

/-- Nothing follows a failure. -/
theorem blind_fail_bind (fault : Fault) (f : α → Action β) : Blind (fail fault >>= f) :=
  fun _ _ hs => ⟨rfl, hs⟩

theorem alike_changing {f f' : Store → Store}
    (h : ∀ s s', s.unplaced = s'.unplaced → (f s).unplaced = (f' s').unplaced) :
    Alike (changing f) (changing f') :=
  fun s s' hs => ⟨rfl, h s s' hs⟩

theorem alike_setNature (a : Address) {nature other : Nature}
    (h : nature.unplaced = other.unplaced) : Alike (setNature a nature) (setNature a other) :=
  alike_changing fun s s' hs => by rw [unplaced_setNature, unplaced_setNature, hs, h]

theorem blind_modify (a : Address) {f : Object → Object}
    (h : ∀ object, (f object).unplaced = f object.unplaced) : Blind (changing (·.modify a f)) :=
  alike_changing fun s s' hs => by rw [unplaced_modify s h, unplaced_modify s' h, hs]

theorem alike_add {object other : Object} (h : object.unplaced = other.unplaced) :
    Alike (fun store => match store.add object with
        | (a, store) => (.ok a, store))
      (fun store => match store.add other with
        | (a, store) => (.ok a, store)) := by
  intro s s' hs
  have hadd := s.unplaced_add h
  rw [hs, unplaced_add s' rfl, Prod.mk.injEq] at hadd
  exact ⟨congrArg Except.ok hadd.1.symm, hadd.2.symm⟩

theorem alike_make {object other : Object} (h : object.unplaced = other.unplaced) :
    Alike (make object) (make other) := by
  intro s s' hs
  have hmake := s.unplaced_make h
  rw [hs, unplaced_make s' rfl, Prod.mk.injEq] at hmake
  exact ⟨congrArg Except.ok hmake.1.symm, hmake.2.symm⟩

theorem blind_make (object : Object) : Blind (make object) :=
  alike_make rfl

theorem alike_load {d d' : Datum} (h : d.unplaced = d'.unplaced) : Alike (load d) (load d') := by
  intro s s' hs
  have hload := s.unplaced_load d
  rw [hs, h, unplaced_load s' d', Prod.mk.injEq] at hload
  exact ⟨congrArg Except.ok hload.1.symm, hload.2.symm⟩

theorem blind_mapM {γ : Type} {f : γ → Action α} (h : ∀ c, Blind (f c)) (items : List γ) :
    Blind (items.mapM f) := by
  induction items with
  | nil => simpa using blind_pure
  | cons c items ih =>
    rw [List.mapM_cons]
    exact (h c).bind fun _ => ih.bind fun _ => blind_pure

end Action
open Store.Action

/-! Items. -/

theorem blind_begin (v : Value) : Blind (begin_ v) := by
  refine blind_of_read (fun s => ?_) fun s => ?_
  · unfold begin_
    split <;> rfl
  · simp only [begin_, cursor?_unplaced, notIterable_unplaced]
    cases s.cursor? v <;> rfl

theorem blind_next (cursor : Cursor) : Blind cursor.next := by
  refine blind_of_unplaced fun s => ?_
  cases cursor with
  | place a i =>
    simp only [Cursor.next, nature?_unplaced, unplaced_unplaced, and_true]
    rcases s.nature? a with _ | nature
    · rfl
    · cases nature <;> rfl
  | key a i size =>
    simp only [Cursor.next, nature?_unplaced]
    rcases s.nature? a with _ | nature
    · exact ⟨rfl, s.unplaced_unplaced⟩
    · cases nature with
      | map form entries =>
        dsimp only [Option.map_some, Nature.unplaced]
        split <;> exact ⟨rfl, s.unplaced_unplaced⟩
      | _ => exact ⟨rfl, s.unplaced_unplaced⟩
  | range next step left => cases left <;> exact ⟨rfl, s.unplaced_unplaced⟩
  | rest items => cases items <;> exact ⟨rfl, s.unplaced_unplaced⟩
  | once a =>
    simp only [Cursor.next, nature?_unplaced]
    rcases s.nature? a with _ | nature
    · exact ⟨rfl, s.unplaced_unplaced⟩
    · cases nature with
      | seq form items =>
        dsimp only [Option.map_some, Nature.unplaced]
        cases items.toList with
        | nil => exact ⟨rfl, s.unplaced_unplaced⟩
        | cons v left =>
          dsimp only
          rw [unplaced_setNature, unplaced_setNature, unplaced_unplaced]
          exact ⟨rfl, rfl⟩
      | _ => exact ⟨rfl, s.unplaced_unplaced⟩

theorem blind_take (n : Nat) (cursor : Cursor) : Blind (take n cursor) := by
  induction n generalizing cursor with
  | zero => exact blind_pure
  | succ n ih =>
    refine (blind_next cursor).bind fun found => ?_
    rcases found with _ | ⟨v, cursor⟩
    · exact blind_pure
    · exact (ih cursor).bind fun _ => blind_pure

theorem blind_drain (v : Value) : Blind (drain v) := by
  refine blind_of_unplaced fun s => ?_
  unfold drain
  split
  · dsimp only
    split
    · exact ⟨rfl, s.unplaced_unplaced⟩
    · split <;> exact ⟨rfl, s.unplaced_unplaced⟩
  · rw [items?_unplaced, notIterable_unplaced, natureOf_unplaced]
    cases s.items? v with
    | none => exact ⟨rfl, s.unplaced_unplaced⟩
    | some items =>
      have hkept : ∀ store : Store, store.unplaced = s.unplaced →
          unplacedResult (.ok items : Except Fault (List Value)) = unplacedResult (.ok items) ∧
            store.unplaced = s.unplaced := fun _ h => ⟨rfl, h⟩
      rcases s.natureOf v with _ | nature
      · cases v <;> exact hkept _ s.unplaced_unplaced
      · cases nature with
        | seq form xs =>
          cases form with
          | generator =>
            cases v with
            | ref a =>
              refine ⟨rfl, ?_⟩
              simp only [Option.map_some, Nature.unplaced, unplaced_setNature, unplaced_unplaced]
            | _ => exact hkept _ s.unplaced_unplaced
          | _ => cases v <;> exact hkept _ s.unplaced_unplaced
        | _ => cases v <;> exact hkept _ s.unplaced_unplaced

theorem blind_spread (n : Nat) (v : Value) : Blind (spread n v) := by
  refine (blind_reading fun s => s.cursor?_unplaced v).bind fun cursor => ?_
  rcases cursor with _ | cursor
  · exact (blind_reading fun s => s.typeName_unplaced v).bind fun _ => blind_fail _
  · refine (blind_take _ _).bind fun items => ?_
    split
    · exact blind_fail _
    · split
      · exact blind_fail _
      · exact blind_pure

/-! Operators. -/

theorem blind_chainValue (c : Chain) : Blind c.value := by
  match c with
  | .text s | .bytes false data => exact blind_pure
  | .bytes true data | .elements true items | .elements false items => exact blind_make _

theorem blind_times (c : Chain) (count : Value) : Blind (times c count) :=
  (blind_checking fun s => s.repeatCount_unplaced count).bind fun _ =>
    (blind_ofExcept _).bind blind_chainValue

theorem blind_joined (symbol : String) (l r : Value) : Blind (joined symbol l r) := by
  refine blind_reading_bind fun s => ?_
  simp only [id, chain?_unplaced, typeName_unplaced]
  split
  · exact blind_pure
  · exact blind_fail _
  · exact blind_chainValue _
  · exact blind_fail _
  · split
    · exact blind_chainValue _
    · exact blind_fail _
  · exact blind_fail _
  · exact blind_checking fun s => s.unsupported_unplaced _ _ _

theorem blind_binary (symbol : String) (op : BinaryOp) (l r : Value) :
    Blind (binary symbol op l r) := by
  unfold binary
  split
  · exact blind_ofExcept _
  · refine blind_reading_bind fun s => ?_
    simp only [id, chain?_unplaced, unsupported_unplaced, natureOf_unplaced, without_unplaced]
    cases op with
    | add => exact blind_joined _ _ _
    | mul =>
      dsimp only
      split
      · exact blind_times _ _
      · exact blind_times _ _
      · exact blind_ofExcept _
    | sub =>
      dsimp only
      rcases s.natureOf l with _ | nature
      · exact blind_ofExcept _
      · cases nature with
        | seq f xs =>
          rcases s.natureOf r with _ | nature
          · exact blind_ofExcept _
          · cases nature with
            | seq g ys =>
              dsimp only [Option.map_some, Nature.unplaced]
              split
              · exact blind_make _
              · exact blind_ofExcept _
            | _ => exact blind_ofExcept _
        | _ => exact blind_ofExcept _
    | _ => exact blind_ofExcept _

theorem blind_update (op : BinaryOp) (l r : Value) : Blind (update op l r) := by
  refine blind_reading_bind fun s => ?_
  simp only [id, natureOf_unplaced, bytes?_unplaced, typeName_unplaced, without_unplaced]
  have hbinary : Blind (binary op.updateSymbol op l r) := blind_binary _ _ _ _
  rcases s.natureOf l with _ | nature
  · cases op <;> cases l <;> exact hbinary
  · rcases nature.unplaced_cases with h | ⟨f, rfl⟩ | ⟨work, progress, rfl⟩ | ⟨e, rfl⟩
    · rw [Option.map_some, h]
      have hset (a : Address) (nature : Nature) : Blind (do
          Action.setNature a nature
          return l) := (alike_setNature a rfl).bind fun _ => blind_pure
      split
      · split
        · exact (blind_drain r).bind fun _ => hset _ _
        · exact hbinary
      · split
        · refine (blind_checking fun s => s.repeatCount_unplaced r).bind fun _ =>
            (blind_ofExcept _).bind fun c => ?_
          split
          · exact hset _ _
          · exact blind_pure
        · exact hbinary
      · split
        · exact hset _ _
        · exact blind_fail _
      · refine (blind_checking fun s => s.repeatCount_unplaced r).bind fun _ =>
          (blind_ofExcept _).bind fun c => ?_
        split
        · exact hset _ _
        · exact blind_pure
      · rcases s.natureOf r with _ | other
        · exact hbinary
        · cases other with
          | seq form ys =>
            dsimp only [Option.map_some, Nature.unplaced]
            split
            · exact hset _ _
            · exact hbinary
          | _ => exact hbinary
      · exact hbinary
    all_goals cases op <;> cases l <;> exact hbinary

theorem blind_among (v : Value) (n : Nat) (cursor : Cursor) : Blind (among v n cursor) := by
  induction n generalizing cursor with
  | zero => exact blind_pure
  | succ n ih =>
    refine (blind_next cursor).bind fun found => ?_
    rcases found with _ | ⟨x, cursor⟩
    · exact blind_pure
    · refine (blind_checking fun s => s.sameItem_unplaced x v).bind fun same => ?_
      split
      · exact blind_pure
      · exact ih cursor

theorem blind_contained (v container : Value) : Blind (contained v container) := by
  refine blind_reading_bind fun s => ?_
  simp only [id, natureOf_unplaced, bytesContain_unplaced, typeName_unplaced, hashed_unplaced,
    lookupKey_unplaced, cursor?_unplaced]
  refine .of_eq ?_ ?_
  · rcases s.natureOf container with _ | nature
    · rfl
    · rcases nature.unplaced_cases with h | ⟨f, rfl⟩ | ⟨work, progress, rfl⟩ | ⟨e, rfl⟩
      · rw [Option.map_some, h]
      all_goals cases container <;> cases v <;> rfl
  · split
    · exact blind_pure
    · exact blind_fail _
    · exact blind_ofExcept _
    · exact blind_ofExcept _
    · exact (blind_ofExcept _).bind fun _ => blind_pure
    · split
      · exact blind_pure
      · exact blind_among _ _ _
    · split
      all_goals
        try refine (blind_ofExcept _).bind fun _ => ?_
        split
        · exact blind_among _ _ _
        · exact blind_fail _

theorem blind_compared (op : Comparison) (l r : Value) : Blind (compared op l r) := by
  cases op with
  | isIn => exact blind_contained _ _
  | isNotIn => exact (blind_contained _ _).map _
  | ne => exact Alike.map _ (blind_checking fun s => s.same_unplaced l r)
  | isSame => exact blind_reading fun s => s.identical_unplaced l r
  | isNotSame => exact blind_reading fun s => congrArg (!·) (s.identical_unplaced l r)
  | eq => exact blind_checking fun s => s.same_unplaced l r
  | _ => exact blind_checking fun s => s.ordered_unplaced _ l r

/-! Items and attributes. -/

theorem blind_setItem (v index new : Value) : Blind (setItem v index new) := by
  refine blind_reading_bind fun s => ?_
  simp only [id, natureOf_unplaced, wrongIndex_unplaced, hashed_unplaced, putEntry_unplaced,
    byteOf_unplaced, typeName_unplaced]
  refine .of_eq ?_ ?_
  · rcases s.natureOf v with _ | nature
    · rfl
    · rcases nature.unplaced_cases with h | ⟨f, rfl⟩ | ⟨work, progress, rfl⟩ | ⟨e, rfl⟩
      · rw [Option.map_some, h]
      all_goals cases v <;> rfl
  · split
    · split
      · refine (blind_ofExcept _).bind fun n => ?_
        split
        · exact alike_setNature _ rfl
        · exact blind_ofExcept _
      · exact blind_fail _
    · split
      · exact blind_fail _
      · exact (blind_ofExcept _).bind fun _ => alike_setNature _ rfl
    · refine (blind_ofExcept _).bind fun n => (blind_ofExcept _).bind fun b => ?_
      split
      · exact alike_setNature _ rfl
      · exact blind_ofExcept _
    · exact blind_fail _

theorem blind_deleteItem (v index : Value) : Blind (deleteItem v index) := by
  refine blind_reading_bind fun s => ?_
  simp only [id, natureOf_unplaced, wrongIndex_unplaced, hashed_unplaced, lookupKey_unplaced,
    sameKey_unplaced, typeName_unplaced]
  refine .of_eq ?_ ?_
  · rcases s.natureOf v with _ | nature
    · rfl
    · rcases nature.unplaced_cases with h | ⟨f, rfl⟩ | ⟨work, progress, rfl⟩ | ⟨e, rfl⟩
      · rw [Option.map_some, h]
      all_goals cases v <;> rfl
  · split
    · split
      · refine (blind_ofExcept _).bind fun n => ?_
        split
        · exact alike_setNature _ rfl
        · exact blind_ofExcept _
      · exact blind_fail _
    · split
      · exact blind_fail _
      · refine (blind_ofExcept _).bind fun _ => ?_
        split
        · exact alike_setNature _ rfl
        · exact blind_fail _
    · refine (blind_ofExcept _).bind fun n => ?_
      split
      · exact alike_setNature _ rfl
      · exact blind_ofExcept _
    · exact blind_fail _

/-- No attribute that an object has by its nature tells of places. -/
theorem natural?_unplaced (a : Address) (nature : Nature) (name : String) :
    natural? a nature.unplaced name = natural? a nature name := by
  cases nature <;> rfl

theorem blind_exceptionAttribute (e : Exception) (name : String) :
    Blind (exceptionAttribute? e name) := by
  unfold exceptionAttribute?
  split
  · exact Alike.map _ (blind_make _)
  all_goals exact blind_pure

theorem blind_natural (a : Address) (nature : Nature) (name : String) :
    Blind (natural? a nature name) := by
  unfold natural?
  split
  · exact blind_exceptionAttribute _ _
  all_goals exact blind_pure

theorem blind_attribute (v : Value) (name : String) : Blind (attribute? v name) := by
  unfold attribute?
  cases v with
  | ref a =>
    refine blind_reading_bind fun s => ?_
    rw [get?_unplaced]
    rcases s.get? a with _ | object
    · exact blind_pure
    · dsimp only [Option.map_some, Object.unplaced]
      split
      · exact blind_pure
      · exact .of_eq (natural?_unplaced _ _ _) (blind_natural _ _ _)
  | _ => exact blind_pure

theorem blind_getAttribute (v : Value) (name : String) : Blind (getAttribute v name) := by
  refine (blind_attribute v name).bind fun held => ?_
  rcases held with _ | held
  · exact (blind_reading fun s => s.missingAttribute_unplaced v name).bind fun _ => blind_fail _
  · exact blind_pure

theorem blind_refuseBinding (v : Value) (name : String) : Blind (refuseBinding v name) := by
  unfold refuseBinding
  split
  · exact blind_fail _
  · exact (blind_reading fun s => s.missingAttribute_unplaced v name).bind fun _ => blind_fail _

theorem isOpen_unplaced (nature : Nature) : isOpen nature.unplaced = isOpen nature := by
  cases nature <;> rfl

theorem blind_setAttribute (v : Value) (name : String) (new : Value) :
    Blind (setAttribute v name new) := by
  refine blind_reading_bind fun s => ?_
  have hset (a : Address) : Blind (changing (·.modify a fun object =>
      { object with attributes := object.attributes.set name new })) := blind_modify a fun _ => rfl
  rw [natureOf_unplaced]
  rcases s.natureOf v with _ | nature
  · cases v <;> exact blind_refuseBinding _ _
  · cases v with
    | ref a =>
      rcases nature.unplaced_cases with h | ⟨f, rfl⟩ | ⟨work, progress, rfl⟩ | ⟨e, rfl⟩
      · rw [Option.map_some, h]
        dsimp only
        split
        · exact (blind_drain _).bind fun _ => alike_setNature a rfl
        · exact alike_setNature a rfl
        · exact alike_setNature a rfl
        · split
          · exact hset a
          · exact blind_refuseBinding _ _
      · exact hset a
      · simpa [Nature.unplaced, isOpen] using blind_refuseBinding (.ref a) name
      · dsimp only [Option.map_some, Nature.unplaced]
        split
        next he =>
          cases he
          exact (blind_drain _).bind fun _ => alike_setNature a rfl
        next he =>
          cases he
          exact alike_setNature a rfl
        next he =>
          cases he
          exact alike_setNature a rfl
        next hargs hnull hcause =>
          rw [show isOpen (.exception e.unplaced) = true from rfl, if_pos rfl]
          split
          · exact (hargs _ rfl rfl).elim
          · exact (hnull _ rfl rfl rfl).elim
          · exact (hcause _ _ rfl rfl rfl).elim
          · exact hset a
    | _ => exact blind_refuseBinding _ _

theorem blind_deleteAttribute (v : Value) (name : String) : Blind (deleteAttribute v name) := by
  unfold deleteAttribute
  split
  next a =>
    refine blind_reading_bind fun s => ?_
    rw [get?_unplaced]
    rcases s.get? a with _ | object
    · exact blind_refuseBinding _ _
    · dsimp only [Option.map_some, Object.unplaced]
      rw [isOpen_unplaced]
      split
      · exact blind_refuseBinding _ _
      · split
        · exact blind_modify a fun _ => rfl
        · exact blind_fail _
  next => exact blind_refuseBinding _ _

/-! Exceptions. -/

theorem blind_draftGrammar (kind : Fault.Kind) (args : List Value) :
    Blind (draftGrammar kind args) := by
  unfold draftGrammar
  split
  · exact blind_pure
  · refine (blind_drain _).bind fun parts => (blind_ofExcept _).bind fun _ => ?_
    dsimp only
    split
    · exact blind_fail_bind _ _
    · exact blind_pure
  · exact blind_pure

theorem blind_draftSystem (kind : Fault.Kind) (args : List Value) :
    Blind (draftSystem kind args) := by
  unfold draftSystem
  split
  · dsimp only
    split
    · exact blind_pure
    · split
      · exact blind_pure
      · exact blind_pure
      · split
        · exact (blind_checking fun s => by rw [typeName_unplaced]).bind fun _ => blind_pure
        · exact blind_pure
  · exact blind_pure

theorem blind_draftCoding (kind : Fault.Kind) (args : List Value) :
    Blind (draftCoding kind args) := by
  refine blind_reading_bind fun s => ?_
  simp only [id, textArgument_unplaced, wordArgument_unplaced, bytes?_unplaced, typeName_unplaced]
  refine (blind_ofExcept _).bind fun _ => ?_
  split
  · exact (blind_ofExcept _).bind fun _ => (blind_ofExcept _).bind fun _ =>
      (blind_ofExcept _).bind fun _ => (blind_ofExcept _).bind fun _ => blind_pure
  · refine (blind_ofExcept _).bind fun _ => ?_
    have rest (start stop reason object : Value) (d : Draft) : Blind (do
        Action.ofExcept (s.wordArgument start)
        Action.ofExcept (s.wordArgument stop)
        Action.ofExcept (s.textArgument "" 5 reason)
        if kind = .unicodeDecodeError ∧ (s.bytes? object).isNone then
          Action.fail (.of .typeError
            s!"a bytes-like object is required, not '{s.typeName object}'")
        return d) := by
      refine (blind_ofExcept _).bind fun _ => (blind_ofExcept _).bind fun _ =>
        (blind_ofExcept _).bind fun _ => ?_
      split
      · exact blind_fail_bind _ _
      · exact blind_pure
    split
    · exact (blind_ofExcept _).bind fun _ => rest _ _ _ _ _
    · exact rest _ _ _ _ _
  · exact blind_pure

theorem blind_draftGroup (kind : Fault.Kind) (args : List Value) :
    Blind (draftGroup kind args) := by
  refine blind_reading_bind fun s => ?_
  have hkind : s.unplaced.exceptionKind? = s.exceptionKind? := funext s.exceptionKind?_unplaced
  simp only [id, textArgument_unplaced, isSequence_unplaced, hkind]
  refine (blind_ofExcept _).bind fun _ => ?_
  split
  · refine (blind_ofExcept _).bind fun _ => ?_
    split
    · exact blind_fail_bind _ _
    · refine (blind_drain _).bind fun members => ?_
      split
      · exact blind_fail_bind _ _
      · split
        · exact blind_fail_bind _ _
        · split
          · exact blind_fail_bind _ _
          · exact (blind_make _).bind fun _ => blind_pure
  · exact blind_pure

theorem blind_bundled (args : List Value) : Blind (bundled args) := by
  unfold bundled
  split
  · exact blind_pure
  · exact blind_pure
  · exact blind_make _

theorem blind_draft (kind : Fault.Kind) (args : List Value) (keywords : List (String × Value)) :
    Blind (draft kind args keywords) := by
  unfold draft
  split
  · exact (blind_ofExcept _).bind fun _ => blind_pure
  · split
    · refine (blind_draftGroup _ _).bind fun d => ?_
      split
      · exact blind_pure
      · exact blind_fail _
    · split
      · exact blind_fail _
      · split
        · exact blind_draftGrammar _ _
        · split
          · exact blind_draftSystem _ _
          · split
            · exact blind_draftCoding _ _
            · split
              · exact blind_pure
              · split
                · exact (blind_bundled _).bind fun _ => blind_pure
                · exact blind_pure

/-- Faults that are the same but for places become exceptions that are. -/
theorem alike_loadFault {fault other : Fault} (h : fault.unplaced = other.unplaced) :
    Alike (fun store => match store.loadFault fault with
        | (a, store) => (.ok a, store))
      (fun store => match store.loadFault other with
        | (a, store) => (.ok a, store)) := by
  intro s s' hs
  have hload := s.unplaced_loadFault fault
  rw [hs, h, unplaced_loadFault s' other, Prod.mk.injEq] at hload
  exact ⟨congrArg Except.ok hload.1.symm, hload.2.symm⟩

theorem blind_construct (kind : Fault.Kind) (args : List Value)
    (keywords : List (String × Value)) : Blind (construct kind args keywords) := by
  unfold construct
  split
  · refine blind_reading_bind fun s => ?_
    have hread : s.unplaced.read = Datum.unplaced ∘ s.read := funext s.read_unplaced
    have hown := Fault.constructOwn_unplaced kind (args.map s.read)
    rw [List.map_map] at hown
    simp only [id, hread, hown]
    cases Fault.constructOwn kind (args.map s.read) with
    | error fault => exact (alike_ofExcept (by simp [Except.map, Except.mapError])).bind fun _ =>
        alike_loadFault rfl
    | ok fault => exact .ok_bind (alike_loadFault fault.unplaced_unplaced)
  · exact (blind_draft _ _ _).bind fun d => alike_add rfl

end Chunkwise.Store
