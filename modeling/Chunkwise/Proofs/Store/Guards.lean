import Chunkwise.World.Basic
import Mathlib.Tactic.Basic

/-!
Scopes that code keeps its hands off. Names are bound in a scope only by the code it belongs to: no
other step on a store changes what a scope binds, or makes something else of it.
-/
namespace Chunkwise.Store

/-- There are scopes at the addresses that are kept. -/
def Guarded (K : Address → Prop) (store : Store) : Prop :=
  ∀ a, K a → (store.scope? a).isSome

/-- The scopes kept are kept, with all that they bind. -/
structure Spared (K : Address → Prop) (store store' : Store) : Prop where
  guarded : Guarded K store'
  names : ∀ a, K a → store'.names a = store.names a

variable {K : Address → Prop} {store store' : Store}

theorem Guarded.refl (h : Guarded K store) : Spared K store store :=
  ⟨h, fun _ _ => rfl⟩

theorem Spared.trans {store'' : Store} (h : Spared K store store') (h' : Spared K store' store'') :
    Spared K store store'' :=
  ⟨h'.guarded, fun a ha => (h'.names a ha).trans (h.names a ha)⟩

/-- What is no scope is at none of the addresses kept. -/
theorem Guarded.not_of_nature (h : Guarded K store) {a : Address} {nature : Nature}
    (hn : store.nature? a = some nature) (hs : ∀ s, nature ≠ .scope s) : ¬K a := by
  intro ha
  have hscope := h a ha
  unfold scope? at hscope
  split at hscope
  next s hs' => exact hs s (Option.some.inj (hn.symm.trans hs'))
  next => simp at hscope

theorem scope?_eq_of_nature {a : Address} (h : store'.nature? a = store.nature? a) :
    store'.scope? a = store.scope? a := by
  simp only [scope?, h]

/-- The scopes kept are spared when no object there gets another nature. -/
theorem Guarded.spared (h : Guarded K store)
    (hkept : ∀ a, K a → store'.nature? a = store.nature? a) : Spared K store store' := by
  have hscope : ∀ a, K a → store'.scope? a = store.scope? a :=
    fun a ha => scope?_eq_of_nature (hkept a ha)
  exact ⟨fun a ha => hscope a ha ▸ h a ha, fun a ha => by simp only [names, hscope a ha]⟩

theorem Guarded.lt_size (h : Guarded K store) {a : Address} (ha : K a) :
    a < store.objects.size := by
  refine Nat.lt_of_not_le fun hle => ?_
  have hscope := h a ha
  simp [scope?, nature?, get?, Array.getElem?_eq_none hle] at hscope

theorem Guarded.add (h : Guarded K store) (object : Object) :
    Spared K store (store.add object).2 := by
  refine h.spared fun a ha => ?_
  have hlt := h.lt_size ha
  simp only [nature?, get?_add, if_neg (Nat.ne_of_lt hlt)]

/-- Nothing is kept where an object is added. -/
theorem Guarded.not_added (h : Guarded K store) (object : Object) : ¬K (store.add object).1 :=
  fun ha => Nat.lt_irrefl _ (h.lt_size ha)

theorem Guarded.modify (h : Guarded K store) {a : Address} {f : Object → Object}
    (ha : K a → ∀ object, (f object).nature = object.nature) :
    Spared K store (store.modify a f) := by
  refine h.spared fun b hb => ?_
  simp only [nature?, get?_modify]
  split
  next hab =>
    subst hab
    cases store.get? a <;> simp [ha hb]
  next => rfl

theorem Guarded.setNature (h : Guarded K store) {a : Address} {nature : Nature} (ha : ¬K a) :
    Spared K store (store.setNature a nature) :=
  h.modify fun hk => absurd hk ha

/-- Other attributes leave the nature of an object as it is. -/
theorem Guarded.modifyAttributes (h : Guarded K store) (a : Address) {f : Object → Object}
    (hf : ∀ object, (f object).nature = object.nature) : Spared K store (store.modify a f) :=
  h.modify fun _ => hf

theorem nature?_mapNames (store : Store) (a b : Address) (f : Bindings → Bindings) :
    (store.mapNames a f).nature? b = (store.nature? b).map fun nature =>
      match nature with
      | .scope s => .scope (if a = b then { s with names := f s.names } else s)
      | nature => nature := by
  simp only [mapNames, nature?, get?_modify]
  by_cases hab : a = b
  · subst hab
    rcases store.get? a with _ | ⟨nature, attributes⟩
    · simp
    · cases nature <;> simp
  · rcases store.get? b with _ | ⟨nature, attributes⟩
    · simp [hab]
    · cases nature <;> simp [hab]

theorem scope?_mapNames (store : Store) (a b : Address) (f : Bindings → Bindings) :
    (store.mapNames a f).scope? b =
      (store.scope? b).map fun s => if a = b then { s with names := f s.names } else s := by
  simp only [scope?, nature?_mapNames]
  rcases store.nature? b with _ | nature
  · rfl
  · cases nature <;> rfl

theorem names_mapNames_ne {a b : Address} (h : a ≠ b) (f : Bindings → Bindings) :
    (store.mapNames a f).names b = store.names b := by
  simp [names, scope?_mapNames, h]

theorem names_mapNames {a : Address} (h : (store.scope? a).isSome) (f : Bindings → Bindings) :
    (store.mapNames a f).names a = f (store.names a) := by
  obtain ⟨s, hs⟩ := Option.isSome_iff_exists.1 h
  simp [names, scope?_mapNames, hs]

/-- Scopes stay scopes, whatever is bound in them. -/
theorem Guarded.mapNames (h : Guarded K store) (a : Address) (f : Bindings → Bindings) :
    Guarded K (store.mapNames a f) :=
  fun b hb => by simpa [scope?_mapNames] using h b hb

end Chunkwise.Store
