import Chunkwise.Bridge.Adapters
import Chunkwise.Proofs.Datum.HostForm
import Chunkwise.Proofs.Store.Spares
import Mathlib.Data.List.Perm.Subperm
import Mathlib.Data.List.Range

/-!
Tensors of host data. A value of a store stands for a datum when the datum is found by looking into
its containers. What the host makes of the value stands for what it makes of the datum, and a tensor
keeps just that.
-/
namespace Chunkwise

/-- The host does not look into such an object. -/
def Nature.isOpaque : Nature → Bool
  | .seq .. | .map .. | .convertible .. => false
  | _ => true

namespace Store

variable {store store' : Store}

mutual

/-- A value stands for a datum, outside the objects at the open addresses. -/
inductive Stands (store : Store) : List Address → Datum → Value → Prop
  | leaf {opened : List Address} {u : Value}
    (h : ∀ a, u = .ref a → a ∉ opened ∧
      ∃ nature, store.nature? a = some nature ∧ nature.isOpaque = true) :
    Stands store opened (.leaf u) u
  | seq {opened : List Address} {form : SeqForm} {items : List Datum} {a : Address}
    {values : Array Value} (hopen : a ∉ opened) (hnature : store.nature? a = some (.seq form values))
    (hitems : StandAll store (a :: opened) items values.toList) :
    Stands store opened (.seq form items) (.ref a)
  | map {opened : List Address} {form : MapForm} {entries : List (Datum × Datum)} {a : Address}
    {values : List (Value × Value)} (hopen : a ∉ opened)
    (hnature : store.nature? a = some (.map form values))
    (hentries : EntriesStand store (a :: opened) entries values) :
    Stands store opened (.map form entries) (.ref a)
  | convertible {opened : List Address} {type : String}
    {toHost toList : Option (Conversion Datum)} {items : Option (List Datum)}
    {toHost' toList' : Option (Conversion Value)} {items' : Option (List Value)} {a : Address}
    (hopen : a ∉ opened)
    (hnature : store.nature? a = some (.convertible type toHost' toList' items'))
    (hhost : ConversionStands store (a :: opened) toHost toHost')
    (hlist : ConversionStands store (a :: opened) toList toList')
    (hitems : ItemsStand store (a :: opened) items items') :
    Stands store opened (.convertible type toHost toList items) (.ref a)

inductive StandAll (store : Store) : List Address → List Datum → List Value → Prop
  | nil {opened : List Address} : StandAll store opened [] []
  | cons {opened : List Address} {d : Datum} {rest : List Datum} {v : Value} {values : List Value}
    (hd : Stands store opened d v) (hrest : StandAll store opened rest values) :
    StandAll store opened (d :: rest) (v :: values)

inductive EntriesStand (store : Store) :
    List Address → List (Datum × Datum) → List (Value × Value) → Prop
  | nil {opened : List Address} : EntriesStand store opened [] []
  | cons {opened : List Address} {k d : Datum} {rest : List (Datum × Datum)} {key v : Value}
    {values : List (Value × Value)} (hk : Stands store opened k key) (hd : Stands store opened d v)
    (hrest : EntriesStand store opened rest values) :
    EntriesStand store opened ((k, d) :: rest) ((key, v) :: values)

inductive ConversionStands (store : Store) :
    List Address → Option (Conversion Datum) → Option (Conversion Value) → Prop
  | absent {opened : List Address} : ConversionStands store opened none none
  | returns {opened : List Address} {d : Datum} {v : Value} (hd : Stands store opened d v) :
    ConversionStands store opened (some (.returns d)) (some (.returns v))
  | raises {opened : List Address} {d : Datum} {v : Value} (hd : Stands store opened d v) :
    ConversionStands store opened (some (.raises d)) (some (.raises v))
  | number {opened : List Address} {n : Int} :
    ConversionStands store opened (some (.number n)) (some (.number n))

inductive ItemsStand (store : Store) :
    List Address → Option (List Datum) → Option (List Value) → Prop
  | absent {opened : List Address} : ItemsStand store opened none none
  | present {opened : List Address} {items : List Datum} {values : List Value}
    (hitems : StandAll store opened items values) :
    ItemsStand store opened (some items) (some values)

end

/-- What is outside some open addresses in one store is left as it is in another, and is outside
other open addresses too. -/
def Leaves (store : Store) (opened : List Address) (store' : Store) (opened' : List Address) :
    Prop :=
  ∀ a nature, a ∉ opened → store.nature? a = some nature →
    a ∉ opened' ∧ store'.nature? a = some nature

theorem Leaves.cons {opened opened' : List Address} (h : Leaves store opened store' opened')
    (a : Address) : Leaves store (a :: opened) store' (a :: opened') := by
  intro b nature hb hnature
  rw [List.mem_cons, not_or] at *
  obtain ⟨hopened, hkept⟩ := h b nature hb.2 hnature
  exact ⟨⟨hb.1, hopened⟩, hkept⟩

mutual

theorem Stands.frame {opened opened' : List Address} {x : Datum} {v : Value}
    (hx : Stands store opened x v) (h : Leaves store opened store' opened') :
    Stands store' opened' x v := by
  cases hx with
  | leaf hleaf =>
    refine .leaf fun a ha => ?_
    obtain ⟨hopen, nature, hnature, hsealed⟩ := hleaf a ha
    obtain ⟨hopen', hnature'⟩ := h a nature hopen hnature
    exact ⟨hopen', nature, hnature', hsealed⟩
  | @seq _ _ _ a _ hopen hnature hitems =>
    obtain ⟨hopen', hnature'⟩ := h a _ hopen hnature
    exact .seq hopen' hnature' (hitems.frame (h.cons a))
  | @map _ _ _ a _ hopen hnature hentries =>
    obtain ⟨hopen', hnature'⟩ := h a _ hopen hnature
    exact .map hopen' hnature' (hentries.frame (h.cons a))
  | @convertible _ _ _ _ _ _ _ _ a hopen hnature hhost hlist hitems =>
    obtain ⟨hopen', hnature'⟩ := h a _ hopen hnature
    exact .convertible hopen' hnature' (hhost.frame (h.cons a)) (hlist.frame (h.cons a))
      (hitems.frame (h.cons a))

theorem StandAll.frame {opened opened' : List Address} {items : List Datum} {values : List Value}
    (hitems : StandAll store opened items values) (h : Leaves store opened store' opened') :
    StandAll store' opened' items values := by
  cases hitems with
  | nil => exact .nil
  | cons hd hrest => exact .cons (hd.frame h) (hrest.frame h)

theorem EntriesStand.frame {opened opened' : List Address} {entries : List (Datum × Datum)}
    {values : List (Value × Value)} (hentries : EntriesStand store opened entries values)
    (h : Leaves store opened store' opened') : EntriesStand store' opened' entries values := by
  cases hentries with
  | nil => exact .nil
  | cons hk hd hrest => exact .cons (hk.frame h) (hd.frame h) (hrest.frame h)

theorem ConversionStands.frame {opened opened' : List Address} {c : Option (Conversion Datum)}
    {c' : Option (Conversion Value)} (hc : ConversionStands store opened c c')
    (h : Leaves store opened store' opened') : ConversionStands store' opened' c c' := by
  cases hc with
  | absent => exact .absent
  | returns hd => exact .returns (hd.frame h)
  | raises hd => exact .raises (hd.frame h)
  | number => exact .number

theorem ItemsStand.frame {opened opened' : List Address} {items : Option (List Datum)}
    {items' : Option (List Value)} (hitems : ItemsStand store opened items items')
    (h : Leaves store opened store' opened') : ItemsStand store' opened' items items' := by
  cases hitems with
  | absent => exact .absent
  | present hitems => exact .present (hitems.frame h)

end

/-! Looking into a value. -/

/-- A reading is deep enough for what is not open yet. -/
structure Deep (store : Store) (opened : List Address) (n : Nat) : Prop where
  nodup : opened.Nodup
  there : ∀ a ∈ opened, a < store.objects.size
  enough : 2 * store.objects.size ≤ n + 2 * opened.length

theorem lt_of_nature? {a : Address} {nature : Nature} (h : store.nature? a = some nature) :
    a < store.objects.size := by
  by_contra hle
  have hnone : store.objects[a]? = none := Array.getElem?_eq_none (Nat.le_of_not_lt hle)
  simp [nature?, get?, hnone] at h

/-- There is room for one more object, as it is none of those that are open. -/
theorem Deep.open {opened : List Address} {n : Nat} {a : Address} {nature : Nature}
    (h : Deep store opened n) (hopen : a ∉ opened) (hnature : store.nature? a = some nature) :
    ∃ m, n = m + 2 ∧ Deep store (a :: opened) m := by
  have hthere : ∀ b ∈ a :: opened, b < store.objects.size :=
    List.forall_mem_cons.mpr ⟨lt_of_nature? hnature, h.there⟩
  have hnodup : (a :: opened).Nodup := List.nodup_cons.mpr ⟨hopen, h.nodup⟩
  have hlength : (a :: opened).length ≤ (List.range store.objects.size).length :=
    (hnodup.subperm fun b hb => List.mem_range.mpr (hthere b hb)).length_le
  rw [List.length_cons, List.length_range] at hlength
  have henough := h.enough
  refine ⟨n - 2, by omega, hnodup, hthere, ?_⟩
  rw [List.length_cons]
  omega

/-- A conversion as a reading shows it. What it returns is not looked into. -/
def viewed : Conversion Value → Conversion Datum
  | .returns v => .returns (.leaf v)
  | .raises v => .raises (.leaf v)
  | .number n => .number n

mutual

/-- A datum some of whose parts are still held as values that stand for them. -/
inductive Sketch (store : Store) (opened : List Address) : Datum → Datum → Prop
  | held {x : Datum} {v : Value} (h : Stands store opened x v) : Sketch store opened x (.leaf v)
  | seq {form : SeqForm} {items made : List Datum} (hitems : SketchAll store opened items made) :
    Sketch store opened (.seq form items) (.seq form made)
  | map {form : MapForm} {entries made : List (Datum × Datum)}
    (hentries : SketchEntries store opened entries made) :
    Sketch store opened (.map form entries) (.map form made)
  | convertible {type : String} {toHost toList : Option (Conversion Datum)}
    {items made : Option (List Datum)} {toHost' toList' : Option (Conversion Value)}
    (hhost : ConversionStands store opened toHost toHost')
    (hlist : ConversionStands store opened toList toList')
    (hitems : SketchItems store opened items made) :
    Sketch store opened (.convertible type toHost toList items)
      (.convertible type (toHost'.map viewed) (toList'.map viewed) made)

inductive SketchAll (store : Store) (opened : List Address) : List Datum → List Datum → Prop
  | nil : SketchAll store opened [] []
  | cons {x d : Datum} {rest made : List Datum} (hd : Sketch store opened x d)
    (hrest : SketchAll store opened rest made) : SketchAll store opened (x :: rest) (d :: made)

inductive SketchEntries (store : Store) (opened : List Address) :
    List (Datum × Datum) → List (Datum × Datum) → Prop
  | nil : SketchEntries store opened [] []
  | cons {k k' x d : Datum} {rest made : List (Datum × Datum)} (hk : Sketch store opened k k')
    (hd : Sketch store opened x d) (hrest : SketchEntries store opened rest made) :
    SketchEntries store opened ((k, x) :: rest) ((k', d) :: made)

inductive SketchItems (store : Store) (opened : List Address) :
    Option (List Datum) → Option (List Datum) → Prop
  | absent : SketchItems store opened none none
  | present {items made : List Datum} (hitems : SketchAll store opened items made) :
    SketchItems store opened (some items) (some made)

end

mutual

theorem Sketch.frame {opened opened' : List Address} {x d : Datum} (hx : Sketch store opened x d)
    (h : Leaves store opened store' opened') : Sketch store' opened' x d := by
  cases hx with
  | held hx => exact .held (hx.frame h)
  | seq hitems => exact .seq (hitems.frame h)
  | map hentries => exact .map (hentries.frame h)
  | convertible hhost hlist hitems =>
    exact .convertible (hhost.frame h) (hlist.frame h) (hitems.frame h)

theorem SketchAll.frame {opened opened' : List Address} {items made : List Datum}
    (hitems : SketchAll store opened items made) (h : Leaves store opened store' opened') :
    SketchAll store' opened' items made := by
  cases hitems with
  | nil => exact .nil
  | cons hd hrest => exact .cons (hd.frame h) (hrest.frame h)

theorem SketchEntries.frame {opened opened' : List Address} {entries made : List (Datum × Datum)}
    (hentries : SketchEntries store opened entries made)
    (h : Leaves store opened store' opened') : SketchEntries store' opened' entries made := by
  cases hentries with
  | nil => exact .nil
  | cons hk hd hrest => exact .cons (hk.frame h) (hd.frame h) (hrest.frame h)

theorem SketchItems.frame {opened opened' : List Address} {items made : Option (List Datum)}
    (hitems : SketchItems store opened items made) (h : Leaves store opened store' opened') :
    SketchItems store' opened' items made := by
  cases hitems with
  | absent => exact .absent
  | present hitems => exact .present (hitems.frame h)

end

theorem leaves_of_subset {opened opened' : List Address} (h : ∀ a ∈ opened', a ∈ opened) :
    Leaves store opened store opened' :=
  fun a _ ha hnature => ⟨fun ha' => ha (h a ha'), hnature⟩

/-! What a reading sees. -/

section Reading

variable {opened : List Address} {a : Address} {n : Nat}

theorem readIn_of_isOpaque {nature : Nature} (hnature : store.nature? a = some nature)
    (hsealed : nature.isOpaque = true) :
    store.readIn .host n opened (.ref a) = .leaf (.ref a) := by
  obtain ⟨object, hobject, rfl⟩ := Option.map_eq_some_iff.mp hnature
  match n with
  | 0 => rfl
  | 1 =>
    rw [readIn, hobject]
    rfl
  | n + 2 =>
    rw [readIn, hobject]
    dsimp only
    unfold readObject
    cases hn : object.nature <;> rw [hn] at hsealed <;> first | rfl | cases hsealed

theorem readIn_leaf {u : Value} (h : ∀ a, u = .ref a → a ∉ opened ∧
    ∃ nature, store.nature? a = some nature ∧ nature.isOpaque = true) :
    store.readIn .host n opened u = .leaf u := by
  cases u
  case ref a =>
    obtain ⟨-, nature, hnature, hsealed⟩ := h a rfl
    exact readIn_of_isOpaque hnature hsealed
  all_goals cases n <;> rfl

theorem readIn_seq {form : SeqForm} {values : Array Value} (hopen : a ∉ opened)
    (hnature : store.nature? a = some (.seq form values)) :
    store.readIn .host (n + 2) opened (.ref a) =
      .seq form (values.toList.map (store.readIn .host n (a :: opened))) := by
  obtain ⟨object, hobject, hn⟩ := Option.map_eq_some_iff.mp hnature
  rw [readIn, hobject]
  dsimp only
  unfold readObject
  rw [hn]
  simp [hopen]

theorem readIn_map {form : MapForm} {values : List (Value × Value)} (hopen : a ∉ opened)
    (hnature : store.nature? a = some (.map form values)) :
    store.readIn .host (n + 2) opened (.ref a) =
      .map form (values.map fun entry => (store.readIn .host n (a :: opened) entry.1,
        store.readIn .host n (a :: opened) entry.2)) := by
  obtain ⟨object, hobject, hn⟩ := Option.map_eq_some_iff.mp hnature
  rw [readIn, hobject]
  dsimp only
  unfold readObject
  rw [hn]
  simp [hopen]

theorem readIn_convertible {type : String} {toHost toList : Option (Conversion Value)}
    {items : Option (List Value)} (hopen : a ∉ opened)
    (hnature : store.nature? a = some (.convertible type toHost toList items)) :
    store.readIn .host (n + 2) opened (.ref a) =
      .convertible type (toHost.map viewed) (toList.map viewed)
        (items.map (·.map (store.readIn .host n (a :: opened)))) := by
  obtain ⟨object, hobject, hn⟩ := Option.map_eq_some_iff.mp hnature
  rw [readIn, hobject]
  dsimp only
  unfold readObject
  rw [hn]
  simp only [List.contains_eq_mem, hopen, decide_false, Bool.false_eq_true, if_false]
  congr 2

end Reading

mutual

/-- A reading sketches the datum that the value stands for. -/
theorem Stands.sketch {opened : List Address} {x : Datum} {v : Value} {n : Nat}
    (hx : Stands store opened x v) (hn : Deep store opened n) :
    Sketch store opened x (store.readIn .host n opened v) := by
  cases hx with
  | leaf hleaf =>
    rw [readIn_leaf hleaf]
    exact .held (.leaf hleaf)
  | @seq _ _ _ a _ hopen hnature hitems =>
    obtain ⟨m, rfl, hm⟩ := hn.open hopen hnature
    rw [readIn_seq hopen hnature]
    exact .seq ((hitems.sketch hm).frame (leaves_of_subset fun _ => List.mem_cons_of_mem a))
  | @map _ _ _ a _ hopen hnature hentries =>
    obtain ⟨m, rfl, hm⟩ := hn.open hopen hnature
    rw [readIn_map hopen hnature]
    exact .map ((hentries.sketch hm).frame (leaves_of_subset fun _ => List.mem_cons_of_mem a))
  | @convertible _ _ _ _ _ _ _ _ a hopen hnature hhost hlist hitems =>
    obtain ⟨m, rfl, hm⟩ := hn.open hopen hnature
    have hwider : Leaves store (a :: opened) store opened :=
      leaves_of_subset fun _ => List.mem_cons_of_mem a
    rw [readIn_convertible hopen hnature]
    exact .convertible (hhost.frame hwider) (hlist.frame hwider) ((hitems.sketch hm).frame hwider)

theorem StandAll.sketch {opened : List Address} {items : List Datum} {values : List Value}
    {n : Nat} (hitems : StandAll store opened items values) (hn : Deep store opened n) :
    SketchAll store opened items (values.map (store.readIn .host n opened)) := by
  cases hitems with
  | nil => exact .nil
  | cons hd hrest => exact .cons (hd.sketch hn) (hrest.sketch hn)

theorem EntriesStand.sketch {opened : List Address} {entries : List (Datum × Datum)}
    {values : List (Value × Value)} {n : Nat} (hentries : EntriesStand store opened entries values)
    (hn : Deep store opened n) :
    SketchEntries store opened entries (values.map fun entry =>
      (store.readIn .host n opened entry.1, store.readIn .host n opened entry.2)) := by
  cases hentries with
  | nil => exact .nil
  | cons hk hd hrest => exact .cons (hk.sketch hn) (hd.sketch hn) (hrest.sketch hn)

theorem ItemsStand.sketch {opened : List Address} {items : Option (List Datum)}
    {items' : Option (List Value)} {n : Nat} (hitems : ItemsStand store opened items items')
    (hn : Deep store opened n) :
    SketchItems store opened items (items'.map (·.map (store.readIn .host n opened))) := by
  cases hitems with
  | absent => exact .absent
  | present hitems => exact .present (hitems.sketch hn)

end

/-! What the host makes of a value. -/

theorem ConversionStands.unconverted {opened : List Address} {toHost toList : Option (Conversion Datum)}
    {toHost' toList' : Option (Conversion Value)}
    (hhost : ConversionStands store opened toHost toHost')
    (hlist : ConversionStands store opened toList toList')
    (h : Datum.conversion? toHost toList = none) :
    Datum.conversion? (toHost'.map viewed) (toList'.map viewed) = none := by
  cases hhost <;> cases hlist <;> first | rfl | cases h

theorem ConversionStands.converted {opened : List Address}
    {toHost toList : Option (Conversion Datum)} {toHost' toList' : Option (Conversion Value)}
    {y : Datum} (hhost : ConversionStands store opened toHost toHost')
    (hlist : ConversionStands store opened toList toList')
    (h : Datum.conversion? toHost toList = some (.ok y)) :
    ∃ v, Datum.conversion? (toHost'.map viewed) (toList'.map viewed) = some (.ok (.leaf v)) ∧
      Stands store opened y v := by
  cases hhost <;> cases hlist <;> cases h <;> exact ⟨_, rfl, by assumption⟩

theorem sketch_numbers {opened : List Address} (start stop step : Int) :
    SketchAll store opened ((rangeItems start stop step).map .leaf)
      ((rangeItems start stop step).map .leaf) := by
  unfold rangeItems
  induction List.range (rangeLength start stop step) with
  | nil => exact .nil
  | cons i rest ih => exact .cons (.held (.leaf fun a h => by cases h)) ih

mutual

/-- What is made of a reading sketches what is made of the datum. -/
theorem Stands.toHost {opened : List Address} {x : Datum} {v : Value} {n : Nat}
    (hx : Stands store opened x v) (hn : Deep store opened n) (h : x.isTakeable = true) :
    ∃ y made, x.toHost = .ok y ∧ (store.readIn .host n opened v).toHost = .ok made ∧
      Sketch store opened y made := by
  cases hx with
  | leaf hleaf =>
    rw [readIn_leaf hleaf]
    cases v
    case range start stop step => exact ⟨_, _, rfl, rfl, .seq (sketch_numbers start stop step)⟩
    all_goals exact ⟨_, _, rfl, rfl, .held (.leaf hleaf)⟩
  | @seq _ _ _ a _ hopen hnature hitems =>
    obtain ⟨m, rfl, hm⟩ := hn.open hopen hnature
    obtain ⟨ys, made, hys, hmade, hsketch⟩ := hitems.toHost hm h
    refine ⟨.list ys, .list made, ?_, ?_,
      .seq (hsketch.frame (leaves_of_subset fun _ => List.mem_cons_of_mem a))⟩
    · rw [Datum.toHost, hys]
      rfl
    · rw [readIn_seq hopen hnature, Datum.toHost, hmade]
      rfl
  | @map _ _ _ a _ hopen hnature hentries =>
    obtain ⟨m, rfl, hm⟩ := hn.open hopen hnature
    obtain ⟨ys, made, hys, hmade, hsketch⟩ := hentries.toHost hm h
    refine ⟨.dict ys, .dict made, ?_, ?_,
      .map (hsketch.frame (leaves_of_subset fun _ => List.mem_cons_of_mem a))⟩
    · rw [Datum.toHost, hys]
      rfl
    · rw [readIn_map hopen hnature, Datum.toHost, hmade]
      rfl
  | @convertible _ type toHost toList items _ _ _ a hopen hnature hhost hlist hitems =>
    obtain ⟨m, rfl, hm⟩ := hn.open hopen hnature
    have hwider : Leaves store (a :: opened) store opened :=
      leaves_of_subset fun _ => List.mem_cons_of_mem a
    rw [readIn_convertible hopen hnature]
    unfold Datum.isTakeable at h
    rcases hconversion : Datum.conversion? toHost toList with _ | _ | y
    · rw [hconversion] at h
      have hnone := hhost.unconverted hlist hconversion
      rw [Datum.toHost_unconverted hconversion, Datum.toHost_unconverted hnone]
      cases hitems with
      | absent =>
        exact ⟨_, _, rfl, rfl, .convertible (hhost.frame hwider) (hlist.frame hwider) .absent⟩
      | present hitems =>
        obtain ⟨ys, made, hys, hmade, hsketch⟩ := hitems.toHost hm h
        refine ⟨.list ys, .list made, ?_, ?_, .seq (hsketch.frame hwider)⟩
        · dsimp only
          rw [hys]
          rfl
        · dsimp only [Option.map_some]
          rw [hmade]
          rfl
    · rw [hconversion] at h
      cases h
    · obtain ⟨v, hviewed, hv⟩ := hhost.converted hlist hconversion
      exact ⟨y, .leaf v, Datum.toHost_converted hconversion, Datum.toHost_converted hviewed,
        .held (hv.frame hwider)⟩

theorem StandAll.toHost {opened : List Address} {items : List Datum} {values : List Value}
    {n : Nat} (hitems : StandAll store opened items values) (hn : Deep store opened n)
    (h : Datum.allTakeable items = true) :
    ∃ ys made, Datum.toHostAll items = .ok ys ∧
      Datum.toHostAll (values.map (store.readIn .host n opened)) = .ok made ∧
      SketchAll store opened ys made := by
  cases hitems with
  | nil => exact ⟨[], [], rfl, rfl, .nil⟩
  | cons hd hrest =>
    obtain ⟨htake, htakes⟩ := (Bool.and_eq_true _ _).mp h
    obtain ⟨y, made, hy, hmade, hsketch⟩ := hd.toHost hn htake
    obtain ⟨ys, others, hys, hothers, hsketches⟩ := hrest.toHost hn htakes
    refine ⟨y :: ys, made :: others, ?_, ?_, .cons hsketch hsketches⟩
    · rw [Datum.toHostAll, hy, hys]
      rfl
    · rw [List.map_cons, Datum.toHostAll, hmade, hothers]
      rfl

theorem EntriesStand.toHost {opened : List Address} {entries : List (Datum × Datum)}
    {values : List (Value × Value)} {n : Nat} (hentries : EntriesStand store opened entries values)
    (hn : Deep store opened n) (h : Datum.takeableEntries entries = true) :
    ∃ ys made, Datum.toHostEntries entries = .ok ys ∧
      Datum.toHostEntries (values.map fun entry =>
        (store.readIn .host n opened entry.1, store.readIn .host n opened entry.2)) = .ok made ∧
      SketchEntries store opened ys made := by
  cases hentries with
  | nil => exact ⟨[], [], rfl, rfl, .nil⟩
  | cons hk hd hrest =>
    obtain ⟨htake, htakes⟩ := (Bool.and_eq_true _ _).mp h
    obtain ⟨y, made, hy, hmade, hsketch⟩ := hd.toHost hn htake
    obtain ⟨ys, others, hys, hothers, hsketches⟩ := hrest.toHost hn htakes
    refine ⟨(_, y) :: ys, (_, made) :: others, ?_, ?_, .cons (hk.sketch hn) hsketch hsketches⟩
    · rw [Datum.toHostEntries, hy, hys]
      rfl
    · rw [List.map_cons, Datum.toHostEntries, hmade, hothers]
      rfl

end

/-! Bringing what was made into the store. -/

theorem nature?_add (object : Object) :
    (store.add object).2.nature? store.objects.size = some object.nature := by
  simp [nature?, get?_add]

/-- What was there is left as it is, and outside the object that is added. -/
theorem leaves_add (object : Object) :
    Leaves store [] (store.add object).2 [store.objects.size] := by
  intro a nature _ hnature
  have hne : a ≠ store.objects.size := Nat.ne_of_lt (lt_of_nature? hnature)
  refine ⟨by simpa using hne, ?_⟩
  rw [← hnature, nature?, nature?, get?_add, if_neg hne]

theorem Leaves.trans {store'' : Store} {opened opened' opened'' : List Address}
    (h : Leaves store opened store' opened') (h' : Leaves store' opened' store'' opened'') :
    Leaves store opened store'' opened'' := by
  intro a nature ha hnature
  obtain ⟨ha', hnature'⟩ := h a nature ha hnature
  exact h' a nature ha' hnature'

theorem leaves_refl (opened : List Address) : Leaves store opened store opened :=
  leaves_of_subset fun _ h => h

theorem leaves_added (object : Object) : Leaves store [] (store.add object).2 [] :=
  (leaves_add object).trans (leaves_of_subset fun _ h => absurd h List.not_mem_nil)

theorem loadConversion?_viewed (c : Option (Conversion Value)) :
    store.loadConversion? (c.map viewed) = (c, store) := by
  rcases c with _ | _ | _ | _ <;> rfl

mutual

/-- A sketch becomes a value that stands for its datum. -/
theorem Sketch.load {st : Store} {x d : Datum} (h : Sketch store [] x d)
    (hst : Leaves store [] st []) :
    ∃ v st', st.load d = (v, st') ∧ Leaves st [] st' [] ∧ Stands st' [] x v := by
  cases h with
  | held hv => exact ⟨_, st, rfl, leaves_refl _, hv.frame hst⟩
  | seq hitems =>
    obtain ⟨values, st', hload, hleaves, hvalues⟩ := hitems.load hst
    refine ⟨_, _, by rw [Store.load, hload]; rfl, hleaves.trans (leaves_added _),
      .seq (List.not_mem_nil) (nature?_add _) ?_⟩
    exact hvalues.frame (leaves_add _)
  | map hentries =>
    obtain ⟨values, st', hload, hleaves, hvalues⟩ := hentries.load hst
    refine ⟨_, _, by rw [Store.load, hload]; rfl, hleaves.trans (leaves_added _),
      .map (List.not_mem_nil) (nature?_add _) ?_⟩
    exact hvalues.frame (leaves_add _)
  | @convertible _ _ _ _ _ toHost toList hhost hlist hitems =>
    obtain ⟨values, st', hload, hleaves, hvalues⟩ := hitems.load hst
    refine ⟨_, _, by
      rw [Store.load, loadConversion?_viewed]
      simp only [loadConversion?_viewed, hload]
      rfl, hleaves.trans (leaves_added _),
      .convertible (List.not_mem_nil) (nature?_add _) ?_ ?_ ?_⟩
    · exact hhost.frame ((hst.trans hleaves).trans (leaves_add _))
    · exact hlist.frame ((hst.trans hleaves).trans (leaves_add _))
    · exact hvalues.frame (leaves_add _)

theorem SketchAll.load {st : Store} {items made : List Datum}
    (h : SketchAll store [] items made) (hst : Leaves store [] st []) :
    ∃ values st', st.loadAll made = (values, st') ∧ Leaves st [] st' [] ∧
      StandAll st' [] items values := by
  cases h with
  | nil => exact ⟨[], st, rfl, leaves_refl _, .nil⟩
  | cons hd hrest =>
    obtain ⟨v, st', hload, hleaves, hv⟩ := hd.load hst
    obtain ⟨values, st'', hloads, hleaves', hvalues⟩ := hrest.load (hst.trans hleaves)
    refine ⟨v :: values, st'', ?_, hleaves.trans hleaves', .cons (hv.frame hleaves') hvalues⟩
    rw [loadAll, hload]
    simp only [hloads]

theorem SketchEntries.load {st : Store} {entries made : List (Datum × Datum)}
    (h : SketchEntries store [] entries made) (hst : Leaves store [] st []) :
    ∃ values st', st.loadEntries made = (values, st') ∧ Leaves st [] st' [] ∧
      EntriesStand st' [] entries values := by
  cases h with
  | nil => exact ⟨[], st, rfl, leaves_refl _, .nil⟩
  | cons hk hd hrest =>
    obtain ⟨key, st₁, hkey, hleaves₁, hkeyStands⟩ := hk.load hst
    obtain ⟨v, st₂, hload, hleaves₂, hv⟩ := hd.load (hst.trans hleaves₁)
    obtain ⟨values, st₃, hloads, hleaves₃, hvalues⟩ :=
      hrest.load ((hst.trans hleaves₁).trans hleaves₂)
    refine ⟨(key, v) :: values, st₃, ?_, hleaves₁.trans (hleaves₂.trans hleaves₃),
      .cons (hkeyStands.frame (hleaves₂.trans hleaves₃)) (hv.frame hleaves₃) hvalues⟩
    rw [loadEntries, hkey]
    simp only [hload, hloads]

theorem SketchItems.load {st : Store} {items made : Option (List Datum)}
    (h : SketchItems store [] items made) (hst : Leaves store [] st []) :
    ∃ values st', st.loadOption made = (values, st') ∧ Leaves st [] st' [] ∧
      ItemsStand st' [] items values := by
  cases h with
  | absent => exact ⟨none, st, rfl, leaves_refl _, .absent⟩
  | present hitems =>
    obtain ⟨values, st', hload, hleaves, hvalues⟩ := hitems.load hst
    exact ⟨some values, st', by rw [loadOption, hload], hleaves, .present hvalues⟩

end

end Store

namespace Bridge
open Store

variable {st : Store} {x : Datum} {v : Value}

/-- The store once a value has given its items. -/
def drained (st : Store) (v : Value) : Store :=
  match v, st.natureOf v with
  | .ref a, some (.seq .generator _) => st.setNature a (.seq .generator #[])
  | _, _ => st

theorem drained_cases (st : Store) (v : Value) :
    drained st v = st ∨ ∃ a values, v = .ref a ∧ st.nature? a = some (.seq .generator values) ∧
      drained st v = st.setNature a (.seq .generator #[]) := by
  unfold drained
  split
  next a values hnature => exact .inr ⟨a, values, rfl, hnature, rfl⟩
  next => exact .inl rfl

theorem hostForm_eq {made : Datum} (h : (st.hostView v).toHost = .ok made) :
    hostForm v st = (.ok ((drained st v).load made).1, ((drained st v).load made).2) := by
  change (Action.ofExcept (st.hostView v).toHost >>= fun made =>
    Action.reading (·.natureOf v) >>= fun nature? => _) st = _
  rw [h]
  change (match v, st.natureOf v with
    | .ref a, some (.seq .generator _) => do
      Action.setNature a (.seq .generator #[])
      Action.load made
    | _, _ => Action.load made) st = _
  unfold drained
  generalize st.natureOf v = nature?
  split <;> rfl

theorem leaves_setNature (a : Address) (nature : Nature) :
    Leaves st [a] (st.setNature a nature) [] := by
  intro b old hb hold
  refine ⟨List.not_mem_nil, ?_⟩
  have hne : a ≠ b := fun h => hb (by simp [h])
  rw [← hold, setNature, nature?, nature?, get?_modify, if_neg hne]

theorem deep_hostView (st : Store) : Deep st [] (2 * st.objects.size) :=
  ⟨List.nodup_nil, fun _ h => absurd h List.not_mem_nil, Nat.le_add_right _ _⟩

/-- The host form of a value stands for the host form of its datum. -/
theorem hostForm_stands (hx : Stands st [] x v) (h : x.isTakeable = true) :
    ∃ y w st', x.toHost = .ok y ∧ hostForm v st = (.ok w, st') ∧ Stands st' [] y w := by
  have hsketch : ∃ y made, x.toHost = .ok y ∧ (st.hostView v).toHost = .ok made ∧
      Sketch (drained st v) [] y made := by
    obtain hsame | ⟨a, values, rfl, hnature, hdrained⟩ := drained_cases st v
    · rw [hsame]
      exact hx.toHost (deep_hostView st) h
    · rw [hdrained]
      -- the items are outside what gives them, so they are there when it is empty
      cases hx with
      | leaf hleaf =>
        obtain ⟨-, nature, hsealed, hatom⟩ := hleaf a rfl
        cases hnature.symm.trans hsealed
        cases hatom
      | map _ hmap => cases hnature.symm.trans hmap
      | convertible _ hconvertible => cases hnature.symm.trans hconvertible
      | seq hopen hseq hitems =>
        obtain ⟨n, hn, hdeep⟩ := (deep_hostView st).open hopen hseq
        obtain ⟨ys, made, hys, hmade, hsketch⟩ := hitems.toHost hdeep h
        refine ⟨.list ys, .list made, ?_, ?_, .seq (hsketch.frame (leaves_setNature a _))⟩
        · rw [Datum.toHost, hys]
          rfl
        · rw [hostView, hn, readIn_seq hopen hseq, Datum.toHost, hmade]
          rfl
  obtain ⟨y, made, hy, hmade, hsketch⟩ := hsketch
  obtain ⟨w, st', hload, -, hw⟩ := hsketch.load (leaves_refl _)
  exact ⟨y, w, st', hy, by rw [hostForm_eq hmade, hload], hw⟩

/-- A tensor keeps the host form of the data that it is made of. -/
theorem makeTensor_of_hostForm {w : Value} {st' : Store} (requiresGrad : Value)
    (h : hostForm v st = (.ok w, st')) :
    ∃ t st'', makeTensor v requiresGrad st = (.ok t, st'') ∧
      tensorData t st'' = (.ok w, st'') ∧ Leaves st' [] st'' [] := by
  have harguments : tensorArguments v requiresGrad st =
      (.ok (w, .bool (st'.truth requiresGrad)), st') := by
    rw [tensorArguments, Action.bind_apply, h]
    rfl
  have hmake : makeTensor v requiresGrad st =
      (.ok (.ref st'.objects.size),
        (st'.add (tensorObject w (.bool (st'.truth requiresGrad)))).2) := by
    rw [makeTensor, Action.bind_apply, harguments]
    rfl
  have hobject : (st'.add (tensorObject w (.bool (st'.truth requiresGrad)))).2.get?
      st'.objects.size = some (tensorObject w (.bool (st'.truth requiresGrad))) := by
    rw [get?_add, if_pos rfl]
  have hattribute : attribute? (.ref st'.objects.size) "data"
      (st'.add (tensorObject w (.bool (st'.truth requiresGrad)))).2 =
      (.ok (some w), (st'.add (tensorObject w (.bool (st'.truth requiresGrad)))).2) := by
    simp only [attribute?, Action.bind_apply, Action.reading, hobject]
    rfl
  refine ⟨_, _, hmake, ?_, leaves_added _⟩
  rw [tensorData, getAttribute, Action.bind_apply, hattribute]
  rfl

/-- The data of a tensor made of a value are its host form, and so they are when another tensor is
made of them. -/
theorem tensorData_stands (hx : Stands st [] x v) (h : x.isTakeable = true)
    (requiresGrad requiresGrad' : Value) :
    ∃ y w t st', x.toHost = .ok y ∧ (hostForm v st).1 = .ok w ∧
      makeTensor v requiresGrad st = (.ok t, st') ∧ tensorData t st' = (.ok w, st') ∧
      Stands st' [] y w ∧
      ∃ w' t' st'', makeTensor w requiresGrad' st' = (.ok t', st'') ∧
        tensorData t' st'' = (.ok w', st'') ∧ Stands st'' [] y w' := by
  obtain ⟨y, hy, hplain, -⟩ := Datum.toHost_of_isTakeable h
  obtain ⟨y', w, st₁, hy', hform, hw⟩ := hostForm_stands hx h
  cases hy.symm.trans hy'
  obtain ⟨t, st₂, hmake, hdata, hleaves⟩ := makeTensor_of_hostForm requiresGrad hform
  have hw₂ := hw.frame hleaves
  obtain ⟨y', w', st₃, hy', hform', hw'⟩ := hostForm_stands hw₂ (Datum.isTakeable_of_isPlain hplain)
  cases (Datum.toHost_of_isPlain hplain).symm.trans hy'
  obtain ⟨t', st₄, hmake', hdata', hleaves'⟩ := makeTensor_of_hostForm requiresGrad' hform'
  exact ⟨y, w, t, st₂, hy, by rw [hform], hmake, hdata, hw₂, w', t', st₄, hmake', hdata',
    hw'.frame hleaves'⟩

/-- What the host can take has one host form: plain data with the same content, which stay as they
are. A tensor made of a value keeps the host form, and one made of the data of that has the same. -/
theorem toHost_normalises {x : Datum} (h : x.isTakeable = true) :
    ∃ y, x.toHost = .ok y ∧ y.isPlain = true ∧ y.content = x.content ∧ y.toHost = .ok y ∧
      (∀ z, z.isPlain = true → z.content = x.content → z = y) ∧
      ∀ st v requiresGrad requiresGrad', Stands st [] x v → ∃ w t st',
        (hostForm v st).1 = .ok w ∧ makeTensor v requiresGrad st = (.ok t, st') ∧
          tensorData t st' = (.ok w, st') ∧ Stands st' [] y w ∧
          ∃ w' t' st'', makeTensor w requiresGrad' st' = (.ok t', st'') ∧
            tensorData t' st'' = (.ok w', st'') ∧ Stands st'' [] y w' := by
  obtain ⟨y, hy, hplain, hcontent⟩ := Datum.toHost_of_isTakeable h
  refine ⟨y, hy, hplain, hcontent, Datum.toHost_of_isPlain hplain,
    fun z hz hsame => Datum.eq_of_content_eq hz hplain (hsame.trans hcontent.symm),
    fun st v requiresGrad requiresGrad' hx => ?_⟩
  obtain ⟨y', w, t, st', hy', hrest⟩ := tensorData_stands hx h requiresGrad requiresGrad'
  cases hy.symm.trans hy'
  exact ⟨w, t, st', hrest⟩

theorem toHost_normalises_pair : ∃ v st w t st',
    Store.initial.load (.tuple [.int 1, .dict [(.str "a", .leaf (.range 0 2 1))]]) = (v, st) ∧
      makeTensor v (.bool true) st = (.ok t, st') ∧ tensorData t st' = (.ok w, st') ∧
      Stands st' [] (.list [.int 1, .dict [(.str "a", .list [.int 0, .int 1])]]) w := by
  have atom : ∀ u : Value, (∀ a, u ≠ .ref a) → Sketch Store.initial [] (.leaf u) (.leaf u) :=
    fun u hu => .held (.leaf fun a ha => absurd ha (hu a))
  have hentries : SketchEntries Store.initial [] [(.str "a", .leaf (.range 0 2 1))] _ :=
    .cons (atom (.str "a") (by simp)) (atom (.range 0 2 1) (by simp)) .nil
  have hpair : Sketch Store.initial [] (.tuple [.int 1, .dict [(.str "a", .leaf (.range 0 2 1))]]) _ :=
    .seq (.cons (atom (.int 1) (by simp)) (.cons (.map hentries) .nil))
  obtain ⟨v, st, hload, -, hv⟩ := hpair.load (leaves_refl [])
  obtain ⟨y, hy, -, -, -, -, htensor⟩ := toHost_normalises
    (x := .tuple [.int 1, .dict [(.str "a", .leaf (.range 0 2 1))]]) rfl
  obtain ⟨w, t, st', -, hmake, hdata, hw, -⟩ := htensor st v (.bool true) .null hv
  cases hy
  exact ⟨v, st, w, t, st', hload, hmake, hdata, hw⟩

end Bridge

end Chunkwise
