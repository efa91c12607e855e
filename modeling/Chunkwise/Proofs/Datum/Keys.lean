import Chunkwise.Datum.Iterate
import Mathlib.Tactic.Ring
import Mathlib.Tactic.Linarith

/-!
Keys of mappings. Among data that can be keys, equality by what they stand for is symmetric and
transitive, so that putting entries into a mapping one after another can be grouped at will.
-/
namespace Chunkwise
open Chunkwise.Decimal

/-! Numbers as keys. -/

theorem asRatio_pos {x : Int ⊕ Double} {p : Int × Nat} (h : asRatio x = some p) : 0 < p.2 := by
  have hscale : ∀ m exponent, 0 < (scale2 m 1 exponent).2 := fun m exponent => by
    unfold scale2
    split
    · exact one_pos
    · exact Nat.mul_pos one_pos (Nat.two_pow_pos _)
  rcases x with n | ⟨negative, m, exponent⟩ | negative | _
  all_goals cases h
  · exact one_pos
  · exact hscale m exponent

/-- Numbers are the same when they are one ratio or the infinite number of one sign. -/
theorem sameNumber_iff {x y : Int ⊕ Double} :
    sameNumber x y = true ↔
      (∃ p q, asRatio x = some p ∧ asRatio y = some q ∧ p.1 * q.2 = q.1 * p.2) ∨
        ∃ negative, x = .inr (.infinite negative) ∧ y = .inr (.infinite negative) := by
  unfold sameNumber numberOrder
  split
  next a b c d hx hy =>
    rw [beq_iff_eq, Option.some_inj, compare_eq_iff_eq]
    constructor
    · intro h
      exact .inl ⟨_, _, hx, hy, h⟩
    · rintro (⟨p, q, hp, hq, h⟩ | ⟨negative, rfl, rfl⟩)
      · cases hx.symm.trans hp
        cases hy.symm.trans hq
        exact h
      · cases hx
  all_goals grind [asRatio, Double.ratio?]

theorem sameNumber_symm (x y : Int ⊕ Double) : sameNumber x y = sameNumber y x := by
  rw [Bool.eq_iff_iff, sameNumber_iff, sameNumber_iff]
  refine or_congr ⟨?_, ?_⟩ (exists_congr fun _ => and_comm)
  all_goals
    rintro ⟨p, q, hp, hq, h⟩
    exact ⟨q, p, hq, hp, h.symm⟩

theorem sameNumber_trans {x y z : Int ⊕ Double} (hxy : sameNumber x y = true)
    (hyz : sameNumber y z = true) : sameNumber x z = true := by
  rw [sameNumber_iff] at *
  obtain ⟨p, q, hp, hq, hpq⟩ | ⟨s, rfl, rfl⟩ := hxy
  · obtain ⟨q', r, hq', hr, hqr⟩ | ⟨s, rfl, rfl⟩ := hyz
    · obtain rfl : q = q' := Option.some.inj (hq.symm.trans hq')
      refine .inl ⟨p, r, hp, hr, ?_⟩
      have hpos : (q.2 : Int) ≠ 0 := by exact_mod_cast (asRatio_pos hq).ne'
      apply mul_right_cancel₀ hpos
      calc p.1 * r.2 * q.2 = p.1 * q.2 * r.2 := by ring
        _ = q.1 * r.2 * p.2 := by rw [hpq]; ring
        _ = r.1 * p.2 * q.2 := by rw [hqr]; ring
    · cases hq
  · obtain ⟨q', r, hq', hr, hqr⟩ | ⟨t, h, rfl⟩ := hyz
    · cases hq'
    · cases h
      exact .inr ⟨s, rfl, rfl⟩

theorem sameRange_iff {a b c d e f : Int} :
    sameRange a b c d e f = true ↔
      rangeLength a b c = rangeLength d e f ∧
        (rangeLength a b c = 0 ∨ a = d ∧ (rangeLength a b c = 1 ∨ c = f)) := by
  simp [sameRange]

namespace Value

/-- Values are the same when they are the same range, the same number, or one. -/
inductive SameAtom : Value → Value → Prop
  | range {a b c d e f : Int} (h : sameRange a b c d e f = true) :
    SameAtom (.range a b c) (.range d e f)
  | number {v w : Value} {m n : Int ⊕ Double} (hv : v.number? = some m) (hw : w.number? = some n)
    (h : sameNumber m n = true) : SameAtom v w
  | refl {v : Value} (h : v.number? = none) : SameAtom v v

theorem sameAtom_iff {v w : Value} : v.sameAtom w = true ↔ SameAtom v w := by
  constructor
  · unfold sameAtom
    split
    · exact .range
    next v w hrange =>
      split
      next m n hv hw => exact .number hv hw
      next hnone =>
        intro h
        obtain rfl := of_decide_eq_true h
        exact .refl (Option.eq_none_iff_forall_ne_some.mpr fun m hm => hnone m m hm hm)
  · rintro (h | ⟨hv, hw, h⟩ | hnone)
    · exact h
    · cases v <;> cases hv <;> cases w <;> cases hw <;> exact h
    · cases v
      case range a b c => simp [sameAtom, sameRange_iff]
      all_goals simp_all [sameAtom, number?]

theorem sameAtom_symm (v w : Value) : v.sameAtom w = w.sameAtom v := by
  have symm : ∀ {v w : Value}, SameAtom v w → SameAtom w v := by
    rintro _ _ (h | ⟨hv, hw, h⟩ | hnone)
    · refine .range (sameRange_iff.mpr ?_)
      rw [sameRange_iff] at h
      grind
    · exact .number hw hv (sameNumber_symm _ _ ▸ h)
    · exact .refl hnone
  rw [Bool.eq_iff_iff, sameAtom_iff, sameAtom_iff]
  exact ⟨symm, symm⟩

theorem sameAtom_trans {v w z : Value} (hvw : v.sameAtom w = true) (hwz : w.sameAtom z = true) :
    v.sameAtom z = true := by
  rw [sameAtom_iff] at *
  cases hvw with
  | refl => exact hwz
  | range h =>
    cases hwz with
    | range h' =>
      refine .range (sameRange_iff.mpr ?_)
      rw [sameRange_iff] at h h'
      grind
    | number hw => cases hw
    | refl => exact .range h
  | number hv hw h =>
    cases hwz with
    | range => cases hw
    | number hw' hz h' =>
      cases hw.symm.trans hw'
      exact .number hv hz (sameNumber_trans h h')
    | refl => exact .number hv hw h

end Value

namespace Datum

mutual

/-- A datum that can be a key. What a tuple or a frozen set is made of are keys too. -/
def isKey : Datum → Bool
  | .seq form items =>
    match form with
    | .tuple | .tupleSub | .frozenSet => allKeys items
    | .generator => true
    | .list | .listSub | .set => false
  | .map .. | .bytes _ => false
  | _ => true

def allKeys : List Datum → Bool
  | [] => true
  | v :: rest => v.isKey && allKeys rest

end

mutual

theorem unhashable?_of_isKey {v : Datum} (h : v.isKey = true) : v.unhashable? = none := by
  match v with
  | .seq form items =>
    cases form
    case tuple | tupleSub => exact firstUnhashable?_of_allKeys h
    all_goals first | rfl | cases h
  | .leaf _ | .plain | .convertible .. | .tensor .. | .object .. | .badRepr _ | .fault _
  | .again _ => rfl
  | .map .. | .bytes _ => cases h

theorem firstUnhashable?_of_allKeys {items : List Datum} (h : allKeys items = true) :
    firstUnhashable? items = none := by
  match items with
  | [] => rfl
  | v :: rest =>
    obtain ⟨hv, hrest⟩ := (Bool.and_eq_true _ _).mp h
    rw [firstUnhashable?, unhashable?_of_isKey hv, firstUnhashable?_of_allKeys hrest]
    rfl

end

/-- Sequences are equal when they are of one family that has equality, item for item. -/
theorem same_seq {f g : SeqForm} {xs ys : List Datum} :
    (Datum.seq f xs).same (.seq g ys) = true ↔
      f.family = g.family ∧ f ≠ .generator ∧ sameAll xs ys = true := by
  simp [same, and_assoc]

theorem ne_generator_iff_of_family {f g : SeqForm} (h : f.family = g.family) :
    f ≠ .generator ↔ g ≠ .generator := by
  revert h
  cases f <;> cases g <;> decide

theorem allKeys_of_isKey {f : SeqForm} {xs : List Datum} (h : (Datum.seq f xs).isKey = true)
    (hf : f ≠ .generator) : allKeys xs = true := by
  cases f
  case tuple | tupleSub | frozenSet => exact h
  case generator => exact absurd rfl hf
  all_goals cases h

mutual

/-- Equality with a key holds both ways. -/
theorem same_symm {v w : Datum} (h : v.isKey = true) : w.same v = v.same w := by
  match v with
  | .leaf v =>
    cases w
    case leaf w => exact Value.sameAtom_symm w v
    case bytes => cases v <;> first | rfl | exact Bool.beq_comm
    all_goals cases v <;> rfl
  | .seq f xs =>
    cases w
    case seq g ys =>
      rw [Bool.eq_iff_iff, same_seq, same_seq, eq_comm (a := g.family)]
      refine and_congr_right fun hfg => ?_
      rw [← ne_generator_iff_of_family hfg]
      refine and_congr_right fun hf => ?_
      rw [sameAll_symm (allKeys_of_isKey h hf)]
    all_goals simp [same]
  | .plain | .convertible .. | .tensor .. | .object .. | .badRepr _ | .fault _ | .again _ =>
    cases w <;> simp [same]
  | .map .. | .bytes _ => cases h

theorem sameAll_symm {xs ys : List Datum} (h : allKeys xs = true) :
    sameAll ys xs = sameAll xs ys := by
  match xs, ys with
  | [], [] | [], _ :: _ | _ :: _, [] => rfl
  | x :: xs, y :: ys =>
    obtain ⟨hx, hxs⟩ := (Bool.and_eq_true _ _).mp h
    rw [sameAll, sameAll, same_symm hx, sameAll_symm hxs]

end

/-- Bytes that can be changed are compared like those that cannot. -/
def frozen : Datum → Datum
  | .bytes data => .leaf (.bytes data)
  | v => v

theorem same_frozen (v w : Datum) : v.frozen.same w.frozen = v.same w := by
  have hbytes : ∀ a b : List UInt8, (Value.bytes a).sameAtom (.bytes b) = (a == b) := fun a b => by
    rw [Bool.eq_iff_iff]
    simp [Value.sameAtom, Value.number?]
  cases v
  case leaf a =>
    cases w
    case bytes => cases a <;> first | rfl | exact hbytes ..
    all_goals rfl
  case bytes a =>
    cases w
    case leaf b => cases b <;> first | rfl | exact hbytes ..
    case bytes => exact hbytes ..
    all_goals rfl
  all_goals cases w <;> simp [same, frozen]

theorem frozen_of_same_leaf {v : Datum} {b : Value} (h : v.same (.leaf b) = true) :
    ∃ a, v.frozen = .leaf a ∧ a.sameAtom b = true := by
  rw [← same_frozen] at h
  cases v
  case leaf a => exact ⟨a, rfl, h⟩
  case bytes => exact ⟨_, rfl, h⟩
  all_goals cases h

theorem same_trans_leaf {v z : Datum} {w : Value} (hvw : v.same (.leaf w) = true)
    (hwz : (Datum.leaf w).same z = true) : v.same z = true := by
  rw [← same_symm rfl] at hwz
  obtain ⟨a, ha, haw⟩ := frozen_of_same_leaf hvw
  obtain ⟨b, hb, hbw⟩ := frozen_of_same_leaf hwz
  rw [← same_frozen, ha, hb]
  exact Value.sameAtom_trans haw (Value.sameAtom_symm b w ▸ hbw)

theorem eq_seq_of_same_seq {v : Datum} {g : SeqForm} {ys : List Datum}
    (h : v.same (.seq g ys) = true) : ∃ f xs, v = .seq f xs := by
  cases v
  case seq f xs => exact ⟨f, xs, rfl⟩
  all_goals simp [same] at h

theorem eq_seq_of_seq_same {z : Datum} {f : SeqForm} {xs : List Datum}
    (h : (Datum.seq f xs).same z = true) : ∃ g ys, z = .seq g ys := by
  cases z
  case seq g ys => exact ⟨g, ys, rfl⟩
  all_goals simp [same] at h

theorem eq_map_of_same_map {v : Datum} {g : MapForm} {ys : List (Datum × Datum)}
    (h : v.same (.map g ys) = true) : ∃ f xs, v = .map f xs := by
  cases v
  case map f xs => exact ⟨f, xs, rfl⟩
  all_goals simp [same] at h

theorem eq_map_of_map_same {z : Datum} {f : MapForm} {xs : List (Datum × Datum)}
    (h : (Datum.map f xs).same z = true) : ∃ g ys, z = .map g ys := by
  cases z
  case map g ys => exact ⟨g, ys, rfl⟩
  all_goals simp [same] at h

theorem same_map {f g : MapForm} {xs ys : List (Datum × Datum)} :
    (Datum.map f xs).same (.map g ys) = true ↔
      xs.length = ys.length ∧ sameEntries xs ys = true := by
  simp [same]

/-- The mapping has an entry equal to one with this key and this value. -/
abbrev hasEntry (k v : Datum) (entries : List (Datum × Datum)) : Bool :=
  entries.any fun (l, w) => k.same l && v.same w

mutual

/-- Equality goes on from one to the next. The induction is on the datum between the two. -/
theorem same_trans {v w z : Datum} (hvw : v.same w = true) (hwz : w.same z = true) :
    v.same z = true := by
  match w with
  | .leaf w => exact same_trans_leaf hvw hwz
  | .bytes data =>
    rw [← same_frozen] at *
    exact same_trans_leaf hvw hwz
  | .seq g ys =>
    obtain ⟨f, xs, rfl⟩ := eq_seq_of_same_seq hvw
    obtain ⟨f', zs, rfl⟩ := eq_seq_of_seq_same hwz
    obtain ⟨hfg, hf, hxy⟩ := same_seq.mp hvw
    obtain ⟨hgf', -, hyz⟩ := same_seq.mp hwz
    exact same_seq.mpr ⟨hfg.trans hgf', hf, sameAll_trans hxy hyz⟩
  | .map g ys =>
    obtain ⟨f, xs, rfl⟩ := eq_map_of_same_map hvw
    obtain ⟨f', zs, rfl⟩ := eq_map_of_map_same hwz
    obtain ⟨hxy, hxys⟩ := same_map.mp hvw
    obtain ⟨hyz, hyzs⟩ := same_map.mp hwz
    have hxzs : ∀ xs, sameEntries xs ys = true → sameEntries xs zs = true := by
      intro xs hxs
      induction xs with
      | nil => rfl
      | cons entry rest ih =>
        obtain ⟨hentry, hrest⟩ := (Bool.and_eq_true _ _).mp hxs
        exact (Bool.and_eq_true _ _).mpr ⟨hasEntry_trans hentry hyzs, ih hrest⟩
    exact same_map.mpr ⟨hxy.trans hyz, hxzs xs hxys⟩
  | .plain | .convertible .. | .tensor .. | .object .. | .badRepr _ | .fault _ | .again _ =>
    cases v <;> simp [same] at hvw

theorem sameAll_trans {xs ys zs : List Datum} (hxy : sameAll xs ys = true)
    (hyz : sameAll ys zs = true) : sameAll xs zs = true := by
  match xs, ys, zs with
  | [], [], [] => rfl
  | x :: xs, y :: ys, z :: zs =>
    obtain ⟨hxy, hxys⟩ := (Bool.and_eq_true _ _).mp hxy
    obtain ⟨hyz, hyzs⟩ := (Bool.and_eq_true _ _).mp hyz
    exact (Bool.and_eq_true _ _).mpr ⟨same_trans hxy hyz, sameAll_trans hxys hyzs⟩

theorem hasEntry_trans {k v : Datum} {ys zs : List (Datum × Datum)}
    (hys : hasEntry k v ys = true) (hyz : sameEntries ys zs = true) :
    hasEntry k v zs = true := by
  match ys with
  | (l, w) :: rest =>
    obtain ⟨hentry, hrest⟩ := (Bool.and_eq_true _ _).mp hyz
    rcases (Bool.or_eq_true _ _).mp hys with hhead | htail
    · obtain ⟨hkl, hvw⟩ := (Bool.and_eq_true _ _).mp hhead
      obtain ⟨⟨m, u⟩, hmem, hfound⟩ := List.any_eq_true.mp hentry
      obtain ⟨hlm, hwu⟩ := (Bool.and_eq_true _ _).mp hfound
      exact List.any_eq_true.mpr ⟨(m, u), hmem,
        (Bool.and_eq_true _ _).mpr ⟨same_trans hkl hlm, same_trans hvw hwu⟩⟩
    · exact hasEntry_trans htail hrest

end

/-- Only a text is the same key as a text. -/
theorem same_str (d : Datum) (text : String) : d.same (.str text) = true ↔ d = .str text := by
  cases d with
  | leaf v => cases v <;> simp [same, Value.sameAtom, Value.number?]
  | _ => simp [same]

end Datum

/-! Mappings. -/

open Datum

variable {entries new : List (Datum × Datum)} {key root value : Datum}

/-- Puts entries one after another. -/
def putAll (entries new : List (Datum × Datum)) : List (Datum × Datum) :=
  new.foldl (fun made entry => putEntry made entry.1 entry.2) entries

@[simp] theorem putAll_nil : putAll entries [] = entries := rfl

@[simp] theorem putAll_cons {entry : Datum × Datum} :
    putAll entries (entry :: new) = putAll (putEntry entries entry.1 entry.2) new := rfl

/-- Entries as a mapping holds them: no two of their keys are equal. -/
structure WellKeyed (entries : List (Datum × Datum)) : Prop where
  keys : ∀ entry ∈ entries, entry.1.isKey = true
  distinct : entries.Pairwise fun entry other => entry.1.same other.1 = false

theorem wellKeyed_nil : WellKeyed [] :=
  ⟨fun _ h => absurd h List.not_mem_nil, .nil⟩

theorem WellKeyed.tail {entry : Datum × Datum} (h : WellKeyed (entry :: entries)) :
    WellKeyed entries :=
  ⟨fun e he => h.keys e (List.mem_cons_of_mem _ he), (List.pairwise_cons.mp h.distinct).2⟩

@[simp] theorem lookupKey_nil : lookupKey [] key = none := rfl

theorem lookupKey_cons {entry : Datum × Datum} :
    lookupKey (entry :: entries) key =
      if entry.1.same key = true then some entry.2 else lookupKey entries key := by
  unfold lookupKey
  rw [List.find?_cons]
  split <;> simp_all

theorem lookupKey_eq_none : lookupKey entries key = none ↔
    ∀ entry ∈ entries, entry.1.same key = false := by
  simp [lookupKey]

/-- A key that is put is found under all keys equal to it, and no other is. -/
theorem lookupKey_putEntry (hkey : key.isKey = true) :
    lookupKey (putEntry entries key value) root =
      if key.same root = true then some value else lookupKey entries root := by
  induction entries with
  | nil => rw [putEntry, lookupKey_cons]
  | cons entry rest ih =>
    rw [putEntry]
    split
    next hsame =>
      have hiff : entry.1.same root = key.same root := by
        rw [Bool.eq_iff_iff]
        exact ⟨same_trans (same_symm hkey ▸ hsame), same_trans hsame⟩
      simp only [lookupKey_cons, hiff]
      split <;> rfl
    next hother =>
      have hnot : key.same root = true → entry.1.same root ≠ true := fun hroot hentry =>
        hother (same_trans hentry (same_symm hkey ▸ hroot))
      simp only [lookupKey_cons, ih]
      grind

/-- What was put last is found first. -/
theorem lookupKey_putAll (hnew : WellKeyed new) :
    lookupKey (putAll entries new) root = (lookupKey new root).or (lookupKey entries root) := by
  induction new generalizing entries with
  | nil => rfl
  | cons entry rest ih =>
    rw [putAll_cons, ih hnew.tail, lookupKey_putEntry (hnew.keys _ List.mem_cons_self),
      lookupKey_cons]
    split
    next hroot =>
      have hrest : lookupKey rest root = none := lookupKey_eq_none.mpr fun other hother => by
        have hkey := hnew.keys other (List.mem_cons_of_mem _ hother)
        have hne := (List.pairwise_cons.mp hnew.distinct).1 other hother
        refine Bool.eq_false_iff.mpr fun h => Bool.eq_false_iff.mp hne ?_
        exact same_trans hroot (same_symm hkey ▸ h)
      rw [hrest]
      rfl
    next => rfl

/-! Putting entries in groups. -/

/-- The second of two values under one key is the one that stays. -/
theorem putEntry_putEntry_same {other later : Datum} (hkey : key.isKey = true)
    (hsame : key.same other = true) :
    putEntry (putEntry entries key value) other later = putEntry entries key later := by
  induction entries with
  | nil => simp [putEntry, hsame]
  | cons entry rest ih =>
    have hiff : entry.1.same key = entry.1.same other := by
      rw [Bool.eq_iff_iff]
      exact ⟨fun h => same_trans h hsame, fun h => same_trans h (same_symm hkey ▸ hsame)⟩
    by_cases h : entry.1.same key = true
    · simp [putEntry, h, ← hiff]
    · simp [putEntry, h, ← hiff, ih]

/-- Two keys that are not equal can be put in any order, if the second is there already. -/
theorem putEntry_comm {other later : Datum} (hkey : key.isKey = true)
    (hne : key.same other = false) (hthere : (lookupKey entries other).isSome) :
    putEntry (putEntry entries key value) other later =
      putEntry (putEntry entries other later) key value := by
  induction entries with
  | nil => cases hthere
  | cons entry rest ih =>
    have hboth : entry.1.same key = true → entry.1.same other = false := fun hk =>
      Bool.eq_false_iff.mpr fun ho =>
        Bool.eq_false_iff.mp hne (same_trans (same_symm hkey ▸ hk) ho)
    rw [lookupKey_cons] at hthere
    by_cases hk : entry.1.same key = true <;> by_cases ho : entry.1.same other = true
    · exact absurd ho (Bool.eq_false_iff.mp (hboth hk))
    all_goals simp_all [putEntry]

theorem putAll_putEntry_comm (hnew : ∀ entry ∈ new, entry.1.isKey = true)
    (hne : ∀ entry ∈ new, entry.1.same key = false) (hthere : (lookupKey entries key).isSome) :
    putEntry (putAll entries new) key value = putAll (putEntry entries key value) new := by
  induction new generalizing entries with
  | nil => rfl
  | cons entry rest ih =>
    obtain ⟨hentry, hrest⟩ := List.forall_mem_cons.mp hnew
    obtain ⟨hentry', hrest'⟩ := List.forall_mem_cons.mp hne
    rw [putAll_cons, putAll_cons, ← putEntry_comm hentry hentry' hthere]
    refine ih hrest hrest' ?_
    rw [lookupKey_putEntry hentry]
    split
    · rfl
    · exact hthere

/-- Putting one more entry into a mapping that is put. -/
theorem putAll_putEntry (hnew : WellKeyed new) :
    putAll entries (putEntry new key value) = putEntry (putAll entries new) key value := by
  induction new generalizing entries with
  | nil => rfl
  | cons entry rest ih =>
    have hentry := hnew.keys entry List.mem_cons_self
    rw [putEntry]
    split
    next hsame =>
      have hrest : ∀ other ∈ rest, other.1.same key = false := fun other hother => by
        have hne := (List.pairwise_cons.mp hnew.distinct).1 other hother
        refine Bool.eq_false_iff.mpr fun h => Bool.eq_false_iff.mp hne ?_
        exact same_trans hsame (same_symm (hnew.keys other (List.mem_cons_of_mem _ hother)) ▸ h)
      have hthere : (lookupKey (putEntry entries entry.1 entry.2) key).isSome := by
        rw [lookupKey_putEntry hentry, if_pos hsame]
        rfl
      rw [putAll_cons, putAll_cons, putAll_putEntry_comm hnew.tail.keys hrest hthere,
        putEntry_putEntry_same hentry hsame]
    next => rw [putAll_cons, putAll_cons, ih hnew.tail]

theorem keys_putEntry :
    (putEntry entries key value).map (·.1) =
      entries.map (·.1) ++ if (lookupKey entries key).isSome then [] else [key] := by
  induction entries with
  | nil => rfl
  | cons entry rest ih =>
    rw [putEntry, lookupKey_cons]
    by_cases h : entry.1.same key = true <;> simp [h, ih]

theorem wellKeyed_iff : WellKeyed entries ↔
    (∀ key ∈ entries.map (·.1), key.isKey = true) ∧
      (entries.map (·.1)).Pairwise fun key other => key.same other = false := by
  rw [List.forall_mem_map, List.pairwise_map]
  exact ⟨fun h => ⟨h.keys, h.distinct⟩, fun h => ⟨h.1, h.2⟩⟩

theorem wellKeyed_putEntry (h : WellKeyed entries) (hkey : key.isKey = true) :
    WellKeyed (putEntry entries key value) := by
  rw [wellKeyed_iff] at *
  rw [keys_putEntry]
  split
  next => simpa using h
  next hnone =>
    rw [Option.not_isSome_iff_eq_none, lookupKey_eq_none] at hnone
    refine ⟨?_, List.pairwise_append.mpr ⟨h.2, List.pairwise_singleton .., ?_⟩⟩
    · simpa [or_imp, forall_and, hkey] using h.1
    · simpa using hnone

theorem wellKeyed_putAll (h : WellKeyed entries) (hnew : ∀ entry ∈ new, entry.1.isKey = true) :
    WellKeyed (putAll entries new) := by
  induction new generalizing entries with
  | nil => exact h
  | cons entry rest ih =>
    obtain ⟨hentry, hrest⟩ := List.forall_mem_cons.mp hnew
    exact ih (wellKeyed_putEntry h hentry) hrest

/-- A mapping into which another was put can be put as the one and then the other. -/
theorem putAll_putAll {first second : List (Datum × Datum)} (hfirst : WellKeyed first)
    (hsecond : ∀ entry ∈ second, entry.1.isKey = true) :
    putAll entries (putAll first second) = putAll (putAll entries first) second := by
  induction second generalizing first with
  | nil => rfl
  | cons entry rest ih =>
    obtain ⟨hentry, hrest⟩ := List.forall_mem_cons.mp hsecond
    rw [putAll_cons, putAll_cons, ih (wellKeyed_putEntry hfirst hentry) hrest, putAll_putEntry hfirst]

/-- Putting the entries of a mapping makes the mapping. -/
theorem putAll_of_wellKeyed (h : WellKeyed (entries ++ new)) :
    putAll entries new = entries ++ new := by
  induction new generalizing entries with
  | nil => rw [putAll_nil, List.append_nil]
  | cons entry rest ih =>
    have hnew : ∀ old ∈ entries, old.1.same entry.1 = false := fun old hold =>
      (List.pairwise_append.mp h.distinct).2.2 old hold entry List.mem_cons_self
    have happend : putEntry entries entry.1 entry.2 = entries ++ [entry] := by
      clear h ih
      induction entries with
      | nil => rfl
      | cons old olds ih =>
        obtain ⟨hold, holds⟩ := List.forall_mem_cons.mp hnew
        rw [putEntry, if_neg (Bool.eq_false_iff.mp hold), ih holds]
        rfl
    rw [putAll_cons, happend, ih (by simpa using h), List.append_assoc]
    rfl

/-- The keys of a mapping are distinct as they are. -/
theorem WellKeyed.distinct_keys (h : WellKeyed entries) :
    Datum.distinct (entries.map (·.1)) = .ok (entries.map (·.1)) := by
  have hnone : (entries.map (·.1)).findSome? (·.unhashable?) = none := by
    rw [List.findSome?_eq_none_iff]
    intro key hkey
    obtain ⟨entry, hentry, rfl⟩ := List.mem_map.mp hkey
    exact unhashable?_of_isKey (h.keys entry hentry)
  have hkeys : ∀ keys : List Datum, (keys.map fun key => (key, Datum.null)).map (·.1) = keys :=
    fun keys => by rw [List.map_map]; exact List.map_id keys
  have hnull : WellKeyed ((entries.map (·.1)).map fun key => (key, Datum.null)) := by
    rw [wellKeyed_iff] at *
    rwa [hkeys]
  have hmade : entriesOf ((entries.map (·.1)).map fun key => (key, Datum.null)) = _ :=
    @putAll_of_wellKeyed [] _ hnull
  rw [Datum.distinct, hnone]
  dsimp only
  rw [hmade, List.nil_append, hkeys]

end Chunkwise
