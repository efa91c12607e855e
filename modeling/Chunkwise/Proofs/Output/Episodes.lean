import Chunkwise.Proofs.Output.Batches
import Chunkwise.Proofs.Store.Guards

/-!
Who has written what. One writer follows another; what is sent while one writes are the batches of
what it has written, as long as nothing is refused.
-/
namespace Chunkwise

namespace Output

/-- What came of output while one wrote, last first. -/
structure Episode where
  writer : Writer
  marks : List Mark
  alone : ∀ writer, .opened writer ∉ marks

namespace Episode

/-- An episode that goes on. -/
def goesOn (e : Episode) (more : List Mark) (h : ∀ writer, .opened writer ∉ more) : Episode where
  writer := e.writer
  marks := more ++ e.marks
  alone writer := by simp [h writer, e.alone writer]

/-- The part of a record that is an episode. -/
def record (e : Episode) : List Mark :=
  e.marks ++ [.opened e.writer]

/-- The stretches of text that were written, in order. -/
def stretches (e : Episode) : List (List Char) :=
  passages e.marks

end Episode

/-- The part of a record that episodes make up, the first of them last. -/
def told (episodes : List Episode) : List Mark :=
  episodes.reverse.flatMap Episode.record

@[simp] theorem told_nil : told [] = [] := rfl

@[simp] theorem told_append (episodes more : List Episode) :
    told (episodes ++ more) = told more ++ told episodes := by
  simp [told]

theorem told_singleton (e : Episode) : told [e] = e.record := by
  simp [told]

/-- What is sent in episodes that leave nothing behind. -/
theorem sent_told {episodes : List Episode} (h : ∀ e ∈ episodes, Faithful e.marks []) :
    sent (told episodes) = episodes.flatMap fun e => handedOn e.stretches := by
  induction episodes with
  | nil => rfl
  | cons e episodes ih =>
    have hrest := ih fun e' he' => h e' (List.mem_cons_of_mem _ he')
    rw [← List.singleton_append, told_append, sent_append, hrest, told_singleton]
    simp [Episode.record, Episode.stretches, sent, (h e (by simp)).sent_eq]

theorem Faithful.opened (writer : Writer) : Faithful [.opened writer] [] :=
  faithful_nil

/-- A text is written; its lines are sent, and the rest of it stays behind. -/
theorem Faithful.write {record : List Mark} {pending rest text : List Char}
    {lines : List (List Char)} (h : Faithful record pending) (hlines : ∀ l ∈ lines, IsLine l)
    (hrest : '\n' ∉ rest) (htext : pending ++ text = lines.flatten ++ rest) :
    Faithful ((lines.map String.ofList).reverse.map .sent ++ .wrote text :: record) rest := by
  obtain ⟨-, before, hbefore, hstretch, hsent⟩ := h
  refine ⟨hrest, before ++ lines, ?_, ?_, ?_⟩
  · intro l hl
    exact (List.mem_append.1 hl).elim (hbefore l) (hlines l)
  · rw [stretches_sent]
    simp [stretches, hstretch, htext]
  · rw [sent_append, sent_map_sent, stretches_sent]
    simp [sent, stretches, hsent]

/-- What is pending is handed on. -/
theorem Faithful.flush {record : List Mark} {pending : List Char} (h : Faithful record pending) :
    Faithful ((remainder pending).map (.sent ∘ String.ofList) ++ .flushed :: record) [] := by
  obtain ⟨hpending, lines, hlines, hstretch, hsent⟩ := h
  have hbatches := batches_eq hlines hpending
  have hmap : (remainder pending).map (Mark.sent ∘ String.ofList) =
      ((remainder pending).map String.ofList).map .sent := by simp
  refine ⟨by simp, [], by simp, ?_, ?_⟩
  · rw [hmap, stretches_sent]
    simp [stretches]
  · rw [hmap, sent_append, sent_map_sent, stretches_sent]
    simp only [sent, stretches, List.reverse_cons, handedOn_append, hsent, hstretch]
    simp only [handedOn, List.flatMap_cons, List.flatMap_nil, hbatches]
    unfold remainder
    split <;> simp

end Output

namespace World
open Output Store

/-- What a while leaves of a world: scopes that are kept bind what they bound, but for one, and all
that was written went through the buffer and left nothing behind. -/
structure Leaves (K : Address → Prop) (own : Option Address) (episodes : List Episode)
    (w w' : World) : Prop where
  guarded : Guarded K w'.store
  names : ∀ a, K a → some a ≠ own → w'.store.names a = w.store.names a
  hears : Hears w w' (told episodes)
  faithful : w.host.audience.IsOpen → ∀ e ∈ episodes, Faithful e.marks []

variable {K : Address → Prop} {own : Option Address} {episodes more : List Episode}
  {w w' w'' : World}

theorem Leaves.refl (h : Guarded K w.store) : Leaves K own [] w w :=
  ⟨h, fun _ _ _ => rfl, .refl w, fun _ _ he => absurd he List.not_mem_nil⟩

theorem Leaves.trans (h : Leaves K own episodes w w') (h' : Leaves K own more w' w'') :
    Leaves K own (episodes ++ more) w w'' where
  guarded := h'.guarded
  names a ha hne := (h'.names a ha hne).trans (h.names a ha hne)
  hears := told_append episodes more ▸ h.hears.trans h'.hears
  faithful hopen e he :=
    (List.mem_append.1 he).elim (h.faithful hopen e) (h'.faithful (h.hears.isOpen hopen) e)

/-- Nothing is said, and what is kept is left alone. -/
theorem Leaves.of_silent (hg : Guarded K w'.store)
    (hn : ∀ a, K a → some a ≠ own → w'.store.names a = w.store.names a) (h : Silent w w') :
    Leaves K own [] w w' :=
  ⟨hg, hn, h, fun _ _ he => absurd he List.not_mem_nil⟩

/-- What binds nothing binds nothing but in one scope. -/
theorem Leaves.any (h : Leaves K none episodes w w') : Leaves K own episodes w w' :=
  ⟨h.guarded, fun a ha _ => h.names a ha (by simp), h.hears, h.faithful⟩

end World

end Chunkwise
