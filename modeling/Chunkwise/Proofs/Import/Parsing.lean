import Chunkwise.Code.Parse
import Chunkwise.Proofs.Import.Filter

/-!
Reading a filtered source. A chunk that the filter takes nothing out of is read as it was written,
since the reader does not tell one line end from another. A line that is taken out is missed where
it was all of a block.
-/
namespace Chunkwise.Import
open Code Text

variable {t : List Char}

theorem withoutPairs_ne_nil (h : t ≠ []) : withoutPairs t ≠ [] := by
  fun_cases withoutPairs t with
  | case1 => exact absurd rfl h
  | case2 | case3 => simp

/-- Where line ends are replaced, a line feed comes first if a line end did. -/
theorem head?_withoutPairs (h : (withoutPairs t).head? = some '\n') :
    t.head? = some '\n' ∨ ['\r', '\n'] <+: t := by
  fun_cases withoutPairs t with
  | case1 => simp [withoutPairs] at h
  | case2 rest => exact .inr ⟨rest, rfl⟩
  | case3 c rest hpair =>
    rw [withoutPairs.eq_3 _ _ hpair] at h
    exact .inl h

/-- The reader goes on behind a character that is not the end of the source and begins no pair. -/
theorem normalizeLines_cons {c : Char} (ht : t ≠ []) (hc : c = '\r' → t.head? ≠ some '\n') :
    normalizeLines (c :: t) = (if c = '\r' then '\n' else c) :: normalizeLines t := by
  rw [normalizeLines.eq_4 _ _ (fun _ h => ht h) fun rest hcr h => hc hcr (by simp [h])]
  simp only [if_neg ht]
  split <;> rfl

/-- The reader takes a pair for a line feed. Two carriage returns before a line feed would make a
new pair. -/
theorem normalizeLines_withoutPairs (hr : ¬['\r', '\r', '\n'] <:+: t) :
    normalizeLines (withoutPairs t) = normalizeLines t := by
  have behind {c : Char} {rest : List Char} (hr : ¬['\r', '\r', '\n'] <:+: c :: rest) :
      ¬['\r', '\r', '\n'] <:+: rest := fun h => hr (h.trans (List.suffix_cons c rest).isInfix)
  fun_induction normalizeLines t with
  | case1 | case2 | case3 | case5 => rfl
  | case4 rest hrest ih =>
    rw [withoutPairs, normalizeLines_cons (withoutPairs_ne_nil hrest) (by simp),
      ih (behind (behind hr))]
    simp
  | case6 rest hrest _ hpair ih =>
    rw [withoutPairs.eq_3 _ _ hpair, normalizeLines_cons (withoutPairs_ne_nil hrest) fun _ hhead => ?_,
      ih (behind hr), if_pos rfl]
    rcases head?_withoutPairs hhead with h | ⟨more, rfl⟩
    · obtain ⟨more, rfl⟩ := List.head?_eq_some_iff.mp h
      exact hpair more rfl rfl
    · exact hr ⟨[], more, rfl⟩
  | case7 c rest hend hpair hc ih =>
    rw [withoutPairs.eq_3 _ _ hpair]
    by_cases hrest : rest = []
    · subst hrest
      simpa [withoutPairs, hc] using normalizeLines.eq_4 c [] hend (by simp)
    · rw [normalizeLines_cons (withoutPairs_ne_nil hrest) (absurd · hc), ih (behind hr), if_neg hc]

end Chunkwise.Import
