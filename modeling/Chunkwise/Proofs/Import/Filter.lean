import Chunkwise.Import.Chunk
import Chunkwise.Proofs.Text.Lines

/-!
What is taken out of a chunk. The source that is run has all lines of the chunk but the plain imports
of the heavy library, each as it stands; looked through once more, it stays as it is.
-/
namespace Chunkwise.Import
open Text

variable {heavy line t : List Char}

theorem isHeavyLine_iff : isHeavyLine heavy line = true ↔ trim line = "import ".toList ++ heavy :=
  beq_iff_eq

/-- A line without text is none of the heavy library. -/
theorem isHeavyLine_nil (heavy : List Char) : isHeavyLine heavy [] = false := rfl

theorem keptLines_eq (heavy t : List Char) :
    keptLines heavy t = (lines t).filter fun line => trim line ≠ "import ".toList ++ heavy := by
  refine List.filter_congr fun line _ => ?_
  rw [Bool.eq_iff_iff, Bool.not_eq_true', decide_eq_true_eq, ne_eq, ← isHeavyLine_iff,
    Bool.not_eq_true]

/-- All lines are kept where none is a plain import of the heavy library. -/
theorem keptLines_eq_lines (h : ∀ line ∈ lines t, isHeavyLine heavy line = false) :
    keptLines heavy t = lines t :=
  List.filter_eq_self.mpr fun line hline => by simp [h line hline]

theorem keptLines_sublist (heavy t : List Char) : (keptLines heavy t).Sublist (lines t) :=
  List.filter_sublist

theorem isHeavyLine_of_mem_keptLines (h : line ∈ keptLines heavy t) :
    isHeavyLine heavy line = false := by
  simpa using (List.mem_filter.mp h).2

/-- The lines of the filtered source are those that were kept. Where none was, there is one without
text. -/
theorem lines_unlines_keptLines (hr : ¬['\r', '\r', '\n'] <:+: t) :
    lines (unlines (keptLines heavy t)) =
      if keptLines heavy t = [] then [[]] else keptLines heavy t := by
  split
  next h => simp [h, unlines, lines]
  next h =>
    have hsub := keptLines_sublist heavy t
    have hfront : (keptLines heavy t).dropLast.Sublist (lines t).dropLast := by
      simpa using hsub.reverse.tail.reverse
    refine lines_unlines_of_ends h (fun line hline hn => ?_) fun line hline hlast => ?_
    · exact (mem_of_mem_lines (hsub.subset hline) hn).2 rfl
    · exact hr (infix_of_getLast? (hfront.subset hline) hlast)

/-- All lines of the filtered source are kept. -/
theorem keptLines_unlines (hr : ¬['\r', '\r', '\n'] <:+: t) :
    keptLines heavy (unlines (keptLines heavy t)) =
      if keptLines heavy t = [] then [[]] else keptLines heavy t := by
  rw [← lines_unlines_keptLines hr]
  refine keptLines_eq_lines fun line hline => ?_
  rw [lines_unlines_keptLines hr] at hline
  split at hline
  · exact List.mem_singleton.mp hline ▸ isHeavyLine_nil heavy
  · exact isHeavyLine_of_mem_keptLines hline

/-- A line without text needs no package. -/
theorem wanted_nil (heavy : List Char) : wanted heavy [[]] = [] := rfl

/-- A source in which nothing was dropped is the chunk with line feeds for its line ends. -/
theorem source_eq_of_heavy_eq_false {heavy chunk : String} (h : (scan heavy chunk).heavy = false) :
    (scan heavy chunk).source.toList = withoutPairs chunk.toList := by
  have hlight : ∀ line ∈ lines chunk.toList, isHeavyLine heavy.toList line = false := by
    simpa [scan] using h
  simp [scan, keptLines_eq_lines hlight, unlines_lines]

/-- A filtered source is looked through again without a change. -/
theorem scan_source {heavy chunk : String} (hr : ¬['\r', '\r', '\n'] <:+: chunk.toList) :
    scan heavy (scan heavy chunk).source = { scan heavy chunk with heavy := false } := by
  let kept := keptLines heavy.toList chunk.toList
  have hagain : keptLines heavy.toList (unlines kept) = if kept = [] then [[]] else kept :=
    keptLines_unlines hr
  have hlight : (lines (unlines kept)).any (isHeavyLine heavy.toList) = false := by
    rw [List.any_eq_false, lines_unlines_keptLines hr, ← keptLines_unlines hr]
    exact fun line hline => by simp [isHeavyLine_of_mem_keptLines hline]
  have hsource : (scan heavy chunk).source.toList = unlines kept := String.toList_ofList
  simp only [scan, String.toList_ofList] at hsource ⊢
  rw [Scan.mk.injEq]
  change String.ofList (unlines (keptLines heavy.toList (unlines kept))) = _ ∧
    sortedSet (wanted heavy.toList (keptLines heavy.toList (unlines kept))) = _ ∧ _
  rw [hagain]
  refine ⟨?_, ?_, hlight⟩
  · split
    next h => simp [h, kept, unlines]
    next => rfl
  · split
    next h => rw [wanted_nil, show keptLines heavy.toList chunk.toList = [] from h]; rfl
    next => rfl

/-- The source that is run has exactly the lines of the chunk that are no plain import of the heavy
library, unchanged and in order, with line feeds between them, and the library counts as imported if
one was dropped. If none was, the source is the chunk with a line feed for each of its line ends. A
source looked through once more stays as it is and asks for the same packages, unless two carriage
returns stand before a line feed of the chunk. -/
theorem scan_drops_heavy_lines (heavy chunk : String) :
    (∃ ls, Splits chunk.toList ls ∧
      (scan heavy chunk).source.toList =
        unlines (ls.filter fun line => trim line ≠ "import ".toList ++ heavy.toList) ∧
      ((scan heavy chunk).heavy ↔ ∃ line ∈ ls, trim line = "import ".toList ++ heavy.toList)) ∧
    ((scan heavy chunk).heavy = false →
      (scan heavy chunk).source.toList = withoutPairs chunk.toList) ∧
    (¬['\r', '\r', '\n'] <:+: chunk.toList →
      scan heavy (scan heavy chunk).source = { scan heavy chunk with heavy := false }) := by
  refine ⟨⟨lines chunk.toList, splits_lines _, ?_, ?_⟩, source_eq_of_heavy_eq_false, scan_source⟩
  · rw [← keptLines_eq]
    exact String.toList_ofList
  · simp only [scan, List.any_eq_true, isHeavyLine_iff]

/-- The import of the heavy library is dropped once and for all. -/
theorem scan_drops_import_between_statements :
    ¬['\r', '\r', '\n'] <:+: "x = 1\r\n  import torch\t\r\nimport numpy".toList ∧
      scan "torch" (scan "torch" "x = 1\r\n  import torch\t\r\nimport numpy").source =
        ⟨"x = 1\nimport numpy", ["numpy"], false⟩ := by
  have hr : ¬['\r', '\r', '\n'] <:+: "x = 1\r\n  import torch\t\r\nimport numpy".toList := by
    decide +kernel
  refine ⟨hr, ((scan_drops_heavy_lines _ _).2.2 hr).trans ?_⟩
  decide +kernel

/-- A line that ends with a carriage return is joined to the next by what reads as one line end. -/
example : scan "torch" (scan "torch" "a\r\r\nb").source ≠ scan "torch" "a\r\r\nb" := by
  decide +kernel

/-! Where the lines that are run stand in the chunk. The plain imports of the heavy library are taken
out, so the number of a line that is run falls behind by the number of those above it. -/

variable {chunk : List Char}

/-- A kept item of a list, and where it stands among all. -/
theorem getElem?_filter_eq_some {α : Type} {p : α → Bool} {xs : List α} {k : Nat} {x : α} :
    (xs.filter fun y => !p y)[k]? = some x ↔
      ∃ j, xs[j]? = some x ∧ p x = false ∧ j = k + (xs.take j).countP p := by
  induction xs generalizing k with
  | nil => simp
  | cons y xs ih =>
    have hshort (j : Nat) : (xs.take j).countP p ≤ j :=
      Nat.le_trans List.countP_le_length (List.length_take_le j xs)
    cases hy : p y with
    | true =>
      rw [List.filter_cons_of_neg (by simp [hy]), ih]
      constructor
      · rintro ⟨j, hj, hx, hk⟩
        exact ⟨j + 1, hj, hx, by rw [List.take_succ_cons, List.countP_cons_of_pos hy]; omega⟩
      · rintro ⟨j, hj, hx, hk⟩
        cases j with
        | zero =>
          obtain rfl : y = x := by simpa using hj
          simp [hy] at hx
        | succ j =>
          simp only [List.take_succ_cons, List.countP_cons_of_pos hy] at hk
          exact ⟨j, by simpa using hj, hx, by omega⟩
    | false =>
      rw [List.filter_cons_of_pos (by simp [hy])]
      cases k with
      | zero =>
        constructor
        · intro h
          exact ⟨0, h, by simp_all, by simp⟩
        · rintro ⟨j, hj, -, hk⟩
          cases j with
          | zero => exact hj
          | succ j =>
            have := hshort j
            simp only [List.take_succ_cons, List.countP_cons_of_neg (Bool.eq_false_iff.mp hy)] at hk
            omega
      | succ k =>
        rw [List.getElem?_cons_succ, ih]
        constructor
        · rintro ⟨j, hj, hx, hk⟩
          exact ⟨j + 1, hj, hx, by simp [hy]; omega⟩
        · rintro ⟨j, hj, hx, hk⟩
          cases j with
          | zero => simp at hk
          | succ j =>
            simp only [List.take_succ_cons, List.countP_cons_of_neg (Bool.eq_false_iff.mp hy)] at hk
            exact ⟨j, by simpa using hj, hx, by omega⟩

/-- The lines that are kept, with their numbers in the chunk: each stands there behind as many plain
imports of the heavy library as were taken out above it. -/
theorem keptLines_getElem?_eq_some {k : Nat} :
    (keptLines heavy chunk)[k]? = some line ↔ ∃ j, (lines chunk)[j]? = some line ∧
      isHeavyLine heavy line = false ∧
      j = k + ((lines chunk).take j).countP (isHeavyLine heavy) :=
  getElem?_filter_eq_some

end Chunkwise.Import
