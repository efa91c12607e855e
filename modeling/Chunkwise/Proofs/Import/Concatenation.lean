import Chunkwise.Proofs.Import.Filter
import Mathlib.Data.List.Sort
import Mathlib.Data.String.Basic
import Mathlib.Tactic.Tauto

/-!
Chunks that are put together. What is found in two chunks with a line feed between them is what is
found in each, as long as no carriage return comes to stand before that line feed; so what a chunk
asks for hangs on which lines it has, and not on their order or number.
-/
namespace Chunkwise

namespace Text

variable {s t : List Char} {ls ms : List (List Char)}

/-- A line feed between two texts ends the last line of the first. -/
theorem Splits.append (h : Splits s ls) (ht : Splits t ms) (hr : s.getLast? ≠ some '\r') :
    Splits (s ++ '\n' :: t) (ls ++ ms) := by
  induction h with
  | last hn => exact .feed hn hr ht
  | @feed line rest _ hn hend _ ih =>
    rw [List.append_assoc]
    refine .feed hn hend (ih fun h => hr ?_)
    rw [List.getLast?_append, List.getLast?_cons, h]
    rfl
  | @pair line rest _ hn _ ih =>
    rw [List.append_assoc]
    refine .pair hn (ih fun h => hr ?_)
    rw [List.getLast?_append, List.getLast?_cons, List.getLast?_cons, h]
    rfl

/-- The lines of two texts with a line feed between them. -/
theorem lines_append_lines (t : List Char) (hr : s.getLast? ≠ some '\r') :
    lines (s ++ '\n' :: t) = lines s ++ lines t :=
  ((splits_lines s).append (splits_lines t) hr).lines_eq

theorem unlines_append (hls : ls ≠ []) (hms : ms ≠ []) :
    unlines (ls ++ ms) = unlines ls ++ '\n' :: unlines ms := by
  induction ls with
  | nil => exact absurd rfl hls
  | cons line ls ih =>
    rw [List.cons_append, unlines_cons line (by simp [hms])]
    cases ls with
    | nil => simp [unlines]
    | cons next more => rw [ih (by simp), unlines_cons line (by simp), List.append_assoc]; rfl

/-- What distinct names there are in increasing order hangs on the members alone. -/
theorem sortedSet_congr {xs ys : List String} (h : ∀ x, x ∈ xs ↔ x ∈ ys) :
    sortedSet xs = sortedSet ys :=
  (pairwise_sortedSet xs).eq_of_mem_iff (pairwise_sortedSet ys) fun x => by simp [h x]

end Text

namespace Import
open Text

variable {heavy chunk a b : String} {ls ms : List (List Char)}

@[simp] theorem wanted_append (heavy : List Char) (ls ms : List (List Char)) :
    wanted heavy (ls ++ ms) = wanted heavy ls ++ wanted heavy ms :=
  List.flatMap_append

theorem mem_roots_iff {root : String} : root ∈ (scan heavy chunk).roots ↔
    root ∈ wanted heavy.toList (keptLines heavy.toList chunk.toList) := by
  simp [scan]

theorem source_toList (heavy chunk : String) :
    (scan heavy chunk).source.toList = unlines (keptLines heavy.toList chunk.toList) :=
  String.toList_ofList

/-- The lines that are kept of two chunks with a line feed between them. -/
theorem keptLines_append (heavy t : List Char) {s : List Char} (hr : s.getLast? ≠ some '\r') :
    keptLines heavy (s ++ '\n' :: t) = keptLines heavy s ++ keptLines heavy t := by
  rw [keptLines, lines_append_lines t hr, List.filter_append]
  rfl

/-- The source of two chunks with a line feed between them, where it depends on whether each of them
has a line that is kept. -/
theorem source_append (heavy b : String) (hr : a.toList.getLast? ≠ some '\r') :
    (scan heavy (a ++ "\n" ++ b)).source =
      if keptLines heavy.toList a.toList = [] then (scan heavy b).source
      else if keptLines heavy.toList b.toList = [] then (scan heavy a).source
      else (scan heavy a).source ++ "\n" ++ (scan heavy b).source := by
  have hkept := keptLines_append heavy.toList b.toList hr
  have htext : (a ++ "\n" ++ b).toList = a.toList ++ '\n' :: b.toList := by simp
  rw [← String.toList_inj, source_toList, htext, hkept]
  split
  next ha => rw [ha, List.nil_append, source_toList]
  next ha =>
    split
    next hb => rw [hb, List.append_nil, source_toList]
    next hb => simp [unlines_append ha hb, source_toList]

/-! Lines in another order. -/

/-- What lines ask for, the plain imports of the heavy library left aside, hangs on which lines there
are. -/
theorem wanted_filter_congr {heavy : List Char} (h : ∀ line, line ∈ ls ↔ line ∈ ms) (root : String) :
    root ∈ wanted heavy (ls.filter fun line => !isHeavyLine heavy line) ↔
      root ∈ wanted heavy (ms.filter fun line => !isHeavyLine heavy line) := by
  simp only [wanted, List.mem_flatMap, List.mem_filter, h]

/-- Chunks that have the same lines ask for the same packages, and either both import the heavy
library or none of them. -/
theorem scan_congr {again : String}
    (h : ∀ line, line ∈ lines again.toList ↔ line ∈ lines chunk.toList) :
    (scan heavy again).roots = (scan heavy chunk).roots ∧
      (scan heavy again).heavy = (scan heavy chunk).heavy := by
  refine ⟨sortedSet_congr (wanted_filter_congr h), ?_⟩
  rw [Bool.eq_iff_iff]
  simp only [scan, List.any_eq_true, h]

/-- Two chunks with a line feed between them, the first of which does not end with a carriage return,
ask for the packages that one of them asks for, import the heavy library if one of them does, and keep
the lines of the first and then those of the second. What a chunk asks for does not change when its
lines, none of which ends with a carriage return, are put in another order or repeated. -/
theorem scan_append (heavy : String) :
    (∀ a b : String, a.toList.getLast? ≠ some '\r' →
      (∀ root, root ∈ (scan heavy (a ++ "\n" ++ b)).roots ↔
        root ∈ (scan heavy a).roots ∨ root ∈ (scan heavy b).roots) ∧
      (scan heavy (a ++ "\n" ++ b)).heavy = ((scan heavy a).heavy || (scan heavy b).heavy) ∧
      keptLines heavy.toList (a ++ "\n" ++ b).toList =
        keptLines heavy.toList a.toList ++ keptLines heavy.toList b.toList ∧
      (scan heavy (a ++ "\n" ++ b)).source =
        if keptLines heavy.toList a.toList = [] then (scan heavy b).source
        else if keptLines heavy.toList b.toList = [] then (scan heavy a).source
        else (scan heavy a).source ++ "\n" ++ (scan heavy b).source) ∧
    ∀ (chunk : String) (ls : List (List Char)),
      (∀ line ∈ lines chunk.toList, line.getLast? ≠ some '\r') →
      (∀ line, line ∈ ls ↔ line ∈ lines chunk.toList) →
      (scan heavy (String.ofList (unlines ls))).roots = (scan heavy chunk).roots ∧
        (scan heavy (String.ofList (unlines ls))).heavy = (scan heavy chunk).heavy := by
  constructor
  · intro a b hr
    have htext : (a ++ "\n" ++ b).toList = a.toList ++ '\n' :: b.toList := by simp
    have hkept := keptLines_append heavy.toList b.toList hr
    refine ⟨fun root => ?_, ?_, htext ▸ hkept, source_append heavy b hr⟩
    · simp only [mem_roots_iff, htext, hkept, wanted_append, List.mem_append]
    · simp only [scan, htext, lines_append_lines b.toList hr, List.any_append]
  · intro chunk ls hends hmem
    have hne : ls ≠ [] := by
      obtain ⟨line, hline⟩ := List.exists_mem_of_ne_nil _ (lines_ne_nil chunk.toList)
      exact List.ne_nil_of_mem ((hmem line).mpr hline)
    have hlines : lines (unlines ls) = ls := by
      refine lines_unlines_of_ends hne (fun line hline hn => ?_) fun line hline => ?_
      · exact (mem_of_mem_lines ((hmem line).mp hline) hn).2 rfl
      · exact hends line ((hmem line).mp (List.dropLast_subset ls hline))
    exact scan_congr fun line => by rw [String.toList_ofList, hlines, hmem line]

/-- A chunk behind another that ends with a plain import of the heavy library, and the lines of both
in another order, one of them twice. -/
theorem scan_append_import :
    "import os\r\n import torch ".toList.getLast? ≠ some '\r' ∧
      (scan "torch" ("import os\r\n import torch " ++ "\n" ++ "import numpy\nx")).source =
        "import os\nimport numpy\nx" ∧
      (scan "torch" "x\nimport numpy\n import torch \nx\nimport os").roots =
        (scan "torch" ("import os\r\n import torch " ++ "\n" ++ "import numpy\nx")).roots := by
  have hmem (a b c d line : List Char) : line ∈ [d, c, b, d, a] ↔ line ∈ [a, b, c, d] := by
    simp only [List.mem_cons, List.not_mem_nil]
    tauto
  have hr : "import os\r\n import torch ".toList.getLast? ≠ some '\r' := by decide +kernel
  have hlines : lines ("import os\r\n import torch " ++ "\n" ++ "import numpy\nx").toList =
      ["import os".toList, " import torch ".toList, "import numpy".toList, "x".toList] := by
    decide +kernel
  have hother : "x\nimport numpy\n import torch \nx\nimport os" = String.ofList (unlines
      ["x".toList, "import numpy".toList, " import torch ".toList, "x".toList,
        "import os".toList]) := by
    decide +kernel
  refine ⟨hr, ((scan_append "torch").1 _ _ hr).2.2.2.trans (by decide +kernel), ?_⟩
  rw [hother]
  exact ((scan_append "torch").2 _ _ (by decide +kernel) fun line => hlines ▸ hmem _ _ _ _ line).1

/-- A carriage return at the end of the first chunk is taken for a part of the line end. -/
example : keptLines "torch".toList "a\r\nb".toList ≠
    keptLines "torch".toList "a\r".toList ++ keptLines "torch".toList "b".toList := by
  decide +kernel

end Import

end Chunkwise
