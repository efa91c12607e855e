import Chunkwise.Text.Lines
import Mathlib.Data.List.Basic

/-!
The lines of a text. A text is cut at its line feeds, and a carriage return right before one goes
with it. Lines that are joined are found again, unless one that ends with a carriage return has
another behind it.
-/
namespace Chunkwise.Text

variable {t line rest : List Char} {ls : List (List Char)}

/-- A text and its lines. A carriage return before a line feed belongs to the end of the line. -/
inductive Splits : List Char → List (List Char) → Prop
  | last {line : List Char} (hn : '\n' ∉ line) : Splits line [line]
  | feed {line rest : List Char} {ls : List (List Char)} (hn : '\n' ∉ line)
      (hr : line.getLast? ≠ some '\r') (h : Splits rest ls) :
      Splits (line ++ '\n' :: rest) (line :: ls)
  | pair {line rest : List Char} {ls : List (List Char)} (hn : '\n' ∉ line) (h : Splits rest ls) :
      Splits (line ++ '\r' :: '\n' :: rest) (line :: ls)

/-- A character stays on the line that it begins. -/
theorem lines_cons {c : Char} {first : List Char} {more : List (List Char)} (hn : c ≠ '\n')
    (hr : c = '\r' → rest.head? ≠ some '\n') (h : lines rest = first :: more) :
    lines (c :: rest) = (c :: first) :: more := by
  rw [lines.eq_3 _ _ fun tail hc ht => hr hc (by simp [ht])]
  simp [hn, h]

/-- A line in front of a line feed is the first one. -/
theorem lines_append (hn : '\n' ∉ line) (hr : line.getLast? ≠ some '\r') :
    lines (line ++ '\n' :: rest) = line :: lines rest := by
  induction line with
  | nil => simp [lines]
  | cons c line ih =>
    simp only [List.mem_cons, not_or] at hn
    have hbehind : line.getLast? ≠ some '\r' := fun h => hr (by simp [List.getLast?_cons, h])
    refine lines_cons (Ne.symm hn.1) ?_ (ih hn.2 hbehind)
    rintro rfl
    cases line with
    | nil => simp at hr
    | cons d line => simpa using fun h => hn.2 (by simp [h])

/-- So is one in front of a carriage return and a line feed. -/
theorem lines_append_pair (hn : '\n' ∉ line) :
    lines (line ++ '\r' :: '\n' :: rest) = line :: lines rest := by
  induction line with
  | nil => simp [lines]
  | cons c line ih =>
    simp only [List.mem_cons, not_or] at hn
    refine lines_cons (Ne.symm hn.1) (fun _ => ?_) (ih hn.2)
    cases line with
    | nil => simp
    | cons d line => simpa using fun h => hn.2 (by simp [h])

theorem lines_eq_singleton (hn : '\n' ∉ line) : lines line = [line] := by
  induction line with
  | nil => rfl
  | cons c line ih =>
    simp only [List.mem_cons, not_or] at hn
    exact lines_cons (Ne.symm hn.1) (fun _ h => hn.2 (List.mem_of_head? h)) (ih hn.2)

theorem Splits.lines_eq (h : Splits t ls) : lines t = ls := by
  induction h with
  | last hn => exact lines_eq_singleton hn
  | feed hn hr _ ih => rw [lines_append hn hr, ih]
  | pair hn _ ih => rw [lines_append_pair hn, ih]

/-- A character in front of a text comes to the first of its lines. -/
theorem Splits.cons {c : Char} (h : Splits t (line :: ls)) (hn : c ≠ '\n')
    (hr : c = '\r' → t.head? ≠ some '\n') : Splits (c :: t) ((c :: line) :: ls) := by
  have hline (hl : '\n' ∉ line) : '\n' ∉ c :: line := by simp [Ne.symm hn, hl]
  cases h with
  | last hl => exact .last (hline hl)
  | @feed _ rest _ hl hend h =>
    refine .feed (hline hl) (fun hlast => ?_) h
    cases line with
    | nil => exact hr (by simpa using hlast) rfl
    | cons d line => exact hend (by simpa using hlast)
  | pair hl h => exact .pair (hline hl) h

theorem splits_lines (t : List Char) : Splits t (lines t) := by
  fun_induction lines t with
  | case1 => exact .last List.not_mem_nil
  | case2 rest ih => exact .pair List.not_mem_nil ih
  | case3 rest _ ih => exact .feed List.not_mem_nil (by simp) ih
  | case4 c rest hpair hn first more hrest ih =>
    refine (hrest ▸ ih).cons hn fun hc hhead => ?_
    obtain ⟨behind, rfl⟩ := List.head?_eq_some_iff.mp hhead
    exact hpair behind hc rfl
  | case5 c rest _ _ hrest => exact absurd hrest (lines_ne_nil rest)

/-- The lines of a text are those that it is cut into, and no others. -/
theorem splits_iff : Splits t ls ↔ lines t = ls :=
  ⟨Splits.lines_eq, fun h => h ▸ splits_lines t⟩

/-- The characters of a line are those of the text, and no line feed. -/
theorem mem_of_mem_lines (h : line ∈ lines t) {c : Char} (hc : c ∈ line) : c ∈ t ∧ c ≠ '\n' := by
  have hne {line : List Char} (hn : '\n' ∉ line) (hc : c ∈ line) : c ≠ '\n' := fun e => hn (e ▸ hc)
  have hsplits := splits_lines t
  generalize lines t = ls at h hsplits
  induction hsplits with
  | last hn =>
    obtain rfl := List.mem_singleton.mp h
    exact ⟨hc, hne hn hc⟩
  | feed hn _ _ ih | pair hn _ ih =>
    obtain rfl | h := List.mem_cons.mp h
    · exact ⟨by simp [hc], hne hn hc⟩
    · exact ⟨by simp [ih h], (ih h).2⟩

/-- Only the last line can end with a carriage return, or two of them stand before a line feed. -/
theorem infix_of_getLast? (h : line ∈ (lines t).dropLast) (hr : line.getLast? = some '\r') :
    ['\r', '\r', '\n'] <:+: t := by
  have hsplits := splits_lines t
  generalize lines t = ls at h hsplits
  induction hsplits with
  | last => simp at h
  | @feed first rest ls _ hend hrest ih =>
    have hls : ls ≠ [] := hrest.lines_eq ▸ lines_ne_nil rest
    rw [List.dropLast_cons_of_ne_nil hls] at h
    obtain rfl | h := List.mem_cons.mp h
    · exact absurd hr hend
    · exact (ih h).trans ((List.suffix_append [_] rest).trans (List.suffix_append first _)).isInfix
  | @pair first rest ls _ hrest ih =>
    have hls : ls ≠ [] := hrest.lines_eq ▸ lines_ne_nil rest
    rw [List.dropLast_cons_of_ne_nil hls] at h
    obtain rfl | h := List.mem_cons.mp h
    · obtain ⟨front, rfl⟩ := List.getLast?_eq_some_iff.mp hr
      exact ⟨front, rest, by simp⟩
    · exact (ih h).trans
        ((List.suffix_append [_, _] rest).trans (List.suffix_append first _)).isInfix

/-- Lines that are joined are found again, if none but the last ends with a carriage return. -/
theorem lines_unlines_of_ends (hne : ls ≠ []) (hn : ∀ line ∈ ls, '\n' ∉ line)
    (hr : ∀ line ∈ ls.dropLast, line.getLast? ≠ some '\r') : lines (unlines ls) = ls := by
  induction ls with
  | nil => exact absurd rfl hne
  | cons line ls ih =>
    obtain ⟨hline, hrest⟩ := List.forall_mem_cons.mp hn
    cases ls with
    | nil => simpa [unlines] using lines_eq_singleton hline
    | cons next more =>
      rw [List.dropLast_cons_of_ne_nil (List.cons_ne_nil next more)] at hr
      obtain ⟨hend, hends⟩ := List.forall_mem_cons.mp hr
      rw [unlines, List.intercalate_cons_cons]
      simpa [unlines] using (lines_append hline hend).trans
        (congrArg (line :: ·) (ih (List.cons_ne_nil next more) hrest hends))

/-- Lines without carriage returns that are joined are found again. -/
theorem lines_unlines (hne : ls ≠ []) (h : ∀ line ∈ ls, '\n' ∉ line ∧ '\r' ∉ line) :
    lines (unlines ls) = ls :=
  lines_unlines_of_ends hne (fun line hline => (h line hline).1) fun line hline hlast =>
    (h line (List.dropLast_subset ls hline)).2 (List.mem_of_getLast? hlast)

/-- The text with a line feed for every carriage return and line feed. A carriage return alone
stays. -/
def withoutPairs : List Char → List Char
  | [] => []
  | '\r' :: '\n' :: rest => '\n' :: withoutPairs rest
  | c :: rest => c :: withoutPairs rest

theorem unlines_cons (line : List Char) (hls : ls ≠ []) :
    unlines (line :: ls) = line ++ '\n' :: unlines ls := by
  obtain ⟨next, more, rfl⟩ := List.exists_cons_of_ne_nil hls
  simp [unlines, List.intercalate_cons_cons]

theorem unlines_lines (t : List Char) : unlines (lines t) = withoutPairs t := by
  fun_induction lines t with
  | case1 => rfl
  | case2 rest ih => simp [withoutPairs, unlines_cons [] (lines_ne_nil rest), ih]
  | case3 rest hpair ih =>
    rw [withoutPairs.eq_3 _ _ hpair, unlines_cons [] (lines_ne_nil rest), ih]
    rfl
  | case4 c rest hpair _ first more hrest ih =>
    rw [withoutPairs.eq_3 _ _ hpair, ← ih, hrest]
    cases more with
    | nil => simp [unlines]
    | cons next more => simp [unlines_cons _ (List.cons_ne_nil next more)]
  | case5 c rest _ _ hrest => exact absurd hrest (lines_ne_nil rest)

end Chunkwise.Text
