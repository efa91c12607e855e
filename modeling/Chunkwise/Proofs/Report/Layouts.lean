import Chunkwise.Proofs.Report.Excerpts
import Mathlib.Data.List.Intervals

/-!
How an excerpt is laid out. The lines around one stand in rows, each behind its number, with all bars
between numbers and lines in one column. Main statement: an excerpt is empty exactly where the source
has no such line, and else its rows are those of the lines around it and of a caret below it.
-/
namespace Chunkwise.Report
open Text

variable {source : String} {ls xs : List (List Char)} {text : List Char} {width n k radius : Nat}
  {line : Int} {col : Option Int}

/-! ## Rows and their columns -/

/-- A row that shows a line: a mark, the number at the right end of its field, a bar between blanks
and the line as it is. The bar and its blanks begin in column `bar`. -/
structure ShowsLine (bar : Nat) (mark : Char) (n : Nat) (text row : List Char) : Prop where
  mark : row.take 2 = [mark, ' ']
  number : ((row.take bar).drop 2).dropWhile (· = ' ') = Nat.toDigits 10 n
  separator : (row.drop bar).take 3 = " | ".toList
  text : row.drop (bar + 3) = text

/-- A row that shows the line of that number; the source has such a line. -/
def Shows (ls : List (List Char)) (bar : Nat) (mark : Char) (n : Nat) (row : List Char) : Prop :=
  ∃ text, 1 ≤ n ∧ ls[n - 1]? = some text ∧ ShowsLine bar mark n text row

/-- A row with nothing but a bar and a caret. The caret is below a character of the text that the row
above shows, counted from one, or below the place that it would have if the text went on. -/
structure HasCaret (bar : Nat) (text above : List Char) (col : Nat) (row : List Char) : Prop where
  blank : row.take bar = List.replicate bar ' '
  separator : (row.drop bar).take 3 = " | ".toList
  caret : row.drop (bar + 3) = List.replicate (col - 1) ' ' ++ ['^']
  below : above[row.idxOf '^']? = text[col - 1]?
  continued : row.idxOf '^' + text.length = above.length + (col - 1)

theorem length_toDigits_mono {m n : Nat} (h : m ≤ n) :
    (Nat.toDigits 10 m).length ≤ (Nat.toDigits 10 n).length := by
  have hn : n < 10 ^ (Nat.toDigits 10 n).length :=
    (Nat.length_toDigits_le_iff (by decide) Nat.length_toDigits_pos).mp le_rfl
  exact (Nat.length_toDigits_le_iff (by decide) Nat.length_toDigits_pos).mpr (h.trans_lt hn)

theorem length_toString_natCast (n : Nat) :
    (toString (n : Int)).length = (Nat.toDigits 10 n).length := by
  change (Nat.repr n).length = _
  simp [Nat.repr]

theorem length_padded (h : (Nat.toDigits 10 n).length ≤ width) : (padded width n).length = width := by
  simp [padded, h]

theorem dropWhile_padded (width n : Nat) :
    (padded width n).dropWhile (· = ' ') = Nat.toDigits 10 n := by
  rw [padded, List.dropWhile_append_of_pos (by simp)]
  cases hdigits : Nat.toDigits 10 n with
  | nil => rfl
  | cons d digits =>
    have hd : d.isDigit := Nat.isDigit_of_mem_toDigits (by decide) (by decide)
      (hdigits ▸ List.mem_cons_self : d ∈ Nat.toDigits 10 n)
    have hne : d ≠ ' ' := fun h => by simp [h] at hd
    simp [hne]

theorem length_numberedLine (h : (Nat.toDigits 10 n).length ≤ width) (marked : Bool)
    (text : List Char) : (numberedLine width marked n text).length = width + 5 + text.length := by
  simp +arith [numberedLine, length_padded h]

theorem showsLine_numberedLine (h : (Nat.toDigits 10 n).length ≤ width) (marked : Bool)
    (text : List Char) :
    ShowsLine (width + 2) (if marked then '>' else ' ') n text (numberedLine width marked n text) := by
  have hlength := length_padded h
  have hbehind : (numberedLine width marked n text).drop (width + 2) = " | ".toList ++ text := by
    simp [numberedLine, hlength]
  constructor
  case mark => simp [numberedLine]
  case number => simp [numberedLine, hlength, dropWhile_padded]
  case separator => simp [hbehind]
  case text =>
    rw [← List.drop_drop, hbehind]
    rfl

theorem idxOf_caretLine (width : Nat) (c : Int) :
    (caretLine width c).idxOf '^' = width + 5 + (c - 1).toNat := by
  rw [caretLine, List.idxOf_append_of_notMem (by simp)]
  simp +arith

/-- A column before the first has its caret below the first character. -/
theorem hasCaret_caretLine (h : (Nat.toDigits 10 n).length ≤ width) (marked : Bool) (text : List Char)
    (c : Int) :
    HasCaret (width + 2) text (numberedLine width marked n text) (max c 1).toNat
      (caretLine width c) := by
  have hcol : (max c 1).toNat - 1 = (c - 1).toNat := by omega
  have hparts : caretLine width c =
      List.replicate (width + 2) ' ' ++ (" | ".toList ++ (List.replicate (c - 1).toNat ' ' ++ ['^'])) := by
    simp [caretLine, List.replicate_succ]
  constructor
  case blank => rw [hparts, List.take_left' (by simp)]
  case separator =>
    rw [hparts, List.drop_left' (by simp)]
    rfl
  case caret =>
    rw [← List.drop_drop, hparts, List.drop_left' (by simp), hcol]
    rfl
  case below =>
    rw [idxOf_caretLine, hcol, ← List.getElem?_drop, (showsLine_numberedLine h marked text).text]
  case continued =>
    rw [idxOf_caretLine, hcol, length_numberedLine h]
    omega

/-! ## Lines and their rows -/

/-- The rows that an excerpt has of one numbered line. -/
def lineRows (width : Nat) (first last : Int) (line col : Option Int) (p : List Char × Nat) :
    List (List Char) :=
  if first ≤ p.2 ∧ p.2 ≤ last then
    if line = some (p.2 : Int) then
      numberedLine width true p.2 p.1 :: (col.map (caretLine width)).toList
    else [numberedLine width false p.2 p.1]
  else []

theorem rows_eq_flatMap (ls : List (List Char)) (first last : Int) (line col : Option Int) :
    rows ls first last line col =
      (ls.zipIdx 1).flatMap (lineRows (toString last).length first last line col) := by
  refine List.flatMap_congr fun ⟨text, m⟩ _ => ?_
  by_cases hline : line = some (m : Int) <;> cases col <;> simp [lineRows, hline]

/-- The rows of lines of which none is marked. -/
def plainRows (width k : Nat) (xs : List (List Char)) : List (List Char) :=
  (xs.zipIdx k).map fun p => numberedLine width false p.2 p.1

theorem forall₂_plainRows (h : xs <+: ls.drop k)
    (hwidth : (Nat.toDigits 10 (k + xs.length)).length ≤ width) :
    List.Forall₂ (Shows ls (width + 2) ' ') (List.range' (k + 1) xs.length)
      (plainRows width (k + 1) xs) := by
  induction xs generalizing k with
  | nil => exact .nil
  | cons text xs ih =>
    obtain ⟨rest, hdrop⟩ := h
    have htext : ls[k]? = some text := by simpa using (congrArg List.head? hdrop).symm
    have hxs : xs <+: ls.drop (k + 1) := ⟨rest, by simpa using congrArg List.tail hdrop⟩
    have hdigits : (Nat.toDigits 10 (k + 1)).length ≤ width :=
      (length_toDigits_mono (by simp)).trans hwidth
    rw [List.length_cons, ← Nat.add_assoc, Nat.add_right_comm] at hwidth
    exact .cons ⟨text, k.succ_pos, htext, showsLine_numberedLine hdigits false text⟩ (ih hxs hwidth)

section
variable {first last : Int} {line col : Option Int}

theorem flatMap_lineRows_outside (h : ∀ m : Nat, k ≤ m → m < k + xs.length → m < first ∨ last < m) :
    (xs.zipIdx k).flatMap (lineRows width first last line col) = [] := by
  refine List.flatMap_eq_nil_iff.mpr fun p hp => if_neg ?_
  have := h p.2 (List.le_snd_of_mem_zipIdx hp) (List.snd_lt_add_of_mem_zipIdx hp)
  omega

theorem flatMap_lineRows_inside (h : ∀ m : Nat, k ≤ m → m < k + xs.length →
      first ≤ m ∧ m ≤ last ∧ line ≠ some (m : Int)) :
    (xs.zipIdx k).flatMap (lineRows width first last line col) = plainRows width k xs := by
  rw [plainRows, List.map_eq_flatMap]
  refine List.flatMap_congr fun p hp => ?_
  obtain ⟨hfirst, hlast, hline⟩ :=
    h p.2 (List.le_snd_of_mem_zipIdx hp) (List.snd_lt_add_of_mem_zipIdx hp)
  rw [lineRows, if_pos ⟨hfirst, hlast⟩, if_neg hline]

/-- The rows of an excerpt, where the source is divided at the first and the last line that it shows
and at the one that it marks. -/
theorem rows_append {skipped above below rest : List (List Char)}
    (hls : ls = skipped ++ (above ++ text :: (below ++ rest)))
    (hwidth : (toString last).length = width) (hn : n = skipped.length + above.length)
    (hfirst : max first 1 = skipped.length + 1) (hlast : last = (n + 1 + below.length : Nat)) :
    rows ls first last (some (n + 1 : Nat)) col =
      plainRows width (skipped.length + 1) above ++ numberedLine width true (n + 1) text ::
        ((col.map (caretLine width)).toList ++ plainRows width (n + 2) below) := by
  -- The rows of each part of the source. What is skipped and the rest have none.
  have hskipped : (skipped.zipIdx 1).flatMap
      (lineRows width first last (some (n + 1 : Nat)) col) = [] :=
    flatMap_lineRows_outside fun m _ _ => by omega
  have habove : (above.zipIdx (skipped.length + 1)).flatMap
      (lineRows width first last (some (n + 1 : Nat)) col) = plainRows width (skipped.length + 1) above :=
    flatMap_lineRows_inside fun m _ _ => by simp; omega
  have hmarked : lineRows width first last (some (n + 1 : Nat)) col (text, n + 1) =
      numberedLine width true (n + 1) text :: (col.map (caretLine width)).toList := by
    rw [lineRows, if_pos (by dsimp only; omega), if_pos rfl]
  have hbelow : (below.zipIdx (n + 2)).flatMap
      (lineRows width first last (some (n + 1 : Nat)) col) = plainRows width (n + 2) below :=
    flatMap_lineRows_inside fun m _ _ => by simp; omega
  have hrest : (rest.zipIdx (n + 2 + below.length)).flatMap
      (lineRows width first last (some (n + 1 : Nat)) col) = [] :=
    flatMap_lineRows_outside fun m _ _ => by omega
  rw [rows_eq_flatMap, hls, hwidth]
  simp only [List.zipIdx_append, List.zipIdx_cons, List.flatMap_append, List.flatMap_cons,
    Nat.add_comm 1 skipped.length, Nat.add_right_comm skipped.length 1 above.length, ← hn,
    hskipped, habove, hmarked, hbelow, hrest, List.nil_append, List.append_nil, List.cons_append]

end

/-- An excerpt taken apart: the line that is marked, and the rows of the lines above it, of itself, of
the caret, and of the lines below it. -/
structure Layout where
  bar : Nat
  text : List Char
  above : List (List Char)
  marked : List Char
  caret : Option (List Char)
  below : List (List Char)

def Layout.rows (layout : Layout) : List (List Char) :=
  layout.above ++ layout.marked :: (layout.caret.toList ++ layout.below)

/-- The rows are those of the lines around one, as far as the radius goes and as far as there are
lines. The line is marked and no other is, and there is a caret if there is a column for it. -/
structure Layout.Surrounds (layout : Layout) (ls : List (List Char)) (line radius : Nat)
    (col : Option Int) : Prop where
  bar : layout.bar = (Nat.toDigits 10 (min ls.length (line + radius))).length + 2
  above : List.Forall₂ (Shows ls layout.bar ' ') (List.Ico (max 1 (line - radius)) line) layout.above
  text : ls[line - 1]? = some layout.text
  marked : ShowsLine layout.bar '>' line layout.text layout.marked
  caret : Option.Rel (fun c => HasCaret layout.bar layout.text layout.marked (max c 1).toNat)
    col layout.caret
  below : List.Forall₂ (Shows ls layout.bar ' ')
    (List.Ico (line + 1) (min ls.length (line + radius) + 1)) layout.below

/-- The lines right above one. -/
def linesAbove (ls : List (List Char)) (n radius : Nat) : List (List Char) :=
  (ls.take n).drop (n - radius)

/-- The lines right below one. -/
def linesBelow (ls : List (List Char)) (n radius : Nat) : List (List Char) :=
  (ls.drop (n + 1)).take radius

theorem length_linesAbove (hn : n < ls.length) (radius : Nat) :
    (linesAbove ls n radius).length = min n radius := by
  rw [linesAbove, List.length_drop, List.length_take]
  omega

theorem length_linesBelow (ls : List (List Char)) (n radius : Nat) :
    (linesBelow ls n radius).length = min radius (ls.length - (n + 1)) := by
  simp [linesBelow]

theorem prefix_linesAbove (ls : List (List Char)) (n radius : Nat) :
    linesAbove ls n radius <+: ls.drop (n - radius) := by
  rw [linesAbove, List.drop_take]
  exact List.take_prefix _ _

theorem eq_append_linesAbove_linesBelow (htext : ls[n]? = some text) (radius : Nat) :
    ls = ls.take (n - radius) ++ (linesAbove ls n radius ++
      text :: (linesBelow ls n radius ++ (ls.drop (n + 1)).drop radius)) := by
  obtain ⟨hn, hget⟩ := List.getElem?_eq_some_iff.mp htext
  have hskipped : (ls.take n).take (n - radius) = ls.take (n - radius) := by
    rw [List.take_take, Nat.min_eq_left (Nat.sub_le n radius)]
  have htake : ls.take (n - radius) ++ linesAbove ls n radius = ls.take n := by
    rw [linesAbove, ← hskipped, List.take_append_drop]
  rw [linesBelow, List.take_append_drop, ← List.append_assoc, htake, ← hget,
    List.getElem_cons_drop, List.take_append_drop]

/-- The layout of the excerpt at the line behind so many others. -/
def layoutAt (ls : List (List Char)) (n radius : Nat) (text : List Char) (col : Option Int) : Layout :=
  let width := (Nat.toDigits 10 (min ls.length (n + 1 + radius))).length
  { bar := width + 2
    text := text
    above := plainRows width (n - radius + 1) (linesAbove ls n radius)
    marked := numberedLine width true (n + 1) text
    caret := col.map (caretLine width)
    below := plainRows width (n + 2) (linesBelow ls n radius) }

theorem surrounds_layoutAt (htext : ls[n]? = some text) (radius : Nat) (col : Option Int) :
    (layoutAt ls n radius text col).Surrounds ls (n + 1) radius col := by
  obtain ⟨hn, -⟩ := List.getElem?_eq_some_iff.mp htext
  have hlengthAbove := length_linesAbove hn radius
  have hlengthBelow := length_linesBelow ls n radius
  refine ⟨rfl, ?above, by simpa [layoutAt] using htext, ?marked, ?caret, ?below⟩
  case above =>
    have hnumbers : List.Ico (max 1 (n + 1 - radius)) (n + 1) =
        List.range' (n - radius + 1) (linesAbove ls n radius).length := by
      rw [hlengthAbove, List.Ico]
      congr 1 <;> omega
    rw [hnumbers]
    exact forall₂_plainRows (prefix_linesAbove ls n radius) (length_toDigits_mono (by omega))
  case marked => exact showsLine_numberedLine (length_toDigits_mono (by omega)) true text
  case caret =>
    cases col with
    | none => exact .none
    | some c => exact .some (hasCaret_caretLine (length_toDigits_mono (by omega)) true text c)
  case below =>
    have hnumbers : List.Ico (n + 1 + 1) (min ls.length (n + 1 + radius) + 1) =
        List.range' (n + 2) (linesBelow ls n radius).length := by
      rw [hlengthBelow, List.Ico]
      congr 1
      omega
    rw [hnumbers]
    exact forall₂_plainRows (List.take_prefix _ _) (length_toDigits_mono (by omega))

theorem rows_eq (htext : ls[n]? = some text) (radius : Nat) (col : Option Int) :
    rows ls ((n + 1 : Nat) - radius) (min (ls.length : Int) ((n + 1 : Nat) + radius))
      (some (n + 1 : Nat)) col = (layoutAt ls n radius text col).rows := by
  obtain ⟨hn, -⟩ := List.getElem?_eq_some_iff.mp htext
  have hlengthAbove := length_linesAbove hn radius
  have hlengthBelow := length_linesBelow ls n radius
  have hskipped : (ls.take (n - radius)).length = n - radius := by
    rw [List.length_take]
    omega
  have hlast : min (ls.length : Int) ((n + 1 : Nat) + radius) =
      (min ls.length (n + 1 + radius) : Nat) := by omega
  rw [hlast, rows_append (eq_append_linesAbove_linesBelow htext radius) (length_toString_natCast _)
    (by omega) (by omega) (by omega), hskipped]
  rfl

/-! ## Excerpts -/

theorem excerpt_eq (htext : (shownLines source.toList)[n]? = some text) (radius : Nat)
    (col : Option Int) :
    excerpt source.toList (n + 1 : Nat) col radius =
      unlines (layoutAt (shownLines source.toList) n radius text col).rows := by
  obtain ⟨hn, -⟩ := List.getElem?_eq_some_iff.mp htext
  rw [excerpt, if_neg (by omega), rows_eq htext]

theorem exists_line (hfirst : 1 ≤ line) (hlast : line ≤ ls.length) :
    ∃ n text, line = (n + 1 : Nat) ∧ ls[n]? = some text := by
  have hbound : (line - 1).toNat < ls.length := by omega
  exact ⟨(line - 1).toNat, ls[(line - 1).toNat], by omega, List.getElem?_eq_getElem hbound⟩

theorem excerpt_ne_nil (col : Option Int) (radius : Nat) (hfirst : 1 ≤ line)
    (hlast : line ≤ (shownLines source.toList).length) :
    excerpt source.toList line col radius ≠ [] := by
  obtain ⟨n, text, rfl, htext⟩ := exists_line hfirst hlast
  obtain ⟨width, hmarked⟩ := filter_excerpt col (Int.natCast_nonneg radius) htext
  intro hnil
  rw [hnil] at hmarked
  cases hmarked

theorem excerptAt_outside (col : Datum) (radius : Int)
    (h : ¬(1 ≤ line ∧ line ≤ (shownLines source.toList).length)) :
    excerptAt source (.int line) col radius = .ok "" := by
  have hnil : excerpt source.toList line none radius = [] := if_pos (by omega)
  simp only [excerptAt, Datum.int?, Value.int?, hnil]
  rfl

/-- An excerpt is empty exactly where the source has no such line, whatever the column. -/
theorem excerptAt_eq_empty_iff (source : String) (line : Int) (col : Datum) (radius : Nat) :
    excerptAt source (.int line) col radius = .ok "" ↔
      ¬(1 ≤ line ∧ line ≤ (shownLines source.toList).length) := by
  constructor
  · rintro hempty ⟨hfirst, hlast⟩
    rw [excerptAt_inside col (excerpt_ne_nil none radius hfirst hlast)] at hempty
    cases hcaret : caretColumn col with
    | error f => simp [hcaret, Except.map] at hempty
    | ok c =>
      have hshown : excerpt source.toList line c radius = [] := by
        simpa [hcaret, Except.map] using hempty
      exact excerpt_ne_nil c radius hfirst hlast hshown
  · exact excerptAt_outside col radius

theorem caretColumn_far {c : Int} (h : Int.pow 2 63 < c) :
    caretColumn (.int c) =
      .error (.of .overflowError "cannot fit 'int' into an index-sized integer") := by
  have hlimit : caretLimit < Int.pow 2 63 := by decide
  simp only [caretColumn, Datum.int?, Value.int?]
  rw [if_neg (by omega), if_neg (by omega)]

/-- An excerpt is empty exactly where the source has no such line. Else it has the lines around that
one, each behind its number, and a caret below the column if there is one. It is given as far as
the blanks before the caret can be held, and no text has so many as the farthest columns need. -/
theorem excerptAt_surrounds (source : String) (line : Int) (col : Option Int) (radius : Nat) :
    (excerptAt source (.int line) (col.elim .null .int) radius = .ok "" ↔
      ¬(1 ≤ line ∧ line ≤ (shownLines source.toList).length)) ∧
    (1 ≤ line → line ≤ (shownLines source.toList).length →
      ∃ layout : Layout,
        layout.Surrounds (shownLines source.toList) line.toNat radius col ∧
        (∀ row ∈ layout.rows, '\n' ∉ row) ∧
        excerpt source.toList line col radius = unlines layout.rows ∧
        ((∀ c ∈ col, c ≤ caretLimit) →
          excerptAt source (.int line) (col.elim .null .int) radius =
            .ok (String.ofList (unlines layout.rows))) ∧
        ((∃ c ∈ col, Int.pow 2 63 < c) →
          excerptAt source (.int line) (col.elim .null .int) radius =
            .error (.of .overflowError "cannot fit 'int' into an index-sized integer"))) := by
  refine ⟨excerptAt_eq_empty_iff source line _ radius, fun hfirst hlast => ?_⟩
  have hplain := excerpt_ne_nil none radius hfirst hlast
  obtain ⟨n, text, rfl, htext⟩ := exists_line hfirst hlast
  refine ⟨layoutAt (shownLines source.toList) n radius text col, surrounds_layoutAt htext radius col,
    ?unbroken, excerpt_eq htext radius col, ?near, ?far⟩
  case unbroken =>
    rw [← rows_eq htext]
    exact fun row hrow => (ends_notMem_rows unbroken_of_mem_shownLines row hrow).1
  case near =>
    intro hnear
    rw [excerptAt_inside _ hplain, caretColumn_near hnear, ← excerpt_eq htext]
    rfl
  case far =>
    rintro ⟨c, rfl, hfar⟩
    rw [excerptAt_inside _ hplain, Option.elim, caretColumn_far hfar]
    rfl

/-- The numbers get a second digit among the lines that are shown, and the line that is marked is
shorter than the column. -/
theorem excerptAt_surrounds_eighth :
    ∃ layout : Layout,
      layout.Surrounds (shownLines "a\nb\nc\nd\ne\nf\ng\nh\ni\nj\nk".toList) 8 2 (some 3) ∧
      excerptAt "a\nb\nc\nd\ne\nf\ng\nh\ni\nj\nk" (.int 8) (.int 3) 2 =
        .ok (String.ofList (unlines layout.rows)) ∧
      unlines layout.rows = "   6 | f\n   7 | g\n>  8 | h\n     |   ^\n   9 | i\n  10 | j".toList := by
  obtain ⟨-, hinside⟩ :=
    excerptAt_surrounds "a\nb\nc\nd\ne\nf\ng\nh\ni\nj\nk" 8 (some 3) 2
  obtain ⟨layout, hsurrounds, -, hrows, hgiven, -⟩ := hinside (by decide) (by decide +kernel)
  refine ⟨layout, hsurrounds, hgiven (by simp; decide), hrows.symm.trans ?_⟩
  decide +kernel

/-- A column that no text reaches has no caret, and the excerpt is not given. -/
theorem excerptAt_past_texts :
    ¬∀ (source : String) (line : Int) (col : Option Int) (radius : Nat),
      1 ≤ line → line ≤ (shownLines source.toList).length →
      ∃ layout : Layout, layout.Surrounds (shownLines source.toList) line.toNat radius col ∧
        excerptAt source (.int line) (col.elim .null .int) radius =
          .ok (String.ofList (unlines layout.rows)) := by
  intro h
  obtain ⟨layout, -, hgiven⟩ :=
    h "a" 1 (some 10000000000000000000) 2 (by decide) (by decide +kernel)
  have hplain : excerpt "a".toList 1 none (2 : Nat) ≠ [] :=
    excerpt_ne_nil none 2 (by decide) (by decide +kernel)
  rw [excerptAt_inside _ hplain, Option.elim, caretColumn_far (by decide)] at hgiven
  cases hgiven

end Chunkwise.Report
