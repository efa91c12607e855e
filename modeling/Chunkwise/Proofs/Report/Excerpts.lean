import Chunkwise.Proofs.Report.Exceptions
import Chunkwise.Proofs.Text.Breaks
import Chunkwise.Session.Evaluate

/-!
Which line an excerpt marks. Main statement: the row that is marked in the report on a fault of
grammar is that of the line which the reader meant, as far as no other break stands in the source.
-/
namespace Chunkwise.Report
open Text

variable {source : List Char} {ls : List (List Char)} {text : List Char} {n : Nat}

/-- Whether a row of an excerpt is marked. -/
def isMarked (row : List Char) : Bool :=
  row.head? = some '>'

@[simp] theorem isMarked_numberedLine (width : Nat) (marked : Bool) (n : Nat) (line : List Char) :
    isMarked (numberedLine width marked n line) = marked := by
  cases marked <;> simp [isMarked, numberedLine]

@[simp] theorem isMarked_caretLine (width : Nat) (col : Int) :
    isMarked (caretLine width col) = false := by
  simp [isMarked, caretLine]

/-- What is made of one of the numbered items of a list. -/
theorem flatMap_zipIdx_eq {α β : Type} {xs : List α} {x : α} (f : α → β) {k i : Nat}
    (h : xs[i]? = some x) :
    (xs.zipIdx k).flatMap (fun p => if p.2 = k + i then [f p.1] else []) = [f x] := by
  have hnone (xs : List α) (k i : Nat) (hi : i < k) :
      (xs.zipIdx k).flatMap (fun p => if p.2 = i then [f p.1] else []) = [] := by
    refine List.flatMap_eq_nil_iff.mpr fun p hp => if_neg ?_
    have := List.le_snd_of_mem_zipIdx hp
    omega
  induction xs generalizing k i with
  | nil => simp at h
  | cons y xs ih =>
    rw [List.zipIdx_cons, List.flatMap_cons]
    cases i with
    | zero =>
      obtain rfl : y = x := by simpa using h
      simp [hnone]
    | succ i =>
      have hstep : k + (i + 1) = k + 1 + i := by omega
      have hne : ¬k = k + 1 + i := by omega
      rw [hstep, if_neg hne, ih (by simpa using h)]
      rfl

/-- Of the rows around a line one is marked, that of the line. -/
theorem filter_rows (first last : Int) (col : Option Int) (hfirst : first ≤ (n + 1 : Nat))
    (hlast : (n + 1 : Nat) ≤ last) (htext : ls[n]? = some text) :
    (rows ls first last (some (n + 1 : Nat)) col).filter isMarked =
      [numberedLine (toString last).length true (n + 1) text] := by
  rw [rows, List.filter_flatMap,
    ← flatMap_zipIdx_eq (k := 1) (numberedLine (toString last).length true (n + 1)) htext]
  refine List.flatMap_congr fun ⟨line, m⟩ _ => ?_
  dsimp only
  rcases eq_or_ne m (n + 1) with rfl | hm
  · rw [if_pos ⟨hfirst, hlast⟩, if_pos (Nat.add_comm n 1)]
    cases col <;> simp
  · have hother : decide (some ((n + 1 : Nat) : Int) = some (m : Int)) = false := by
      simpa using fun h => hm (by omega)
    rw [hother, if_neg (show ¬m = 1 + n by omega)]
    split <;> simp

theorem ends_notMem_padded (width n : Nat) : '\n' ∉ padded width n ∧ '\r' ∉ padded width n := by
  have hdigit {c : Char} (hc : c.isDigit = false) : c ∉ Nat.toDigits 10 n := fun h => by
    simp [Nat.isDigit_of_mem_toDigits (by decide) (by decide) h] at hc
  constructor <;> simp [padded, hdigit]

/-- A row ends its line, so no line end stands in it. -/
theorem ends_notMem_rows {first last : Int} {line : Option Int} (h : ∀ text ∈ ls, Unbroken text) :
    ∀ row ∈ rows ls first last line col, '\n' ∉ row ∧ '\r' ∉ row := by
  have hnumbered (width n : Nat) (marked : Bool) {text : List Char} (htext : Unbroken text) :
      '\n' ∉ numberedLine width marked n text ∧ '\r' ∉ numberedLine width marked n text := by
    have hends {c : Char} (hc : breaksLine c = true) : c ∉ text := fun hmem => by
      simp [htext c hmem] at hc
    have hpadded := ends_notMem_padded width n
    cases marked <;> simp [numberedLine, hends, hpadded, breaksLine_of_ends]
  have hcaret (width : Nat) (c : Int) : '\n' ∉ caretLine width c ∧ '\r' ∉ caretLine width c := by
    simp [caretLine]
  intro row hrow
  obtain ⟨⟨text, m⟩, hmem, hrow⟩ := List.mem_flatMap.mp hrow
  have htext := h text (List.fst_mem_of_mem_zipIdx hmem)
  dsimp only at hrow
  split at hrow
  · split at hrow
    · simp only [List.mem_cons, List.not_mem_nil, or_false] at hrow
      rcases hrow with rfl | rfl
      · exact hnumbered _ _ _ htext
      · exact hcaret _ _
    · obtain rfl := List.mem_singleton.mp hrow
      exact hnumbered _ _ _ htext
  · cases hrow

/-- The lines of an excerpt of which one is marked: that of the line, as the lines are shown. -/
theorem filter_excerpt (col : Option Int) {radius : Int} (hradius : 0 ≤ radius)
    (htext : (shownLines source)[n]? = some text) :
    ∃ width, (lines (excerpt source (n + 1 : Nat) col radius)).filter isMarked =
      [numberedLine width true (n + 1) text] := by
  have hn : n < (shownLines source).length := (List.getElem?_eq_some_iff.mp htext).1
  have hinside : ¬(((n + 1 : Nat) : Int) < 1 ∨ ((shownLines source).length : Int) < (n + 1 : Nat)) := by
    omega
  have hrows := filter_rows ((n + 1 : Nat) - radius)
    (min ((shownLines source).length : Int) ((n + 1 : Nat) + radius)) col (by omega) (by omega) htext
  refine ⟨_, Eq.trans ?_ hrows⟩
  rw [excerpt, if_neg hinside, lines_unlines ?_ (ends_notMem_rows unbroken_of_mem_shownLines)]
  intro hnil
  rw [hnil] at hrows
  cases hrows

/-- A fault of grammar at a line and a column. -/
structure PointsAt (fault : Fault) (message : String) (line col : Nat) : Prop where
  grammar : fault.kind.isA .syntaxError
  message : fault.member? "msg" = some (.str message)
  line : fault.member? "lineno" = some (.int line)
  col : fault.member? "offset" = some (.int col)

/-- The reader's complaint about a source points at its place. -/
theorem pointsAt_grammarFault (file : String) {c : Code.Complaint} (h : c.kind.isA .syntaxError) :
    PointsAt (Execution.grammarFault file c) c.message c.line c.col :=
  ⟨h, rfl, rfl, rfl⟩

theorem isOrdinary_of_grammar {kind : Fault.Kind} (h : kind.isA .syntaxError) : kind.isOrdinary := by
  revert h
  cases kind <;> decide

theorem isStopIteration_of_grammar {kind : Fault.Kind} (h : kind.isA .syntaxError) :
    kind.isA .stopIteration = false := by
  revert h
  cases kind <;> decide

/-- At a line that there is, the excerpt is given as far as its caret can be. -/
theorem excerptAt_inside {source : String} {line radius : Int} (col : Datum)
    (h : excerpt source.toList line none radius ≠ []) :
    excerptAt source (.int line) col radius =
      (caretColumn col).map fun c => String.ofList (excerpt source.toList line c radius) := by
  simp only [excerptAt, Datum.int?, Value.int?, List.isEmpty_iff, if_neg h]
  cases caretColumn col <;> rfl

theorem caretColumn_near {col : Option Int} (h : ∀ c ∈ col, c ≤ caretLimit) :
    caretColumn (col.elim .null .int) = .ok col := by
  cases col with
  | none => rfl
  | some c =>
    have hc := h c rfl
    simp only [Option.elim, caretColumn, Datum.int?, Value.int?]
    rw [if_pos (by omega)]

/-- The excerpt at a place is given as far as its caret can be shown. -/
theorem excerptAt_eq {source : String} {line col : Nat} (hcol : col ≤ caretLimit)
    (h : excerpt source.toList (line : Int) none 2 ≠ []) :
    excerptAt source (.int line) (.int col) 2 =
      .ok (String.ofList (excerpt source.toList line (some (col : Int)) 2)) := by
  have hnear : ∀ c ∈ some (col : Int), c ≤ caretLimit := by simpa using hcol
  have hcaret : caretColumn (.int col) = .ok (some (col : Int)) := caretColumn_near hnear
  rw [excerptAt_inside _ h, hcaret]
  rfl

theorem describe_eq {fault : Fault} {message : String} {line col : Nat}
    (h : PointsAt fault message line col) (hline : line < firstTooLong) (hcol : col ≤ caretLimit)
    (file : Datum) {source : String} (hne : excerpt source.toList (line : Int) none 2 ≠ []) :
    describe file fault source =
      .ok (s!"{fault.kind.name}: {message} (line {line})\n" ++
        String.ofList (excerpt source.toList line (some (col : Int)) 2),
        some (.int line, .int col)) := by
  have hshown : (Datum.int line).text = .ok (toString line) := by
    change integerText line = _
    rw [integerText, if_pos (by simpa using hline)]
    rfl
  unfold describe
  rw [if_pos h.grammar]
  simp only [describeGrammar, h.message, h.line, h.col, Option.getD_some]
  rw [hshown, excerptAt_eq hcol hne]
  rfl

section
open Execution Store

variable {s : Scene}

/-- The exception that the reader's complaint becomes. -/
theorem get?_loadFault_grammarFault (store : Store) (file : String) (c : Code.Complaint) :
    ∃ e, e.kind = c.kind ∧ (store.loadFault (grammarFault file c)).2.get?
      (store.loadFault (grammarFault file c)).1 = some {
        nature := .exception e
        attributes := [("msg", .str c.message), ("filename", .str file), ("lineno", .int c.line),
          ("offset", .int c.col), ("text", .null), ("end_lineno", .null), ("end_offset", .null)] } := by
  refine ⟨_, ?_, get?_add _ _ _ |>.trans (if_pos rfl)⟩
  rfl

theorem map_eq_error {ε α β : Type} {result : Except ε α} {f : α → β} {e : ε} :
    result.map f = .error e ↔ result = .error e := by
  cases result <;> simp [Except.map]

theorem readSource_of_complaint {file source : String} {c : Code.Complaint}
    (hnul : source.toList.contains '\x00' = false)
    (h : (Code.parse source.toList).map (fun _ => ()) = .error c) :
    readSource file source = .error (grammarFault file c) := by
  simp only [readSource, hnul, map_eq_error.mp h]
  rfl

/-- A source that the reader complains about ends its run at once, with a fault that points at the
place of the complaint. -/
theorem runChunk_refused (own : Address) {file : Datum} {name source : String} {c : Code.Complaint}
    (hfile : fileName file = .ok name) (hread : readSource name source = .error (grammarFault name c))
    (hkind : c.kind.isA .syntaxError) (hp : s.pending = some []) :
    ∃ fault s', runChunk own file source s = .done (.error fault) s' ∧
      PointsAt fault c.message c.line c.col := by
  let s₁ := s.opens (.source source)
  let loaded := s₁.store.loadFault (grammarFault name c)
  let s₂ : Scene := { s₁ with world := { s₁.world with store := loaded.2 } }
  have heval : evalSource own file source s₁ = .done (.error ⟨loaded.1, []⟩) s₂ := by
    have hraises : evalSource own file source = Eval.fail (grammarFault name c) := by
      unfold evalSource
      rw [hfile]
      change (do evalChunk own name (isQuiet source) (← Eval.ofExcept (readSource name source))) = _
      rw [hread]
      rfl
    rw [hraises]
    rfl
  obtain ⟨e, he, hadded⟩ := get?_loadFault_grammarFault s₁.store name c
  obtain ⟨store, n, hout⟩ := outcome_raised Value (s := s₂) ⟨loaded.1, []⟩ hadded
  generalize hfault : readException store .shown (n + 1) _ _ _ = fault at hout
  have hpoints : PointsAt fault c.message c.line c.col := by
    have hleaf {v : Value} (hv : ∀ b, v ≠ .ref b) := readIn_of_ne_ref store hv .shown n [loaded.1]
    subst hfault
    refine ⟨by simpa [readException, he] using hkind, ?_, ?_, ?_⟩ <;>
      simp [Fault.member?, readException, hleaf, List.lookup_cons]
  have hopen : fault.sealed = fault := if_neg (by simp [isStopIteration_of_grammar hpoints.grammar])
  let s₃ : Scene := { s₂ with world := { s₂.world with store := store } }
  have hflush : s₃.flush = (none, { s₃ with world := s₃.world.mark .flushed }) := by
    have hp₃ : s₃.pending = some [] := hp
    simp [Scene.flush, hp₃, Output.flush]
  refine ⟨fault, { s₃ with world := s₃.world.mark .flushed }, ?_, hpoints⟩
  rw [runChunk, heval]
  simp only [Run.andThen, hout]
  rw [hflush]
  simp only [Except.mapError, hopen]

end

/-- The excerpt in the failure of a chunk has one marked line. It is the line of code at which the
fault of grammar points, if no break other than a line end stands in the lines up to there. -/
theorem failure_marks_line_of_code {fault : Fault} {message : String} {col : Nat}
    (h : PointsAt fault message (n + 1) col) (hline : n + 1 < firstTooLong) (hcol : col ≤ caretLimit)
    (file : Datum) {source : String} (htext : (codeLines source.toList)[n]? = some text)
    (hunbroken : ∀ line ∈ (codeLines source.toList).take (n + 1), Unbroken line) :
    ∃ excerpt width,
      Session.executionFault file source fault =
        .executionFailure (s!"{fault.kind.name}: {message} (line {n + 1})\n" ++ String.ofList excerpt)
          fault (some (.int (n + 1 : Nat), .int col)) ∧
      (lines excerpt).filter isMarked = [numberedLine width true (n + 1) text] := by
  have hshown : (shownLines source.toList)[n]? = some text := by
    rw [← htext, ← List.getElem?_take_of_lt n.lt_succ_self, take_shownLines hunbroken,
      List.getElem?_take_of_lt n.lt_succ_self]
  obtain ⟨width, hmarked⟩ := filter_excerpt (some (col : Int)) (show (0 : Int) ≤ 2 by decide) hshown
  have hne : excerpt source.toList ((n + 1 : Nat) : Int) none 2 ≠ [] := by
    intro hnil
    obtain ⟨width, hplain⟩ := filter_excerpt none (show (0 : Int) ≤ 2 by decide) hshown
    rw [hnil] at hplain
    cases hplain
  refine ⟨_, width, ?_, hmarked⟩
  rw [Session.executionFault, if_pos (by simp [isOrdinary_of_grammar h.grammar]),
    describe_eq h hline hcol file hne]

/-- The break is in the comment behind the line that fails. -/
theorem failure_marks_line_above_break :
    ∃ fault s' head excerpt width,
      Execution.runChunk Store.hostScope (.str "<chunk>") "x = 1\r\n1 +\n# a\u2028b"
        { pending := some [], world := {} } = .done (.error fault) s' ∧
      Session.executionFault (.str "<chunk>") "x = 1\r\n1 +\n# a\u2028b" fault =
        .executionFailure (head ++ String.ofList excerpt) fault (some (.int 2, .int 4)) ∧
      (lines excerpt).filter isMarked = [numberedLine width true 2 "1 +".toList] := by
  have hcomplaint : (Code.parse "x = 1\r\n1 +\n# a\u2028b".toList).map (fun _ => ()) =
      .error { message := "invalid syntax", line := 2, col := 4 } := by decide +kernel
  have hfile : Execution.fileName (.str "<chunk>") = .ok "<chunk>" := rfl
  have htext : (codeLines "x = 1\r\n1 +\n# a\u2028b".toList)[1]? = some "1 +".toList := by
    decide +kernel
  obtain ⟨fault, s', hrun, hpoints⟩ := runChunk_refused (s := { pending := some [], world := {} })
    Store.hostScope hfile (readSource_of_complaint (by decide +kernel) hcomplaint) (by decide +kernel)
    rfl
  obtain ⟨excerpt, width, hfailure, hmarked⟩ := failure_marks_line_of_code (n := 1) hpoints
    (by decide +kernel) (by decide +kernel) (.str "<chunk>") htext (by decide +kernel)
  exact ⟨fault, s', _, excerpt, width, hrun, hfailure, hmarked⟩

/-- A break inside a string ends a line that is shown, so the excerpt marks what stands behind it and
not the line that fails. -/
theorem failure_marks_text_behind_break :
    ¬∀ (source : String) (c : Code.Complaint) (n : Nat) (text : List Char),
      Code.parse source.toList = .error c → c.line = n + 1 →
      (codeLines source.toList)[n]? = some text →
      ∃ message mark width, describe (.str "<chunk>") (Execution.grammarFault "<chunk>" c) source =
        .ok (message, mark) ∧
        (lines message.toList).filter isMarked = [numberedLine width true (n + 1) text] := by
  intro h
  have hcomplaint : (Code.parse "x = 'a\u2028b'\n1 +".toList).map (fun _ => ()) =
      .error { message := "invalid syntax", line := 2, col := 4 } := by decide +kernel
  obtain ⟨message, mark, width, hdescribe, hmarked⟩ := h _ _ 1 "1 +".toList
    (map_eq_error.mp hcomplaint) rfl (by decide +kernel)
  have hmessage : (describe (.str "<chunk>") (Execution.grammarFault "<chunk>"
      { message := "invalid syntax", line := 2, col := 4 }) "x = 'a\u2028b'\n1 +").toOption.map
        (fun r => (lines r.1.toList).filter isMarked) = some ["> 2 | b'".toList] := by decide +kernel
  rw [hdescribe] at hmessage
  have hrow : numberedLine width true 2 "1 +".toList = "> 2 | b'".toList := by
    simpa [Except.toOption, hmarked] using hmessage
  have hlast := congrArg List.getLast? hrow
  simp [numberedLine, List.getLast?_cons, List.getLast?_append] at hlast

end Chunkwise.Report
