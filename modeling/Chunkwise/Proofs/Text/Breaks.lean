import Chunkwise.Proofs.Import.Parsing

/-!
Two ways to number the lines of a text. A line of code ends at a line feed, at a carriage return or
at both. A line that is shown ends at other breaks too, so the two agree only as far as there is no
such break.
-/
namespace Chunkwise.Text

variable {t : List Char}

/-- The lines of code. A line end at the end of the text opens no further line. -/
def codeLines : List Char → List (List Char)
  | [] => []
  | '\r' :: '\n' :: rest => [] :: codeLines rest
  | c :: rest =>
    if c = '\n' ∨ c = '\r' then [] :: codeLines rest
    else
      match codeLines rest with
      | line :: more => (c :: line) :: more
      | [] => [[c]]

theorem codeLines_eq_nil : codeLines t = [] ↔ t = [] := by
  fun_cases codeLines t <;> simp [*]

theorem head?_ne_of_notPair {c : Char} {rest : List Char}
    (h : ∀ tail, c = '\r' → rest = '\n' :: tail → False) (hc : c = '\r') :
    rest.head? ≠ some '\n' := fun hhead => by
  obtain ⟨tail, rfl⟩ := List.head?_eq_some_iff.mp hhead
  exact h tail hc rfl

/-- The reader counts the lines of code: they are those of the text that it makes of a source, which
ends with a line feed. -/
theorem lines_normalizeLines (h : t ≠ []) :
    lines (Code.normalizeLines t) = codeLines t ++ [[]] := by
  fun_induction codeLines t with
  | case1 => exact absurd rfl h
  | case2 rest ih =>
    rcases eq_or_ne rest [] with rfl | hrest
    · rfl
    · simp [Code.normalizeLines.eq_3 rest, hrest, lines, ih hrest]
  | case3 c rest hpair hc ih =>
    rcases eq_or_ne rest [] with rfl | hrest
    · rcases hc with rfl | rfl <;> rfl
    · have hread : Code.normalizeLines (c :: rest) = '\n' :: Code.normalizeLines rest := by
        rw [Import.normalizeLines_cons hrest (head?_ne_of_notPair hpair)]
        rcases hc with rfl | rfl <;> rfl
      simp [hread, lines, ih hrest]
  | case4 c rest hpair hc line more hrest ih =>
    have hne : rest ≠ [] := by
      rintro rfl
      cases hrest
    rw [not_or] at hc
    rw [Import.normalizeLines_cons hne (head?_ne_of_notPair hpair), if_neg hc.2]
    exact lines_cons hc.1 (fun h => absurd h hc.2) (by rw [ih hne, hrest]; rfl)
  | case5 c rest hpair hc hrest =>
    obtain rfl := codeLines_eq_nil.mp hrest
    rw [not_or] at hc
    have hread : Code.normalizeLines [c] = [c, '\n'] := by
      simp [Code.normalizeLines.eq_4 c [] (by simpa using hc.1) (by simp), hc.2,
        Code.normalizeLines.eq_1]
    rw [hread]
    exact lines_cons hc.1 (fun h => absurd h hc.2) rfl

/-- A line without breaks. -/
def Unbroken (line : List Char) : Prop :=
  ∀ c ∈ line, breaksLine c = false

instance (line : List Char) : Decidable (Unbroken line) :=
  List.decidableBAll _ line

theorem unbroken_cons {c : Char} {line : List Char} :
    Unbroken (c :: line) ↔ breaksLine c = false ∧ Unbroken line := List.forall_mem_cons

theorem breaksLine_of_ends {c : Char} (h : c = '\n' ∨ c = '\r') : breaksLine c = true := by
  rcases h with rfl | rfl <;> decide

/-- A character that is no break comes to the first of the lines that are shown. -/
theorem shownLines_cons {c : Char} {rest line : List Char} {more : List (List Char)}
    (hc : breaksLine c = false) (h : shownLines rest = line :: more) :
    shownLines (c :: rest) = (c :: line) :: more := by
  have hpair (tail : List Char) : c = '\r' → rest = '\n' :: tail → False := by
    rintro rfl
    simp [breaksLine_of_ends (.inr rfl)] at hc
  simp [shownLines.eq_3 _ _ hpair, hc, h]

/-- A line that is shown has no break in it. -/
theorem unbroken_of_mem_shownLines : ∀ line ∈ shownLines t, Unbroken line := by
  fun_induction shownLines t with
  | case1 => simp
  | case2 rest ih | case3 c rest _ _ ih => exact List.forall_mem_cons.mpr ⟨nofun, ih⟩
  | case4 c rest _ hc first more hrest ih =>
    obtain ⟨hfirst, hmore⟩ := List.forall_mem_cons.mp (hrest ▸ ih)
    exact List.forall_mem_cons.mpr ⟨unbroken_cons.mpr ⟨by simpa using hc, hfirst⟩, hmore⟩
  | case5 c rest _ hc hrest => simpa [Unbroken] using hc

/-- As far as there is no other break, the lines that are shown are the lines of code. -/
theorem take_shownLines {n : Nat} (h : ∀ line ∈ (codeLines t).take n, Unbroken line) :
    (shownLines t).take n = (codeLines t).take n := by
  induction n generalizing t with
  | zero => rfl
  | succ n ihn =>
    fun_induction codeLines t with
    | case1 => rfl
    | case2 rest =>
      simp only [List.take_succ_cons, List.forall_mem_cons] at h
      simp [shownLines, ihn h.2]
    | case3 c rest hpair hc =>
      simp only [List.take_succ_cons, List.forall_mem_cons] at h
      simp [shownLines.eq_3 _ _ hpair, breaksLine_of_ends hc, ihn h.2]
    | case4 c rest hpair hc line more hrest ih =>
      simp only [List.take_succ_cons, List.forall_mem_cons, unbroken_cons] at h
      have htake : (shownLines rest).take (n + 1) = line :: more.take n := by
        rw [ih (by simpa [hrest] using ⟨h.1.2, h.2⟩), hrest, List.take_succ_cons]
      obtain ⟨first, others, hshown⟩ : ∃ first others, shownLines rest = first :: others :=
        List.exists_cons_of_ne_nil fun hnil => by simp [hnil] at htake
      rw [hshown, List.take_succ_cons] at htake
      obtain ⟨rfl, hothers⟩ := List.cons_eq_cons.mp htake
      rw [shownLines_cons h.1.1 hshown, List.take_succ_cons, List.take_succ_cons, hothers]
    | case5 c rest hpair hc hrest =>
      obtain rfl := codeLines_eq_nil.mp hrest
      have hc : breaksLine c = false := by simpa [Unbroken] using h
      simp [shownLines, hc]

end Chunkwise.Text
