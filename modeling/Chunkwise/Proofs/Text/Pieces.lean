import Chunkwise.Text.Blank
import Chunkwise.Text.Lines
import Chunkwise.Text.Word
import Mathlib.Data.List.Basic
import Mathlib.Data.List.TakeWhile

/-!
Texts that are cut: what trimming leaves, what splitting at a separator gives, and what stands in
front of the first character of a kind. No blank is a word character.
-/
namespace Chunkwise.Text

/-! Texts without the blanks at their ends. -/

theorem trimStart_isSuffix (t : List Char) : trimStart t <:+ t :=
  List.dropWhile_suffix isBlank

theorem trimEnd_isPrefix (t : List Char) : trimEnd t <+: t := by
  rw [← List.reverse_suffix]
  simpa [trimEnd] using List.dropWhile_suffix isBlank (l := t.reverse)

theorem trim_isInfix (t : List Char) : trim t <:+: t :=
  (trimEnd_isPrefix _).isInfix.trans (trimStart_isSuffix t).isInfix

theorem trimStart_eq_self {t : List Char} (h : ∀ c, t.head? = some c → isBlank c = false) :
    trimStart t = t := by
  rw [trimStart, List.dropWhile_eq_self_iff]
  intro ht
  have := h t[0] (by simp [List.head?_eq_getElem?, ht])
  simp [this]

theorem head?_trimStart {t : List Char} {c : Char} (h : (trimStart t).head? = some c) :
    isBlank c = false := by
  have := List.head?_dropWhile_not isBlank t
  rw [trimStart] at h
  rw [h] at this
  simpa using this

theorem trimEnd_trimEnd (t : List Char) : trimEnd (trimEnd t) = trimEnd t := by
  simp only [trimEnd, List.reverse_reverse]
  congr 1
  exact trimStart_eq_self (t := t.reverse.dropWhile isBlank) fun c hc => head?_trimStart hc

/-- A text that begins with no blank begins so without the blanks at its end. -/
theorem head?_of_isPrefix {s t : List Char} {c : Char} (h : s <+: t) (hs : s.head? = some c) :
    t.head? = some c := by
  obtain ⟨rest, rfl⟩ := h
  simp [List.head?_append, hs]

theorem trim_eq_trimEnd {t : List Char} (h : ∀ c, t.head? = some c → isBlank c = false) :
    trim t = trimEnd t := by
  rw [trim, trimStart_eq_self h]

theorem head?_trim {t : List Char} {c : Char} (h : (trim t).head? = some c) : isBlank c = false :=
  head?_trimStart (head?_of_isPrefix (trimEnd_isPrefix _) h)

theorem trim_trim (t : List Char) : trim (trim t) = trim t := by
  rw [trim_eq_trimEnd fun c => head?_trim]
  exact trimEnd_trimEnd _

/-- What ends with no blank stays. -/
theorem prefix_trimEnd {s t : List Char} {c : Char} (hc : isBlank c = false)
    (h : s ++ [c] <+: t) : s ++ [c] <+: trimEnd t := by
  obtain ⟨rest, rfl⟩ := h
  refine List.reverse_suffix.mp ?_
  simp only [trimEnd, List.reverse_append, List.reverse_reverse, List.reverse_cons,
    List.reverse_nil, List.nil_append, List.dropWhile_append]
  split
  · simp [hc]
  · exact List.suffix_append _ _

/-! Word characters and blanks. -/

/-- The code points of the blanks. -/
def blanks : List Nat :=
  [9, 10, 11, 12, 13, 28, 29, 30, 31, 32, 0x85, 0xA0, 0x1680, 0x2000, 0x2001, 0x2002, 0x2003,
    0x2004, 0x2005, 0x2006, 0x2007, 0x2008, 0x2009, 0x200A, 0x2028, 0x2029, 0x202F, 0x205F, 0x3000]

theorem mem_blanks {c : Char} (h : isBlank c = true) : c.toNat ∈ blanks := by
  simp only [isBlank, Bool.or_eq_true, Bool.and_eq_true, decide_eq_true_eq, beq_iff_eq] at h
  simp only [blanks, List.mem_cons, List.not_mem_nil]
  omega

theorem isWord_of_mem_blanks : ∀ n ∈ blanks,
    (if n < 128 then isAsciiWord (Char.ofNat n) else flippedAt wordFlips n) = false := by
  decide +kernel

/-- No blank is a word character. -/
theorem isWord_of_isBlank {c : Char} (h : isBlank c = true) : isWord c = false := by
  simpa only [isWord, Char.ofNat_toNat] using isWord_of_mem_blanks c.toNat (mem_blanks h)

theorem isBlank_of_isWord {c : Char} (h : isWord c = true) : isBlank c = false := by
  by_contra hb
  simp [isWord_of_isBlank (Bool.of_not_eq_false hb)] at h

/-! What stands in front. -/

/-- What has no character of a kind stays in front of the first of that kind. -/
theorem prefix_takeWhile {p : Char → Bool} {s t : List Char} (h : s <+: t)
    (hs : ∀ c ∈ s, p c = true) : s <+: t.takeWhile p := by
  obtain ⟨more, rfl⟩ := h
  rw [List.takeWhile_append_of_pos hs]
  exact List.prefix_append _ _

/-- What has only characters of a kind, in front of what begins with another, is all of that kind in
front. -/
theorem takeWhile_append {p : Char → Bool} {s t : List Char} (hs : ∀ c ∈ s, p c = true)
    (ht : ∀ c, t.head? = some c → p c = false) : (s ++ t).takeWhile p = s := by
  rw [List.takeWhile_append_of_pos hs, List.takeWhile_eq_nil_iff.mpr, List.append_nil]
  intro h
  simpa using ht t[0] (by simp [List.head?_eq_getElem?, h])

theorem dropWhile_append {p : Char → Bool} {s t : List Char} (hs : ∀ c ∈ s, p c = true)
    (ht : ∀ c, t.head? = some c → p c = false) : (s ++ t).dropWhile p = t := by
  rw [List.dropWhile_append_of_pos hs, List.dropWhile_eq_self_iff]
  intro h
  simpa using ht t[0] (by simp [List.head?_eq_getElem?, h])

theorem trimStart_append {s : List Char} (hs : ∀ c ∈ s, isBlank c = true) (t : List Char) :
    trimStart (s ++ t) = trimStart t :=
  List.dropWhile_append_of_pos hs

/-- What begins and ends with no blank is what trimming leaves of it. -/
theorem trim_append {before core after : List Char} (hb : ∀ c ∈ before, isBlank c = true)
    (ha : ∀ c ∈ after, isBlank c = true) (hne : core ≠ [])
    (hh : ∀ c, core.head? = some c → isBlank c = false)
    (hl : ∀ c, core.getLast? = some c → isBlank c = false) : trim (before ++ core ++ after) = core := by
  obtain ⟨c, hc⟩ := Option.ne_none_iff_exists'.mp (List.head?_eq_none_iff.not.mpr hne)
  have hstart : trimStart (before ++ core ++ after) = core ++ after := by
    rw [List.append_assoc, trimStart_append hb]
    exact trimStart_eq_self fun d hd => hh d (by simpa [List.head?_append, hc] using hd)
  rw [trim, hstart, trimEnd, List.reverse_append,
    dropWhile_append (fun d hd => ha d (List.mem_reverse.mp hd)) fun d hd => hl d (by simpa using hd),
    List.reverse_reverse]

/-- What trimming takes off are blanks at both ends. -/
theorem exists_trim (t : List Char) : ∃ before after, t = before ++ trim t ++ after ∧
    (∀ c ∈ before, isBlank c = true) ∧ ∀ c ∈ after, isBlank c = true := by
  refine ⟨t.takeWhile isBlank, ((trimStart t).reverse.takeWhile isBlank).reverse, ?_,
    fun c hc => List.mem_takeWhile_imp hc,
    fun c hc => List.mem_takeWhile_imp (List.mem_reverse.mp hc)⟩
  have hend : trim t ++ ((trimStart t).reverse.takeWhile isBlank).reverse = trimStart t := by
    rw [trim, trimEnd, ← List.reverse_append, List.takeWhile_append_dropWhile, List.reverse_reverse]
  rw [List.append_assoc, hend]
  exact List.takeWhile_append_dropWhile.symm

/-! Texts of one line. -/

theorem singleLine?_isPrefix {t body : List Char} (h : singleLine? t = some body) :
    body <+: t ∧ '\n' ∉ body := by
  simp only [singleLine?, Option.ite_none_left_eq_some] at h
  obtain ⟨hn, hbody⟩ := h
  obtain rfl := Option.some.inj hbody
  refine ⟨?_, by simpa using hn⟩
  split
  · exact List.dropLast_prefix t
  · exact List.prefix_rfl

theorem singleLine?_eq_self {t : List Char} (h : '\n' ∉ t) : singleLine? t = some t := by
  have hlast : t.getLast? ≠ some '\n' := fun hc => h (List.mem_of_getLast? hc)
  simp [singleLine?, hlast, h]

/-! The pieces between separators. -/

section Pieces

variable {α : Type} {p : α → Bool}

theorem splitOnP_eq_cons (xs : List α) :
    ∃ more, xs.splitOnP p = xs.takeWhile (fun x => !p x) :: more ∧
      ∀ piece ∈ more, ∀ x ∈ piece, p x = false := by
  induction xs with
  | nil => exact ⟨[], by simp⟩
  | cons x xs ih =>
    obtain ⟨more, hmore, hfree⟩ := ih
    rw [List.splitOnP_cons_eq_if_modifyHead, hmore]
    by_cases hx : p x
    · refine ⟨xs.takeWhile (fun x => !p x) :: more, by simp [hx], ?_⟩
      simp only [List.mem_cons, forall_eq_or_imp]
      exact ⟨fun y hy => by simpa using List.mem_takeWhile_imp hy, hfree⟩
    · exact ⟨more, by simp [hx], hfree⟩

/-- No piece has a separator in it. -/
theorem notMem_of_mem_splitOn {a : Char} {piece t : List Char} (h : piece ∈ t.splitOn a) :
    a ∉ piece := by
  obtain ⟨more, hmore, hfree⟩ := splitOnP_eq_cons (p := (· == a)) t
  rw [List.splitOn_eq_splitOnP, hmore, List.mem_cons] at h
  intro ha
  obtain rfl | h := h
  · simpa using List.mem_takeWhile_imp ha
  · simpa using hfree piece h a ha

theorem infix_intercalate (sep : List α) {piece : List α} {pieces : List (List α)}
    (h : piece ∈ pieces) :
    piece <:+: sep.intercalate pieces := by
  induction pieces with
  | nil => simp at h
  | cons first rest ih =>
    cases rest with
    | nil => simp_all
    | cons second rest =>
      rw [List.intercalate_cons_cons]
      obtain rfl | h := List.mem_cons.mp h
      · exact (List.prefix_append_of_prefix (List.prefix_append _ _)).isInfix
      · exact (ih h).trans (List.suffix_append _ _).isInfix

theorem infix_of_mem_splitOn {a : Char} {piece t : List Char} (h : piece ∈ t.splitOn a) :
    piece <:+: t := by
  simpa using infix_intercalate [a] h

end Pieces

end Chunkwise.Text
