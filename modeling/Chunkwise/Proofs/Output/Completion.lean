import Chunkwise.Proofs.Output.Episodes

/-!
Text on a stream that ends the line of each text that it is sent. Of a text that goes through the
buffer only what remains behind its last line is ended so, and it is ended once.
-/
namespace Chunkwise

namespace Output

variable {text more : List Char} {texts : List (List Char)}

/-- A text that is empty or ends with a line feed: what comes behind it begins a line. -/
def Whole (text : List Char) : Prop :=
  text = [] ∨ text.getLast? = some '\n'

instance (text : List Char) : Decidable (Whole text) :=
  inferInstanceAs (Decidable (text = [] ∨ text.getLast? = some '\n'))

theorem whole_nil : Whole [] := .inl rfl

theorem whole_append (h : more ≠ []) : Whole (text ++ more) ↔ Whole more := by
  obtain ⟨front, last, rfl⟩ := (List.eq_nil_or_concat more).resolve_left h
  simp [Whole, List.getLast?_append]

theorem Whole.append (h : Whole text) (hmore : Whole more) : Whole (text ++ more) := by
  by_cases hne : more = []
  · simpa [hne] using h
  · exact (whole_append hne).mpr hmore

theorem whole_flatten (h : ∀ text ∈ texts, Whole text) : Whole texts.flatten := by
  induction texts with
  | nil => exact whole_nil
  | cons text texts ih =>
    rw [List.forall_mem_cons] at h
    exact h.1.append (ih h.2)

/-- A text with a line feed behind it, if it would not be whole without. -/
def completed (text : List Char) : List Char :=
  if Whole text then text else text ++ ['\n']

theorem completed_of_whole (h : Whole text) : completed text = text := if_pos h

theorem whole_completed (text : List Char) : Whole (completed text) := by
  unfold completed
  split
  · assumption
  · exact .inr (by simp)

theorem completed_append (text : List Char) (h : more ≠ []) :
    completed (text ++ more) = text ++ completed more := by
  simp only [completed, whole_append h]
  split <;> simp

/-- The texts stand on lines of their own: nothing comes behind a text that is not whole. -/
def Unparted : List (List Char) → Prop
  | [] => True
  | text :: more => (more.flatten ≠ [] → Whole text) ∧ Unparted more

/-- Texts that part no line are completed as if they were one. -/
theorem flatMap_completed (h : Unparted texts) : texts.flatMap completed = completed texts.flatten := by
  induction texts with
  | nil => rfl
  | cons text texts ih =>
    rw [List.flatMap_cons, List.flatten_cons, ih h.2]
    by_cases hne : texts.flatten = []
    · simp [hne, completed_of_whole whole_nil]
    · rw [completed_append text hne, completed_of_whole (h.1 hne)]

/-! The stream. -/

/-- What a stream has of the texts that it is sent. -/
def printed (texts : List String) : List Char :=
  texts.flatMap fun text => (endLine text).toList

@[simp] theorem printed_cons (text : String) (texts : List String) :
    printed (text :: texts) = (endLine text).toList ++ printed texts := rfl

@[simp] theorem printed_append (texts more : List String) :
    printed (texts ++ more) = printed texts ++ printed more := List.flatMap_append

theorem printed_flatMap {α : Type} (f : α → List String) (xs : List α) :
    printed (xs.flatMap f) = xs.flatMap fun x => printed (f x) := List.flatMap_assoc

theorem whole_printed (texts : List String) : Whole (printed texts) := by
  refine whole_flatten fun line hline => ?_
  obtain ⟨text, -, rfl⟩ := List.mem_map.mp hline
  unfold endLine
  split
  next h => exact .inr h
  next => exact .inr (by simp)

/-- A text that is sent is completed, unless there is nothing of it. -/
theorem toList_endLine {text : List Char} (h : text ≠ []) :
    (endLine (String.ofList text)).toList = completed text := by
  simp only [endLine, completed, Whole, String.toList_ofList, h, false_or]
  split <;> simp

theorem batches_ne_nil (text : List Char) : ∀ batch ∈ batches text, batch ≠ [] := by
  fun_induction batches text with
  | case1 => simp
  | case2 rest ih => simpa using ih
  | case3 => simp
  | case4 c rest _ batch others h ih =>
    rw [h] at ih
    simp only [List.forall_mem_cons] at ih ⊢
    exact ⟨by simp, ih.2⟩

/-- What a stream has of a text that was handed on in batches: all of it, with its last line
ended. -/
theorem printed_batches (text : List Char) :
    printed ((batches text).map String.ofList) = completed text := by
  fun_induction batches text with
  | case1 => rfl
  | case2 rest ih =>
    rw [List.map_cons, printed_cons, toList_endLine (by simp), ih]
    by_cases hne : rest = []
    · subst hne
      decide
    · exact (completed_append ['\n'] hne).symm
  | case3 c rest hc hnil ih =>
    have hempty := flatten_batches rest
    rw [hnil] at hempty
    subst hempty
    rw [List.map_cons, printed_cons, toList_endLine (by simp)]
    simp [printed]
  | case4 c rest hc batch others hbatch ih =>
    have hparts : batch ≠ [] ∧ rest ≠ [] := by
      have hrest := flatten_batches rest
      have hnonempty := batches_ne_nil rest batch (by simp [hbatch])
      refine ⟨hnonempty, ?_⟩
      rintro rfl
      simp [hbatch, hnonempty] at hrest
    rw [hbatch, List.map_cons, printed_cons, toList_endLine hparts.1] at ih
    rw [List.map_cons, printed_cons, toList_endLine (by simp)]
    rw [← List.singleton_append, completed_append _ hparts.1, ← List.singleton_append (l := rest),
      completed_append _ hparts.2, ← ih, List.append_assoc]

/-- What a stream has of stretches of text. -/
theorem printed_handedOn (texts : List (List Char)) :
    printed (handedOn texts) = texts.flatMap completed := by
  induction texts with
  | nil => rfl
  | cons text texts ih =>
    rw [← List.singleton_append, handedOn_append, printed_append, ih]
    simp [handedOn, printed_batches]

end Output

namespace World.Audience
open Output

theorem isOpen_stream (before : String) : (Audience.stream before).IsOpen := fun _ => rfl

/-- A stream has all that is printed of what it is sent. -/
theorem hear_stream (before : String) (texts : List String) :
    (Audience.stream before).hear texts = .stream (before ++ String.ofList (printed texts)) := by
  induction texts generalizing before with
  | nil => simp [printed]
  | cons text texts ih =>
    have hfirst : (Audience.stream before).hear (text :: texts) =
        (Audience.stream (before ++ endLine text)).hear texts := rfl
    rw [hfirst, ih]
    simp [String.ofList_append, String.append_assoc]

end World.Audience

end Chunkwise
