/-!
Sets of names as strictly increasing lists, in the order of code points.
-/
namespace Chunkwise.Text

/-- Puts a name at its place, unless it is there already. -/
def insertSorted (name : String) : List String → List String
  | [] => [name]
  | first :: rest =>
    if name < first then name :: first :: rest
    else if name = first then first :: rest
    else first :: insertSorted name rest

/-- The distinct names in increasing order. -/
def sortedSet (names : List String) : List String :=
  names.foldr insertSorted []

@[simp] theorem mem_insertSorted {x name : String} {names : List String} :
    x ∈ insertSorted name names ↔ x = name ∨ x ∈ names := by
  fun_induction insertSorted name names <;> simp_all [or_left_comm]

@[simp] theorem mem_sortedSet {x : String} {names : List String} :
    x ∈ sortedSet names ↔ x ∈ names := by
  induction names with
  | nil => simp [sortedSet]
  | cons name rest ih => simp_all [sortedSet]

theorem pairwise_insertSorted {name : String} {names : List String} (h : names.Pairwise (· < ·)) :
    (insertSorted name names).Pairwise (· < ·) := by
  induction names with
  | nil => simp [insertSorted]
  | cons first rest ih =>
    obtain ⟨hfirst, hrest⟩ := List.pairwise_cons.1 h
    unfold insertSorted
    split
    next hlt =>
      refine List.pairwise_cons.2 ⟨?_, h⟩
      simp only [List.forall_mem_cons]
      exact ⟨hlt, fun x hx => String.lt_trans hlt (hfirst x hx)⟩
    next hle =>
      split
      next => exact h
      next hne =>
        have hgt : first < name := String.not_le.1 fun hle' =>
          hne (String.le_antisymm hle' (String.not_lt.1 hle))
        refine List.pairwise_cons.2 ⟨fun x hx => ?_, ih hrest⟩
        rcases mem_insertSorted.1 hx with rfl | hx
        · exact hgt
        · exact hfirst x hx

/-- The names of a set come in the order of their code points. -/
theorem pairwise_sortedSet (names : List String) : (sortedSet names).Pairwise (· < ·) := by
  induction names with
  | nil => exact List.Pairwise.nil
  | cons name names ih => exact pairwise_insertSorted ih

end Chunkwise.Text
