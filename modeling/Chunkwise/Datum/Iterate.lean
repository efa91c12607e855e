import Chunkwise.Datum.Compare

/-!
Going through the items of a datum, and the sequences and mappings that are made of them.
-/
namespace Chunkwise.Datum

/-- The items of a datum in order; of a mapping these are its keys. -/
def items? : Datum → Option (List Datum)
  | .leaf (.str s) => some (s.toList.map fun c => .str (String.singleton c))
  | .leaf (.bytes data) | .bytes data => some (data.map fun b => .int b.toNat)
  | .leaf (.range start stop step) => some ((rangeItems start stop step).map .leaf)
  | .seq _ items => some items
  | .map _ entries => some (entries.map (·.1))
  | .convertible _ _ _ items => items
  | _ => none

def notIterable (v : Datum) : Fault :=
  .of .typeError s!"'{v.typeName}' object is not iterable"

def iterate (v : Datum) : Except Fault (List Datum) :=
  match v.items? with
  | some items => .ok items
  | none => .error v.notIterable

/-- The entry that a pair stands for. Pairs are numbered for their faults. -/
def pair (n : Nat) (v : Datum) : Except Fault (Datum × Datum) :=
  match v.items? with
  | none =>
    .error (.of .typeError s!"cannot convert dictionary update sequence element #{n} to a sequence")
  | some [key, value] => key.hashed.map fun _ => (key, value)
  | some items =>
    .error (.of .valueError
      s!"dictionary update sequence element #{n} has length {items.length}; 2 is required")

/-- The entries that a sequence of pairs stands for, up to the first that is none. -/
def pairs : Nat → List Datum → Except Fault (List (Datum × Datum))
  | _, [] => .ok []
  | n, v :: rest =>
    match pair n v with
    | .error e => .error e
    | .ok entry => (pairs (n + 1) rest).map (entry :: ·)

/-- The mapping made of a mapping or of a sequence of pairs. -/
def entries (v : Datum) : Except Fault (List (Datum × Datum)) :=
  match v with
  | .map _ entries => .ok entries
  | v =>
    match v.iterate with
    | .error e => .error e
    | .ok items => (pairs 0 items).map entriesOf

/-- The distinct items, by equality, in the order in which they come first. -/
def distinct (items : List Datum) : Except Fault (List Datum) :=
  match items.findSome? (·.unhashable?) with
  | some part => .error part.unhashable
  | none => .ok ((entriesOf (items.map fun v => (v, .null))).map (·.1))

/-- What is said of the first item that is no text, where texts are to be joined. -/
def joinTexts : Nat → List Datum → Except Fault (List String)
  | _, [] => .ok []
  | n, .str s :: rest => (joinTexts (n + 1) rest).map (s :: ·)
  | n, v :: _ =>
    .error (.of .typeError s!"sequence item {n}: expected str instance, {v.typeName} found")

/-- What can be joined is texts. -/
theorem joinTexts_eq {items : List Datum} {n : Nat} {names : List String}
    (h : joinTexts n items = .ok names) : names.map .str = items := by
  fun_induction joinTexts n items generalizing names with
  | case1 => cases h; rfl
  | case2 n name rest ih =>
    rcases hrest : joinTexts (n + 1) rest with fault | names'
    all_goals rw [hrest] at h; cases h
    rw [List.map_cons, ih hrest]
  | case3 => cases h

theorem joinTexts_texts (n : Nat) (names : List String) :
    joinTexts n (names.map .str) = .ok names := by
  induction names generalizing n with
  | nil => rfl
  | cons name rest ih =>
    simp only [List.map_cons, joinTexts, ih]
    rfl

theorem joinTexts_error {items : List Datum} {n : Nat} {fault : Fault}
    (h : joinTexts n items = .error fault) : fault.kind = .typeError := by
  fun_induction joinTexts n items with
  | case1 => cases h
  | case2 n name rest ih =>
    rcases hrest : joinTexts (n + 1) rest with fault' | names
    all_goals rw [hrest] at h; cases h
    exact ih hrest
  | case3 => cases h; rfl

end Chunkwise.Datum
