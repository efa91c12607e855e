import Chunkwise.Fault.Own
import Chunkwise.Proofs.Datum.HostForm
import Mathlib.Data.List.Basic

/-!
Data without the places that the faults among them have passed. What is shown of a datum, and what a
fault says, does not tell where it was raised.
-/
namespace Chunkwise

mutual

/-- The datum, with no fault in it that has passed any place. -/
def Datum.unplaced : Datum → Datum
  | .leaf v => .leaf v
  | .bytes data => .bytes data
  | .seq form items => .seq form (Datum.unplacedAll items)
  | .map form entries => .map form (Datum.unplacedEntries entries)
  | .plain => .plain
  | .convertible type toHost toList items =>
    .convertible type (Datum.unplacedConversion? toHost) (Datum.unplacedConversion? toList)
      (Datum.unplacedOption items)
  | .tensor data requiresGrad => .tensor data.unplaced requiresGrad.unplaced
  | .object type text => .object type text
  | .badRepr message => .badRepr message.unplaced
  | .fault f => .fault f.unplaced
  | .again text => .again text

def Datum.unplacedAll : List Datum → List Datum
  | [] => []
  | d :: rest => d.unplaced :: Datum.unplacedAll rest

def Datum.unplacedEntries : List (Datum × Datum) → List (Datum × Datum)
  | [] => []
  | (k, d) :: rest => (k.unplaced, d.unplaced) :: Datum.unplacedEntries rest

def Datum.unplacedNamed : List (String × Datum) → List (String × Datum)
  | [] => []
  | (name, d) :: rest => (name, d.unplaced) :: Datum.unplacedNamed rest

def Datum.unplacedOption : Option (List Datum) → Option (List Datum)
  | none => none
  | some items => some (Datum.unplacedAll items)

def Datum.unplacedConversion : Conversion Datum → Conversion Datum
  | .returns d => .returns d.unplaced
  | .raises d => .raises d.unplaced
  | .number n => .number n

def Datum.unplacedConversion? : Option (Conversion Datum) → Option (Conversion Datum)
  | none => none
  | some c => some (Datum.unplacedConversion c)

/-- The fault, and those on whose account it was raised, as if they had passed no place. -/
def Fault.unplaced : Fault → Fault
  | { kind, args, detail, members, notes, cause, .. } =>
    { kind := kind, args := Datum.unplacedAll args, detail := detail
      members := Datum.unplacedNamed members, notes := notes, cause := Fault.unplacedCause cause }

def Fault.unplacedCause : Option Fault → Option Fault
  | none => none
  | some f => some f.unplaced

end

namespace Datum

@[simp] theorem unplacedAll_eq (items : List Datum) : unplacedAll items = items.map unplaced := by
  induction items with
  | nil => rfl
  | cons d rest ih => rw [unplacedAll, ih, List.map_cons]

@[simp] theorem unplacedEntries_eq (entries : List (Datum × Datum)) :
    unplacedEntries entries = entries.map fun e => (e.1.unplaced, e.2.unplaced) := by
  induction entries with
  | nil => rfl
  | cons e rest ih => rw [unplacedEntries, ih, List.map_cons]

@[simp] theorem unplacedNamed_eq (named : List (String × Datum)) :
    unplacedNamed named = named.map fun e => (e.1, e.2.unplaced) := by
  induction named with
  | nil => rfl
  | cons e rest ih => rw [unplacedNamed, ih, List.map_cons]

@[simp] theorem unplacedOption_eq (items : Option (List Datum)) :
    unplacedOption items = items.map (List.map unplaced) := by
  cases items <;> simp [unplacedOption]

@[simp] theorem unplacedConversion?_eq (c : Option (Conversion Datum)) :
    unplacedConversion? c = c.map unplacedConversion := by
  cases c <;> rfl

@[simp] theorem unplacedCause_eq (cause : Option Fault) :
    Fault.unplacedCause cause = cause.map Fault.unplaced := by
  cases cause <;> rfl

end Datum

mutual

@[simp] theorem Datum.unplaced_unplaced (d : Datum) : d.unplaced.unplaced = d.unplaced := by
  cases d with
  | fault f => simp only [Datum.unplaced, f.unplaced_unplaced]
  | seq form items => simp [Datum.unplaced, Datum.unplaced_unplacedAll items]
  | map form entries => simp [Datum.unplaced, Datum.unplaced_unplacedEntries entries]
  | convertible type toHost toList items =>
    simp only [Datum.unplaced, Datum.unplacedConversion?_eq, Datum.unplacedOption_eq,
      Datum.unplaced_unplacedConversion? toHost, Datum.unplaced_unplacedConversion? toList,
      Datum.unplaced_unplacedOption items]
  | tensor data requiresGrad =>
    simp only [Datum.unplaced, data.unplaced_unplaced, requiresGrad.unplaced_unplaced]
  | badRepr message => simp only [Datum.unplaced, message.unplaced_unplaced]
  | _ => rfl

theorem Datum.unplaced_unplacedAll (items : List Datum) :
    (items.map Datum.unplaced).map Datum.unplaced = items.map Datum.unplaced := by
  match items with
  | [] => rfl
  | d :: rest => simp only [List.map_cons, d.unplaced_unplaced, Datum.unplaced_unplacedAll rest]

theorem Datum.unplaced_unplacedEntries (entries : List (Datum × Datum)) :
    (entries.map fun e => (e.1.unplaced, e.2.unplaced)).map
        (fun e => (e.1.unplaced, e.2.unplaced)) =
      entries.map fun e => (e.1.unplaced, e.2.unplaced) := by
  match entries with
  | [] => rfl
  | (k, d) :: rest =>
    simp only [List.map_cons, k.unplaced_unplaced, d.unplaced_unplaced,
      Datum.unplaced_unplacedEntries rest]

theorem Datum.unplaced_unplacedNamed (named : List (String × Datum)) :
    (named.map fun e => (e.1, e.2.unplaced)).map (fun e => (e.1, e.2.unplaced)) =
      named.map fun e => (e.1, e.2.unplaced) := by
  match named with
  | [] => rfl
  | (name, d) :: rest =>
    simp only [List.map_cons, d.unplaced_unplaced, Datum.unplaced_unplacedNamed rest]

theorem Datum.unplaced_unplacedOption (items : Option (List Datum)) :
    (items.map (List.map Datum.unplaced)).map (List.map Datum.unplaced) =
      items.map (List.map Datum.unplaced) := by
  match items with
  | none => rfl
  | some items => simp only [Option.map_some, Datum.unplaced_unplacedAll items]

theorem Datum.unplaced_unplacedConversion (c : Conversion Datum) :
    Datum.unplacedConversion (Datum.unplacedConversion c) = Datum.unplacedConversion c := by
  cases c with
  | returns d => simp only [Datum.unplacedConversion, d.unplaced_unplaced]
  | raises d => simp only [Datum.unplacedConversion, d.unplaced_unplaced]
  | number n => rfl

theorem Datum.unplaced_unplacedConversion? (c : Option (Conversion Datum)) :
    (c.map Datum.unplacedConversion).map Datum.unplacedConversion =
      c.map Datum.unplacedConversion := by
  match c with
  | none => rfl
  | some c => simp only [Option.map_some, Datum.unplaced_unplacedConversion c]

@[simp] theorem Fault.unplaced_unplaced (f : Fault) : f.unplaced.unplaced = f.unplaced := by
  obtain ⟨kind, args, detail, members, trace, notes, cause⟩ := f
  simp only [Fault.unplaced, Datum.unplacedAll_eq, Datum.unplacedNamed_eq, Datum.unplacedCause_eq,
    Datum.unplaced_unplacedAll args, Datum.unplaced_unplacedNamed members,
    Fault.unplaced_unplacedCause cause]

theorem Fault.unplaced_unplacedCause (cause : Option Fault) :
    (cause.map Fault.unplaced).map Fault.unplaced = cause.map Fault.unplaced := by
  match cause with
  | none => rfl
  | some f => simp only [Option.map_some, f.unplaced_unplaced]

end

namespace Fault

@[simp] theorem unplaced_kind (f : Fault) : f.unplaced.kind = f.kind := by
  cases f
  rfl

theorem unplaced_sealed (f : Fault) : f.sealed.unplaced = f.unplaced.sealed := by
  unfold sealed
  rw [unplaced_kind]
  split <;> rfl

/-- A fault that says one text has passed no place yet. -/
@[simp] theorem unplaced_of (kind : Kind) (message : String) :
    (Fault.of kind message).unplaced = .of kind message := rfl

theorem unplaced_make (kind : Kind) (args : List Datum) :
    (make kind args).unplaced = make kind (args.map Datum.unplaced) := by
  simp [make, unplaced]

end Fault

/-- The outcome of something that may fail, as if its fault had passed no place. -/
abbrev unplacedResult {α : Type} (result : Except Fault α) : Except Fault α :=
  result.mapError Fault.unplaced

@[simp] theorem unplacedResult_pure {α : Type} (a : α) : unplacedResult (pure a) = pure a := rfl

theorem unplacedResult_bind {α β : Type} (result : Except Fault α) (f : α → Except Fault β) :
    unplacedResult (result >>= f) = unplacedResult result >>= fun a => unplacedResult (f a) := by
  cases result <;> rfl

/-! What is shown. -/

theorem integerText_unplaced (n : Int) : unplacedResult (integerText n) = integerText n := by
  unfold integerText
  split <;> rfl

theorem Value.render_unplaced (v : Value) : unplacedResult v.render = v.render := by
  cases v with
  | int n => exact integerText_unplaced n
  | range start stop step =>
    simp only [Value.render, unplacedResult_bind, integerText_unplaced, apply_ite unplacedResult]
    rfl
  | _ => rfl

mutual

@[simp] theorem Datum.render_unplaced (d : Datum) :
    d.unplaced.render = unplacedResult d.render := by
  cases d with
  | leaf v => exact v.render_unplaced.symm
  | seq form items =>
    simp only [Datum.unplaced, Datum.unplacedAll_eq, Datum.render, Datum.renderAll_unplaced items]
    split
    · rfl
    · cases Datum.renderAll items <;> rfl
  | map form entries =>
    simp only [Datum.unplaced, Datum.unplacedEntries_eq, Datum.render,
      Datum.renderEntries_unplaced entries]
    cases Datum.renderEntries entries <;> rfl
  | tensor data requiresGrad =>
    simp only [Datum.unplaced, Datum.render, data.render_unplaced, requiresGrad.render_unplaced]
    cases data.render <;> cases requiresGrad.render <;> rfl
  | fault f => simpa only [Datum.unplaced, Datum.render] using f.render_unplaced
  | _ => rfl

theorem Datum.renderAll_unplaced (items : List Datum) :
    Datum.renderAll (items.map Datum.unplaced) = unplacedResult (Datum.renderAll items) := by
  match items with
  | [] => rfl
  | d :: rest =>
    simp only [List.map_cons, Datum.renderAll, d.render_unplaced,
      Datum.renderAll_unplaced rest]
    cases d.render with
    | error fault => rfl
    | ok part => cases Datum.renderAll rest <;> rfl

theorem Datum.renderEntries_unplaced (entries : List (Datum × Datum)) :
    Datum.renderEntries (entries.map fun e => (e.1.unplaced, e.2.unplaced)) =
      unplacedResult (Datum.renderEntries entries) := by
  match entries with
  | [] => rfl
  | (k, d) :: rest =>
    simp only [List.map_cons, Datum.renderEntries, k.render_unplaced, d.render_unplaced,
      Datum.renderEntries_unplaced rest]
    cases k.render with
    | error fault => rfl
    | ok key =>
      cases d.render with
      | error fault => rfl
      | ok value => cases Datum.renderEntries rest <;> rfl

theorem Fault.render_unplaced (f : Fault) : f.unplaced.render = unplacedResult f.render := by
  obtain ⟨kind, args, detail, members, trace, notes, cause⟩ := f
  simp only [Fault.unplaced, Datum.unplacedAll_eq, Fault.render, Datum.renderAll_unplaced args]
  cases Datum.renderAll args <;> rfl

end

mutual

@[simp] theorem Datum.height_unplaced (d : Datum) : d.unplaced.height = d.height := by
  cases d with
  | seq form items => simp [Datum.unplaced, Datum.height, Datum.heightAll_unplaced items]
  | map form entries => simp [Datum.unplaced, Datum.height, Datum.heightEntries_unplaced entries]
  | tensor data requiresGrad =>
    simp only [Datum.unplaced, Datum.height, data.height_unplaced, requiresGrad.height_unplaced]
  | fault f => simpa only [Datum.unplaced, Datum.height] using f.height_unplaced
  | _ => rfl

theorem Datum.heightAll_unplaced (items : List Datum) :
    Datum.heightAll (items.map Datum.unplaced) = Datum.heightAll items := by
  match items with
  | [] => rfl
  | d :: rest =>
    simp only [List.map_cons, Datum.heightAll, d.height_unplaced, Datum.heightAll_unplaced rest]

theorem Datum.heightEntries_unplaced (entries : List (Datum × Datum)) :
    Datum.heightEntries (entries.map fun e => (e.1.unplaced, e.2.unplaced)) =
      Datum.heightEntries entries := by
  match entries with
  | [] => rfl
  | (k, d) :: rest =>
    simp only [List.map_cons, Datum.heightEntries, k.height_unplaced, d.height_unplaced,
      Datum.heightEntries_unplaced rest]

theorem Fault.height_unplaced (f : Fault) : f.unplaced.height = f.height := by
  obtain ⟨kind, args, detail, members, trace, notes, cause⟩ := f
  simp only [Fault.unplaced, Datum.unplacedAll_eq, Fault.height, Datum.heightAll_unplaced args]

end

/-- Texts, numbers and other values that are no objects stand for themselves. -/
@[simp] theorem Datum.unplaced_eq_leaf {d : Datum} {v : Value} :
    d.unplaced = .leaf v ↔ d = .leaf v := by
  cases d <;> simp [Datum.unplaced]

theorem lookup_map {α β : Type} (f : α → β) (entries : List (String × α)) (name : String) :
    (entries.map fun e => (e.1, f e.2)).lookup name = (entries.lookup name).map f := by
  induction entries with
  | nil => rfl
  | cons e rest ih =>
    obtain ⟨other, a⟩ := e
    simp only [List.map_cons, List.lookup_cons, ih]
    cases name == other <;> rfl

@[simp] theorem Datum.int?_unplaced (d : Datum) : d.unplaced.int? = d.int? := by
  cases d <;> rfl

/-! What faults say. -/

namespace Fault.Parts

variable (p : Parts)

/-- What the sentence of a fault is made of, without places. -/
def unplaced : Parts where
  kind := p.kind
  args := p.args.map fun e => (e.1.unplaced, unplacedResult e.2)
  members := p.members.map fun e => (e.1, e.2.1.unplaced, unplacedResult e.2.2)

theorem lookup_unplaced (name : String) : p.unplaced.members.lookup name =
    (p.members.lookup name).map fun e => (e.1.unplaced, unplacedResult e.2) :=
  lookup_map (fun e : Datum × Except Fault String => (e.1.unplaced, unplacedResult e.2)) _ _

@[simp] theorem member?_unplaced (name : String) :
    p.unplaced.member? name = (p.member? name).map Datum.unplaced := by
  simp only [member?, lookup_unplaced]
  cases p.members.lookup name <;> rfl

@[simp] theorem textOf_unplaced (name : String) :
    p.unplaced.textOf name = unplacedResult (p.textOf name) := by
  simp only [textOf, lookup_unplaced]
  cases p.members.lookup name <;> rfl

theorem plain_unplaced : p.unplaced.plain = unplacedResult p.plain := by
  obtain ⟨kind, args, members⟩ := p
  match args with
  | [] => rfl
  | [e] => rfl
  | e :: e' :: rest =>
    have hargs : ((e :: e' :: rest).map fun e => (e.1.unplaced, unplacedResult e.2)).map (·.1) =
        ((e :: e' :: rest).map (·.1)).map Datum.unplaced := by simp
    have hrender := Datum.renderAll_unplaced ((e :: e' :: rest).map (·.1))
    rw [← hargs] at hrender
    refine (congrArg (Except.map SeqForm.tuple.enclose) hrender).trans ?_
    change _ = unplacedResult ((Datum.renderAll ((e :: e' :: rest).map (·.1))).map _)
    cases Datum.renderAll ((e :: e' :: rest).map (·.1)) <;> rfl

theorem grammar_unplaced : p.unplaced.grammar = unplacedResult p.grammar := by
  simp only [grammar, member?_unplaced, textOf_unplaced, unplacedResult_bind]
  congr 1
  funext message
  split <;> split <;> simp_all

theorem system_unplaced : p.unplaced.system = unplacedResult p.system := by
  simp only [system, member?_unplaced, textOf_unplaced, unplacedResult_bind, plain_unplaced]
  congr 1
  funext number
  congr 1
  funext message
  cases p.member? "filename" with
  | none =>
    simp only [Option.map_none, Option.isSome_map]
    split <;> rfl
  | some file =>
    simp only [Option.map_some, Datum.render_unplaced, unplacedResult_bind]
    congr 1
    funext named
    cases p.member? "filename2" with
    | none => rfl
    | some other =>
      simp only [Option.map_some, Datum.render_unplaced, unplacedResult_bind]
      rfl

theorem culprit_unplaced (object : Option Datum) (start stop : Int) :
    culprit (object.map Datum.unplaced) start stop = culprit object start stop := by
  rcases object with _ | object
  · rfl
  · cases object <;> rfl

theorem coding_unplaced (verb : String) :
    p.unplaced.coding verb = unplacedResult (p.coding verb) := by
  simp only [coding, member?_unplaced, textOf_unplaced]
  cases p.member? "object" with
  | none => rfl
  | some object =>
    have hint (name : String) : ((p.member? name).map Datum.unplaced).bind Datum.int? =
        (p.member? name).bind Datum.int? := by
      cases p.member? name <;> simp
    have hculprit := culprit_unplaced (some object)
    rw [Option.map_some] at hculprit
    simp only [unplacedResult_bind, Option.map_some, hint, hculprit, apply_ite unplacedResult,
      unplacedResult_pure]

theorem group_unplaced : p.unplaced.group = unplacedResult p.group := by
  simp only [group, member?_unplaced, textOf_unplaced, unplacedResult_bind]
  congr 1
  funext message
  rcases p.member? "exceptions" with _ | members
  · rfl
  · cases members <;> simp [Datum.unplaced]

theorem text_unplaced : p.unplaced.text = unplacedResult p.text := by
  have hargs : p.unplaced.args = p.args.map fun e => (e.1.unplaced, unplacedResult e.2) := rfl
  have hkind : p.unplaced.kind = p.kind := rfl
  simp only [text, hkind, hargs, grammar_unplaced, system_unplaced, coding_unplaced,
    group_unplaced, plain_unplaced, member?_unplaced, apply_ite unplacedResult]
  iterate 6 refine ite_congr rfl (fun _ => rfl) fun _ => ?_
  -- The other classes say their only argument, their message or all arguments.
  generalize p.member? "msg" = msg
  match p.args with
  | [(key, text)] =>
    by_cases hkey : p.kind.isA .keyError <;> simp [hkey]
  | [] | _ :: _ :: _ =>
    rcases msg with _ | d
    · rfl
    · cases d with
      | leaf v =>
        cases v with
        | str message =>
          change (if p.kind.isA .importError then _ else _) =
            unplacedResult (if p.kind.isA .importError then _ else _)
          split <;> rfl
        | _ => rfl
      | _ => rfl

end Fault.Parts

mutual

@[simp] theorem Datum.text_unplaced (d : Datum) : d.unplaced.text = unplacedResult d.text := by
  cases d with
  | fault f => simpa only [Datum.unplaced, Datum.text] using f.text_unplaced
  | leaf v =>
    cases v with
    | str s => rfl
    | _ => simp only [Datum.unplaced, Datum.text, Datum.render, Value.render_unplaced]
  | _ => exact Datum.render_unplaced _

theorem Datum.withTexts_unplaced (items : List Datum) :
    Datum.withTexts (items.map Datum.unplaced) =
      (Datum.withTexts items).map fun e => (e.1.unplaced, unplacedResult e.2) := by
  match items with
  | [] => rfl
  | d :: rest =>
    simp only [List.map_cons, Datum.withTexts, d.text_unplaced, Datum.withTexts_unplaced rest]

theorem Datum.withTextsNamed_unplaced (named : List (String × Datum)) :
    Datum.withTextsNamed (named.map fun e => (e.1, e.2.unplaced)) =
      (Datum.withTextsNamed named).map fun e => (e.1, e.2.1.unplaced, unplacedResult e.2.2) := by
  match named with
  | [] => rfl
  | (name, d) :: rest =>
    simp only [List.map_cons, Datum.withTextsNamed, d.text_unplaced,
      Datum.withTextsNamed_unplaced rest]

/-- A fault says the same wherever it was raised. -/
theorem Fault.text_unplaced (f : Fault) : f.unplaced.text = unplacedResult f.text := by
  obtain ⟨kind, args, detail, members, trace, notes, cause⟩ := f
  simp only [Fault.unplaced, Datum.unplacedAll_eq, Datum.unplacedNamed_eq, Fault.text,
    Datum.withTexts_unplaced args, Datum.withTextsNamed_unplaced members]
  exact Fault.Parts.text_unplaced ⟨kind, Datum.withTexts args, Datum.withTextsNamed members⟩

end

/-! Faults that classes of the evaluator make of data. -/

namespace Datum

@[simp] theorem truth_unplaced (d : Datum) : d.unplaced.truth = d.truth := by
  cases d with
  | seq form items => cases form <;> simp [unplaced, truth]
  | map form entries => simp [unplaced, truth]
  | _ => rfl

@[simp] theorem typeName_unplaced (d : Datum) : d.unplaced.typeName = d.typeName := by
  cases d with
  | fault f => simp [unplaced, typeName]
  | _ => rfl

theorem items?_unplaced (d : Datum) : d.unplaced.items? = d.items?.map (List.map unplaced) := by
  cases d with
  | leaf v => cases v <;> simp [unplaced, items?]
  | bytes data | map form entries | seq form items | convertible type toHost toList items =>
    simp [unplaced, items?]
  | _ => rfl

theorem iterate_unplaced (d : Datum) :
    d.unplaced.iterate = unplacedResult (d.iterate.map (List.map unplaced)) := by
  simp only [iterate, items?_unplaced, notIterable, typeName_unplaced]
  cases d.items? <;> rfl

theorem joinTexts_unplaced (n : Nat) (items : List Datum) :
    joinTexts n (items.map unplaced) = unplacedResult (joinTexts n items) := by
  induction items generalizing n with
  | nil => rfl
  | cons d rest ih =>
    by_cases h : ∃ s, d = .str s
    · obtain ⟨s, rfl⟩ := h
      simp only [List.map_cons, unplaced, joinTexts, ih]
      cases joinTexts (n + 1) rest <;> rfl
    · have hd : ∀ s, d ≠ .str s := fun s hs => h ⟨s, hs⟩
      have hd' : ∀ s, d.unplaced ≠ .str s := fun s hs => h ⟨s, unplaced_eq_leaf.mp hs⟩
      rw [List.map_cons, joinTexts.eq_3 _ _ _ hd', joinTexts.eq_3 _ _ _ hd, typeName_unplaced]
      rfl

/-! The host form. -/

theorem conversion?_unplaced (toHost toList : Option (Conversion Datum)) :
    conversion? (toHost.map unplacedConversion) (toList.map unplacedConversion) =
      (conversion? toHost toList).map fun result => unplacedResult (result.map unplaced) := by
  have hcall (c : Option (Conversion Datum)) :
      (c.map unplacedConversion).bind Conversion.call? =
        (c.bind Conversion.call?).map fun result => unplacedResult (result.map unplaced) := by
    rcases c with _ | d | d | n
    · rfl
    · rfl
    · simp [unplacedConversion, Conversion.call?, Except.map, Except.mapError, Fault.unplaced_make]
    · rfl
  simp only [conversion?, hcall]
  cases toHost.bind Conversion.call? <;> rfl

mutual

theorem toHost_unplaced (d : Datum) :
    d.unplaced.toHost = unplacedResult (d.toHost.map unplaced) := by
  cases d with
  | convertible type toHost toList items =>
    have hconversion := conversion?_unplaced toHost toList
    simp only [unplaced, unplacedConversion?_eq, unplacedOption_eq]
    cases h : conversion? toHost toList with
    | some result =>
      rw [h] at hconversion
      rw [toHost_converted h, toHost_converted hconversion]
    | none =>
      rw [h] at hconversion
      rw [toHost_unconverted h, toHost_unconverted hconversion]
      rcases items with _ | items
      · simp [Except.map, Except.mapError, unplaced]
      · simp only [Option.map_some, toHostAll_unplaced items]
        cases toHostAll items <;> simp [Except.map, Except.mapError, unplaced]
  | seq form items =>
    simp only [unplaced, unplacedAll_eq, toHost, toHostAll_unplaced items]
    cases toHostAll items <;> simp [Except.map, Except.mapError, unplaced]
  | map form entries =>
    simp only [unplaced, unplacedEntries_eq, toHost, toHostEntries_unplaced entries]
    cases toHostEntries entries <;> simp [Except.map, Except.mapError, unplaced]
  | leaf v =>
    cases v with
    | range start stop step => simp [unplaced, toHost, Except.map, Except.mapError]
    | _ => rfl
  | _ => rfl

theorem toHostAll_unplaced (items : List Datum) :
    toHostAll (items.map unplaced) =
      unplacedResult ((toHostAll items).map (List.map unplaced)) := by
  match items with
  | [] => rfl
  | d :: rest =>
    simp only [List.map_cons, toHostAll, d.toHost_unplaced, toHostAll_unplaced rest]
    cases d.toHost with
    | error fault => rfl
    | ok value => cases toHostAll rest <;> rfl

theorem toHostEntries_unplaced (entries : List (Datum × Datum)) :
    toHostEntries (entries.map fun e => (e.1.unplaced, e.2.unplaced)) =
      unplacedResult ((toHostEntries entries).map
        (List.map fun e => (e.1.unplaced, e.2.unplaced))) := by
  match entries with
  | [] => rfl
  | (key, d) :: rest =>
    simp only [List.map_cons, toHostEntries, d.toHost_unplaced, toHostEntries_unplaced rest]
    cases d.toHost with
    | error fault => rfl
    | ok value => cases toHostEntries rest <;> rfl

end

end Datum

/-- Arguments are bound to parameters whatever they are. -/
theorem Parameters.bind_map {α : Type} {f : α → α} {params : List (String × Option α)}
    (hparams : ∀ p ∈ params, p.2.map f = p.2) (title : String) (receiver : Nat) (args : List α) :
    Parameters.bind title receiver params (args.map f) [] =
      (Parameters.bind title receiver params args []).map (List.map fun e => (e.1, f e.2)) := by
  have hbound (name : String) : bound? ((params.map (·.1)).zip (args.map f)) name =
      (bound? ((params.map (·.1)).zip args) name).map f := by
    rw [List.zip_map_right]
    exact lookup_map f _ _
  have hvalues : params.filterMap (fun p =>
      (((bound? ((params.map (·.1)).zip args) p.1).map f).or p.2).map (p.1, ·)) =
      (params.filterMap fun p =>
        ((bound? ((params.map (·.1)).zip args) p.1).or p.2).map (p.1, ·)).map
          fun e => (e.1, f e.2) := by
    rw [List.map_filterMap]
    refine List.filterMap_congr fun p hp => ?_
    have hp := hparams p hp
    cases bound? ((params.map (·.1)).zip args) p.1 with
    | some a => rfl
    | none =>
      rcases p with ⟨name, _ | a⟩
      · rfl
      · simpa using hp.symm
  simp only [Parameters.bind, bindKeywords, Bind.bind, Except.bind, List.length_map, hbound,
    Option.isNone_map]
  split
  · rfl
  · split
    · exact congrArg Except.ok hvalues
    · rfl

/-- What is said of arguments that do not fit has passed no place. -/
theorem Parameters.unplaced_bind {α : Type} (title : String) (receiver : Nat)
    (params : List (String × Option α)) (args : List α) :
    unplacedResult (Parameters.bind title receiver params args []) =
      Parameters.bind title receiver params args [] := by
  simp only [Parameters.bind, bindKeywords, Bind.bind, Except.bind]
  split
  · rfl
  · split <;> rfl

namespace Fault

theorem ownParameters_unplaced {kind : Kind} {title : String}
    {params : List (String × Option Datum)} (h : ownParameters kind = some (title, params)) :
    ∀ p ∈ params, p.2.map Datum.unplaced = p.2 := by
  unfold ownParameters at h
  split at h
  all_goals
    try split at h
    all_goals cases h
    all_goals simp [Datum.unplaced]

theorem constructResolution_of_not_text {output : Datum} (h : ∀ text, output ≠ .str text)
    (packages : Datum) : constructResolution packages output = (do
      let names ← Datum.joinTexts 0 (← packages.iterate)
      if output.truth then
        .error (.of .attributeError s!"'{output.typeName}' object has no attribute 'rstrip'")
      else return resolutionFailure names "") := by
  cases output with
  | leaf v =>
    cases v with
    | str text => exact absurd rfl (h text)
    | _ => rfl
  | _ => rfl

theorem constructResolution_unplaced (packages output : Datum) :
    constructResolution packages.unplaced output.unplaced =
      unplacedResult ((constructResolution packages output).map unplaced) := by
  by_cases h : ∃ text, output = .str text
  · obtain ⟨text, rfl⟩ := h
    simp only [constructResolution, Datum.iterate_unplaced]
    cases packages.iterate with
    | error fault => rfl
    | ok items =>
      simp only [Except.map, Except.mapError, Bind.bind, Except.bind, Datum.joinTexts_unplaced]
      cases Datum.joinTexts 0 items <;> rfl
  · have hother : ∀ text, output ≠ .str text := fun text ht => h ⟨text, ht⟩
    have hother' : ∀ text, output.unplaced ≠ .str text :=
      fun text ht => h ⟨text, Datum.unplaced_eq_leaf.mp ht⟩
    rw [constructResolution_of_not_text hother, constructResolution_of_not_text hother',
      Datum.iterate_unplaced, Datum.truth_unplaced, Datum.typeName_unplaced]
    cases packages.iterate with
    | error fault => rfl
    | ok items =>
      simp only [Except.map, Except.mapError, Bind.bind, Except.bind, Datum.joinTexts_unplaced]
      cases Datum.joinTexts 0 items with
      | error fault => rfl
      | ok names => cases output.truth <;> rfl

/-- What an own class makes of arguments does not depend on the places that these have passed. -/
theorem constructOwn_unplaced (kind : Kind) (args : List Datum) :
    constructOwn kind (args.map Datum.unplaced) =
      unplacedResult ((constructOwn kind args).map unplaced) := by
  unfold constructOwn
  cases hown : ownParameters kind with
  | none => simp [unplaced_make, Except.map, Except.mapError, pure, Except.pure]
  | some own =>
    obtain ⟨title, params⟩ := own
    dsimp only
    rw [Parameters.bind_map (ownParameters_unplaced hown)]
    have hbind := Parameters.unplaced_bind (title ++ ".__init__") 1 params args
    cases hbound : Parameters.bind (title ++ ".__init__") 1 params args [] with
    | error fault =>
      rw [hbound] at hbind
      change Except.error fault = Except.error fault.unplaced
      rw [Except.error.inj hbind]
    | ok bound =>
      have hgiven (name : String) :
          ((bound.map fun e => (e.1, e.2.unplaced)).lookup name).getD .null =
          ((bound.lookup name).getD Datum.null).unplaced := by
        rw [lookup_map]
        cases bound.lookup name <;> rfl
      simp only [Except.map, Bind.bind, Except.bind, hgiven]
      split
      · exact constructResolution_unplaced _ _
      · simp [unplaced, pure, Except.pure, Except.mapError]
      · simp [unplaced, pure, Except.pure, Except.mapError]
      · rw [Datum.text_unplaced, Datum.truth_unplaced, Datum.int?_unplaced]
        cases (bound.lookup "status").getD Datum.null |>.text with
        | error fault => rfl
        | ok status =>
          rw [Datum.text_unplaced, Datum.text_unplaced]
          cases (bound.lookup "url").getD Datum.null |>.text with
          | error fault => rfl
          | ok url =>
            cases ((bound.lookup "reason").getD Datum.null).truth
            · rfl
            · cases (bound.lookup "reason").getD Datum.null |>.text <;> rfl
      · rfl
      · rfl
      · rfl
      · rfl
      · rfl
      · simp [unplaced_make, pure, Except.pure, Except.mapError]

end Fault

end Chunkwise
