import Chunkwise.Proofs.Code.Places
import Chunkwise.Proofs.Datum.Places
import Chunkwise.Store.Attribute
import Chunkwise.Store.Construct
import Chunkwise.Store.Subscript

/-!
Stores without places: the code of functions stands nowhere, and no exception has passed any place.
Whatever can be read of a store does not depend on places, but for what a fault has passed.
-/
namespace Chunkwise

def Function.unplaced (f : Function) : Function :=
  { f with file := "", body := f.body.map Code.Stmt.unplaced }

def Work.unplaced : Work → Work
  | .call f bound => .call f.unplaced bound
  | work => work

def Exception.unplaced (e : Exception) : Exception :=
  { e with trace := [] }

def Nature.unplaced : Nature → Nature
  | .function f => .function f.unplaced
  | .coroutine work progress => .coroutine work.unplaced progress
  | .exception e => .exception e.unplaced
  | nature => nature

/-- Only functions, work and exceptions know places. -/
theorem Nature.unplaced_cases (nature : Nature) :
    nature.unplaced = nature ∨ (∃ f, nature = .function f) ∨
      (∃ work progress, nature = .coroutine work progress) ∨ ∃ e, nature = .exception e := by
  cases nature <;> simp [Nature.unplaced]

def Object.unplaced (object : Object) : Object :=
  { object with nature := object.nature.unplaced }

namespace Store

def unplaced (store : Store) : Store where
  objects := store.objects.map Object.unplaced

variable (store : Store)

@[simp] theorem unplaced_unplaced : store.unplaced.unplaced = store.unplaced := by
  have hfunction (f : Function) : f.unplaced.unplaced = f.unplaced := by simp [Function.unplaced]
  have hobject (object : Object) : object.unplaced.unplaced = object.unplaced := by
    obtain ⟨nature, attributes⟩ := object
    cases nature with
    | function f => simp only [Object.unplaced, Nature.unplaced, hfunction]
    | coroutine work progress =>
      cases work with
      | call f bound => simp only [Object.unplaced, Nature.unplaced, Work.unplaced, hfunction]
      | _ => rfl
    | _ => rfl
  simp [unplaced, Function.comp_def, hobject]

@[simp] theorem size_unplaced : store.unplaced.objects.size = store.objects.size :=
  Array.size_map ..

@[simp] theorem depth_unplaced : store.unplaced.depth = store.depth := by
  simp [depth]

@[simp] theorem get?_unplaced (a : Address) :
    store.unplaced.get? a = (store.get? a).map Object.unplaced :=
  Array.getElem?_map ..

@[simp] theorem nature?_unplaced (a : Address) :
    store.unplaced.nature? a = (store.nature? a).map Nature.unplaced := by
  simp only [nature?, get?_unplaced]
  cases store.get? a <;> rfl

@[simp] theorem natureOf_unplaced (v : Value) :
    store.unplaced.natureOf v = (store.natureOf v).map Nature.unplaced := by
  cases v with
  | ref a => exact store.nature?_unplaced a
  | _ => rfl

/-- What is found in two stores that are the same but for places is the same, unless it is something
that knows places. -/
inductive FoundAlike : Option Nature → Option Nature → Prop where
  | same (nature? : Option Nature) : FoundAlike nature? nature?
  | function {f f' : Function} (h : f.unplaced = f'.unplaced) :
    FoundAlike (some (.function f)) (some (.function f'))
  | coroutine {work work' : Work} (progress : Progress) (h : work.unplaced = work'.unplaced) :
    FoundAlike (some (.coroutine work progress)) (some (.coroutine work' progress))
  | exception {e e' : Exception} (h : e.unplaced = e'.unplaced) :
    FoundAlike (some (.exception e)) (some (.exception e'))

theorem natureOf_alike {store store' : Store} (h : store.unplaced = store'.unplaced) (v : Value) :
    FoundAlike (store.natureOf v) (store'.natureOf v) := by
  have hnature := store.natureOf_unplaced v
  rw [h, natureOf_unplaced] at hnature
  generalize store.natureOf v = nature?, store'.natureOf v = other? at hnature
  rcases nature? with _ | nature <;> rcases other? with _ | other
  · exact .same none
  · cases hnature
  · cases hnature
  · have hnature : other.unplaced = nature.unplaced := Option.some.inj hnature
    cases nature with
    | function f =>
      cases other with
      | function f' => exact .function (Nature.function.inj hnature).symm
      | _ => cases hnature
    | coroutine work progress =>
      cases other with
      | coroutine work' progress' =>
        obtain ⟨hwork, rfl⟩ := Nature.coroutine.inj hnature
        exact .coroutine _ hwork.symm
      | _ => cases hnature
    | exception e =>
      cases other with
      | exception e' => exact .exception (Nature.exception.inj hnature).symm
      | _ => cases hnature
    | _ => cases other <;> cases hnature; exact .same _

@[simp] theorem scope?_unplaced (a : Address) : store.unplaced.scope? a = store.scope? a := by
  simp only [scope?, nature?_unplaced]
  rcases store.nature? a with _ | nature
  · rfl
  · cases nature <;> rfl

@[simp] theorem names_unplaced (a : Address) : store.unplaced.names a = store.names a := by
  simp only [names, scope?_unplaced]

/-! What changes a store. -/

theorem unplaced_add {object other : Object} (h : object.unplaced = other) :
    store.unplaced.add other = ((store.add object).1, (store.add object).2.unplaced) := by
  simp [add, unplaced, ← h]

theorem unplaced_make {object other : Object} (h : object.unplaced = other) :
    store.unplaced.make other = ((store.make object).1, (store.make object).2.unplaced) := by
  simp [make, store.unplaced_add h]

theorem unplaced_modify {f g : Object → Object}
    (h : ∀ object, (f object).unplaced = g object.unplaced) (a : Address) :
    (store.modify a f).unplaced = store.unplaced.modify a g := by
  simp only [modify, unplaced, mk.injEq]
  ext i
  · simp
  · simp only [Array.getElem_map, Array.getElem_modify]
    split <;> simp [h]

theorem unplaced_setNature (a : Address) (nature : Nature) :
    (store.setNature a nature).unplaced = store.unplaced.setNature a nature.unplaced :=
  store.unplaced_modify (g := fun object => { object with nature := nature.unplaced })
    (fun _ => rfl) a

theorem unplaced_mapNames (a : Address) (f : Bindings → Bindings) :
    (store.mapNames a f).unplaced = store.unplaced.mapNames a f := by
  refine store.unplaced_modify (fun object => ?_) a
  obtain ⟨nature, attributes⟩ := object
  cases nature <;> rfl

/-! What is read of a store. -/

@[simp] theorem typeName_unplaced (v : Value) : store.unplaced.typeName v = store.typeName v := by
  cases v with
  | ref a =>
    simp only [typeName, nature?_unplaced]
    rcases store.nature? a with _ | nature
    · rfl
    · cases nature <;> rfl
  | _ => rfl

@[simp] theorem bytes?_unplaced (v : Value) : store.unplaced.bytes? v = store.bytes? v := by
  cases v with
  | ref a =>
    simp only [bytes?, nature?_unplaced]
    rcases store.nature? a with _ | nature
    · rfl
    · cases nature <;> rfl
  | _ => rfl

@[simp] theorem truth_unplaced (v : Value) : store.unplaced.truth v = store.truth v := by
  cases v with
  | ref a =>
    simp only [truth, nature?_unplaced]
    rcases store.nature? a with _ | nature
    · rfl
    · cases nature <;> rfl
  | _ => rfl

@[simp] theorem cursor?_unplaced (v : Value) : store.unplaced.cursor? v = store.cursor? v := by
  cases v with
  | ref a =>
    simp only [cursor?, nature?_unplaced]
    rcases store.nature? a with _ | nature
    · rfl
    · cases nature <;> rfl
  | _ => rfl

@[simp] theorem items?_unplaced (v : Value) : store.unplaced.items? v = store.items? v := by
  cases v with
  | ref a =>
    simp only [items?, nature?_unplaced]
    rcases store.nature? a with _ | nature
    · rfl
    · cases nature <;> rfl
  | _ => rfl

@[simp] theorem chain?_unplaced (v : Value) : store.unplaced.chain? v = store.chain? v := by
  cases v with
  | ref a =>
    simp only [chain?, nature?_unplaced]
    rcases store.nature? a with _ | nature
    · rfl
    · cases nature <;> rfl
  | _ => rfl

@[simp] theorem lengthOf_unplaced (v : Value) : store.unplaced.lengthOf v = store.lengthOf v := by
  cases v with
  | ref a =>
    simp only [lengthOf, nature?_unplaced, typeName_unplaced]
    rcases store.nature? a with _ | nature
    · rfl
    · cases nature <;> rfl
  | _ => rfl

/-! Comparisons. -/

@[simp] theorem sameTo_unplaced (n : Nat) (v w : Value) :
    store.unplaced.sameTo n v w = store.sameTo n v w := by
  induction n generalizing v w with
  | zero => rfl
  | succ n ih =>
    simp only [sameTo, natureOf_unplaced, bytes?_unplaced, ih]
    rcases store.natureOf v with _ | nature
    · rfl
    · rcases store.natureOf w with _ | other
      · cases nature <;> rfl
      · cases nature <;> cases other <;> rfl

@[simp] theorem same_unplaced (v w : Value) : store.unplaced.same v w = store.same v w :=
  store.sameTo_unplaced _ v w

@[simp] theorem sameItem_unplaced (v w : Value) :
    store.unplaced.sameItem v w = store.sameItem v w := by
  simp only [sameItem, same_unplaced]

@[simp] theorem sameKey_unplaced (v w : Value) :
    store.unplaced.sameKey v w = store.sameKey v w := by
  simp only [sameKey, sameItem_unplaced]

@[simp] theorem lookupKey_unplaced (entries : List (Value × Value)) (key : Value) :
    store.unplaced.lookupKey entries key = store.lookupKey entries key := by
  simp only [lookupKey, sameKey_unplaced]

@[simp] theorem putEntry_unplaced (entries : List (Value × Value)) (key v : Value) :
    store.unplaced.putEntry entries key v = store.putEntry entries key v := by
  induction entries with
  | nil => rfl
  | cons entry rest ih => simp only [putEntry, sameKey_unplaced, ih]

theorem unhashableIn_unplaced (n : Nat) (v : Value) :
    store.unplaced.unhashableIn n v = store.unhashableIn n v := by
  induction n generalizing v with
  | zero => rfl
  | succ n ih =>
    have hinner : store.unplaced.unhashableIn n = store.unhashableIn n := funext ih
    simp only [unhashableIn, natureOf_unplaced, hinner]
    rcases store.natureOf v with _ | nature
    · rfl
    · cases nature <;> rfl

@[simp] theorem hashed_unplaced (v : Value) : store.unplaced.hashed v = store.hashed v := by
  simp only [hashed, depth_unplaced, unhashableIn_unplaced, typeName_unplaced]

@[simp] theorem identical_unplaced (v w : Value) :
    store.unplaced.identical v w = store.identical v w := by
  simp only [identical, natureOf_unplaced]
  rcases store.natureOf v with _ | nature
  · rfl
  · rcases store.natureOf w with _ | other
    · cases nature <;> rfl
    · cases nature with
      | seq form xs => cases form <;> cases other <;> rfl
      | _ => rfl

theorem orderedItems_unplaced (op : Code.Comparison) (ordered : Value → Value → Except Fault Bool)
    (xs ys : List Value) :
    store.unplaced.orderedItems op ordered xs ys = store.orderedItems op ordered xs ys := by
  induction xs generalizing ys with
  | nil => cases ys <;> rfl
  | cons x xs ih =>
    cases ys with
    | nil => rfl
    | cons y ys => simp only [orderedItems, sameItem_unplaced, ih]

theorem orderedSets_unplaced (op : Code.Comparison) (xs ys : List Value) :
    store.unplaced.orderedSets op xs ys = store.orderedSets op xs ys := by
  have hsame : store.unplaced.sameItem = store.sameItem := by
    funext v w
    exact store.sameItem_unplaced v w
  simp only [orderedSets, hsame]

theorem orderedTo_unplaced (op : Code.Comparison) (n : Nat) (v w : Value) :
    store.unplaced.orderedTo op n v w = store.orderedTo op n v w := by
  induction n generalizing v w with
  | zero => rfl
  | succ n ih =>
    have hinner : store.unplaced.orderedTo op n = store.orderedTo op n := by
      funext v w
      exact ih v w
    simp only [orderedTo, natureOf_unplaced, bytes?_unplaced, orderedSets_unplaced, unordered,
      typeName_unplaced, orderedItems_unplaced, hinner]
    rcases store.natureOf v with _ | nature
    · rfl
    · rcases store.natureOf w with _ | other
      · cases nature <;> rfl
      · cases nature <;> cases other <;> rfl

@[simp] theorem ordered_unplaced (op : Code.Comparison) (v w : Value) :
    store.unplaced.ordered op v w = store.ordered op v w :=
  store.orderedTo_unplaced op _ v w

/-! Operators and items. -/

@[simp] theorem unsupported_unplaced {α : Type} (symbol : String) (l r : Value) :
    (store.unplaced.unsupported symbol l r : Except Fault α) = store.unsupported symbol l r := by
  simp only [unsupported, typeName_unplaced]

@[simp] theorem repeatCount_unplaced (v : Value) :
    store.unplaced.repeatCount v = store.repeatCount v := by
  simp only [repeatCount, typeName_unplaced]

@[simp] theorem without_unplaced (xs ys : Array Value) :
    store.unplaced.without xs ys = store.without xs ys := by
  simp only [without, sameKey_unplaced]

@[simp] theorem unary_unplaced (op : Code.UnaryOp) (v : Value) :
    store.unplaced.unary op v = store.unary op v := by
  simp only [unary, truth_unplaced, typeName_unplaced]

@[simp] theorem bytesContain_unplaced (data : List UInt8) (v : Value) :
    store.unplaced.bytesContain data v = store.bytesContain data v := by
  simp only [bytesContain, bytes?_unplaced, typeName_unplaced]

@[simp] theorem notIterable_unplaced (v : Value) :
    store.unplaced.notIterable v = store.notIterable v := by
  simp only [notIterable, typeName_unplaced]

@[simp] theorem wrongIndex_unplaced (owner : String) (index : Value) :
    store.unplaced.wrongIndex owner index = store.wrongIndex owner index := by
  simp only [wrongIndex, typeName_unplaced]

@[simp] theorem notSubscriptable_unplaced {α : Type} (v : Value) :
    (store.unplaced.notSubscriptable v : Except Fault α) = store.notSubscriptable v := by
  simp only [notSubscriptable, typeName_unplaced]

@[simp] theorem byteOf_unplaced (v : Value) : store.unplaced.byteOf v = store.byteOf v := by
  simp only [byteOf, typeName_unplaced]

@[simp] theorem subscript_unplaced (v index : Value) :
    store.unplaced.subscript v index = store.subscript v index := by
  cases v with
  | ref a =>
    simp only [subscript, nature?_unplaced, wrongIndex_unplaced, notSubscriptable_unplaced,
      hashed_unplaced, lookupKey_unplaced]
    rcases store.nature? a with _ | nature
    · rfl
    · cases nature <;> rfl
  | _ =>
    simp only [subscript, rangeAt, typeName_unplaced, wrongIndex_unplaced,
      notSubscriptable_unplaced]

@[simp] theorem missingAttribute_unplaced (v : Value) (name : String) :
    store.unplaced.missingAttribute v name = store.missingAttribute v name := by
  unfold missingAttribute
  simp only [typeName_unplaced, get?_unplaced]
  cases v with
  | ref a =>
    dsimp only
    rcases store.get? a with _ | ⟨nature, attributes⟩
    · rfl
    · cases nature <;> rfl
  | _ => rfl

/-! Arguments of classes. -/

@[simp] theorem textArgument_unplaced (title : String) (n : Nat) (v : Value) :
    store.unplaced.textArgument title n v = store.textArgument title n v := by
  simp only [textArgument, givenName, typeName_unplaced]

@[simp] theorem wordArgument_unplaced (v : Value) :
    store.unplaced.wordArgument v = store.wordArgument v := by
  simp only [wordArgument, typeName_unplaced]

@[simp] theorem isSequence_unplaced (v : Value) :
    store.unplaced.isSequence v = store.isSequence v := by
  cases v with
  | ref a =>
    simp only [isSequence, natureOf, nature?_unplaced]
    rcases store.nature? a with _ | nature
    · rfl
    · cases nature <;> rfl
  | _ => rfl

@[simp] theorem exceptionKind?_unplaced (v : Value) :
    store.unplaced.exceptionKind? v = store.exceptionKind? v := by
  simp only [exceptionKind?, natureOf_unplaced]
  rcases store.natureOf v with _ | nature
  · rfl
  · cases nature <;> rfl

/-! What is shown of values. -/

theorem workName_unplaced (work : Work) : workName work.unplaced = workName work := by
  cases work <;> rfl

variable {store} {view : View}

mutual

theorem readIn_unplaced (n : Nat) (opened : List Address) (v : Value) :
    store.unplaced.readIn view n opened v = (store.readIn view n opened v).unplaced := by
  cases n with
  | zero => rfl
  | succ n =>
    cases v with
    | ref a =>
      simp only [readIn, get?_unplaced]
      rcases store.get? a with _ | object
      · rfl
      · exact readObject_unplaced n opened a object
    | _ => rfl

theorem readObject_unplaced (n : Nat) (opened : List Address) (a : Address) (object : Object) :
    store.unplaced.readObject view n opened a object.unplaced =
      (store.readObject view n opened a object).unplaced := by
  cases n with
  | zero => rfl
  | succ n =>
    have hinner : store.unplaced.readIn view n (a :: opened) =
        Datum.unplaced ∘ store.readIn view n (a :: opened) :=
      funext fun v => readIn_unplaced n (a :: opened) v
    have hfault (e : Exception) := readException_unplaced n (a :: opened) e object.attributes
    obtain ⟨nature, attributes⟩ := object
    cases nature with
    | exception e =>
      cases view with
      | host => rfl
      | shown =>
        simp only [readObject, Object.unplaced, Nature.unplaced, hfault]
        split <;> rfl
    | seq form items =>
      simp only [readObject, Object.unplaced, Nature.unplaced, hinner]
      split
      · rfl
      · simp [Datum.unplaced]
    | map form entries =>
      simp only [readObject, Object.unplaced, Nature.unplaced, hinner]
      split
      · rfl
      · simp [Datum.unplaced]
    | convertible type toHost toList items =>
      simp only [readObject, Object.unplaced, Nature.unplaced, hinner, Datum.unplaced,
        Datum.unplacedConversion?_eq, Datum.unplacedOption_eq, Option.map_map]
      congr 1
      · rcases toHost with _ | _ | _ | _ <;> rfl
      · rcases toList with _ | _ | _ | _ <;> rfl
      · split
        · rfl
        · cases items <;> simp
    | tensor =>
      cases view with
      | host => rfl
      | shown =>
        simp only [readObject, Object.unplaced, Nature.unplaced, hinner]
        split <;> rfl
    | badRepr message =>
      cases view with
      | host => rfl
      | shown =>
        simp only [readObject, Object.unplaced, Nature.unplaced, hinner]
        split <;> rfl
    | coroutine work progress =>
      cases view with
      | host => rfl
      | shown =>
        simp only [readObject, Object.unplaced, Nature.unplaced, workName_unplaced, Datum.unplaced]
    | _ => cases view <;> rfl

theorem readException_unplaced (n : Nat) (opened : List Address) (e : Exception)
    (attributes : Bindings) :
    store.unplaced.readException view n opened e.unplaced attributes =
      (store.readException view n opened e attributes).unplaced := by
  cases n with
  | zero => rfl
  | succ n =>
    have hinner : store.unplaced.readIn view n opened =
        Datum.unplaced ∘ store.readIn view n opened :=
      funext fun v => readIn_unplaced n opened v
    simp only [readException, hinner, Fault.unplaced, Exception.unplaced]
    congr 1
    · simp
    · simp
    · rcases e.cause with _ | c
      · rfl
      · simp only [Option.bind_some, Function.comp]
        cases store.readIn view n opened (.ref c) <;> rfl

end

variable (store)

@[simp] theorem read_unplaced (v : Value) : store.unplaced.read v = (store.read v).unplaced := by
  simp only [read, depth_unplaced, readIn_unplaced]

@[simp] theorem hostView_unplaced (v : Value) :
    store.unplaced.hostView v = (store.hostView v).unplaced := by
  simp only [hostView, size_unplaced, readIn_unplaced]

@[simp] theorem report_unplaced (a : Address) :
    store.unplaced.report a = (store.report a).unplaced := by
  simp only [report, read_unplaced]
  cases store.read (.ref a) <;> rfl

theorem showable_unplaced (v : Value) :
    store.unplaced.showable v = unplacedResult ((store.showable v).map Datum.unplaced) := by
  simp only [showable, read_unplaced, Datum.height_unplaced]
  split <;> rfl

@[simp] theorem render_unplaced (v : Value) :
    store.unplaced.render v = unplacedResult (store.render v) := by
  simp only [render, showable_unplaced]
  cases store.showable v with
  | error fault => rfl
  | ok d => exact d.render_unplaced

@[simp] theorem text_unplaced (v : Value) :
    store.unplaced.text v = unplacedResult (store.text v) := by
  simp only [text, showable_unplaced]
  cases store.showable v with
  | error fault => rfl
  | ok d => exact d.text_unplaced

/-! Data that are brought into a store. -/

mutual

theorem unplaced_load (store : Store) (d : Datum) :
    store.unplaced.load d.unplaced = ((store.load d).1, (store.load d).2.unplaced) := by
  cases d with
  | seq form items =>
    simp only [Datum.unplaced, Datum.unplacedAll_eq, load, unplaced_loadAll store items]
    exact unplaced_make _ rfl
  | map form entries =>
    simp only [Datum.unplaced, Datum.unplacedEntries_eq, load, unplaced_loadEntries store entries]
    exact unplaced_make _ rfl
  | convertible type toHost toList items =>
    simp only [Datum.unplaced, Datum.unplacedConversion?_eq, Datum.unplacedOption_eq, load,
      unplaced_loadConversion? _ toHost, unplaced_loadConversion? _ toList,
      unplaced_loadOption _ items]
    exact unplaced_make _ rfl
  | tensor data requiresGrad =>
    simp only [Datum.unplaced, load, unplaced_load _ data, unplaced_load _ requiresGrad]
    exact unplaced_make _ rfl
  | badRepr message =>
    simp only [Datum.unplaced, load, unplaced_load _ message]
    exact unplaced_make _ rfl
  | fault f => simp only [Datum.unplaced, load, unplaced_loadFault store f]
  | leaf v => rfl
  | again text => rfl
  | _ => exact unplaced_make _ rfl

theorem unplaced_loadAll (store : Store) (items : List Datum) :
    store.unplaced.loadAll (items.map Datum.unplaced) =
      ((store.loadAll items).1, (store.loadAll items).2.unplaced) := by
  match items with
  | [] => rfl
  | d :: rest => simp only [List.map_cons, loadAll, unplaced_load _ d, unplaced_loadAll _ rest]

theorem unplaced_loadEntries (store : Store) (entries : List (Datum × Datum)) :
    store.unplaced.loadEntries (entries.map fun e => (e.1.unplaced, e.2.unplaced)) =
      ((store.loadEntries entries).1, (store.loadEntries entries).2.unplaced) := by
  match entries with
  | [] => rfl
  | (k, d) :: rest =>
    simp only [List.map_cons, loadEntries, unplaced_load _ k, unplaced_load _ d,
      unplaced_loadEntries _ rest]

theorem unplaced_loadNamed (store : Store) (named : List (String × Datum)) :
    store.unplaced.loadNamed (named.map fun e => (e.1, e.2.unplaced)) =
      ((store.loadNamed named).1, (store.loadNamed named).2.unplaced) := by
  match named with
  | [] => rfl
  | (name, d) :: rest =>
    simp only [List.map_cons, loadNamed, unplaced_load _ d, unplaced_loadNamed _ rest]

theorem unplaced_loadOption (store : Store) (items : Option (List Datum)) :
    store.unplaced.loadOption (items.map (List.map Datum.unplaced)) =
      ((store.loadOption items).1, (store.loadOption items).2.unplaced) := by
  cases items with
  | none => rfl
  | some items => simp only [Option.map_some, loadOption, unplaced_loadAll _ items]

theorem unplaced_loadConversion (store : Store) (c : Conversion Datum) :
    store.unplaced.loadConversion (Datum.unplacedConversion c) =
      ((store.loadConversion c).1, (store.loadConversion c).2.unplaced) := by
  cases c with
  | number n => rfl
  | returns d => simp only [Datum.unplacedConversion, loadConversion, unplaced_load _ d]
  | raises d => simp only [Datum.unplacedConversion, loadConversion, unplaced_load _ d]

theorem unplaced_loadConversion? (store : Store) (c : Option (Conversion Datum)) :
    store.unplaced.loadConversion? (c.map Datum.unplacedConversion) =
      ((store.loadConversion? c).1, (store.loadConversion? c).2.unplaced) := by
  cases c with
  | none => rfl
  | some c => simp only [Option.map_some, loadConversion?, unplaced_loadConversion _ c]

theorem unplaced_loadFault (store : Store) (f : Fault) :
    store.unplaced.loadFault f.unplaced =
      ((store.loadFault f).1, (store.loadFault f).2.unplaced) := by
  obtain ⟨kind, args, detail, members, trace, notes, cause⟩ := f
  simp only [Fault.unplaced, Datum.unplacedAll_eq, Datum.unplacedNamed_eq, Datum.unplacedCause_eq,
    loadFault, unplaced_loadAll _ args, unplaced_loadNamed _ members, unplaced_loadCause _ cause]
  exact unplaced_add _ rfl

theorem unplaced_loadCause (store : Store) (cause : Option Fault) :
    store.unplaced.loadCause (cause.map Fault.unplaced) =
      ((store.loadCause cause).1, (store.loadCause cause).2.unplaced) := by
  cases cause with
  | none => rfl
  | some f => simp only [Option.map_some, loadCause, unplaced_loadFault _ f]

end

end Store
end Chunkwise
