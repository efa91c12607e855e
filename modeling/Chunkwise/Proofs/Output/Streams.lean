import Chunkwise.Proofs.Output.Batches
import Mathlib.Data.List.Flatten

/-!
A stream in use. Texts are written and what is pending is flushed, in any order, and whoever gets the
lines may refuse some of them. Whatever is refused, nothing is lost besides: what was handed on and
what is pending are what was written. As long as nothing is refused, what is handed on hangs on the
texts between two flushes and not on how they were cut.
-/
namespace Chunkwise.Output

variable {σ : Type} {deliver : Sink σ}

/-! Sinks that remember. -/

/-- A text that was handed on, and the fault with which it was refused, if it was. -/
structure Delivery where
  text : String
  refusal : Option Fault := none

/-- The sink, with a record of what it was handed and how it answered. -/
def recorded (deliver : Sink σ) : Sink (List Delivery × σ) := fun text s =>
  match deliver text s.2 with
  | (refusal, sink) => (refusal, s.1 ++ [⟨text, refusal⟩], sink)

/-- All that was handed on, refused or not. -/
def handed (record : List Delivery) : List Char :=
  record.flatMap fun d => d.text.toList

/-- All that was taken. -/
def taken (record : List Delivery) : List Char :=
  handed (record.filter fun d => d.refusal.isNone)

/-- All that was refused. -/
def refused (record : List Delivery) : List Char :=
  handed (record.filter fun d => d.refusal.isSome)

@[simp] theorem handed_append (record more : List Delivery) :
    handed (record ++ more) = handed record ++ handed more :=
  List.flatMap_append

@[simp] theorem handed_nil : handed [] = [] := rfl

@[simp] theorem handed_singleton (d : Delivery) : handed [d] = d.text.toList := by
  simp [handed]

theorem taken_sublist (record : List Delivery) : (taken record).Sublist (handed record) :=
  List.filter_sublist.flatMap _

/-- What was handed on was taken or refused. -/
theorem length_handed (record : List Delivery) :
    (handed record).length = (taken record).length + (refused record).length := by
  induction record with
  | nil => rfl
  | cons d record ih =>
    simp only [taken, refused, handed, List.filter_cons] at ih ⊢
    rcases d.refusal with _ | fault <;> simp at ih ⊢ <;> omega

/-! Calls. -/

inductive Call where
  | write (text : String)
  | flush
  deriving DecidableEq, Repr

/-- What a call writes. -/
def Call.text : Call → List Char
  | .write text => text.toList
  | .flush => []

/-- What calls write, whether they succeed or not. -/
def written (calls : List Call) : List Char :=
  calls.flatMap Call.text

/-- A stream: what is pending, and what gets the lines. -/
structure Stream (σ : Type) where
  pending : List Char := []
  sink : σ

namespace Stream

/-- One call. The fault is that of the sink, which ends the call. -/
def call (deliver : Sink σ) (st : Stream σ) : Call → Option Fault × Stream σ
  | .write text =>
    match write deliver st.pending text.toList st.sink with
    | (fault, pending, sink) => (fault, ⟨pending, sink⟩)
  | .flush =>
    match flush deliver st.pending st.sink with
    | (fault, pending, sink) => (fault, ⟨pending, sink⟩)

/-- Calls one after another, also behind one that failed. -/
def run (deliver : Sink σ) (calls : List Call) (st : Stream σ) : Stream σ :=
  calls.foldl (fun st call => (st.call deliver call).2) st

/-- What is on record of a stream. -/
abbrev record (st : Stream (List Delivery × σ)) : List Delivery := st.sink.1

/-- A new stream after some calls, with a record of what was handed on. -/
def after (deliver : Sink σ) (calls : List Call) (s : σ) : Stream (List Delivery × σ) :=
  run (recorded deliver) calls ⟨[], [], s⟩

@[simp] theorem run_nil (st : Stream σ) : st.run deliver [] = st := rfl

@[simp] theorem run_cons (c : Call) (calls : List Call) (st : Stream σ) :
    st.run deliver (c :: calls) = (st.call deliver c).2.run deliver calls := rfl

@[simp] theorem run_append (calls more : List Call) (st : Stream σ) :
    st.run deliver (calls ++ more) = (st.run deliver calls).run deliver more :=
  List.foldl_append

end Stream

/-! The record changes nothing, and it is complete. -/

theorem recorded_fst {text : String} {fault : Option Fault} {r r' : List Delivery × σ}
    (h : recorded deliver text r = (fault, r')) : r'.1 = r.1 ++ [⟨text, fault⟩] := by
  simp only [recorded, Prod.mk.injEq] at h
  obtain ⟨rfl, rfl⟩ := h
  rfl

theorem recorded_snd {text : String} {fault : Option Fault} {r r' : List Delivery × σ}
    (h : recorded deliver text r = (fault, r')) : deliver text r.2 = (fault, r'.2) := by
  simp only [recorded, Prod.mk.injEq] at h
  obtain ⟨rfl, rfl⟩ := h
  rfl

theorem forward_recorded (line text : List Char) (r : List Delivery × σ) :
    forward deliver line text r.2 =
      ((forward (recorded deliver) line text r).1, (forward (recorded deliver) line text r).2.1,
        (forward (recorded deliver) line text r).2.2.2) := by
  fun_induction forward (recorded deliver) line text r with
  | case1 => rfl
  | case2 line rest r r' hsent ih =>
    rw [forward, if_pos rfl, recorded_snd hsent]
    exact ih
  | case3 line rest r fault r' hsent => rw [forward, if_pos rfl, recorded_snd hsent]
  | case4 line c rest r hc ih => rw [forward, if_neg hc, ih]

/-- All that comes out of the buffer is handed on, in order, and what is behind a refused line stays
pending. -/
theorem handed_forward (deliver : Sink σ) (line text : List Char) (r : List Delivery × σ) :
    handed (forward (recorded deliver) line text r).2.2.1 ++
        (forward (recorded deliver) line text r).2.1 =
      handed r.1 ++ (line.reverse ++ text) := by
  fun_induction forward (recorded deliver) line text r with
  | case1 => simp
  | case2 line rest r r' hsent ih => rw [ih, recorded_fst hsent]; simp
  | case3 line rest r fault r' hsent => rw [recorded_fst hsent]; simp
  | case4 line c rest r hc ih => rw [ih]; simp

namespace Stream

theorem call_recorded (st : Stream (List Delivery × σ)) (c : Call) :
    call deliver ⟨st.pending, st.sink.2⟩ c =
      ((st.call (recorded deliver) c).1,
        ⟨(st.call (recorded deliver) c).2.pending, (st.call (recorded deliver) c).2.sink.2⟩) := by
  cases c with
  | write text => simp only [call, write, forward_recorded [] (st.pending ++ text.toList) st.sink]
  | flush =>
    simp only [call, flush]
    split
    · rfl
    · rcases h : recorded deliver (String.ofList st.pending) st.sink with ⟨fault, sink⟩
      rw [recorded_snd h]

/-- What is handed on and what is pending grow by what a call writes. -/
theorem handed_call (st : Stream (List Delivery × σ)) (c : Call) :
    handed (st.call (recorded deliver) c).2.sink.1 ++ (st.call (recorded deliver) c).2.pending =
      handed st.sink.1 ++ st.pending ++ c.text := by
  cases c with
  | write text =>
    have h := handed_forward deliver [] (st.pending ++ text.toList) st.sink
    simpa [call, write, Call.text] using h
  | flush =>
    simp only [call, flush]
    split
    next h => simp [h, Call.text]
    next =>
      rcases h : recorded deliver (String.ofList st.pending) st.sink with ⟨fault, sink⟩
      simp [recorded_fst h, Call.text]

/-- The record is of the calls of the sink, and of nothing else. -/
theorem run_recorded (calls : List Call) (st : Stream (List Delivery × σ)) :
    run deliver calls ⟨st.pending, st.sink.2⟩ =
      ⟨(st.run (recorded deliver) calls).pending, (st.run (recorded deliver) calls).sink.2⟩ := by
  induction calls generalizing st with
  | nil => rfl
  | cons c calls ih => rw [run_cons, call_recorded, ih, run_cons]

theorem handed_run (calls : List Call) (st : Stream (List Delivery × σ)) :
    handed (st.run (recorded deliver) calls).sink.1 ++ (st.run (recorded deliver) calls).pending =
      handed st.sink.1 ++ st.pending ++ written calls := by
  induction calls generalizing st with
  | nil => simp [written]
  | cons c calls ih => rw [run_cons, ih, handed_call]; simp [written]

/-- Nothing is pending behind a flush, even if it was refused. -/
theorem pending_flush (st : Stream σ) : (st.call deliver .flush).2.pending = [] := by
  simp only [call, flush]
  split <;> rfl

theorem handed_after (deliver : Sink σ) (calls : List Call) (s : σ) :
    handed (after deliver calls s).record ++ (after deliver calls s).pending = written calls :=
  (handed_run calls ⟨[], [], s⟩).trans (by simp)

/-- Behind a flush all that was written was handed on. -/
theorem handed_of_flush (deliver : Sink σ) (calls : List Call) (s : σ) :
    (after deliver (calls ++ [.flush]) s).pending = [] ∧
      handed (after deliver (calls ++ [.flush]) s).record = written calls := by
  have hpending : (after deliver (calls ++ [.flush]) s).pending = [] := by
    rw [after, run_append]
    exact pending_flush _
  have hall := handed_after deliver (calls ++ [.flush]) s
  rw [hpending, List.append_nil] at hall
  exact ⟨hpending, by simpa [written, Call.text] using hall⟩

/-- Whatever a sink refuses and whenever it does, what was handed to it, the refused texts included,
and what is pending are what was written, the text of a write that failed included. Behind a flush
what was written has been handed on, and what is missing of it where it was taken is what was refused.
The record of what was handed on is of the sink's own calls. -/
theorem handed_and_pending (deliver : Sink σ) (calls : List Call) (s : σ) :
    handed (after deliver calls s).record ++ (after deliver calls s).pending = written calls ∧
      (handed (after deliver (calls ++ [.flush]) s).record = written calls ∧
        (taken (after deliver (calls ++ [.flush]) s).record).Sublist (written calls) ∧
        (written calls).length = (taken (after deliver (calls ++ [.flush]) s).record).length +
          (refused (after deliver (calls ++ [.flush]) s).record).length) ∧
      run deliver calls ⟨[], s⟩ = ⟨(after deliver calls s).pending, (after deliver calls s).sink.2⟩ := by
  obtain ⟨-, hflush⟩ := handed_of_flush deliver calls s
  refine ⟨handed_after deliver calls s, ⟨hflush, ?_, ?_⟩, run_recorded calls ⟨[], [], s⟩⟩
  · rw [← hflush]
    exact taken_sublist _
  · rw [← hflush]
    exact length_handed _

/-- A refused line is gone, and what was written behind it stays pending. -/
example :
    let st := after Receiver.take [.write "a\nb\nc"] { refused := ["a\n"] }
    (refused st.record, taken st.record, st.pending) = ("a\n".toList, [], "b\nc".toList) := by
  decide +kernel

end Stream

/-! Sinks that refuse nothing. -/

/-- Writing one text behind another, up to the first refusal. -/
theorem forward_append (deliver : Sink σ) (line text more : List Char) (s : σ) :
    forward deliver line (text ++ more) s =
      match forward deliver line text s with
      | (none, rest, s') => forward deliver rest.reverse more s'
      | (some fault, rest, s') => (some fault, rest ++ more, s') := by
  fun_induction forward deliver line text s with
  | case1 => simp
  | case2 line rest s s' hsent ih =>
    rw [List.cons_append, forward, if_pos rfl, hsent]
    exact ih
  | case3 line rest s fault s' hsent => rw [List.cons_append, forward, if_pos rfl, hsent]
  | case4 line c rest s hc ih => rw [List.cons_append, forward, if_neg hc, ih]

/-- What is no line yet stays pending. -/
theorem forward_of_notMem {text : List Char} (h : '\n' ∉ text) (deliver : Sink σ)
    (line : List Char) (s : σ) : forward deliver line text s = (none, line.reverse ++ text, s) := by
  induction text generalizing line with
  | nil => simp [forward]
  | cons c text ih =>
    simp only [List.mem_cons, not_or] at h
    rw [forward, if_neg (Ne.symm h.1), ih h.2]
    simp

/-- The sink takes whatever it is handed. -/
def Sink.IsOpen (deliver : Sink σ) : Prop :=
  ∀ text s, (deliver text s).1 = none

/-- A record of texts that were taken. -/
def allTaken (texts : List (List Char)) : List Delivery :=
  texts.map fun text => { text := String.ofList text }

/-- An open sink is handed the lines of a text, one by one, and the rest stays pending. -/
theorem Sink.IsOpen.forward (h : deliver.IsOpen) {line : List Char} (hline : '\n' ∉ line)
    (text : List Char) (r : List Delivery × σ) :
    ∃ (lines : List (List Char)) (rest : List Char) (s : σ), (∀ l ∈ lines, IsLine l) ∧ '\n' ∉ rest ∧
      line.reverse ++ text = lines.flatten ++ rest ∧
      forward (recorded deliver) line text r = (none, rest, r.1 ++ allTaken lines, s) := by
  fun_induction Output.forward (recorded deliver) line text r with
  | case1 line r =>
    exact ⟨[], line.reverse, r.2, by simp, by simpa using hline, by simp, by simp [allTaken]⟩
  | case2 line rest r r' hsent ih =>
    obtain ⟨lines, left, s, hlines, hleft, htext, hforward⟩ := ih List.not_mem_nil
    refine ⟨(line.reverse ++ ['\n']) :: lines, left, s, ?_, hleft, by simpa using htext, ?_⟩
    · exact List.forall_mem_cons.mpr ⟨⟨line.reverse, by simpa using hline, rfl⟩, hlines⟩
    · rw [hforward, recorded_fst hsent]
      simp [allTaken]
  | case3 line rest r fault r' hsent =>
    -- the sink answers as it did before it was recorded
    have hopen : (recorded deliver (String.ofList (line.reverse ++ ['\n'])) r).1 = none := h _ _
    rw [hsent] at hopen
    cases hopen
  | case4 line c rest r hc ih =>
    obtain ⟨lines, left, s, hlines, hleft, htext, hforward⟩ := ih (by simpa using ⟨Ne.symm hc, hline⟩)
    exact ⟨lines, left, s, hlines, hleft, by simpa using htext, hforward⟩

/-- Two writes in a row do what one write of both texts does. -/
theorem Sink.IsOpen.write_append (h : deliver.IsOpen) (pending text more : List Char)
    (r : List Delivery × σ) :
    write (recorded deliver) pending (text ++ more) r =
      write (recorded deliver) (write (recorded deliver) pending text r).2.1 more
        (write (recorded deliver) pending text r).2.2 := by
  obtain ⟨lines, rest, s, -, hrest, -, hforward⟩ := h.forward List.not_mem_nil (pending ++ text) r
  simp only [write, ← List.append_assoc, forward_append _ _ (pending ++ text), hforward]
  simp only [forward_append _ _ rest, forward_of_notMem hrest, List.reverse_nil, List.nil_append]

namespace Stream

variable {st : Stream (List Delivery × σ)}

/-- A write hands on the lines of what was pending and is written. -/
theorem call_write (h : deliver.IsOpen) (st : Stream (List Delivery × σ)) (text : String) :
    ∃ (lines : List (List Char)) (rest : List Char) (s : σ), (∀ l ∈ lines, IsLine l) ∧ '\n' ∉ rest ∧
      st.pending ++ text.toList = lines.flatten ++ rest ∧
      st.call (recorded deliver) (.write text) = (none, ⟨rest, st.record ++ allTaken lines, s⟩) := by
  obtain ⟨lines, rest, s, hlines, hrest, htext, hforward⟩ :=
    h.forward List.not_mem_nil (st.pending ++ text.toList) st.sink
  exact ⟨lines, rest, s, hlines, hrest, htext, by rw [call, write, hforward]⟩

/-- A flush hands on what is pending, if there is anything. -/
theorem call_flush (h : deliver.IsOpen) (st : Stream (List Delivery × σ)) :
    ∃ s : σ, st.call (recorded deliver) .flush =
      (none, ⟨[], st.record ++ allTaken (remainder st.pending), s⟩) := by
  simp only [call, flush]
  split
  next hp => exact ⟨st.sink.2, by simp [hp, remainder, allTaken]⟩
  next hp =>
    have hopen : (recorded deliver (String.ofList st.pending) st.sink).1 = none := h _ _
    rcases hsent : recorded deliver (String.ofList st.pending) st.sink with ⟨fault, record, s⟩
    rw [hsent] at hopen
    cases hopen
    obtain rfl : record = _ := recorded_fst hsent
    exact ⟨s, by simp [remainder, allTaken, hp]⟩

/-- No line stays pending. -/
theorem notMem_pending_call (h : deliver.IsOpen) (st : Stream (List Delivery × σ)) (c : Call) :
    '\n' ∉ (st.call (recorded deliver) c).2.pending := by
  cases c with
  | write text =>
    obtain ⟨lines, rest, s, -, hrest, -, hcall⟩ := call_write h st text
    rwa [hcall]
  | flush => simp [pending_flush]

theorem notMem_pending_run (h : deliver.IsOpen) (hp : '\n' ∉ st.pending) (calls : List Call) :
    '\n' ∉ (st.run (recorded deliver) calls).pending := by
  induction calls generalizing st with
  | nil => exact hp
  | cons c calls ih => exact ih (notMem_pending_call h st c)

/-- However a text is cut into writes, they do what one write does. -/
theorem run_writes (h : deliver.IsOpen) (hp : '\n' ∉ st.pending) (block : List String) :
    st.run (recorded deliver) (block.map .write) =
      (st.call (recorded deliver) (.write (String.join block))).2 := by
  induction block generalizing st with
  | nil => simp [call, write, String.join, forward_of_notMem hp]
  | cons text block ih =>
    rw [List.map_cons, run_cons, ih (notMem_pending_call h st _)]
    simp only [call, String.join_cons, String.toList_append, h.write_append]

/-- A block of writes hands on the lines of what was pending and is written, and the flush behind it
hands on the rest. -/
theorem run_block (h : deliver.IsOpen) (hp : '\n' ∉ st.pending) (block : List String) :
    ∃ (lines : List (List Char)) (rest : List Char), (∀ l ∈ lines, IsLine l) ∧ '\n' ∉ rest ∧
      st.pending ++ (String.join block).toList = lines.flatten ++ rest ∧
      (st.run (recorded deliver) (block.map .write)).pending = rest ∧
      (st.run (recorded deliver) (block.map .write)).record = st.record ++ allTaken lines ∧
      (st.run (recorded deliver) (block.map .write ++ [.flush])).record =
        st.record ++ allTaken (lines ++ remainder rest) := by
  obtain ⟨lines, rest, s, hlines, hrest, htext, hcall⟩ := call_write h st (String.join block)
  have hrun : st.run (recorded deliver) (block.map .write) =
      ⟨rest, st.record ++ allTaken lines, s⟩ := by rw [run_writes h hp, hcall]
  obtain ⟨s', hflush⟩ := call_flush h ⟨rest, st.record ++ allTaken lines, s⟩
  refine ⟨lines, rest, hlines, hrest, htext, by rw [hrun], by rw [hrun], ?_⟩
  rw [run_append, hrun, run_cons, run_nil, hflush]
  simp [record, allTaken]

/-- A second flush in a row does nothing. -/
theorem run_flush_flush (st : Stream σ) : st.run deliver [.flush, .flush] = st.run deliver [.flush] := by
  have hp : (st.run deliver [.flush]).pending = [] := pending_flush st
  calc st.run deliver [.flush, .flush] = (st.run deliver [.flush]).run deliver [.flush] := rfl
    _ = st.run deliver [.flush] := by
      rw [run_cons, run_nil, call, flush, hp, if_pos rfl, ← hp]

/-- What a sink that refuses nothing is handed, behind any calls: a block of writes hands on the lines,
with their line feeds, of what was pending and all that the block writes, and the flush behind it what
remains, if anything does; of this, the lines are handed on by the write that completes them. So it does
not matter how the block's text is cut. No line stays pending, nothing that was written is lost, comes
twice or out of order, and a second flush in a row hands on nothing. The record is of the sink's own
calls. -/
theorem blocks_hand_on_lines (h : deliver.IsOpen) (calls : List Call) (s : σ) :
    (∀ block : List String, ∃ (lines : List (List Char)) (rest : List Char),
      (∀ l ∈ lines, IsLine l) ∧ '\n' ∉ rest ∧
      (after deliver calls s).pending ++ (String.join block).toList = lines.flatten ++ rest ∧
      (after deliver (calls ++ block.map .write) s).record =
        (after deliver calls s).record ++ allTaken lines ∧
      (after deliver (calls ++ block.map .write) s).pending = rest ∧
      (after deliver (calls ++ block.map .write ++ [.flush]) s).record =
        (after deliver calls s).record ++ allTaken (lines ++ remainder rest)) ∧
    (∀ block other : List String, String.join block = String.join other →
      after deliver (calls ++ block.map .write) s = after deliver (calls ++ other.map .write) s) ∧
    handed (after deliver calls s).record ++ (after deliver calls s).pending = written calls ∧
    '\n' ∉ (after deliver calls s).pending ∧
    after deliver (calls ++ [.flush, .flush]) s = after deliver (calls ++ [.flush]) s ∧
    run deliver calls ⟨[], s⟩ = ⟨(after deliver calls s).pending, (after deliver calls s).sink.2⟩ := by
  have hp : '\n' ∉ (after deliver calls s).pending :=
    notMem_pending_run h List.not_mem_nil calls
  have hbehind (more : List Call) :
      after deliver (calls ++ more) s = (after deliver calls s).run (recorded deliver) more :=
    run_append calls more _
  refine ⟨fun block => ?_, fun block other heq => ?_, handed_after deliver calls s, hp, ?_,
    run_recorded calls ⟨[], [], s⟩⟩
  · obtain ⟨lines, rest, hlines, hrest, htext, hpending, hrecord, hflush⟩ := run_block h hp block
    refine ⟨lines, rest, hlines, hrest, htext, ?_, ?_, ?_⟩
    · rw [hbehind, hrecord]
    · rw [hbehind, hpending]
    · rw [List.append_assoc, hbehind, hflush]
  · rw [hbehind, hbehind, run_writes h hp, run_writes h hp, heq]
  · rw [hbehind, hbehind, run_flush_flush]

/-- Two ways of writing two lines and a rest behind a text that was flushed. -/
theorem blocks_hand_on_two_lines :
    Sink.IsOpen (fun _ n => (none, n + 1) : Sink Nat) ∧
      after (fun _ n => (none, n + 1)) ([.write "x", .flush] ++ ["a\nb", "\n", "c"].map .write) 0 =
        after (fun _ n => (none, n + 1)) ([.write "x", .flush] ++ ["a", "\nb\nc"].map .write) 0 ∧
      (after (fun _ n => (none, n + 1)) ([.write "x", .flush] ++ ["a", "\nb\nc"].map .write)
        0).record.map (·.text) = ["x", "a\n", "b\n"] := by
  have hopen : Sink.IsOpen (fun _ n => (none, n + 1) : Sink Nat) := fun _ _ => rfl
  exact ⟨hopen, (blocks_hand_on_lines hopen [.write "x", .flush] 0).2.1 _ _ (by decide +kernel),
    by decide +kernel⟩

end Stream

/-! Behind a refusal. What a write hands on are single lines, whatever is refused. But a refusal ends
the write, and the lines behind the refused one stay pending together: a flush that comes next hands
them on as one text. -/

/-- A text of one line at most: a line feed stands at its end or nowhere. -/
def OneLine (text : String) : Prop :=
  '\n' ∉ text.toList.dropLast

instance (text : String) : Decidable (OneLine text) :=
  inferInstanceAs (Decidable ('\n' ∉ text.toList.dropLast))

theorem IsLine.oneLine {text : List Char} (h : IsLine text) : OneLine (String.ofList text) := by
  obtain ⟨start, hstart, rfl⟩ := h
  simpa [OneLine] using hstart

theorem oneLine_of_notMem {text : List Char} (h : '\n' ∉ text) : OneLine (String.ofList text) := by
  intro hmem
  exact h ((List.dropLast_subset text) (by simpa using hmem))

/-- What was handed on last is a line that was refused. -/
def BehindRefusal (record : List Delivery) : Prop :=
  ∃ earlier d, record = earlier ++ [d] ∧ d.refusal.isSome ∧ IsLine d.text.toList

/-- Each text that was handed on is one line at most, or it came right behind a refused line. -/
def LineByLine (record : List Delivery) : Prop :=
  ∀ before d later, record = before ++ d :: later → OneLine d.text ∨ BehindRefusal before

theorem lineByLine_nil : LineByLine [] := by
  intro before d later h
  simp at h

theorem LineByLine.snoc {record : List Delivery} (h : LineByLine record) {d : Delivery}
    (hd : OneLine d.text ∨ BehindRefusal record) : LineByLine (record ++ [d]) := by
  intro before x later heq
  rcases List.eq_nil_or_concat later with rfl | ⟨more, last, rfl⟩
  · obtain ⟨rfl, hx⟩ := List.append_inj' heq rfl
    obtain rfl : d = x := List.singleton_inj.mp hx
    exact hd
  · have hsplit : record ++ [d] = (before ++ x :: more) ++ [last] := by simpa using heq
    exact h before x more (List.append_inj' hsplit rfl).1

/-- What a text does in the buffer: its lines are handed on one by one, and a line feed stays pending
behind a refusal only. -/
theorem lineByLine_forward {line text : List Char} (hline : '\n' ∉ line) (r : List Delivery × σ)
    (h : LineByLine r.1) :
    LineByLine (forward (recorded deliver) line text r).2.2.1 ∧
      ('\n' ∈ (forward (recorded deliver) line text r).2.1 →
        BehindRefusal (forward (recorded deliver) line text r).2.2.1) := by
  fun_induction forward (recorded deliver) line text r with
  | case1 line r => exact ⟨h, fun hmem => absurd (by simpa using hmem) hline⟩
  | case2 line rest r r' hsent ih =>
    have hsingle : IsLine (line.reverse ++ ['\n']) := ⟨line.reverse, by simpa using hline, rfl⟩
    refine ih List.not_mem_nil ?_
    rw [recorded_fst hsent]
    exact h.snoc (.inl hsingle.oneLine)
  | case3 line rest r fault r' hsent =>
    have hsingle : IsLine (line.reverse ++ ['\n']) := ⟨line.reverse, by simpa using hline, rfl⟩
    rw [recorded_fst hsent]
    exact ⟨h.snoc (.inl hsingle.oneLine), fun _ => ⟨r.1, _, rfl, rfl, by simpa using hsingle⟩⟩
  | case4 line c rest r hc ih => exact ih (by simpa using ⟨Ne.symm hc, hline⟩) h

namespace Stream

/-- A stream that hands on line by line, and whose pending text has a line feed behind a refused line
only. -/
structure Orderly (st : Stream (List Delivery × σ)) : Prop where
  record : LineByLine st.record
  pending : '\n' ∈ st.pending → BehindRefusal st.record

theorem Orderly.call {st : Stream (List Delivery × σ)} (h : st.Orderly) (c : Call) :
    (st.call (recorded deliver) c).2.Orderly := by
  cases c with
  | write text =>
    obtain ⟨hrecord, hpending⟩ :=
      @lineByLine_forward σ deliver [] (st.pending ++ text.toList) List.not_mem_nil st.sink h.record
    exact ⟨hrecord, hpending⟩
  | flush =>
    simp only [Stream.call, flush]
    split
    next => exact ⟨h.record, by simp⟩
    next =>
      rcases hsent : recorded deliver (String.ofList st.pending) st.sink with ⟨fault, sink⟩
      refine ⟨?_, by simp⟩
      simp only [Stream.record, recorded_fst hsent]
      by_cases hmem : '\n' ∈ st.pending
      · exact h.record.snoc (.inr (h.pending hmem))
      · exact h.record.snoc (.inl (oneLine_of_notMem hmem))

theorem orderly_after (deliver : Sink σ) (calls : List Call) (s : σ) :
    (after deliver calls s).Orderly := by
  suffices ∀ st : Stream (List Delivery × σ), st.Orderly → (st.run (recorded deliver) calls).Orderly
    from this _ ⟨lineByLine_nil, by simp⟩
  induction calls with
  | nil => exact fun _ h => h
  | cons c calls ih => exact fun st h => ih _ (h.call c)

/-- Whatever a sink refuses and whenever it does, each text that it is handed is one line at most or
comes right behind a line that it has refused. So a sink that refuses nothing gets nothing but single
lines, the last of which may lack its line feed. -/
theorem handed_line_by_line (deliver : Sink σ) (calls : List Call) (s : σ) :
    LineByLine (after deliver calls s).record ∧
      ((∀ d ∈ (after deliver calls s).record, d.refusal = none) →
        ∀ d ∈ (after deliver calls s).record, OneLine d.text) := by
  have h := (orderly_after deliver calls s).record
  refine ⟨h, fun hall d hd => ?_⟩
  obtain ⟨before, later, hrecord⟩ := List.append_of_mem hd
  refine (h before d later hrecord).resolve_right ?_
  rintro ⟨earlier, x, rfl, hx, -⟩
  simp [hall x (by simp [hrecord])] at hx

/-- A flush behind a refused line hands on two lines as one text. -/
theorem flush_hands_on_two_lines :
    ¬∀ (σ : Type) (deliver : Sink σ) (calls : List Call) (s : σ),
      ∀ d ∈ (after deliver calls s).record, OneLine d.text := by
  intro h
  have htexts : (after Receiver.take [.write "a\nb\nc", .flush] { refused := ["a\n"] }).record.map
      (·.text) = ["a\n", "b\nc"] := by decide +kernel
  have hmem : "b\nc" ∈ (after Receiver.take [.write "a\nb\nc", .flush]
      { refused := ["a\n"] }).record.map (·.text) := by simp [htexts]
  obtain ⟨d, hd, hd'⟩ := List.mem_map.mp hmem
  have hline := h _ Receiver.take [.write "a\nb\nc", .flush] { refused := ["a\n"] } d hd
  rw [hd'] at hline
  exact absurd hline (by decide +kernel)

end Stream

end Chunkwise.Output
