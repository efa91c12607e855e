import Chunkwise.Proofs.Importable

/-!
What comes out of a buffer. A text is handed on in batches: its lines, each with its line feed, and
then what remains. As long as nothing is refused, what a record says was sent is made of the batches
of each stretch of text between two flushes, in order.
-/
namespace Chunkwise

namespace Output

/-- The lines of a text, each with its line feed, and what remains behind the last. -/
def batches : List Char → List (List Char)
  | [] => []
  | c :: rest =>
    if c = '\n' then [c] :: batches rest
    else
      match batches rest with
      | [] => [[c]]
      | batch :: others => (c :: batch) :: others

/-- The batches are the text. -/
theorem flatten_batches (text : List Char) : (batches text).flatten = text := by
  fun_induction batches text with
  | case1 => rfl
  | case2 rest ih => simp [ih]
  | case3 c rest _ h ih => simp_all
  | case4 c rest _ batch others h ih => simp_all

/-- A line with its line feed. -/
def IsLine (text : List Char) : Prop :=
  ∃ start, '\n' ∉ start ∧ text = start ++ ['\n']

/-- The only batch of a text without a line feed, if there is any text. -/
def remainder (text : List Char) : List (List Char) :=
  if text = [] then [] else [text]

theorem batches_cons_line {line : List Char} (h : IsLine line) (rest : List Char) :
    batches (line ++ rest) = line :: batches rest := by
  obtain ⟨start, hstart, rfl⟩ := h
  induction start with
  | nil => simp [batches]
  | cons c start ih =>
    simp only [List.mem_cons, not_or] at hstart
    rw [List.cons_append, List.cons_append, batches, if_neg (Ne.symm hstart.1), ih hstart.2]

theorem batches_of_notMem {text : List Char} (h : '\n' ∉ text) :
    batches text = remainder text := by
  induction text with
  | nil => rfl
  | cons c text ih =>
    simp only [List.mem_cons, not_or] at h
    rw [batches, if_neg (Ne.symm h.1), ih h.2]
    cases text <;> rfl

/-- Lines and what remains behind them are the batches of the text that they make up. -/
theorem batches_eq {lines : List (List Char)} {rest : List Char} (hlines : ∀ l ∈ lines, IsLine l)
    (hrest : '\n' ∉ rest) : batches (lines.flatten ++ rest) = lines ++ remainder rest := by
  induction lines with
  | nil => exact batches_of_notMem hrest
  | cons line lines ih =>
    rw [List.flatten_cons, List.append_assoc, batches_cons_line (hlines _ (by simp)),
      ih fun l hl => hlines l (by simp [hl]), List.cons_append]

/-! What a record says, last first as the record is. -/

/-- The texts that were sent, in order. -/
def sent : List Mark → List String
  | [] => []
  | .sent text :: older => sent older ++ [text]
  | _ :: older => sent older

/-- What was written between flushes: the stretch under way and those before it, last first. -/
def stretches : List Mark → List Char × List (List Char)
  | [] => ([], [])
  | .wrote text :: older => ((stretches older).1 ++ text, (stretches older).2)
  | .flushed :: older => ([], (stretches older).1 :: (stretches older).2)
  | _ :: older => stretches older

/-- All stretches, in order. -/
def passages (record : List Mark) : List (List Char) :=
  ((stretches record).1 :: (stretches record).2).reverse

/-- The texts that come of stretches of text when nothing is refused. -/
def handedOn (texts : List (List Char)) : List String :=
  texts.flatMap fun text => (batches text).map String.ofList

/-- What was sent are the batches of the stretches that are over and the lines of the one under
way, of which the rest is pending. -/
def Faithful (record : List Mark) (pending : List Char) : Prop :=
  '\n' ∉ pending ∧ ∃ lines : List (List Char), (∀ l ∈ lines, IsLine l) ∧
    (stretches record).1 = lines.flatten ++ pending ∧
    sent record = handedOn (stretches record).2.reverse ++ lines.map String.ofList

theorem faithful_nil : Faithful [] [] :=
  ⟨by simp, [], by simp [stretches, sent, handedOn]⟩

@[simp] theorem handedOn_append (texts more : List (List Char)) :
    handedOn (texts ++ more) = handedOn texts ++ handedOn more :=
  List.flatMap_append

/-- When nothing is pending, all stretches have been handed on. -/
theorem Faithful.sent_eq {record : List Mark} (h : Faithful record []) :
    sent record = handedOn (passages record) := by
  obtain ⟨-, lines, hlines, htext, hsent⟩ := h
  have hbatches : batches (lines.flatten ++ []) = lines ++ remainder [] :=
    batches_eq hlines (by simp)
  simp only [passages, List.reverse_cons, handedOn_append, hsent, htext]
  simp only [handedOn, List.flatMap_cons, List.flatMap_nil, hbatches]
  simp [remainder]

@[simp] theorem sent_append (record older : List Mark) :
    sent (record ++ older) = sent older ++ sent record := by
  induction record with
  | nil => simp [sent]
  | cons mark record ih => cases mark <;> simp [sent, ih]

@[simp] theorem stretches_sent (texts : List String) (older : List Mark) :
    stretches (texts.map .sent ++ older) = stretches older := by
  induction texts with
  | nil => rfl
  | cons text texts ih => simpa [stretches] using ih

@[simp] theorem sent_map_sent (texts : List String) : sent (texts.map .sent) = texts.reverse := by
  induction texts with
  | nil => rfl
  | cons text texts ih => simp [sent, ih]

end Output

/-! The host's part of a world: who takes the output, and the record of it. -/

namespace World

namespace Audience

/-- The audience refuses nothing. -/
def IsOpen (a : Audience) : Prop :=
  ∀ text, (a.take text).1 = none

theorem take_fault (text other : String) (a : Audience) :
    ((a.take text).2.take other).1 = (a.take other).1 := by
  cases a with
  | receiver r =>
    simp only [take, Output.Receiver.take]
    split <;> split <;> simp_all
  | stream | standard => rfl

/-- A refusal leaves the audience as it was. -/
theorem take_of_refused {text : String} {a : Audience} {fault : Fault}
    (h : (a.take text).1 = some fault) : (a.take text).2 = a := by
  cases a with
  | receiver r =>
    simp only [take, Output.Receiver.take] at h ⊢
    split at h <;> simp_all
  | stream | standard => simp [take] at h

/-- The audience when texts have been sent to it. -/
def hear (a : Audience) (texts : List String) : Audience :=
  texts.foldl (fun a text => (a.take text).2) a

@[simp] theorem hear_nil (a : Audience) : a.hear [] = a := rfl

@[simp] theorem hear_append (a : Audience) (texts more : List String) :
    a.hear (texts ++ more) = (a.hear texts).hear more :=
  List.foldl_append

theorem IsOpen.hear {a : Audience} (h : a.IsOpen) (texts : List String) : (a.hear texts).IsOpen := by
  induction texts generalizing a with
  | nil => exact h
  | cons text texts ih => exact ih fun other => by rw [take_fault, h]

theorem isOpen_receiver {r : Output.Receiver} (h : r.refused = []) :
    (Audience.receiver r).IsOpen := by
  intro text
  simp [take, Output.Receiver.take, h]

/-- A receiver that refuses nothing has got all that was sent to it. -/
theorem hear_receiver {r : Output.Receiver} (h : r.refused = []) (texts : List String) :
    (Audience.receiver r).hear texts =
      .receiver { r with received := r.received ++ texts } := by
  induction texts generalizing r with
  | nil => simp [Audience.hear]
  | cons text texts ih =>
    have htake : ((Audience.receiver r).take text).2 =
        .receiver { r with received := r.received ++ [text] } := by
      simp [take, Output.Receiver.take, h]
    have hrest := @ih { r with received := r.received ++ [text] } h
    simp only [Audience.hear, List.foldl_cons, htake] at hrest ⊢
    simp [hrest]

end Audience

/-- The record has grown by some marks, and the audience has got what they say was sent. -/
structure Hears (w w' : World) (marks : List Output.Mark) : Prop where
  record : w'.record = marks ++ w.record
  audience : w'.host.audience = w.host.audience.hear (Output.sent marks)

theorem Hears.refl (w : World) : Hears w w [] :=
  ⟨rfl, rfl⟩

theorem Hears.trans {w w' w'' : World} {marks more : List Output.Mark} (h : Hears w w' marks)
    (h' : Hears w' w'' more) : Hears w w'' (more ++ marks) :=
  ⟨by rw [h'.record, h.record, List.append_assoc],
    by rw [h'.audience, h.audience, Output.sent_append, Audience.hear_append]⟩

/-- Nothing was sent and nothing noted of output. -/
abbrev Silent (w w' : World) : Prop := Hears w w' []

theorem Silent.of_eq {w w' : World} (hr : w'.record = w.record)
    (ha : w'.host.audience = w.host.audience) : Silent w w' :=
  ⟨hr, ha⟩

theorem Hears.isOpen {w w' : World} {marks : List Output.Mark} (h : Hears w w' marks)
    (hopen : w.host.audience.IsOpen) : w'.host.audience.IsOpen := by
  rw [h.audience]
  exact hopen.hear _

/-- A mark that nothing is sent by. -/
theorem hears_mark {m : Output.Mark} (h : Output.sent [m] = []) (w : World) :
    Hears w (w.mark m) [m] :=
  ⟨rfl, by rw [h]; rfl⟩

theorem send_open {w : World} (h : w.host.audience.IsOpen) (text : String) :
    (w.send text).1 = none ∧ Hears w (w.send text).2 [.sent text] := by
  have htake := h text
  unfold send
  rcases ht : w.host.audience.take text with ⟨_ | fault, audience⟩
  · refine ⟨rfl, rfl, ?_⟩
    simp [mark, Output.sent, Audience.hear, ht]
  · simp [ht] at htake

theorem hears_send (text : String) (w : World) :
    ∃ texts : List String, Hears w (w.send text).2 (texts.map .sent) := by
  unfold send
  rcases ht : w.host.audience.take text with ⟨_ | fault, audience⟩
  · exact ⟨[text], rfl, by simp [mark, Output.sent, Audience.hear, ht]⟩
  · have hsame := Audience.take_of_refused (by rw [ht])
    rw [ht] at hsame
    exact ⟨[], rfl, hsame⟩

end World

namespace Output

/-- Whatever a text does in the buffer, nothing but its sending changes. -/
theorem hears_forward (line text : List Char) (w : World) :
    ∃ texts : List String, World.Hears w (forward World.send line text w).2.2 (texts.map .sent) := by
  fun_induction forward World.send line text w with
  | case1 => exact ⟨[], .refl _⟩
  | case2 line rest w w' hsend ih =>
    obtain ⟨texts, h⟩ := ih
    obtain ⟨first, hfirst⟩ := World.hears_send (String.ofList (line.reverse ++ ['\n'])) w
    rw [hsend] at hfirst
    exact ⟨texts ++ first, by simpa using hfirst.trans h⟩
  | case3 line rest w fault w' hsend =>
    obtain ⟨texts, h⟩ := World.hears_send (String.ofList (line.reverse ++ ['\n'])) w
    rw [hsend] at h
    exact ⟨texts, h⟩
  | case4 _ _ _ _ _ ih => exact ih

/-- When nothing is refused, the lines of a text are sent and the rest stays behind. -/
theorem forward_open {w : World} (hopen : w.host.audience.IsOpen) {line : List Char}
    (hline : '\n' ∉ line) (text : List Char) :
    ∃ (lines : List (List Char)) (rest : List Char) (w' : World), (∀ l ∈ lines, IsLine l) ∧
      '\n' ∉ rest ∧ line.reverse ++ text = lines.flatten ++ rest ∧
      forward World.send line text w = (none, rest, w') ∧
      World.Hears w w' ((lines.map String.ofList).reverse.map .sent) := by
  induction text generalizing line w with
  | nil => exact ⟨[], line.reverse, w, by simpa [forward] using ⟨hline, World.Hears.refl w⟩⟩
  | cons c text ih =>
    by_cases hc : c = '\n'
    · subst hc
      have hsend := World.send_open hopen (String.ofList (line.reverse ++ ['\n']))
      rcases hs : w.send (String.ofList (line.reverse ++ ['\n'])) with ⟨fault, w₁⟩
      simp only [hs] at hsend
      obtain ⟨rfl, hears⟩ := hsend
      obtain ⟨lines, rest, w', hlines, hrest, htext, hforward, hears'⟩ :=
        @ih w₁ (hears.isOpen hopen) [] (by simp)
      refine ⟨(line.reverse ++ ['\n']) :: lines, rest, w', ?_, hrest, ?_, ?_, ?_⟩
      · simp only [List.mem_cons, forall_eq_or_imp]
        exact ⟨⟨line.reverse, by simpa using hline, rfl⟩, hlines⟩
      · simpa using htext
      · rw [forward, if_pos rfl, hs]
        exact hforward
      · simpa using hears.trans hears'
    · obtain ⟨lines, rest, w', hlines, hrest, htext, hforward, hears⟩ :=
        @ih w hopen (c :: line) (by simpa using ⟨Ne.symm hc, hline⟩)
      refine ⟨lines, rest, w', hlines, hrest, by simpa using htext, ?_, hears⟩
      rw [forward, if_neg hc, hforward]

end Output

end Chunkwise
