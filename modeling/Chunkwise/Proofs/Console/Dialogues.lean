import Chunkwise.Console.Program
import Chunkwise.Proofs.Session.Renewal.Series
import Chunkwise.Proofs.Text.Pieces

/-!
A dialogue is a fold over the lines of its input. The lines before the one that says to stop are
evaluated one after another in one session, and the session is closed in the end.
-/
namespace Chunkwise.Text

theorem trimEnd_append {s : List Char} (t : List Char) (hs : ∀ c ∈ s, isBlank c = true) :
    trimEnd (t ++ s) = trimEnd t := by
  rw [trimEnd, List.reverse_append,
    List.dropWhile_append_of_pos fun c hc => hs c (List.mem_reverse.1 hc), trimEnd]

theorem trim_append_blank {s : List Char} (t : List Char) (hs : ∀ c ∈ s, isBlank c = true) :
    trim (t ++ s) = trim t := by
  unfold trim trimStart
  rw [List.dropWhile_append]
  split
  next h =>
    have hblank : s.dropWhile isBlank = [] := List.dropWhile_eq_nil_iff.2 fun c hc => hs c hc
    rw [hblank, List.isEmpty_iff.1 h]
  next => exact trimEnd_append _ hs

end Chunkwise.Text

namespace Chunkwise.Console
open Chunkwise.Text

/-- The terminal when a program goes on or is over. -/
def Step.terminal : Step → Terminal
  | .goOn t | .over _ t => t

/-- A program that ends with a refusal. -/
def Ending.isRefused : Ending → Bool
  | .refused _ => true
  | .returned | .exited _ | .unfinished => false

variable {raw : List Char} {lines : List (List Char)} {t : Terminal}

/-! Lines. -/

theorem trim_withoutEnd (raw : List Char) : trim (withoutEnd raw) = trim raw := by
  let isEnd : Char → Bool := fun c => c == '\n' || c == '\r'
  have hsplit : withoutEnd raw ++ (raw.reverse.takeWhile isEnd).reverse = raw := by
    rw [withoutEnd, ← List.reverse_append, List.takeWhile_append_dropWhile, List.reverse_reverse]
  have hblank : ∀ c ∈ (raw.reverse.takeWhile isEnd).reverse, isBlank c = true := by
    intro c hc
    have hend : isEnd c = true := List.mem_takeWhile_imp (List.mem_reverse.1 hc)
    simp only [isEnd, Bool.or_eq_true, beq_iff_eq] at hend
    rcases hend with rfl | rfl <;> rfl
  calc trim (withoutEnd raw) = trim (withoutEnd raw ++ _) := (trim_append_blank _ hblank).symm
    _ = trim raw := by rw [hsplit]

namespace Dialogue

/-- The lines of an input are all of it. -/
theorem flatten_inputLines (input : List Char) : (inputLines input).flatten = input := by
  induction input with
  | nil => rfl
  | cons c rest ih =>
    unfold inputLines
    split
    · simp [ih]
    · split
      next line more h => simpa [h] using ih
      next h => simpa [h] using ih

/-- The lines that are taken: those before the first that says to stop. -/
def heard (lines : List (List Char)) : List (List Char) :=
  lines.takeWhile fun raw => trim raw ≠ "exit".toList

/-- The chunks among lines: what is not blank, without the line ends. -/
def chunks (lines : List (List Char)) : List String :=
  (lines.filter fun raw => trim raw ≠ []).map fun raw => String.ofList (withoutEnd raw)

end Dialogue

/-! Exchanges. -/

/-- What a terminal shows of entries of the journal. -/
def Terminal.shown (t : Terminal) (entries : List World.Entry) : String :=
  String.join (entries.map fun entry =>
    if t.isVerbose then entry.line ++ "\n"
    else if entry.level.isLoud then entry.message ++ "\n"
    else "")

theorem foldl_showEntry (entries : List World.Entry) (t : Terminal) :
    entries.foldl Terminal.showEntry t = { t with errors := t.errors ++ t.shown entries } := by
  induction entries generalizing t with
  | nil => simp [Terminal.shown]
  | cons entry rest ih =>
    rw [List.foldl_cons, ih]
    simp only [Terminal.showEntry, Terminal.complain, Terminal.shown, List.map_cons,
      String.join_cons]
    split
    · simp [String.append_assoc, *]
    · split <;> simp [String.append_assoc, *]

/-- A chunk of a dialogue and the session that is asked to evaluate it. -/
structure Exchange where
  chunk : String
  session : Session

namespace Exchange

/-- How the evaluation ends, and the session afterwards. -/
def served (e : Exchange) : Option (Except Fault Value) × Session :=
  e.session.serve (.evaluate e.chunk)

/-- What the caller is told of it. -/
def account (e : Exchange) : Option (Except Fault Report.Summary) :=
  e.served.1.map Session.account

/-- What came into the journal meanwhile. -/
def journal (e : Exchange) : List World.Entry :=
  e.served.2.world.journal.drop e.session.world.journal.length

/-- What is written to the standard error on account of it. -/
def complaint (e : Exchange) : String :=
  match e.account with
  | some (.ok summary) => if summary.status = "error" then summary.text ++ "\n" else ""
  | some (.error fault) => "Error: " ++ fault.safeText ++ "\n"
  | none => ""

/-- It comes to an end, and what leaves it instead of being accounted for, if anything, is an ordinary
fault that can be told of and that is not taken for the end of the input. -/
def goesOn (e : Exchange) : Bool :=
  match e.account with
  | some (.ok _) => true
  | some (.error fault) =>
    fault.kind.isOrdinary && !fault.kind.isA .eofError && fault.text.toOption.isSome
  | none => false

/-- Only an ordinary fault leaves it instead of being accounted for, if any does. -/
def isContained (e : Exchange) : Bool :=
  match e.account with
  | some (.error fault) => fault.kind.isOrdinary
  | _ => true

/-- Whatever a chunk has raised, be it the fault that ends an input or one that asks to stop the
program, is told in one account, and the dialogue goes on. -/
theorem goesOn_of_executionFailure {e : Exchange} {message : String} {inner : Fault}
    {mark : Option Report.Mark}
    (h : e.served.1 = some (.error (.executionFailure message inner mark))) :
    e.goesOn ∧ e.complaint =
      Report.Summary.text { status := "error", message := .str message, mark := mark } ++ "\n" := by
  have haccount : e.account =
      some (.ok { status := "error", message := .str message, mark := mark }) := by
    rw [account, h, Option.map_some, Session.account_executionFailure]
  simp [goesOn, complaint, haccount]

end Exchange

theorem evaluate_eq (chunk : String) (t : Terminal) :
    let e : Exchange := ⟨chunk, t.session⟩
    t.evaluate chunk = (e.account,
      { t with session := e.served.2, errors := t.errors ++ t.shown e.journal }) := by
  simp only [Terminal.evaluate, Terminal.act, foldl_showEntry]
  rfl

namespace Dialogue

/-- The exchange that a line leads to, if it is not blank. -/
def exchange (raw : List Char) (t : Terminal) : Exchange :=
  ⟨String.ofList (withoutEnd raw), (t.print prompt).session⟩

/-- A line that does not say to stop: a prompt, and the exchange if it is not blank. -/
def hear (t : Terminal) (raw : List Char) : Terminal :=
  if trim raw = [] then t.print prompt
  else
    let e := exchange raw t
    { t with
      session := e.served.2
      errors := t.errors ++ t.shown e.journal ++ e.complaint }

/-- The exchanges that lines lead to, in order. -/
def exchanges : List (List Char) → Terminal → List Exchange
  | [], _ => []
  | raw :: rest, t =>
    if trim raw = [] then exchanges rest (hear t raw)
    else exchange raw t :: exchanges rest (hear t raw)

theorem chunk_exchanges (lines : List (List Char)) (t : Terminal) :
    (exchanges lines t).map (·.chunk) = chunks lines := by
  induction lines generalizing t with
  | nil => rfl
  | cons raw rest ih =>
    unfold exchanges
    by_cases hblank : trim raw = []
    · simp [hblank, ih, chunks]
    · simp [hblank, ih, chunks, exchange]

theorem isVerbose_hear (t : Terminal) (raw : List Char) : (hear t raw).isVerbose = t.isVerbose := by
  unfold hear
  split <;> rfl

/-- What the standard error receives: of each exchange the journal as far as it is shown, and then
what the caller has to complain of. -/
theorem errors_foldl_hear (lines : List (List Char)) (t : Terminal) :
    (lines.foldl hear t).errors = t.errors ++
      String.join ((exchanges lines t).map fun e => t.shown e.journal ++ e.complaint) := by
  induction lines generalizing t with
  | nil => simp [exchanges]
  | cons raw rest ih =>
    have hshown (entries : List World.Entry) : (hear t raw).shown entries = t.shown entries := by
      rw [Terminal.shown, isVerbose_hear]
      rfl
    rw [List.foldl_cons, ih]
    simp only [hshown]
    by_cases hblank : trim raw = []
    · have herrors : (hear t raw).errors = t.errors := by
        rw [hear, if_pos hblank]
        rfl
      rw [herrors, exchanges, if_pos hblank]
    · have herrors : (hear t raw).errors =
          t.errors ++ t.shown (exchange raw t).journal ++ (exchange raw t).complaint := by
        rw [hear, if_neg hblank]
      rw [herrors, exchanges, if_neg hblank]
      simp only [List.map_cons, String.join_cons, String.append_assoc]

/-! The loop. -/

theorem Turn.of_eq (raw : List Char) : Turn.of raw =
    if trim raw = [] then .blank
    else if trim raw = "exit".toList then .exit
    else .chunk (String.ofList (withoutEnd raw)) := by
  simp only [Turn.of, trim_withoutEnd]

/-- Taking a line that does not say to stop goes on after it. -/
theorem take_eq_goOn (hexit : trim raw ≠ "exit".toList)
    (hgo : trim raw ≠ [] → (exchange raw t).goesOn) :
    take raw (t.print prompt) = .goOn (hear t raw) := by
  by_cases hblank : trim raw = []
  · simp only [take, Turn.of_eq, hear, if_pos hblank]
  · have hgo := hgo hblank
    have hevaluate : (t.print prompt).evaluate (String.ofList (withoutEnd raw)) =
        ((exchange raw t).account, { t with
          session := (exchange raw t).served.2
          errors := t.errors ++ t.shown (exchange raw t).journal }) :=
      evaluate_eq _ _
    simp only [take, Turn.of_eq, hear, if_neg hblank, if_neg hexit, takeChunk, hevaluate]
    unfold Exchange.goesOn at hgo
    unfold Exchange.complaint
    rcases haccount : (exchange raw t).account with _ | fault | summary
    · simp [haccount] at hgo
    · simp only [haccount, Bool.and_eq_true, Bool.not_eq_true'] at hgo
      obtain ⟨⟨hordinary, heof⟩, htext⟩ := hgo
      rcases htold : fault.text with worse | text
      · simp [htold, Except.toOption] at htext
      · simp [escape, heof, hordinary, htold, Fault.safeText, Terminal.complain, String.append_assoc]
    · simp only [Terminal.report]
      split <;> simp [Terminal.complain, String.append_assoc]

theorem print_empty (t : Terminal) : t.print "" = t := by
  simp [Terminal.print, Session.mapWorld]

/-- A dialogue whose exchanges go on takes all lines before the one that says to stop, and then it
is closed. It is the loop that says farewell, unless it was told to stop. -/
theorem run_eq_close (lines : List (List Char)) (t : Terminal)
    (hgo : ∀ e ∈ exchanges (heard lines) t, e.goesOn) :
    run lines t = close ((((heard lines).foldl hear t).print prompt).print
      (if heard lines = lines then farewell else "")) := by
  induction lines generalizing t with
  | nil => rfl
  | cons raw rest ih =>
    by_cases hexit : trim raw = "exit".toList
    · have hheard : heard (raw :: rest) = [] := by simp [heard, hexit]
      have htake : take raw (t.print prompt) = stop (close (t.print prompt)) := by
        simp [take, Turn.of_eq, hexit]
      rw [run, htake, hheard, if_neg (by simp), print_empty]
      rfl
    · have hheard : heard (raw :: rest) = raw :: heard rest :=
        List.takeWhile_cons_of_pos (by simpa using hexit)
      rw [hheard] at hgo ⊢
      have hfirst (hblank : trim raw ≠ []) : (exchange raw t).goesOn :=
        hgo _ (by simp [exchanges, hblank])
      have hrest : ∀ e ∈ exchanges (heard rest) (hear t raw), e.goesOn := by
        intro e he
        refine hgo e ?_
        unfold exchanges
        split
        · exact he
        · exact List.mem_cons_of_mem _ he
      rw [run, take_eq_goOn hexit hfirst]
      simp only [ih _ hrest, List.foldl_cons, List.cons.injEq, true_and]

/-! The session. -/

/-- What goes on is no fault that stops everything. -/
theorem result_of_goesOn {e : Exchange} (h : e.goesOn) :
    ∃ result, e.served.1 = some result ∧
      ∀ fault, result = .error fault → Session.isFatal fault = false := by
  unfold Exchange.goesOn Exchange.account at h
  rcases hresult : e.served.1 with _ | result
  · simp [hresult] at h
  · refine ⟨result, rfl, ?_⟩
    rintro fault rfl
    by_contra hfatal
    obtain ⟨hown, hordinary⟩ := Session.account_of_isFatal (by simpa using hfatal)
    simp [hresult, Session.account, hown, hordinary] at h

/-- Between two lines the session is at rest, and it has been asked for all chunks before. -/
structure Stands (settings : Settings) (world : World) (asked : List String) (s : Session) :
    Prop where
  between : Session.Between settings world s
  requests : s.requests = asked.map .evaluate

variable {settings : Settings} {world : World} {asked : List String}

theorem Stands.print (h : Stands settings world asked t.session) (text : String) :
    Stands settings world asked (t.print text).session :=
  ⟨h.between.outside _, h.requests⟩

theorem Stands.served {e : Exchange} (h : Stands settings world asked e.session) (hgo : e.goesOn) :
    Stands settings world (asked ++ [e.chunk]) e.served.2 := by
  obtain ⟨result, hresult, hfatal⟩ := result_of_goesOn hgo
  refine ⟨h.between.serve hresult hfatal, ?_⟩
  rw [Exchange.served, Session.requests_serve, h.requests, List.map_append]
  rfl

theorem Stands.foldl_hear (h : Stands settings world asked t.session) (lines : List (List Char))
    (hgo : ∀ e ∈ exchanges lines t, e.goesOn) :
    Stands settings world (asked ++ chunks lines) (lines.foldl hear t).session := by
  induction lines generalizing t asked with
  | nil => simpa [chunks] using h
  | cons raw rest ih =>
    rw [exchanges] at hgo
    rw [List.foldl_cons]
    by_cases hblank : trim raw = []
    · rw [if_pos hblank] at hgo
      have hheard : Stands settings world asked (hear t raw).session := by
        rw [hear, if_pos hblank]
        exact h.print prompt
      simpa [chunks, hblank] using ih hheard hgo
    · rw [if_neg hblank, List.forall_mem_cons] at hgo
      have hheard : Stands settings world (asked ++ [(exchange raw t).chunk])
          (hear t raw).session := by
        rw [hear, if_neg hblank]
        exact Stands.served (h.print prompt) hgo.1
      simpa [chunks, hblank, exchange] using ih hheard hgo.2

/-- The session of a dialogue is new when the dialogue begins. -/
theorem stands_of_opening {s : Surroundings} (h : Program.opening s = .goOn t) :
    ∃ settings world, Stands settings world [] t.session := by
  have hset {settings : Settings} {old : Terminal} (hup : old.setUp settings = .ok t) :
      ∃ settings world, Stands settings world [] t.session := by
    unfold Terminal.setUp at hup
    split at hup
    · contradiction
    · cases hup
      exact ⟨settings, _, Session.between_fresh _ _, rfl⟩
  have hfile (path : String) (file : FileEntry) (old : Terminal) :
      Program.runFile path file old ≠ .goOn t := by
    unfold Program.runFile
    repeat' split
    all_goals simp
  have hsession {settings : Settings} {old : Terminal} {next : Terminal → Step}
      (hnext : ∀ t', next t' = .goOn t → t' = t)
      (hwith : Program.withSession settings old next = .goOn t) :
      ∃ settings world, Stands settings world [] t.session := by
    unfold Program.withSession at hwith
    split at hwith
    · contradiction
    next hup => exact hset (hnext _ hwith ▸ hup)
  unfold Program.opening at h
  dsimp only at h
  split at h
  · contradiction
  · contradiction
  · unfold Program.start at h
    split at h
    · contradiction
    · split at h
      · exact hsession (fun t' ht => by simpa using ht) h
      · exact hsession (fun t' ht => by simpa using ht) h
      · exact hsession (fun t' ht => absurd ht (hfile _ _ t')) h

end Dialogue

end Chunkwise.Console
