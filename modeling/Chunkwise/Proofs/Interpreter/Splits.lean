import Chunkwise.Interpreter.Basic
import Chunkwise.Proofs.Execution.Splits

/-!
Chunks in two. A chunk ends like its first statements and the others as two chunks of one
interpreter: with the same outcome, the same names and objects behind them and the same text
written. Three things set them apart. A chunk tells its names the module of the built-in names when
it starts, so the first part must not take that away. What it wrote is handed on when it ends, so
that must not be refused. And a text that ends with a semicolon gives no value, so both texts that
end with the last statement must do so, or neither.
-/
namespace Chunkwise.Interpreter
open Execution Execution.Eval Code

/-- What a chunk comes to: its outcome, the interpreter and the world that it leaves. -/
abbrev End := Except Fault Value × Interpreter × World

/-- Two chunks, the second only if the first gives a value. -/
def runBoth (i : Interpreter) (file : Datum) (source : String) (file' : Datum) (source' : String)
    (w : World) : Option End :=
  match i.run file source w with
  | some (.ok _, i', w') => i'.run file' source' w'
  | ended => ended

/-- Two ends that nobody can tell apart, unless by the places of code that faults and functions
remember. -/
structure EndsAlike (x y : End) : Prop where
  outcome : unplacedResult x.1 = unplacedResult y.1
  interpreter : x.2.1 = y.2.1
  names : x.2.1.names x.2.2 = y.2.1.names y.2.2
  objects : x.2.2.store.unplaced = y.2.2.store.unplaced
  modules : x.2.2.modules = y.2.2.modules
  written : String.join (Output.sent x.2.2.record) = String.join (Output.sent y.2.2.record)

/-- A text has these statements, whatever file it stands in. -/
def Reads (source : String) (statements : List Stmt) : Prop :=
  ∀ file, readSource file source = .ok statements

/-- A text has the statements of two others, one after the other, wherever they stand. None of the
statements is refused. -/
structure Parts (whole source source' : String) (first rest : List Stmt) : Prop where
  reads : ∃ statements, Reads whole statements ∧
    statements.map Stmt.unplaced = (first ++ rest).map Stmt.unplaced
  reads_first : Reads source first
  reads_rest : Reads source' rest
  first_ne : first ≠ []
  rest_ne : rest ≠ []
  first_ok : refusal? true first = none
  rest_ok : refusal? true rest = none

variable {i : Interpreter} {w : World} {file : Datum} {name source : String}
  {statements : List Stmt}

/-- What is left when a chunk has ended. -/
def endOf (i : Interpreter) (x : Except Raised Value × Scene) : End :=
  ((closing x.1 x.2).1, i.leftBy (closing x.1 x.2).2, (closing x.1 x.2).2.world)

theorem run_eq (hname : fileName file = .ok name)
    (hread : readSource name source = .ok statements) :
    i.run file source w =
      ((evalChunk i.globals name (isQuiet source) statements).ends
        ((i.scene w).opens (.source source))).map (endOf i) := by
  have hsource : evalSource i.globals file source =
      evalChunk i.globals name (isQuiet source) statements := by
    unfold evalSource
    rw [hname]
    change (Eval.ofExcept (readSource name source) >>=
      evalChunk i.globals name (isQuiet source)) = _
    rw [hread]
    rfl
  rw [run, finish_runChunk, hsource, Option.map_map]
  rfl

theorem hearing_scene (h : w.host.audience.IsOpen) : (i.scene w).Hearing :=
  ⟨by simp [Buffered, scene], h⟩

theorem alike_opens {s : Scene} (h : s.Hearing) (writer : Output.Writer) :
    s.Alike (s.opens writer) :=
  ⟨rfl, rfl, rfl, h, ⟨h.buffered, h.isOpen⟩⟩

theorem EndsAlike.trans {x y z : End} (h : EndsAlike x y) (h' : EndsAlike y z) : EndsAlike x z where
  outcome := h.outcome.trans h'.outcome
  interpreter := h.interpreter.trans h'.interpreter
  names := h.names.trans h'.names
  objects := h.objects.trans h'.objects
  modules := h.modules.trans h'.modules
  written := h.written.trans h'.written

/-- Chunks that end alike leave ends that nobody can tell apart, whatever was pending before. -/
theorem endsAlike_endOf {x y : Except Raised Value × Scene} (pending : List Char)
    (h : Same (· = ·) x.1 y.1) (hs : x.2.Alike y.2) :
    EndsAlike (i.endOf x) ({ i with pending := pending }.endOf y) := by
  obtain ⟨houtcome, hscene⟩ := alike_closing h hs
  have hpending := (closing_hearing x.1 hs.hearing).2
  have hpending' := (closing_hearing y.1 hs.hearing').2
  refine ⟨houtcome, ?_, ?_, hscene.store, hscene.modules, ?_⟩
  · simp [endOf, leftBy, hpending, hpending']
  · have hnames := congrArg (·.names i.globals) hscene.store
    simp only [Store.names_unplaced] at hnames
    exact hnames
  · have hsaid := hscene.said
    simpa [endOf, Scene.said, hpending, hpending', ← String.toList_inj, List.flatMap_def]
      using hsaid

theorem rel_endOf {ended ended' : Option (Except Raised Value × Scene)} (pending : List Char)
    (h : Option.Rel (fun x y => Same (· = ·) x.1 y.1 ∧ x.2.Alike y.2) ended ended') :
    Option.Rel EndsAlike (ended.map i.endOf) (ended'.map { i with pending := pending }.endOf) := by
  cases h with
  | none => exact .none
  | some h => exact .some (endsAlike_endOf pending h.1 h.2)

theorem rel_trans {end₁ end₂ end₃ : Option End} (h : Option.Rel EndsAlike end₁ end₂)
    (h' : Option.Rel EndsAlike end₂ end₃) : Option.Rel EndsAlike end₁ end₃ := by
  cases h with
  | none => exact h'
  | some h =>
    cases h' with
    | some h' => exact .some (h.trans h')

/-- An interpreter goes on in the scene that its last chunk has left. -/
theorem scene_leftBy {s : Scene} (h : s.pending = some []) : (i.leftBy s).scene s.world = s := by
  obtain ⟨pending, world⟩ := s
  obtain rfl : pending = some [] := h
  rfl

/-- The statements of a text that can be read. -/
def statementsOf (source : String) : List Stmt :=
  (readSource "" source).toOption.getD []

theorem reads_statementsOf {source : String}
    (h : (readSource "" source).toOption.isSome = true) : Reads source (statementsOf source) := by
  intro file
  unfold statementsOf readSource at *
  by_cases hnull : source.toList.contains '\x00' = true
  · rw [if_pos hnull] at h
    cases h
  · rw [if_neg hnull] at h
    rw [if_neg hnull, if_neg hnull]
    cases hparse : parse source.toList with
    | ok statements => rfl
    | error c =>
      rw [hparse] at h
      cases h

/-- An interpreter of a world in which nothing has happened yet. -/
def fresh : Interpreter × World :=
  make {}

/-- What can be run can be looked at. -/
theorem keepsBuiltins_of_all {body : List Stmt}
    (h : (((runStatements i.globals name true body).ends (i.scene w)).all fun x =>
      (x.2.store.names i.globals).has "__builtins__") = true) :
    KeepsBuiltins i.globals name body (i.scene w) := by
  intro s hs
  rw [hs] at h
  exact h

/-- The statements of `x=1`. -/
def assignment : List Stmt :=
  [.assign ⟨1, 0⟩ [.name ⟨1, 0⟩ "x"] (.literal ⟨1, 2⟩ (.int 1))]

/-- The statements of `x`. -/
def inquiry : List Stmt :=
  [.expr ⟨1, 0⟩ (.name ⟨1, 0⟩ "x")]

theorem parts_assignment : Parts "x=1;x" "x=1" "x" assignment inquiry where
  reads := ⟨assignment ++ [.expr ⟨1, 4⟩ (.name ⟨1, 4⟩ "x")], fun _ => rfl, rfl⟩
  reads_first := fun _ => rfl
  reads_rest := fun _ => rfl
  first_ne := by simp [assignment]
  rest_ne := by simp [inquiry]
  first_ok := by decide
  rest_ok := by decide

theorem parts_semicolon : Parts "x=1;x;" "x=1" "x" assignment inquiry :=
  { parts_assignment with
    reads := ⟨assignment ++ [.expr ⟨1, 4⟩ (.name ⟨1, 4⟩ "x")], fun _ => rfl, rfl⟩ }

/-- Ends that nobody can tell apart give one value, or none. -/
theorem value_of_rel {end₁ end₂ : Option End} (h : Option.Rel EndsAlike end₁ end₂) :
    end₁.map (·.1.toOption) = end₂.map (·.1.toOption) := by
  cases h with
  | none => rfl
  | @some x y h =>
    have houtcome := h.outcome
    obtain ⟨_ | _, _⟩ := x <;> obtain ⟨_ | _, _⟩ := y
    · rfl
    · cases houtcome
    · cases houtcome
    · exact congrArg (fun v => some (some v)) (Except.ok.inj houtcome)

theorem names_of_rel {end₁ end₂ : Option End} (h : Option.Rel EndsAlike end₁ end₂) :
    end₁.map (fun x => x.2.1.names x.2.2) = end₂.map fun x => x.2.1.names x.2.2 := by
  cases h with
  | none => rfl
  | some h => exact congrArg some h.names

/-- `y = __builtins__ is None` and `y`. -/
def isQuestion : List Stmt → Bool
  | [.assign _ [.name _ "y"] (.compare _ (.name _ "__builtins__") [.isSame] [.literal _ .null]),
      .expr _ (.name _ "y")] => true
  | _ => false

/-- `del __builtins__`. -/
def isRemoval : Stmt → Bool
  | .delete _ [.name _ "__builtins__"] => true
  | _ => false

/-- `print(end="a")`. -/
def isPrint : Stmt → Bool
  | .expr _ (.call _ (.name _ "print") [] [⟨_, "end"⟩] [.literal _ (.str "a")]) => true
  | _ => false

theorem unplaced_question {statements statements' : List Stmt} (h : isQuestion statements = true)
    (h' : isQuestion statements' = true) :
    statements.map Stmt.unplaced = statements'.map Stmt.unplaced := by
  unfold isQuestion at h h'
  split at h <;> split at h' <;> first
    | rfl
    | contradiction

theorem unplaced_removal {s s' : Stmt} (h : isRemoval s = true) (h' : isRemoval s' = true) :
    s.unplaced = s'.unplaced := by
  unfold isRemoval at h h'
  split at h <;> split at h' <;> first
    | rfl
    | contradiction

theorem unplaced_print {s s' : Stmt} (h : isPrint s = true) (h' : isPrint s' = true) :
    s.unplaced = s'.unplaced := by
  unfold isPrint at h h'
  split at h <;> split at h' <;> first
    | rfl
    | contradiction

/-- A text asks the question behind one statement. -/
theorem parts_question {test : Stmt → Bool} {whole source : String}
    (htest : ∀ s s', test s = true → test s' = true → s.unplaced = s'.unplaced)
    (hreads : ([whole, source, "y = __builtins__ is None\ny"].all fun text =>
      (readSource "" text).toOption.isSome) = true)
    (hwhole : (match statementsOf whole with
      | s :: rest => test s && isQuestion rest
      | [] => false) = true)
    (hfirst : (match statementsOf source with
      | [s] => test s
      | _ => false) = true)
    (hrest : isQuestion (statementsOf "y = __builtins__ is None\ny") = true)
    (hfirstok : refusal? true (statementsOf source) = none)
    (hrestok : refusal? true (statementsOf "y = __builtins__ is None\ny") = none) :
    Parts whole source "y = __builtins__ is None\ny" (statementsOf source)
      (statementsOf "y = __builtins__ is None\ny") := by
  simp only [List.all_cons, List.all_nil, Bool.and_true, Bool.and_eq_true] at hreads
  obtain ⟨hreadswhole, hreadsfirst, hreadsrest⟩ := hreads
  split at hwhole
  next s rest hs =>
    split at hfirst
    next s' hs' =>
      obtain ⟨hsaid, hasked⟩ := (Bool.and_eq_true _ _).mp hwhole
      have hne : statementsOf "y = __builtins__ is None\ny" ≠ [] := by
        intro hnil
        rw [hnil] at hrest
        cases hrest
      refine ⟨⟨_, reads_statementsOf hreadswhole, ?_⟩, reads_statementsOf hreadsfirst,
        reads_statementsOf hreadsrest, by simp [hs'], hne, hfirstok, hrestok⟩
      rw [hs, hs', List.map_cons, List.singleton_append, List.map_cons,
        htest s s' hsaid hfirst, unplaced_question hasked hrest]
    · cases hfirst
  · cases hwhole

theorem parts_removal :
    Parts "del __builtins__\ny = __builtins__ is None\ny" "del __builtins__"
      "y = __builtins__ is None\ny" (statementsOf "del __builtins__")
      (statementsOf "y = __builtins__ is None\ny") :=
  parts_question (fun _ _ => unplaced_removal) (by decide +kernel) (by decide +kernel)
    (by decide +kernel) (by decide +kernel) (by decide +kernel) (by decide +kernel)

theorem parts_print :
    Parts "print(end=\"a\")\ny = __builtins__ is None\ny" "print(end=\"a\")"
      "y = __builtins__ is None\ny" (statementsOf "print(end=\"a\")")
      (statementsOf "y = __builtins__ is None\ny") :=
  parts_question (fun _ _ => unplaced_print) (by decide +kernel) (by decide +kernel)
    (by decide +kernel) (by decide +kernel) (by decide +kernel) (by decide +kernel)

/-- A world that refuses one text. -/
def refusing : World :=
  { fresh.2 with host := { audience := .receiver { refused := ["a"] } } }

end Chunkwise.Interpreter
