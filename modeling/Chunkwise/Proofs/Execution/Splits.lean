import Chunkwise.Execution.Source
import Chunkwise.Proofs.Execution.Elsewhere
import Chunkwise.Proofs.Execution.Flows

/-!
A chunk in two. A chunk does what its first statements do as a chunk of their own, followed by the
others as another one. Two chunks give the built-in names twice and a value twice; that makes no
difference as long as the built-in names are not taken away and the value is nobody's.
-/
namespace Chunkwise

namespace Store

/-- Names that stay as they are leave everything as it is. -/
theorem mapNames_self {store : Store} {a : Address} {f : Bindings → Bindings}
    (h : f (store.names a) = store.names a) : store.mapNames a f = store := by
  obtain ⟨objects⟩ := store
  simp only [mapNames, modify, mk.injEq]
  refine Array.ext (by simp) fun i hi hi' => ?_
  rw [Array.getElem_modify]
  split
  next heq =>
    subst heq
    generalize hobject : objects[a] = object
    obtain ⟨nature, attributes⟩ := object
    cases nature with
    | scope s =>
      have hnames : names ⟨objects⟩ a = s.names := by
        simp [names, scope?, nature?, get?, hi', hobject]
      rw [hnames] at h
      simp only [h]
    | _ => rfl
  · rfl

end Store

namespace Execution
open Code Eval

variable {α β γ : Type}

theorem Run.finish_andThen (r : Run α) (next : α → Scene → Run β) :
    (r.andThen next).finish = r.finish.bind fun x => (next x.1 x.2).finish := by
  induction r with
  | done a s => rfl
  | suspended s resume ih => exact ih s
  | exhausted => rfl

namespace Eval

protected theorem id_map (m : Eval α) : id <$> m = m := by
  funext s
  refine Eq.trans ?_ (m s).andThen_done
  change (m s).andThen _ = (m s).andThen _
  congr 1
  funext result s
  cases result <;> rfl

protected theorem bind_assoc (m : Eval α) (f : α → Eval β) (g : β → Eval γ) :
    m >>= f >>= g = m >>= fun a => f a >>= g := by
  funext s
  refine ((m s).andThen_assoc _ _).trans ?_
  change (m s).andThen _ = (m s).andThen _
  congr 1
  funext result s
  cases result <;> rfl

instance : LawfulMonad Eval :=
  LawfulMonad.mk' Eval Eval.id_map (fun _ _ => rfl) Eval.bind_assoc

/-- How a computation ends when nothing else takes the turns that it leaves. -/
def ends (m : Eval α) (s : Scene) : Option (Except Raised α × Scene) :=
  (m s).finish

theorem bind_of_done {m : Eval α} {s t : Scene} {a : α} (h : m s = .done (.ok a) t)
    (next : α → Eval β) : (m >>= next) s = next a t := by
  change (m s).andThen _ = _
  rw [h]
  rfl

/-- What follows a computation that has ended. -/
def goOn (next : α → Eval β) : Except Raised α × Scene → Option (Except Raised β × Scene)
  | (.ok a, s) => (next a).ends s
  | (.error raised, s) => some (.error raised, s)

theorem ends_bind (m : Eval α) (next : α → Eval β) (s : Scene) :
    (m >>= next).ends s = (m.ends s).bind (goOn next) := by
  refine ((m s).finish_andThen _).trans ?_
  congr 1
  funext x
  obtain ⟨_ | _, _⟩ := x <;> rfl

/-- Both computations end, and so alike, or none of them does. -/
theorem Alike.ends {m m' : Eval α} (h : Alike m m') {s t : Scene} (hs : s.Alike t) :
    Option.Rel (fun x y => Same (· = ·) x.1 y.1 ∧ x.2.Alike y.2) (m.ends s) (m'.ends t) :=
  (h s t hs).finish

end Eval

/-! The last expression. -/

theorem splitTail_append (quiet : Bool) (first : List Stmt) {rest : List Stmt} (h : rest ≠ []) :
    splitTail quiet (first ++ rest) =
      (first ++ (splitTail quiet rest).1, (splitTail quiet rest).2) := by
  induction first with
  | nil => rfl
  | cons s first ih =>
    obtain ⟨s', more, hmore⟩ :=
      List.exists_cons_of_ne_nil (List.append_ne_nil_of_right_ne_nil first h)
    rw [List.cons_append, hmore, splitTail, ← hmore, ih]
    · rfl
    · simp

/-- A last expression is taken off the statements, or there is none. -/
theorem splitTail_cases (quiet : Bool) (statements : List Stmt) :
    splitTail quiet statements = (statements, none) ∨
      ∃ body pos e, statements = body ++ [.expr pos e] ∧
        splitTail quiet statements = (body, some e) := by
  rcases List.eq_nil_or_concat statements with rfl | ⟨body, s, rfl⟩
  · exact .inl rfl
  · rw [List.concat_eq_append, splitTail_append quiet body (by simp)]
    cases s with
    | expr pos e =>
      cases quiet with
      | true => exact .inl rfl
      | false => exact .inr ⟨body, pos, e, rfl, by simp [splitTail]⟩
    | _ => exact .inl rfl

/-- What is refused of neither part of a chunk. -/
theorem refusal?_splitTail (quiet : Bool) {mayWait : Bool} {statements : List Stmt}
    (h : refusal? mayWait statements = none) :
    refusal? mayWait (splitTail quiet statements).1 = none ∧
      ∀ e ∈ (splitTail quiet statements).2, tailRefusal? mayWait e = none := by
  rcases splitTail_cases quiet statements with hsplit | ⟨body, pos, e, rfl, hsplit⟩
  · rw [hsplit]
    exact ⟨h, by simp⟩
  · rw [hsplit]
    obtain ⟨hbody, he⟩ := refusal?_append.mp h
    exact ⟨hbody, by simpa using tailRefusal?_eq_none.mpr he⟩

/-! Statements at the top. -/

variable {globals : Address} {file : String} {quiet : Bool}

/-- Runs statements at the top of a source that knows the built-in names. -/
abbrev runTop (globals : Address) (file : String) (body : List Stmt) : Eval Flow :=
  runBlock (exec (depth + 1) (topFrame globals file)) body

/-- Evaluates a chunk that knows the built-in names. -/
def evalKnowing (globals : Address) (file : String) (quiet : Bool) (statements : List Stmt) :
    Eval Value := do
  let _ ← runTop globals file (splitTail quiet statements).1
  evalTail globals file (splitTail quiet statements).2

theorem runBlock_append (run : Stmt → Eval Flow) (first rest : List Stmt) :
    runBlock run (first ++ rest) = runBlock run first >>= fun
      | .next => runBlock run rest
      | flow => pure flow := by
  induction first with
  | nil => rfl
  | cons s first ih =>
    simp only [List.cons_append, runBlock, ih, bind_assoc]
    congr 1
    funext flow
    cases flow <;> rfl

/-- What is not refused goes on to its end, unless it raises. -/
theorem runTop_append {mayWait : Bool} {first rest : List Stmt}
    (h : refusal? mayWait first = none) :
    runTop globals file (first ++ rest) =
      runTop globals file first >>= fun _ => runTop globals file rest := by
  have hfits : (runTop globals file first).Yields (Flow.Fits false) :=
    fits_runBlock fun s hs => fits_exec _ ⟨rfl, rfl⟩ _
      (blockMisplaced_eq_nil.mp (refusal?_eq_none.mp h).2 s hs)
  refine (runBlock_append _ _ _).trans (hfits.bind_congr fun flow hflow => ?_)
  cases flow with
  | next => rfl
  | _ => cases hflow

theorem runTop_expr (pos : Pos) (e : Expr) :
    runTop globals file [.expr pos e] =
      eval depth (topFrame globals file) e >>= fun _ => pure .next := by
  have h (n : Nat) (frame : Frame) : runBlock (exec (n + 1) frame) [.expr pos e] =
      eval n frame e >>= fun _ => pure .next := by
    simp only [runBlock, exec, bind_assoc, pure_bind]
  exact h depth _

theorem runStatements_eq {body : List Stmt} (h : refusal? true body = none) :
    runStatements globals file true body =
      addBuiltins globals >>= fun _ => runTop globals file body >>= fun _ => pure () := by
  simp only [runStatements, h, refuse, pure_bind]

/-- A last expression that is run as a statement. -/
theorem runStatements_expr {body : List Stmt} {pos : Pos} {e : Expr}
    (hbody : refusal? true body = none) (he : refusal? true [.expr pos e] = none) :
    runStatements globals file true (body ++ [.expr pos e]) =
      runStatements globals file true body >>= fun _ =>
        eval depth (topFrame globals file) e >>= fun _ => pure () := by
  rw [runStatements_eq (refusal?_append.mpr ⟨hbody, he⟩), runStatements_eq hbody,
    runTop_append hbody, runTop_expr]
  simp only [bind_assoc, pure_bind]

/-- A chunk that is one expression evaluates it and does no more. -/
theorem evalChunk_tail {statements : List Stmt} {tail : Option Expr}
    (h : splitTail quiet statements = ([], tail)) :
    evalChunk globals file quiet statements = evalTail globals file tail := by
  unfold evalChunk
  rw [h]

theorem evalChunk_body {statements body : List Stmt} {tail : Option Expr} (hne : body ≠ [])
    (h : splitTail quiet statements = (body, tail)) :
    evalChunk globals file quiet statements =
      runStatements globals file true body >>= fun _ => evalTail globals file tail := by
  obtain ⟨s, more, rfl⟩ := List.exists_cons_of_ne_nil hne
  unfold evalChunk
  rw [h]

/-- A chunk of two parts runs the first and goes on with the second. -/
theorem evalChunk_append {first rest : List Stmt} (hfirst : first ≠ []) (hrest : rest ≠ [])
    (hfirstok : refusal? true first = none) (hrestok : refusal? true rest = none) :
    evalChunk globals file quiet (first ++ rest) =
      runStatements globals file true first >>= fun _ =>
        evalKnowing globals file quiet rest := by
  have hbody := (refusal?_splitTail quiet hrestok).1
  have hall : refusal? true (first ++ (splitTail quiet rest).1) = none :=
    refusal?_append.mpr ⟨hfirstok, hbody⟩
  have hne : first ++ (splitTail quiet rest).1 ≠ [] := List.append_ne_nil_of_left_ne_nil hfirst _
  rw [evalChunk_body hne (splitTail_append quiet first hrest), runStatements_eq hall,
    runStatements_eq hfirstok, runTop_append hfirstok]
  simp only [bind_assoc, pure_bind, evalKnowing]

/-! Built-in names that are known. -/

/-- The names at an address know the module of the built-in names. -/
def Knowing (globals : Address) (s : Scene) : Prop :=
  (s.store.names globals).has "__builtins__" = true

/-- Statements leave the built-in names known if they end normally. -/
def KeepsBuiltins (globals : Address) (file : String) (body : List Stmt) (s : Scene) : Prop :=
  ∀ t, (runStatements globals file true body).ends s = some (.ok (), t) → Knowing globals t

theorem addBuiltins_knowing {s : Scene} (h : Knowing globals s) :
    addBuiltins globals s = .done (.ok ()) s := by
  have hnames : (if (s.store.names globals).has "__builtins__" then s.store.names globals
      else (s.store.names globals).set "__builtins__" (.ref Store.builtinsModule)) =
      s.store.names globals := if_pos h
  exact congrArg (fun store : Store => (.done (.ok ())
    { s with world := { s.world with store := store } } : Run (Except Raised Unit)))
    (Store.mapNames_self hnames)

/-! The two parts. -/

variable {s : Scene} {first rest : List Stmt}

theorem evalTail_eq {e : Expr} (h : tailRefusal? true e = none) :
    evalTail globals file (some e) =
      addBuiltins globals >>= fun _ => eval depth (topFrame globals file) e := by
  simp only [evalTail, h, refuse, pure_bind]

/-- A chunk whose names know the built-in names need not tell them. -/
theorem evalChunk_knowing (hok : refusal? true rest = none) (h : Knowing globals s) :
    evalChunk globals file quiet rest s = evalKnowing globals file quiet rest s := by
  have hbody := (refusal?_splitTail quiet hok).1
  rcases hsplit : splitTail quiet rest with ⟨_ | ⟨s', body⟩, tail⟩
  · rw [evalChunk_tail hsplit, evalKnowing, hsplit]
    rfl
  · rw [hsplit] at hbody
    rw [evalChunk_body (List.cons_ne_nil _ _) hsplit, evalKnowing, hsplit, runStatements_eq hbody,
      bind_assoc, bind_of_done (addBuiltins_knowing h)]
    simp only [bind_assoc, pure_bind]

/-- The last expression of a chunk does what it does as a statement, if the built-in names are still
known when it is reached. -/
theorem ends_runStatements (hne : first ≠ []) (hok : refusal? true first = none)
    (hkept : KeepsBuiltins globals file (splitTail quiet first).1 s) :
    (runStatements globals file true first).ends s =
      (evalChunk globals file quiet first >>= fun _ => pure ()).ends s := by
  rcases splitTail_cases quiet first with hsplit | ⟨body, pos, e, rfl, hsplit⟩
  · rw [evalChunk_body hne hsplit]
    simp only [evalTail, bind_assoc, pure_bind, bind_pure_unit]
  · obtain ⟨hbody, he⟩ := refusal?_append.mp hok
    have htail : tailRefusal? true e = none := tailRefusal?_eq_none.mpr he
    cases body with
    | nil =>
      rw [evalChunk_tail hsplit, evalTail_eq htail, List.nil_append, runStatements_eq he, runTop_expr]
      simp only [bind_assoc, pure_bind]
    | cons s' more =>
      rw [evalChunk_body (List.cons_ne_nil _ _) hsplit, runStatements_expr hbody he, bind_assoc,
        ends_bind, ends_bind]
      refine Option.bind_congr fun x hx => ?_
      obtain ⟨_ | _, t⟩ := x
      · rfl
      · have hknowing : Knowing globals t := hkept t (by rwa [hsplit])
        change _ = (evalTail globals file (some e) >>= fun _ => pure ()).ends t
        rw [evalTail_eq htail, bind_assoc, ends, bind_of_done (addBuiltins_knowing hknowing)]
        rfl

/-- A chunk of two parts ends like the two one after the other. -/
theorem ends_evalChunk_append {quiet' : Bool} (hfirst : first ≠ []) (hrest : rest ≠ [])
    (hfirstok : refusal? true first = none) (hrestok : refusal? true rest = none)
    (hbody : KeepsBuiltins globals file (splitTail quiet first).1 s)
    (hend : KeepsBuiltins globals file first s) :
    (evalChunk globals file quiet' (first ++ rest)).ends s =
      (evalChunk globals file quiet first >>= fun _ =>
        evalChunk globals file quiet' rest).ends s := by
  have hrun := ends_runStatements hfirst hfirstok hbody
  rw [evalChunk_append hfirst hrest hfirstok hrestok, ends_bind, ends_bind]
  unfold KeepsBuiltins at hend
  rw [ends_bind] at hrun
  rw [hrun] at hend ⊢
  rw [Option.bind_assoc]
  refine Option.bind_congr fun x hx => ?_
  obtain ⟨_ | v, t⟩ := x
  · rfl
  · have hknowing : Knowing globals t := hend t (by rw [hx]; rfl)
    change (evalKnowing globals file quiet' rest).ends t =
      (evalChunk globals file quiet' rest).ends t
    rw [ends, ends, evalChunk_knowing hrestok hknowing]

/-! Chunks elsewhere. -/

theorem splitTail_unplaced (quiet : Bool) (statements : List Stmt) :
    splitTail quiet (statements.map Stmt.unplaced) =
      ((splitTail quiet statements).1.map Stmt.unplaced,
        (splitTail quiet statements).2.map Expr.unplaced) := by
  rcases List.eq_nil_or_concat statements with rfl | ⟨body, s, rfl⟩
  · rfl
  · rw [List.concat_eq_append, List.map_append, splitTail_append quiet _ (by simp),
      splitTail_append quiet body (by simp)]
    cases s with
    | expr pos e => cases quiet <;> simp [splitTail, Stmt.unplaced]
    | _ => simp [splitTail, Stmt.unplaced]

theorem alike_addBuiltins : Alike (addBuiltins globals) (addBuiltins globals) :=
  alike_mapNames _ _

theorem alike_runStatements_unplaced {body : List Stmt} (h : refusal? true body = none) :
    Alike (runStatements globals file true body)
      (runStatements globals "" true (body.map Stmt.unplaced)) := by
  rw [runStatements_eq h, runStatements_eq (refusal?_unplaced.mpr h)]
  exact alike_addBuiltins.bind fun _ =>
    ((alikeAll _).blocks (topFrame globals file) body).bind fun _ => alike_pure

theorem alike_evalTail_unplaced {tail : Option Expr} (h : ∀ e ∈ tail, tailRefusal? true e = none) :
    Alike (evalTail globals file tail) (evalTail globals "" (tail.map Expr.unplaced)) := by
  cases tail with
  | none => exact alike_pure
  | some e =>
    have he := h e rfl
    have he' : tailRefusal? true e.unplaced = none := by
      have hs : refusal? true [.expr default e] = none := tailRefusal?_eq_none.mp he
      exact tailRefusal?_eq_none.mpr (refusal?_unplaced.mpr hs)
    rw [Option.map_some, evalTail_eq he, evalTail_eq he']
    exact alike_addBuiltins.bind fun _ => (alikeAll _).eval (topFrame globals file) e

theorem alike_evalChunk_unplaced (globals : Address) (file : String) (quiet : Bool)
    {statements : List Stmt} (h : refusal? true statements = none) :
    Alike (evalChunk globals file quiet statements)
      (evalChunk globals "" quiet (statements.map Stmt.unplaced)) := by
  obtain ⟨hbody, htail⟩ := refusal?_splitTail quiet h
  have hunplaced := splitTail_unplaced quiet statements
  rcases hsplit : splitTail quiet statements with ⟨_ | ⟨s', body⟩, tail⟩ <;>
    rw [hsplit] at hbody htail hunplaced
  · rw [evalChunk_tail hsplit, evalChunk_tail hunplaced]
    exact alike_evalTail_unplaced htail
  · rw [evalChunk_body (List.cons_ne_nil _ _) hsplit, evalChunk_body (List.cons_ne_nil _ _) hunplaced]
    exact (alike_runStatements_unplaced hbody).bind fun _ => alike_evalTail_unplaced htail

/-- A chunk does the same wherever its statements stand. -/
theorem alike_evalChunk (globals : Address) (file file' : String) (quiet : Bool)
    {statements statements' : List Stmt} (h : refusal? true statements = none)
    (hsame : statements.map Stmt.unplaced = statements'.map Stmt.unplaced) :
    Alike (evalChunk globals file quiet statements)
      (evalChunk globals file' quiet statements') := by
  have h' : refusal? true statements' = none := by
    rwa [← refusal?_unplaced, ← hsame, refusal?_unplaced]
  have hchunk := alike_evalChunk_unplaced globals file quiet h
  rw [hsame] at hchunk
  exact hchunk.trans (alike_evalChunk_unplaced globals file' quiet h').symm

/-- A chunk leaves a scene in which all that is written is taken, if it starts in one. -/
theorem hearing_ends {x : Except Raised Value × Scene} (hok : refusal? true first = none)
    (hs : s.Hearing) (h : (evalChunk globals file quiet first).ends s = some x) : x.2.Hearing := by
  have hself := (alike_evalChunk globals file file quiet hok rfl).ends (.refl hs)
  rw [h] at hself
  cases hself with
  | some hx => exact hx.2.hearing

/-- The names that are known do not depend on places. -/
theorem Knowing.alike {t : Scene} (h : Knowing globals s) (hs : s.Alike t) : Knowing globals t := by
  unfold Knowing at h ⊢
  rwa [← Store.names_unplaced, ← hs.store, Store.names_unplaced]

/-- What statements keep known does not depend on places. -/
theorem KeepsBuiltins.alike {t : Scene} {body : List Stmt}
    (h : KeepsBuiltins globals file body s) (hok : refusal? true body = none) (hs : s.Alike t) :
    KeepsBuiltins globals file body t := by
  intro t' ht'
  have hsame : Alike (runStatements globals file true body)
      (runStatements globals file true body) :=
    (alike_runStatements_unplaced hok).trans (alike_runStatements_unplaced hok).symm
  have hends := hsame.ends hs
  rw [ht'] at hends
  generalize hend : (runStatements globals file true body).ends s = ended at hends
  cases hends with
  | @some x _ hx =>
    obtain ⟨_ | _, s'⟩ := x
    · exact hx.1.elim
    · exact (h s' hend).alike hx.2

/-! The end of a chunk. -/

/-- What a chunk leaves when all that it wrote has been handed on. -/
def closing (result : Except Raised Value) (s : Scene) : Except Fault Value × Scene :=
  match outcome result s with
  | (result, s) =>
    match s.flush with
    | (none, s) => (result.mapError Fault.sealed, s)
    | (some fault, s) => (.error fault, s)

theorem finish_runChunk (globals : Address) (file : Datum) (source : String) (s : Scene) :
    (runChunk globals file source s).finish =
      ((evalSource globals file source).ends (s.opens (.source source))).map fun x =>
        closing x.1 x.2 := by
  refine ((evalSource globals file source _).finish_andThen _).trans ?_
  rw [Option.map_eq_bind]
  refine Option.bind_congr fun x _ => ?_
  simp only [Function.comp_apply, closing]
  generalize (outcome x.1 x.2).2.flush = flushed
  obtain ⟨_ | _, _⟩ := flushed <;> rfl

/-- An exception that leaves code is reported alike. -/
theorem alike_outcome {result result' : Except Raised Value} {t : Scene}
    (h : Same (· = ·) result result') (hs : s.Alike t) :
    unplacedResult (outcome result s).1 = unplacedResult (outcome result' t).1 ∧
      (outcome result s).2.Alike (outcome result' t).2 := by
  cases result <;> cases result'
  next raised raised' =>
    obtain ⟨a, trace⟩ := raised
    obtain rfl : a = raised'.exception := h
    have hkept : (s.store.setNature raised'.exception (.exception
        { exceptionAt s.store raised'.exception with trace := trace })).unplaced =
        (t.store.setNature raised'.exception (.exception
          { exceptionAt t.store raised'.exception with trace := raised'.trace })).unplaced := by
      rw [Store.unplaced_setNature, Store.unplaced_setNature, hs.store]
      exact congrArg (Store.setNature _ _ <| .exception ·) (exceptionAt_alike hs.store _)
    refine ⟨congrArg Except.error ?_, hs.put hkept⟩
    exact (Store.report_unplaced _ _).symm.trans
      ((congrArg (·.report raised'.exception) hkept).trans (Store.report_unplaced _ _))
  · exact h.elim
  · exact h.elim
  · exact ⟨congrArg Except.ok h, hs⟩

/-- In the end all that a chunk wrote is taken. -/
theorem closing_hearing (result : Except Raised Value) (h : s.Hearing) :
    closing result s = ((outcome result s).1.mapError Fault.sealed, (outcome result s).2.flush.2) ∧
      (closing result s).2.pending = some [] := by
  have hsame : Same (· = ·) result result := by cases result <;> rfl
  have houtcome := (alike_outcome hsame (.refl h)).2.hearing
  have htaken := houtcome.flush.1
  have hpending := houtcome.flush_pending
  unfold closing
  generalize outcome result s = out at *
  obtain ⟨result, s⟩ := out
  dsimp only at *
  generalize s.flush = flushed at *
  obtain ⟨_ | fault, s⟩ := flushed
  · exact ⟨rfl, hpending⟩
  · cases htaken

/-- What was raised is reported as a fault. -/
theorem closing_raised (raised : Raised) (h : s.Hearing) :
    ∃ fault, (closing (.error raised) s).1 = .error fault := by
  rw [(closing_hearing _ h).1]
  exact ⟨_, rfl⟩

/-- Chunks that end alike leave the same outcome. -/
theorem alike_closing {result result' : Except Raised Value} {t : Scene}
    (h : Same (· = ·) result result') (hs : s.Alike t) :
    unplacedResult (closing result s).1 = unplacedResult (closing result' t).1 ∧
      (closing result s).2.Alike (closing result' t).2 := by
  obtain ⟨hresult, hscene⟩ := alike_outcome h hs
  rw [(closing_hearing _ hs.hearing).1, (closing_hearing _ hs.hearing').1]
  refine ⟨?_, hscene.flush.2.2⟩
  revert hresult
  cases (outcome result s).1 <;> cases (outcome result' t).1 <;> intro hresult
  · exact congrArg Except.error (by
      rw [Fault.unplaced_sealed, Fault.unplaced_sealed, Except.error.inj hresult])
  · cases hresult
  · cases hresult
  · exact congrArg Except.ok (Except.ok.inj hresult)

end Execution

end Chunkwise
