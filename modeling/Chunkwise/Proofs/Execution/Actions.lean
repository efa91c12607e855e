import Chunkwise.Execution.Evaluation
import Chunkwise.Proofs.Store.Spares

/-!
The steps on a store that calls and statements take spare the scopes that are kept. The scope of a
call and an exception that is raised are not among those.
-/
namespace Chunkwise
open Store Store.Action

variable {K : Address → Prop}

namespace Bridge

theorem spares_tensorClassOf (library : Value) : Spares K (tensorClassOf library) := by
  refine (spares_attribute _ _).bind fun held => (spares_reading _).bind fun entry => ?_
  split
  · exact spares_pure
  · exact spares_pure
  · exact spares_fail _

theorem spares_makeAdapters (library : Value) : Spares K (makeAdapters library) :=
  (spares_tensorClassOf library).bind fun _ => spares_make _

theorem spares_hostForm (v : Value) : Spares K (hostForm v) := by
  refine (spares_reading _).bind fun d => (spares_ofExcept _).bind fun made =>
    (gives_natureOf v).bind fun nature? hn => ?_
  have load : Spares K (Action.load made) := fun _ hg => ⟨hg.load made, fun _ _ => trivial⟩
  split
  next a items => exact (spares_setNature (hn a _ rfl rfl (by simp))).bind fun _ => load
  next => exact load

theorem spares_hostList (v : Value) : Spares K (hostList v) := by
  refine (spares_hostForm v).bind fun made => (spares_reading _).bind fun nature? => ?_
  split
  · exact spares_pure
  · exact spares_pure
  · exact (spares_reading _).bind fun _ => spares_fail _

theorem spares_tensorArguments (data requiresGrad : Value) :
    Spares K (tensorArguments data requiresGrad) :=
  (spares_hostForm data).bind fun _ => (spares_reading _).bind fun _ => spares_pure

end Bridge

namespace Execution

theorem spares_sumOf (start : Value) (items : List Value) : Spares K (sumOf start items) := by
  induction items generalizing start with
  | nil => exact spares_pure
  | cons v rest ih => exact (spares_binary _ _ _ _).bind ih

theorem spares_rangeOf (args : List Value) : Spares K (rangeOf args) := by
  unfold rangeOf
  refine (spares_mapM (fun v => ?_) args).bind fun bounds => ?_
  · split
    · exact spares_pure
    · exact spares_checking _
  split
  · exact spares_fail _
  · exact spares_pure
  · exact spares_pure
  · split
    · exact spares_fail _
    · exact spares_pure
  · exact spares_fail _

theorem spares_summed (args : List Value) (keywords : List (String × Value)) :
    Spares K (summed args keywords) := by
  refine (spares_ofExcept _).bind fun (source, start) => (spares_begin _).bind fun cursor =>
    (spares_reading _).bind fun refused => ?_
  split
  · exact spares_fail _
  · exact (spares_take _ _).bind fun _ => spares_sumOf _ _

theorem spares_exitWith (args : List Value) : Spares K (exitWith args) := by
  unfold exitWith
  split
  · exact spares_fail _
  · exact spares_fail _
  · refine (spares_reading _).bind fun nature? => ?_
    split <;> exact spares_fail _
  · exact spares_fail _

theorem spares_callQuiet (f : Builtin) (args : List Value) (keywords : List (String × Value)) :
    Spares K (callQuiet f args keywords) := by
  have noNames : Spares K (if keywords.isEmpty then (pure () : Action Unit)
      else Action.ofExcept (noKeywords f.name)) := by
    split
    · exact spares_pure
    · exact spares_ofExcept _
  unfold callQuiet
  cases f with
  | len =>
    exact noNames.bind fun _ => (spares_ofExcept _).bind fun _ => (spares_checking _).bind
      fun _ => spares_pure
  | repr =>
    exact noNames.bind fun _ => (spares_ofExcept _).bind fun _ => (spares_checking _).bind
      fun _ => spares_pure
  | str => exact spares_checking _
  | sum => exact spares_summed _ _
  | list =>
    refine noNames.bind fun _ => ?_
    split
    · exact spares_make _
    · exact (spares_drain _).bind fun _ => spares_make _
    · exact spares_fail _
  | range => exact noNames.bind fun _ => spares_rangeOf _
  | tick => exact (spares_ofExcept _).bind fun _ => spares_make _
  | answer => exact (spares_ofExcept _).bind fun _ => spares_make _
  | badRepr => exact (spares_ofExcept _).bind fun _ => spares_make _
  | exit => exact spares_exitWith _
  | print => exact spares_pure

theorem spares_makeMapping (entries : List (Value × Value)) : Spares K (makeMapping entries) :=
  (spares_checking _).bind fun _ => (spares_reading _).bind fun _ => spares_make _

/-- A call has a new scope. -/
theorem gives_openScope (f : Function) (bound : Bindings) :
    Gives K (openScope f bound) (¬K ·) := by
  intro store hg
  let object : Object :=
    { nature := .scope { names := bound, declared := f.declared, outer := f.outer } }
  exact ⟨hg.add object, fun a ha => Except.ok.inj ha ▸ hg.not_added object⟩

theorem spares_modifyException {a : Address} (ha : ¬K a) (f : Exception → Exception) :
    Spares K (modifyException a f) :=
  fun _ hg => ⟨hg.setNature ha, fun _ _ => trivial⟩

theorem gives_raisedException (complaint : String) (v : Value) :
    Gives K (raisedException complaint v) (¬K ·) := by
  refine (gives_natureOf v).bind fun nature? hn => ?_
  split
  · exact gives_construct _ _ _
  next a e => exact gives_pure (hn a _ rfl rfl (by simp))
  · exact gives_fail _

theorem spares_setCause {a : Address} (ha : ¬K a) (cause : Value) : Spares K (setCause a cause) := by
  unfold setCause
  split
  · exact spares_modifyException ha _
  · exact (gives_raisedException _ _).spares.bind fun _ => spares_modifyException ha _

end Execution
end Chunkwise
