import Chunkwise.Execution.Evaluation
import Chunkwise.Proofs.Execution.Passages
import Chunkwise.Proofs.Store.Likeness

/-!
Code that runs in scenes that are the same but for places, and for how the text that was written was
cut into pieces. The steps of code do the same there: they give the same, they raise the same, and
the scenes that they leave are again the same.
-/
namespace Chunkwise
open Store Store.Action

namespace Bridge

theorem blind_hostForm (v : Value) : Blind (hostForm v) := by
  refine blind_reading_bind fun s => ?_
  rw [hostView_unplaced, Datum.toHost_unplaced]
  cases (s.hostView v).toHost with
  | error fault => exact fun t t' ht => ⟨congrArg Except.error fault.unplaced_unplaced, ht⟩
  | ok made =>
    have hload : Alike (Action.load made.unplaced) (Action.load made) :=
      alike_load made.unplaced_unplaced
    refine .ok_bind (alike_reading_bind fun t t' ht => ?_)
    have hfound := natureOf_alike ht v
    generalize t.natureOf v = nature?, t'.natureOf v = other? at hfound
    cases hfound with
    | same =>
      split
      · exact (alike_setNature _ rfl).bind fun _ => hload
      · exact hload
    | _ => cases v <;> exact hload

theorem blind_hostList (v : Value) : Blind (hostList v) := by
  refine (blind_hostForm v).bind fun made => blind_reading_bind fun s => ?_
  rw [natureOf_unplaced]
  have hfail : Blind (do
      let name ← Action.reading (·.typeName v)
      Action.fail (.of .typeError s!"Expected a sequence, got {name}") : Action Value) :=
    (blind_reading fun s => s.typeName_unplaced v).bind fun _ => blind_fail _
  rcases s.natureOf made with _ | nature
  · exact hfail
  · cases nature with
    | seq form items => cases form <;> first | exact blind_pure | exact hfail
    | _ => exact hfail

theorem blind_tensorArguments (data requiresGrad : Value) :
    Blind (tensorArguments data requiresGrad) :=
  (blind_hostForm data).bind fun _ =>
    (blind_reading fun s => s.truth_unplaced requiresGrad).bind fun _ => blind_pure

end Bridge

namespace Execution

theorem blind_sumOf (start : Value) (items : List Value) : Blind (sumOf start items) := by
  induction items generalizing start with
  | nil => exact blind_pure
  | cons v rest ih => exact (blind_binary _ _ _ _).bind ih

theorem blind_rangeOf (args : List Value) : Blind (rangeOf args) := by
  unfold rangeOf
  refine (blind_mapM (fun v => ?_) args).bind fun bounds => ?_
  · split
    · exact blind_pure
    · exact blind_checking fun s => by rw [typeName_unplaced]
  split
  · exact blind_fail _
  · exact blind_pure
  · exact blind_pure
  · split
    · exact blind_fail _
    · exact blind_pure
  · exact blind_fail _

theorem blind_summed (args : List Value) (keywords : List (String × Value)) :
    Blind (summed args keywords) := by
  refine (blind_ofExcept _).bind fun (source, start) => (blind_begin _).bind fun cursor =>
    (blind_reading fun s => ?_).bind fun refused => ?_
  · simp only [refusedStart?, bytes?_unplaced]
  split
  · exact blind_fail _
  · exact (blind_take _ _).bind fun _ => blind_sumOf _ _

theorem blind_exitWith (args : List Value) : Blind (exitWith args) := by
  unfold exitWith
  split
  · exact blind_fail _
  · exact blind_fail _
  · refine blind_reading_bind fun s => ?_
    rw [natureOf_unplaced]
    rcases s.natureOf _ with _ | nature
    · exact blind_fail _
    · cases nature with
      | seq form items => cases form <;> exact blind_fail _
      | _ => exact blind_fail _
  · exact blind_fail _

theorem textOf_unplaced (args : List Value) (keywords : List (String × Value)) (s : Store) :
    textOf args keywords s.unplaced = unplacedResult (textOf args keywords s) := by
  have hcoding : codingName s.unplaced = codingName s := by
    funext name v
    simp only [codingName, typeName_unplaced]
  have hdecoded : decoded s.unplaced = decoded s := by
    funext v
    simp only [decoded, typeName_unplaced, bytes?_unplaced]
  -- what these complain of has passed no place
  have hcoded (name : String) (v : Value) :
      unplacedResult (codingName s name v) = codingName s name v := by
    cases v <;> rfl
  have hvalue (v : Value) (n : Nat) :
      (if n = 1 then Except.map Value.str (unplacedResult (s.text v)) else decoded s v) =
        unplacedResult (if n = 1 then Except.map Value.str (s.text v) else decoded s v) := by
    split
    · cases s.text v <;> rfl
    · unfold decoded
      split <;> rfl
  simp only [textOf, hcoding, hdecoded, text_unplaced]
  split
  · rfl
  · cases keywords.find? (·.1 ∉ ["object", "encoding", "errors"]) with
    | some keyword => rfl
    | none =>
      generalize ["object", "encoding", "errors"].zip args ++ keywords = bound
      cases bound.lookup "encoding" <;> cases bound.lookup "errors" <;>
        cases bound.lookup "object" <;>
        simp only [unplacedResult_bind, unplacedResult_pure, hcoded, hvalue]

theorem blind_callQuiet (f : Builtin) (args : List Value) (keywords : List (String × Value)) :
    Blind (callQuiet f args keywords) := by
  have noNames : Blind (if keywords.isEmpty then (pure () : Action Unit)
      else Action.ofExcept (noKeywords f.name)) := by
    split
    · exact blind_pure
    · exact blind_ofExcept _
  unfold callQuiet
  cases f with
  | len =>
    exact noNames.bind fun _ => (blind_ofExcept _).bind fun v =>
      (blind_checking fun s => s.lengthOf_unplaced v).bind fun _ => blind_pure
  | repr =>
    exact noNames.bind fun _ => (blind_ofExcept _).bind fun v =>
      (blind_complaining fun s => s.render_unplaced v).bind fun _ => blind_pure
  | str => exact blind_complaining fun s => textOf_unplaced args keywords s
  | sum => exact blind_summed _ _
  | list =>
    refine noNames.bind fun _ => ?_
    split
    · exact blind_make _
    · exact (blind_drain _).bind fun _ => blind_make _
    · exact blind_fail _
  | range => exact noNames.bind fun _ => blind_rangeOf _
  | tick => exact (blind_ofExcept _).bind fun _ => blind_make _
  | answer => exact (blind_ofExcept _).bind fun _ => blind_make _
  | badRepr => exact (blind_ofExcept _).bind fun _ => blind_make _
  | exit => exact blind_exitWith _
  | print => exact blind_pure

theorem blind_makeMapping (entries : List (Value × Value)) : Blind (makeMapping entries) := by
  refine (blind_checking fun s => ?_).bind fun _ => (blind_reading fun s => ?_).bind fun _ =>
    blind_make _
  · simp only [hashed_unplaced]
  · simp only [putEntry_unplaced]

/-- The names of a call do not depend on where the function stands. -/
theorem alike_openScope {f f' : Function} (h : f.unplaced = f'.unplaced) (bound : Bindings) :
    Alike (openScope f bound) (openScope f' bound) := by
  refine alike_add ?_
  have hdeclared : f.unplaced.declared = f'.unplaced.declared := by rw [h]
  have houter : f.unplaced.outer = f'.unplaced.outer := by rw [h]
  dsimp only [Function.unplaced] at hdeclared houter
  rw [hdeclared, houter]

theorem exceptionAt_unplaced (s : Store) (a : Address) :
    Eval.exceptionAt s.unplaced a = (Eval.exceptionAt s a).unplaced := by
  simp only [Eval.exceptionAt, nature?_unplaced]
  rcases s.nature? a with _ | nature
  · rfl
  · cases nature <;> rfl

theorem exceptionAt_alike {s s' : Store} (hs : s.unplaced = s'.unplaced) (a : Address) :
    (Eval.exceptionAt s a).unplaced = (Eval.exceptionAt s' a).unplaced := by
  rw [← exceptionAt_unplaced, ← exceptionAt_unplaced, hs]

theorem alike_modifyException (a : Address) {g g' : Exception → Exception}
    (h : ∀ e e' : Exception, e.unplaced = e'.unplaced → (g e).unplaced = (g' e').unplaced) :
    Alike (modifyException a g) (modifyException a g') := by
  refine alike_changing fun s s' hs => ?_
  rw [unplaced_setNature, unplaced_setNature, hs]
  exact congrArg (setNature _ a <| .exception ·) (h _ _ (exceptionAt_alike hs a))

theorem blind_raisedException (complaint : String) (v : Value) :
    Blind (raisedException complaint v) := by
  refine blind_reading_bind fun s => ?_
  rw [natureOf_unplaced]
  refine .of_eq ?_ ?_
  · rcases s.natureOf v with _ | nature
    · rfl
    · cases v <;> cases nature <;> rfl
  · split
    · exact blind_construct _ _ _
    · exact blind_pure
    · exact blind_fail _

theorem blind_setCause (a : Address) (cause : Value) : Blind (setCause a cause) := by
  have hset (c : Option Address) : Blind (modifyException a fun e => { e with cause := c }) :=
    alike_modifyException a fun e e' h => congrArg (fun e : Exception => { e with cause := c }) h
  unfold setCause
  split
  · exact hset none
  · exact (blind_raisedException _ _).bind fun c => hset (some c)

/-! Scenes. -/

namespace Scene

/-- All that was written so far: what was sent of it and what is pending. -/
def said (s : Scene) : List Char :=
  ((Output.sent s.world.record).map String.toList).flatten ++ s.pending.getD []

/-- What is written goes into a buffer, and whoever gets the lines takes them all. -/
structure Hearing (s : Scene) : Prop where
  buffered : Buffered s
  isOpen : s.world.host.audience.IsOpen

/-- The scenes are the same but for places, and for how the text was cut into pieces. -/
structure Alike (s s' : Scene) : Prop where
  store : s.store.unplaced = s'.store.unplaced
  modules : s.world.modules = s'.world.modules
  said : s.said = s'.said
  hearing : s.Hearing
  hearing' : s'.Hearing

variable {s s' s'' : Scene}

theorem Alike.refl (h : s.Hearing) : s.Alike s :=
  ⟨rfl, rfl, rfl, h, h⟩

theorem Alike.symm (h : s.Alike s') : s'.Alike s :=
  ⟨h.store.symm, h.modules.symm, h.said.symm, h.hearing', h.hearing⟩

theorem Alike.trans (h : s.Alike s') (h' : s'.Alike s'') : s.Alike s'' :=
  ⟨h.store.trans h'.store, h.modules.trans h'.modules, h.said.trans h'.said, h.hearing,
    h'.hearing'⟩

theorem Alike.module? (h : s.Alike s') (name : String) : s.module? name = s'.module? name := by
  simp only [Scene.module?, h.modules]

/-- Other objects take the place of those that were there. -/
theorem Alike.put (h : s.Alike s') {store store' : Store}
    (hstore : store.unplaced = store'.unplaced) :
    Alike { s with world := { s.world with store := store } }
      { s' with world := { s'.world with store := store' } } :=
  ⟨hstore, h.modules, h.said, ⟨h.hearing.buffered, h.hearing.isOpen⟩,
    ⟨h.hearing'.buffered, h.hearing'.isOpen⟩⟩

/-- What was said behind a while in which the world has heard something. -/
theorem said_eq {s s₀ : Scene} {marks : List Output.Mark} (h : World.Hears s₀.world s.world marks) :
    s.said = ((Output.sent s₀.world.record).map String.toList).flatten ++
      (((Output.sent marks).map String.toList).flatten ++ s.pending.getD []) := by
  simp only [said, h.record, Output.sent_append, List.map_append, List.flatten_append,
    List.append_assoc]

/-- A text is taken: it comes behind all that was written before. -/
theorem Hearing.write (h : s.Hearing) (text : List Char) :
    (s.write text).1 = none ∧ (s.write text).2.Hearing ∧
      (s.write text).2.said = s.said ++ text := by
  obtain ⟨pending, hp⟩ := Option.ne_none_iff_exists'.mp h.buffered
  have hopen : (s.world.mark (.wrote text)).host.audience.IsOpen := h.isOpen
  obtain ⟨lines, rest, w, -, -, htext, hforward, hears⟩ :=
    Output.forward_open hopen List.not_mem_nil (pending ++ text)
  simp only [Scene.write, hp, Output.write, hforward]
  refine ⟨trivial, ⟨by simp [Buffered], hears.isOpen hopen⟩, ?_⟩
  have hsent : Output.sent ((lines.map String.ofList).reverse.map .sent ++ [.wrote text]) =
      lines.map String.ofList := by
    rw [Output.sent_append, Output.sent_map_sent, List.reverse_reverse]
    rfl
  rw [said_eq ((World.hears_mark rfl s.world).trans hears), said, hp, hsent]
  simp only [List.reverse_nil, List.nil_append] at htext
  simp [Function.comp_def, ← htext]

/-- What is pending is taken; nothing is written. -/
theorem Hearing.flush (h : s.Hearing) :
    s.flush.1 = none ∧ s.flush.2.Hearing ∧ s.flush.2.said = s.said := by
  obtain ⟨pending, hp⟩ := Option.ne_none_iff_exists'.mp h.buffered
  have hmark : World.Hears s.world (s.world.mark .flushed) [.flushed] := World.hears_mark rfl _
  have hopen := hmark.isOpen h.isOpen
  simp only [Scene.flush, hp, Output.flush]
  split
  next hnil =>
    refine ⟨rfl, ⟨by simp [Buffered], hopen⟩, ?_⟩
    rw [said_eq hmark, said, hp, hnil]
    rfl
  next hne =>
    obtain ⟨htaken, hears⟩ := World.send_open hopen (String.ofList pending)
    refine ⟨htaken, ⟨by simp [Buffered], hears.isOpen hopen⟩, ?_⟩
    rw [said_eq (hmark.trans hears), said, hp]
    simp [Output.sent]

theorem Hearing.flush_pending (h : s.Hearing) : s.flush.2.pending = some [] := by
  obtain ⟨pending, hp⟩ := Option.ne_none_iff_exists'.mp h.buffered
  simp only [Scene.flush, hp, Output.flush]
  split <;> rfl

/-- What is pending makes no difference as long as it is taken in the end. -/
theorem Hearing.alike_flush (h : s.Hearing) : s.Alike s.flush.2 :=
  ⟨by simp, by simp, h.flush.2.2.symm, h, h.flush.2.1⟩

/-- Writing a text into scenes that are alike. -/
theorem Alike.write (h : s.Alike s') (text : List Char) :
    (s.write text).1 = none ∧ (s'.write text).1 = none ∧
      (s.write text).2.Alike (s'.write text).2 := by
  obtain ⟨htaken, hhearing, hsaid⟩ := h.hearing.write text
  obtain ⟨htaken', hhearing', hsaid'⟩ := h.hearing'.write text
  refine ⟨htaken, htaken', ?_, ?_, ?_, hhearing, hhearing'⟩
  · simpa using h.store
  · simpa using h.modules
  · rw [hsaid, hsaid', h.said]

theorem Alike.flush (h : s.Alike s') :
    s.flush.1 = none ∧ s'.flush.1 = none ∧ s.flush.2.Alike s'.flush.2 := by
  obtain ⟨htaken, hhearing, hsaid⟩ := h.hearing.flush
  obtain ⟨htaken', hhearing', hsaid'⟩ := h.hearing'.flush
  refine ⟨htaken, htaken', ?_, ?_, ?_, hhearing, hhearing'⟩
  · simpa using h.store
  · simpa using h.modules
  · rw [hsaid, hsaid', h.said]

end Scene

/-! Runs. -/

variable {α β γ δ : Type} {R : α → β → Prop} {R' : γ → δ → Prop}

namespace Run

/-- Two runs stop in scenes that are alike, and go on alike from whatever scenes that are alike. In
the end they give what belongs together. -/
def Alike (R : α → β → Prop) : Run α → Run β → Prop
  | .done a s, .done b t => R a b ∧ s.Alike t
  | .suspended s resume, .suspended t resume' =>
    s.Alike t ∧ ∀ s' t', s'.Alike t' → (resume s').Alike R (resume' t')
  | .exhausted, .exhausted => True
  | _, _ => False

variable {r : Run α} {r' : Run β}

theorem Alike.andThen {next : α → Scene → Run γ} {next' : β → Scene → Run δ} (h : r.Alike R r')
    (hnext : ∀ a b s t, R a b → s.Alike t → (next a s).Alike R' (next' b t)) :
    (r.andThen next).Alike R' (r'.andThen next') := by
  induction r generalizing r' with
  | done a s =>
    cases r' with
    | done b t => exact hnext a b s t h.1 h.2
    | _ => exact h.elim
  | suspended s resume ih =>
    cases r' with
    | suspended t resume' => exact ⟨h.1, fun s' t' hs => ih s' (h.2 s' t' hs)⟩
    | _ => exact h.elim
  | exhausted =>
    cases r' with
    | exhausted => trivial
    | _ => exact h.elim

theorem Alike.symm {R : α → α → Prop} {r r' : Run α} (hR : ∀ a b, R a b → R b a)
    (h : r.Alike R r') : r'.Alike R r := by
  induction r generalizing r' with
  | done a s =>
    cases r' with
    | done b t => exact ⟨hR _ _ h.1, h.2.symm⟩
    | _ => exact h.elim
  | suspended s resume ih =>
    cases r' with
    | suspended t resume' => exact ⟨h.1.symm, fun s' t' hs => ih t' (h.2 t' s' hs.symm)⟩
    | _ => exact h.elim
  | exhausted =>
    cases r' with
    | exhausted => trivial
    | _ => exact h.elim

theorem Alike.trans {R : α → α → Prop} {r r' r'' : Run α} (hR : ∀ a b c, R a b → R b c → R a c)
    (h : r.Alike R r') (h' : r'.Alike R r'') : r.Alike R r'' := by
  induction r generalizing r' r'' with
  | done a s =>
    cases r' with
    | done b t =>
      cases r'' with
      | done c u => exact ⟨hR _ _ _ h.1 h'.1, h.2.trans h'.2⟩
      | _ => exact h'.elim
    | _ => exact h.elim
  | suspended s resume ih =>
    cases r' with
    | suspended t resume' =>
      cases r'' with
      | suspended u resume'' =>
        exact ⟨h.1.trans h'.1, fun s' u' hs =>
          ih s' (h.2 s' s' (.refl hs.hearing)) (h'.2 s' u' hs)⟩
      | _ => exact h'.elim
    | _ => exact h.elim
  | exhausted =>
    cases r' with
    | exhausted => exact h'
    | _ => exact h.elim

/-- Both runs end, and so alike, or none of them does. -/
theorem Alike.finish (h : r.Alike R r') :
    Option.Rel (fun x y => R x.1 y.1 ∧ x.2.Alike y.2) r.finish r'.finish := by
  induction r generalizing r' with
  | done a s =>
    cases r' with
    | done b t => exact .some h
    | _ => exact h.elim
  | suspended s resume ih =>
    cases r' with
    | suspended t resume' =>
      have hend := ih s (h.2 s t h.1)
      exact hend
    | _ => exact h.elim
  | exhausted =>
    cases r' with
    | exhausted => exact .none
    | _ => exact h.elim

end Run

/-! Computations. -/

/-- Two computations gave what belongs together, or raised one and the same exception, whatever
places it has passed. -/
def Same (R : α → β → Prop) : Except Raised α → Except Raised β → Prop
  | .ok a, .ok b => R a b
  | .error raised, .error raised' => raised.exception = raised'.exception
  | _, _ => False

namespace Eval

/-- Two computations do the same in scenes that are alike, and give what belongs together. -/
def Agree (R : α → β → Prop) (m : Eval α) (m' : Eval β) : Prop :=
  ∀ s t, s.Alike t → (m s).Alike (Same R) (m' t)

/-- Two computations do and give the same in scenes that are alike. -/
abbrev Alike (m m' : Eval α) : Prop :=
  Agree (· = ·) m m'

variable {m m' m'' : Eval α}

theorem Alike.symm (h : Alike m m') : Alike m' m := fun s t hs =>
  (h t s hs.symm).symm fun result result' hr => by
    cases result <;> cases result' <;> first
      | exact hr.symm
      | exact hr.elim

theorem Alike.trans (h : Alike m m') (h' : Alike m' m'') : Alike m m'' := fun s t hs =>
  (h s s (.refl hs.hearing)).trans
    (fun result result' result'' hr hr' => by
      cases result <;> cases result' <;> cases result'' <;> first
        | exact hr.trans hr'
        | exact hr.elim
        | exact hr'.elim)
    (h' s t hs)

theorem agree_give {a : α} {b : β} (h : R a b) : Agree R (give a) (give b) :=
  fun _ _ hs => ⟨h, hs⟩

theorem agree_pure {a : α} {b : β} (h : R a b) : Agree R (pure a : Eval α) (pure b : Eval β) :=
  agree_give h

theorem alike_pure {a : α} : Alike (pure a) (pure a) :=
  agree_give rfl

theorem Agree.bind {m : Eval α} {m' : Eval β} {next : α → Eval γ} {next' : β → Eval δ}
    (h : Agree R m m') (hnext : ∀ a b, R a b → Agree R' (next a) (next' b)) :
    Agree R' (m >>= next) (m' >>= next') := by
  intro s t hs
  refine (h s t hs).andThen fun result result' s' t' hr hs' => ?_
  cases result with
  | ok a =>
    cases result' with
    | ok b => exact hnext a b hr s' t' hs'
    | error raised => exact hr.elim
  | error raised =>
    cases result' with
    | ok b => exact hr.elim
    | error raised' => exact ⟨hr, hs'⟩

theorem Alike.bind {next : α → Eval γ} {next' : α → Eval δ} (h : Alike m m')
    (hnext : ∀ a, Agree R' (next a) (next' a)) : Agree R' (m >>= next) (m' >>= next') := by
  refine Agree.bind h ?_
  rintro a _ rfl
  exact hnext a

theorem Alike.map (f : α → β) (h : Alike m m') : Alike (f <$> m) (f <$> m') :=
  h.bind fun _ => alike_pure

/-- Both take the same branch. -/
theorem Agree.ite {m n : Eval α} {m' n' : Eval β} {p p' : Prop} [Decidable p] [Decidable p']
    (hp : p ↔ p') (h : Agree R m m') (h' : Agree R n n') :
    Agree R (if p then m else n) (if p' then m' else n') := by
  by_cases hc : p
  · rwa [if_pos hc, if_pos (hp.mp hc)]
  · rwa [if_neg hc, if_neg (hc ∘ hp.mpr)]

theorem agree_throw {raised raised' : Raised} (h : raised.exception = raised'.exception) :
    Agree R (throw raised) (throw raised') :=
  fun _ _ hs => ⟨h, hs⟩

/-- A fault of a step is raised as an exception of its own. -/
theorem alike_step {f f' : Scene → Except Fault α × Scene}
    (h : ∀ s t, s.Alike t →
      unplacedResult (f s).1 = unplacedResult (f' t).1 ∧ (f s).2.Alike (f' t).2) :
    Alike (step f) (step f') := by
  intro s t hs
  obtain ⟨hresult, hscene⟩ := h s t hs
  unfold step
  rcases hf : f s with ⟨fault | a, s'⟩ <;> rcases hf' : f' t with ⟨fault' | a', t'⟩ <;>
    rw [hf, hf'] at hresult hscene
  · have hload := alike_loadFault (Except.error.inj hresult) s'.store t'.store hscene.store
    exact ⟨Except.ok.inj hload.1, hscene.put hload.2⟩
  · cases hresult
  · cases hresult
  · exact ⟨Except.ok.inj hresult, hscene⟩

theorem alike_act {action action' : Store.Action α} (h : Action.Alike action action') :
    Alike (act action) (act action') :=
  alike_step fun s t hs =>
    have hact := h s.store t.store hs.store
    ⟨hact.1, hs.put hact.2⟩

theorem alike_fail {fault fault' : Fault} (h : fault.unplaced = fault'.unplaced) :
    Alike (fail fault : Eval α) (fail fault') :=
  alike_step fun _ _ hs => ⟨congrArg Except.error h, hs⟩

theorem alike_ofExcept {result result' : Except Fault α}
    (h : unplacedResult result = unplacedResult result') :
    Alike (ofExcept result) (ofExcept result') := by
  cases result <;> cases result'
  · exact alike_fail (Except.error.inj h)
  · cases h
  · cases h
  · exact agree_give (Except.ok.inj h)

theorem Agree.attempt {m : Eval α} {m' : Eval β} (h : Agree R m m') :
    Agree (Same R) (Eval.attempt m) (Eval.attempt m') :=
  fun s t hs => (h s t hs).andThen fun _ _ _ _ hr hs' => ⟨hr, hs'⟩

theorem agree_ofResult {result : Except Raised α} {result' : Except Raised β}
    (h : Same R result result') : Agree R (ofResult result) (ofResult result') := by
  cases result <;> cases result'
  · exact agree_throw h
  · exact h.elim
  · exact h.elim
  · exact agree_give h

/-- The places that an exception passes make no difference. -/
theorem Agree.here {m : Eval α} {m' : Eval β} (h : Agree R m m') (frame frame' : Frame)
    (pos pos' : Code.Pos) : Agree R (frame.here pos m) (frame'.here pos' m') :=
  fun s t hs => (h s t hs).andThen fun result result' _ _ hr hs' => by
    cases result <;> cases result' <;> exact ⟨hr, hs'⟩

theorem Alike.here (h : Alike m m') (frame frame' : Frame) (pos pos' : Code.Pos) :
    Alike (frame.here pos m) (frame'.here pos' m') :=
  Agree.here h frame frame' pos pos'

theorem alike_turn : Alike turn turn :=
  fun _ _ hs => ⟨hs, fun _ _ hs' => ⟨rfl, hs'⟩⟩

theorem agree_exhausted : Agree R (exhausted : Eval α) (exhausted : Eval β) :=
  fun _ _ _ => trivial

theorem alike_rounds {round round' : α → Eval (α ⊕ β)} (h : ∀ a, Alike (round a) (round' a))
    (n : Nat) (a : α) : Alike (rounds round n a) (rounds round' n a) := by
  induction n generalizing a with
  | zero => exact agree_exhausted
  | succ n ih =>
    rw [rounds_succ, rounds_succ]
    refine (h a).bind fun result => ?_
    cases result with
    | inl a' => exact ih a'
    | inr b => exact agree_give rfl

theorem alike_read {f f' : Scene → α} (h : ∀ s t, s.Alike t → f s = f' t) :
    Alike (read f) (read f') :=
  fun s t hs => ⟨h s t hs, hs⟩

/-- What is looked up may have places. -/
theorem agree_look {f : Store → α} {f' : Store → β}
    (h : ∀ s t : Store, s.unplaced = t.unplaced → R (f s) (f' t)) : Agree R (look f) (look f') :=
  fun s t hs => ⟨h s.store t.store hs.store, hs⟩

theorem alike_look {f : Store → α} (h : ∀ s : Store, f s.unplaced = f s) :
    Alike (look f) (look f) :=
  agree_look fun s t hs => by rw [← h s, hs, h t]

theorem alike_check {f : Store → Except Fault α} (h : ∀ s : Store, f s.unplaced = f s) :
    Alike (check f) (check f) := by
  intro s t hs
  have hf : f s.store = f t.store := by rw [← h s.store, hs.store, h t.store]
  have hresult : Alike (ofExcept (f s.store)) (ofExcept (f t.store)) := by
    rw [hf]
    exact alike_ofExcept rfl
  exact hresult s t hs

theorem alike_complain {f : Store → Except Fault α}
    (h : ∀ s : Store, f s.unplaced = unplacedResult (f s)) : Alike (check f) (check f) := by
  intro s t hs
  have hf : unplacedResult (f s.store) = unplacedResult (f t.store) := by
    rw [← h s.store, hs.store, h t.store]
  exact alike_ofExcept hf s t hs

theorem alike_change {f f' : Store → Store}
    (h : ∀ s t, s.unplaced = t.unplaced → (f s).unplaced = (f' t).unplaced) :
    Alike (change f) (change f') :=
  fun s t hs => ⟨rfl, hs.put (h s.store t.store hs.store)⟩

theorem alike_perform {f f' : Scene → Option Fault × Scene}
    (h : ∀ s t, s.Alike t →
      (f s).1.map Fault.unplaced = (f' t).1.map Fault.unplaced ∧ (f s).2.Alike (f' t).2) :
    Alike (perform f) (perform f') := by
  refine alike_step fun s t hs => ?_
  obtain ⟨hfault, hscene⟩ := h s t hs
  rcases hf : f s with ⟨_ | fault, s'⟩ <;> rcases hf' : f' t with ⟨_ | fault', t'⟩ <;>
    rw [hf, hf'] at hfault hscene
  · exact ⟨rfl, hscene⟩
  · cases hfault
  · cases hfault
  · exact ⟨congrArg Except.error (Option.some.inj hfault), hscene⟩

theorem alike_write (text : String) : Alike (write text) (write text) :=
  alike_perform fun s t hs => by
    obtain ⟨htaken, htaken', hscene⟩ := hs.write text.toList
    exact ⟨by rw [htaken, htaken'], hscene⟩

theorem alike_keepTrace {raised raised' : Raised} (h : raised.exception = raised'.exception) :
    Alike (keepTrace raised) (keepTrace raised') :=
  alike_change fun s t hs => by
    rw [unplaced_setNature, unplaced_setNature, hs, h]
    exact congrArg (setNature _ _ <| .exception ·) (exceptionAt_alike hs _)

theorem agree_raiseAgain (a : Address) : Agree R (raiseAgain a) (raiseAgain a) :=
  Agree.bind (agree_look (R := fun _ _ => True) fun _ _ _ => trivial) fun _ _ _ => agree_throw rfl

end Eval

/-! Importing. -/

namespace Scene

variable {s s' : Scene}

/-- A step on the store. -/
theorem Alike.act {action action' : Store.Action α} (h : s.Alike s')
    (haction : Action.Alike action action') :
    unplacedResult (s.act action).1 = unplacedResult (s'.act action').1 ∧
      (s.act action).2.Alike (s'.act action').2 :=
  have hact := haction s.store s'.store h.store
  ⟨hact.1, h.put hact.2⟩

theorem Alike.bindInside (h : s.Alike s') (parent child : String) (v : Value) :
    (s.bindInside parent child v).Alike (s'.bindInside parent child v) := by
  unfold Scene.bindInside
  rw [h.module?]
  split
  next a _ =>
    have hmodify : Blind (changing (·.modify a fun object =>
        { object with attributes := object.attributes.set child v })) := blind_modify a fun _ => rfl
    exact h.put (hmodify _ _ h.store).2
  next => exact h

theorem Alike.keepModule (h : s.Alike s') (path : Path) (m : Value) :
    (s.keepModule path m).Alike (s'.keepModule path m) := by
  have hkept : (s.mapWorld (·.keepModule path.dotted m)).Alike
      (s'.mapWorld (·.keepModule path.dotted m)) :=
    ⟨h.store, congrArg (World.Modules.keep · path.dotted m) h.modules, h.said,
      ⟨h.hearing.buffered, h.hearing.isOpen⟩, ⟨h.hearing'.buffered, h.hearing'.isOpen⟩⟩
  unfold Scene.keepModule
  split
  · exact hkept.bindInside _ _ _
  · exact hkept

theorem blind_makeModule (name : String) (value : Datum) : Blind (makeModule name value) :=
  Action.Alike.bind (alike_load rfl) fun _ => blind_make _

/-- What a step on a scene did: whether it failed, and with what, and the scene that it left. -/
def Agree (r r' : Option Fault × Scene) : Prop :=
  r.1.map Fault.unplaced = r'.1.map Fault.unplaced ∧ r.2.Alike r'.2

theorem Alike.loadModule (h : s.Alike s') (path : Path) :
    Agree (s.loadModule path) (s'.loadModule path) := by
  unfold Scene.loadModule
  rw [h.modules]
  split
  next => exact ⟨rfl, h⟩
  next code _ =>
    obtain ⟨hmade, hact⟩ := h.act (blind_makeModule path.dotted code.value)
    rcases hs : s.act (makeModule path.dotted code.value) with ⟨fault | m, s₁⟩ <;>
      rcases hs' : s'.act (makeModule path.dotted code.value) with ⟨fault' | m', s₁'⟩ <;>
      rw [hs, hs'] at hmade hact
    · exact ⟨congrArg some (Except.error.inj hmade), hact⟩
    · cases hmade
    · cases hmade
    · obtain rfl : m = m' := Except.ok.inj hmade
      have hwrite := Alike.write hact code.text.toList
      dsimp only at hwrite ⊢
      revert hwrite
      rcases s₁.write code.text.toList with ⟨_ | fault, s₂⟩ <;>
        rcases s₁'.write code.text.toList with ⟨_ | fault', s₂'⟩ <;>
        rintro ⟨htaken, htaken', hwrite⟩
      · dsimp only
        split
        · exact ⟨rfl, hwrite⟩
        · exact ⟨rfl, hwrite.keepModule path m⟩
      · cases htaken'
      · cases htaken
      · cases htaken

theorem Alike.isPackage (h : s.Alike s') (name : String) :
    s.isPackage name = s'.isPackage name := by
  have hattributes (a : Address) (t : Store) :
      (t.unplaced.get? a).any (·.attributes.has "__path__") =
        (t.get? a).any (·.attributes.has "__path__") := by
    rw [get?_unplaced]
    cases t.get? a <;> rfl
  simp only [Scene.isPackage, h.module?]
  congr 1
  split
  next a _ => rw [← hattributes a s.store, h.store, hattributes a s'.store]
  next => rfl

theorem Alike.importModule (h : s.Alike s') (path : Path) :
    Agree (s.importModule path) (s'.importModule path) := by
  match path with
  | [] => exact ⟨rfl, h⟩
  | [name] =>
    simp only [Scene.importModule, h.module?]
    split
    · exact ⟨rfl, h⟩
    · exact h.loadModule [name]
  | inner :: parent :: outer =>
    obtain ⟨himport, hscene⟩ := h.importModule (parent :: outer)
    simp only [Scene.importModule, h.module?]
    split
    · exact ⟨rfl, h⟩
    · revert himport hscene
      rcases s.importModule (parent :: outer) with ⟨_ | fault, s₁⟩ <;>
        rcases s'.importModule (parent :: outer) with ⟨_ | fault', s₁'⟩ <;>
        intro himport hscene
      · have hscene : s₁.Alike s₁' := hscene
        dsimp only
        rw [hscene.module?, hscene.isPackage]
        split
        · exact ⟨rfl, hscene⟩
        · split
          · exact hscene.loadModule _
          · exact ⟨rfl, hscene⟩
      · cases himport
      · cases himport
      · exact ⟨himport, hscene⟩

end Scene

end Execution
end Chunkwise
