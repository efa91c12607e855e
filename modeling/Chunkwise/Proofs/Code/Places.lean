import Chunkwise.Code.Names
import Chunkwise.Code.Placement

/-!
Trees without the places at which they stand. Code that reads the same has one tree, wherever it
stands; the names that it binds are the same, and so is whether the compiler refuses it.
-/
namespace Chunkwise.Code

/-! Expressions. -/

def Keyword.unplaced (k : Keyword) : Keyword :=
  { k with pos := default }

mutual

/-- The expression as if it stood nowhere. -/
def Expr.unplaced : Expr → Expr
  | .literal _ value => .literal default value
  | .name _ id => .name default id
  | .list _ items => .list default (unplacedIn items)
  | .tuple _ items => .tuple default (unplacedIn items)
  | .dict _ keys values => .dict default (unplacedIn keys) (unplacedIn values)
  | .unary _ op e => .unary default op e.unplaced
  | .binary _ op l r => .binary default op l.unplaced r.unplaced
  | .compare _ l ops rs => .compare default l.unplaced ops (unplacedIn rs)
  | .junction _ isAnd operands => .junction default isAnd (unplacedIn operands)
  | .conditional _ test yes no => .conditional default test.unplaced yes.unplaced no.unplaced
  | .subscript _ container index => .subscript default container.unplaced index.unplaced
  | .attribute _ _ object id => .attribute default 0 object.unplaced id
  | .call _ callee args keywords values =>
    .call default callee.unplaced (unplacedIn args) (keywords.map Keyword.unplaced)
      (unplacedIn values)
  | .await _ e => .await default e.unplaced
  | .yield _ none => .yield default none
  | .yield _ (some e) => .yield default (some e.unplaced)

def unplacedIn : List Expr → List Expr
  | [] => []
  | e :: rest => e.unplaced :: unplacedIn rest

end

@[simp] theorem unplacedIn_eq (items : List Expr) : unplacedIn items = items.map Expr.unplaced := by
  induction items with
  | nil => rfl
  | cons e rest ih => rw [unplacedIn, ih, List.map_cons]

def Param.unplaced (p : Param) : Param :=
  { p with default := p.default.map Expr.unplaced }

/-! Statements. -/

mutual

/-- The statement as if it stood nowhere. -/
def Stmt.unplaced : Stmt → Stmt
  | .expr _ e => .expr default e.unplaced
  | .assign _ targets e => .assign default (targets.map Expr.unplaced) e.unplaced
  | .augment _ target op e => .augment default target.unplaced op e.unplaced
  | .delete _ targets => .delete default (targets.map Expr.unplaced)
  | .pass _ => .pass default
  | .assert _ test message => .assert default test.unplaced (message.map Expr.unplaced)
  | .raise _ fault cause => .raise default (fault.map Expr.unplaced) (cause.map Expr.unplaced)
  | .importModules _ items => .importModules default items
  | .importFrom _ level path names => .importFrom default level path names
  | .importAll _ level path _ => .importAll default level path default
  | .branch _ test yes no => .branch default test.unplaced (blockUnplaced yes) (blockUnplaced no)
  | .forEach _ target source body after =>
    .forEach default target.unplaced source.unplaced (blockUnplaced body) (blockUnplaced after)
  | .loop _ test body after =>
    .loop default test.unplaced (blockUnplaced body) (blockUnplaced after)
  | .attempt _ body handlers otherwise finally_ =>
    .attempt default (blockUnplaced body) (handlersUnplaced handlers) (blockUnplaced otherwise)
      (blockUnplaced finally_)
  | .define _ isAsync name params body =>
    .define default isAsync name (params.map Param.unplaced) (blockUnplaced body)
  | .returns _ value => .returns default (value.map Expr.unplaced)
  | .breaks _ => .breaks default
  | .continues _ => .continues default

def blockUnplaced : List Stmt → List Stmt
  | [] => []
  | s :: rest => s.unplaced :: blockUnplaced rest

def handlersUnplaced : List Handler → List Handler
  | [] => []
  | .mk _ kinds as body :: rest =>
    .mk default (kinds.map Expr.unplaced) as (blockUnplaced body) :: handlersUnplaced rest

end

def Handler.unplaced : Handler → Handler
  | .mk _ kinds as body => .mk default (kinds.map Expr.unplaced) as (body.map Stmt.unplaced)

@[simp] theorem blockUnplaced_eq (body : List Stmt) :
    blockUnplaced body = body.map Stmt.unplaced := by
  induction body with
  | nil => rfl
  | cons s rest ih => rw [blockUnplaced, ih, List.map_cons]

@[simp] theorem handlersUnplaced_eq (handlers : List Handler) :
    handlersUnplaced handlers = handlers.map Handler.unplaced := by
  induction handlers with
  | nil => rfl
  | cons handler rest ih =>
    obtain ⟨pos, kinds, as, body⟩ := handler
    rw [handlersUnplaced, ih, blockUnplaced_eq, List.map_cons, Handler.unplaced]

/-! What stands nowhere has no place to lose. -/

mutual

@[simp] theorem Expr.unplaced_unplaced (e : Expr) : e.unplaced.unplaced = e.unplaced := by
  cases e with
  | yield pos e => cases e <;> simp [Expr.unplaced, Expr.unplaced_unplaced]
  | call pos callee args keywords values =>
    have hkeywords : Keyword.unplaced ∘ Keyword.unplaced = Keyword.unplaced := rfl
    simp [Expr.unplaced, callee.unplaced_unplaced, unplaced_unplacedIn args,
      unplaced_unplacedIn values, hkeywords]
  | _ => simp [Expr.unplaced, Expr.unplaced_unplaced, unplaced_unplacedIn]

theorem unplaced_unplacedIn (items : List Expr) :
    (items.map Expr.unplaced).map Expr.unplaced = items.map Expr.unplaced := by
  match items with
  | [] => rfl
  | e :: rest => simp only [List.map_cons, e.unplaced_unplaced, unplaced_unplacedIn rest]

end

@[simp] theorem Param.unplaced_unplaced (p : Param) : p.unplaced.unplaced = p.unplaced := by
  cases h : p.default <;> simp [Param.unplaced, h]

mutual

@[simp] theorem Stmt.unplaced_unplaced (s : Stmt) : s.unplaced.unplaced = s.unplaced := by
  cases s <;>
    simp [Stmt.unplaced, unplaced_unplacedBlock, unplaced_unplacedHandlers, Function.comp_def]

theorem unplaced_unplacedBlock (body : List Stmt) :
    (body.map Stmt.unplaced).map Stmt.unplaced = body.map Stmt.unplaced := by
  match body with
  | [] => rfl
  | s :: rest => simp only [List.map_cons, s.unplaced_unplaced, unplaced_unplacedBlock rest]

theorem unplaced_unplacedHandlers (handlers : List Handler) :
    (handlers.map Handler.unplaced).map Handler.unplaced = handlers.map Handler.unplaced := by
  match handlers with
  | [] => rfl
  | .mk pos kinds as body :: rest =>
    have hbody := unplaced_unplacedBlock body
    have hrest := unplaced_unplacedHandlers rest
    cases kinds <;> simp_all [Handler.unplaced]

end

/-! The names that code binds. -/

mutual

@[simp] theorem Expr.boundNames_unplaced (e : Expr) : e.unplaced.boundNames = e.boundNames := by
  cases e with
  | tuple pos items | list pos items =>
    simp only [Expr.unplaced, unplacedIn_eq, Expr.boundNames, boundIn_unplaced items]
  | yield pos e => cases e <;> simp only [Expr.unplaced, Expr.boundNames]
  | _ => simp only [Expr.unplaced, Expr.boundNames]

@[simp] theorem boundIn_unplaced (items : List Expr) :
    boundIn (items.map Expr.unplaced) = boundIn items := by
  match items with
  | [] => rfl
  | e :: rest => simp only [List.map_cons, boundIn, e.boundNames_unplaced, boundIn_unplaced rest]

end

mutual

theorem Stmt.boundNames_unplaced (s : Stmt) : s.unplaced.boundNames = s.boundNames := by
  cases s <;>
    simp [Stmt.unplaced, Stmt.boundNames, blockNames_unplaced, handlerNames_unplaced]

@[simp] theorem blockNames_unplaced (body : List Stmt) :
    blockNames (body.map Stmt.unplaced) = blockNames body := by
  match body with
  | [] => rfl
  | s :: rest =>
    simp only [List.map_cons, blockNames, s.boundNames_unplaced, blockNames_unplaced rest]

theorem handlerNames_unplaced (handlers : List Handler) :
    handlerNames (handlers.map Handler.unplaced) = handlerNames handlers := by
  match handlers with
  | [] => rfl
  | .mk _ kinds as body :: rest =>
    simp only [List.map_cons, Handler.unplaced, handlerNames, blockNames_unplaced body,
      handlerNames_unplaced rest]

end

/-! Complaints have places of their own, but their number has none. -/

theorem length_repeatedKeywords (keywords : List Keyword) :
    (repeatedKeywords (keywords.map Keyword.unplaced)).length =
      (repeatedKeywords keywords).length := by
  induction keywords with
  | nil => rfl
  | cons k rest ih =>
    have hfind : (rest.map Keyword.unplaced).find? (·.name = k.name) =
        (rest.find? (·.name = k.name)).map Keyword.unplaced := List.find?_map ..
    simp only [List.map_cons, repeatedKeywords, Keyword.unplaced] at hfind ih ⊢
    rw [hfind]
    cases rest.find? (·.name = k.name) <;> simp [ih]

namespace Enclosure

variable (inside : Enclosure) (pos pos' : Pos)

theorem length_waiting : (inside.waiting pos).length = (inside.waiting pos').length := by
  unfold waiting
  split
  · rfl
  · rfl
  · split <;> rfl

theorem length_yielding : (inside.yielding pos).length = (inside.yielding pos').length := by
  unfold yielding
  split <;> rfl

theorem length_entering : (inside.entering pos).length = (inside.entering pos').length := by
  unfold entering
  split <;> rfl

end Enclosure

mutual

theorem Expr.length_misplaced (inside : Enclosure) (e : Expr) :
    (e.unplaced.misplaced inside).length = (e.misplaced inside).length := by
  cases e with
  | await pos e =>
    simp only [Expr.unplaced, Expr.misplaced, List.length_append, e.length_misplaced inside,
      inside.length_waiting default pos]
  | yield pos e =>
    cases e <;>
      simp [Expr.unplaced, Expr.misplaced, inside.length_yielding default pos,
        Expr.length_misplaced]
  | _ =>
    simp [Expr.unplaced, Expr.misplaced, length_repeatedKeywords, Expr.length_misplaced,
      length_misplacedIn]

theorem length_misplacedIn (inside : Enclosure) (items : List Expr) :
    (misplacedIn inside (items.map Expr.unplaced)).length = (misplacedIn inside items).length := by
  match items with
  | [] => rfl
  | e :: rest =>
    simp only [List.map_cons, misplacedIn, List.length_append, e.length_misplaced inside,
      length_misplacedIn inside rest]

end

theorem length_misplacedOption (inside : Enclosure) (e : Option Expr) :
    (misplacedOption inside (e.map Expr.unplaced)).length = (misplacedOption inside e).length := by
  cases e with
  | none => rfl
  | some e => exact e.length_misplaced inside

theorem length_defaultsMisplaced (inside : Enclosure) (params : List Param) :
    ((params.map Param.unplaced).flatMap fun p => misplacedOption inside p.default).length =
      (params.flatMap fun p => misplacedOption inside p.default).length := by
  induction params with
  | nil => rfl
  | cons p rest ih =>
    simp only [List.map_cons, List.flatMap_cons, List.length_append, ih]
    simp [Param.unplaced, length_misplacedOption]

mutual

theorem Stmt.length_misplaced (inside : Enclosure) (s : Stmt) :
    (s.unplaced.misplaced inside).length = (s.misplaced inside).length := by
  cases s with
  | forEach pos target source body after =>
    simp [Stmt.unplaced, Stmt.misplaced, inside.length_entering default pos, Expr.length_misplaced,
      length_blockMisplaced]
  | loop pos test body after =>
    simp [Stmt.unplaced, Stmt.misplaced, inside.length_entering default pos, Expr.length_misplaced,
      length_blockMisplaced]
  | attempt pos body handlers otherwise finally_ =>
    simp [Stmt.unplaced, Stmt.misplaced, length_blockMisplaced, length_handlersMisplaced,
      apply_ite List.length, Enclosure.length_entering _ default pos]
  | define pos isAsync name params body =>
    simp only [Stmt.unplaced, Stmt.misplaced, List.length_append, blockUnplaced_eq,
      length_defaultsMisplaced, length_blockMisplaced]
  | returns pos value =>
    simp [Stmt.unplaced, Stmt.misplaced, length_misplacedOption, apply_ite List.length]
  | breaks pos | continues pos =>
    simp [Stmt.unplaced, Stmt.misplaced, apply_ite List.length]
  | _ =>
    simp [Stmt.unplaced, Stmt.misplaced, Expr.length_misplaced, length_misplacedIn,
      length_misplacedOption, length_blockMisplaced]

theorem length_blockMisplaced (inside : Enclosure) (body : List Stmt) :
    (blockMisplaced inside (body.map Stmt.unplaced)).length =
      (blockMisplaced inside body).length := by
  match body with
  | [] => rfl
  | s :: rest =>
    simp only [List.map_cons, blockMisplaced, List.length_append, s.length_misplaced inside,
      length_blockMisplaced inside rest]

theorem length_handlersMisplaced (inside : Enclosure) (handlers : List Handler) :
    (handlersMisplaced inside (handlers.map Handler.unplaced)).length =
      (handlersMisplaced inside handlers).length := by
  match handlers with
  | [] => rfl
  | .mk pos kinds as body :: rest =>
    simp [handlersMisplaced, Handler.unplaced, length_misplacedOption, length_blockMisplaced,
      length_handlersMisplaced, apply_ite List.length, Enclosure.length_entering _ default pos]

end

theorem length_doubledNames (pos pos' : Pos) (names : List String) :
    (doubledNames pos names).length = (doubledNames pos' names).length := by
  induction names with
  | nil => rfl
  | cons name rest ih =>
    unfold doubledNames
    split
    · simp [ih]
    · exact ih

theorem map_name_unplaced (params : List Param) :
    (params.map Param.unplaced).map (·.name) = params.map (·.name) := by
  rw [List.map_map]
  rfl

mutual

theorem Stmt.length_misnamed (inFunction : Bool) (s : Stmt) :
    (s.unplaced.misnamed inFunction).length = (s.misnamed inFunction).length := by
  cases s with
  | importAll pos level path asterisk =>
    simp [Stmt.unplaced, Stmt.misnamed, apply_ite List.length]
  | define pos isAsync name params body =>
    simp only [Stmt.unplaced, Stmt.misnamed, List.length_append, map_name_unplaced,
      blockUnplaced_eq, length_doubledNames default pos, length_blockMisnamed]
  | _ =>
    simp [Stmt.unplaced, Stmt.misnamed, length_blockMisnamed, length_handlersMisnamed]

theorem length_blockMisnamed (inFunction : Bool) (body : List Stmt) :
    (blockMisnamed inFunction (body.map Stmt.unplaced)).length =
      (blockMisnamed inFunction body).length := by
  match body with
  | [] => rfl
  | s :: rest =>
    simp only [List.map_cons, blockMisnamed, List.length_append, s.length_misnamed inFunction,
      length_blockMisnamed inFunction rest]

theorem length_handlersMisnamed (inFunction : Bool) (handlers : List Handler) :
    (handlersMisnamed inFunction (handlers.map Handler.unplaced)).length =
      (handlersMisnamed inFunction handlers).length := by
  match handlers with
  | [] => rfl
  | .mk pos kinds as body :: rest =>
    simp only [List.map_cons, Handler.unplaced, handlersMisnamed, List.length_append,
      length_blockMisnamed inFunction body, length_handlersMisnamed inFunction rest]

end

/-! What the compiler refuses. -/

variable {mayWait : Bool} {first rest body : List Stmt}

theorem refusal?_eq_none : refusal? mayWait body = none ↔
    blockMisnamed false body = [] ∧ blockMisplaced { mayWait := mayWait } body = [] := by
  rw [refusal?, List.head?_eq_none_iff, List.append_eq_nil_iff]

/-- Whether a source is refused does not depend on where its statements stand. -/
theorem refusal?_unplaced :
    refusal? mayWait (body.map Stmt.unplaced) = none ↔ refusal? mayWait body = none := by
  simp only [refusal?_eq_none, ← List.length_eq_zero_iff, length_blockMisnamed,
    length_blockMisplaced]

theorem blockMisnamed_append (inFunction : Bool) (first rest : List Stmt) :
    blockMisnamed inFunction (first ++ rest) =
      blockMisnamed inFunction first ++ blockMisnamed inFunction rest := by
  induction first with
  | nil => rfl
  | cons s first ih => rw [List.cons_append, blockMisnamed, blockMisnamed, ih, List.append_assoc]

theorem blockMisplaced_append (inside : Enclosure) (first rest : List Stmt) :
    blockMisplaced inside (first ++ rest) =
      blockMisplaced inside first ++ blockMisplaced inside rest := by
  induction first with
  | nil => rfl
  | cons s first ih => rw [List.cons_append, blockMisplaced, blockMisplaced, ih, List.append_assoc]

/-- Two runs of statements are refused together if one of them is. -/
theorem refusal?_append : refusal? mayWait (first ++ rest) = none ↔
    refusal? mayWait first = none ∧ refusal? mayWait rest = none := by
  simp only [refusal?_eq_none, blockMisnamed_append, blockMisplaced_append,
    List.append_eq_nil_iff]
  exact and_and_and_comm

/-- A last expression is refused for what it would be refused for as a statement. -/
theorem tailRefusal?_eq_none {pos : Pos} {e : Expr} :
    tailRefusal? mayWait e = none ↔ refusal? mayWait [.expr pos e] = none := by
  simp [tailRefusal?, refusal?, blockMisnamed, blockMisplaced, Stmt.misnamed, Stmt.misplaced]

end Chunkwise.Code
