import Chunkwise.Proofs.Session.Visits

/-!
Bridges and their attempts. A bridge is loading exactly while an attempt of it is in flight, and
there is one at a time; a bridge that is loaded stays so and is left alone.
-/
namespace Chunkwise.Session
open Chunkwise.Execution Chunkwise.Bridge

def Loading.isOver : Loading → Bool
  | .ended _ => true
  | _ => false

/-- An attempt of a bridge has not ended. -/
def InFlight (a b : Nat) (s : Session) : Prop :=
  ∃ made, s.attempts[a]? = some made ∧ made.bridge = b ∧ made.stage.isOver = false

/-- The bridge of each attempt, and whether the attempt has ended. -/
def flights (s : Session) : List (Nat × Bool) :=
  s.attempts.map fun made => (made.bridge, made.stage.isOver)

variable {rule : Rule} {s₀ s₁ s s' : Session} {p p' : Point} {n c a b : Nat}

theorem inFlight_iff : s.InFlight a b ↔ s.flights[a]? = some (b, false) := by
  simp only [InFlight, flights, List.getElem?_map, Option.map_eq_some_iff, Prod.mk.injEq]

/-- What a move does to bridges and attempts. -/
inductive Flight (p : Point) (s : Session) (p' : Point) (s' : Session) : Prop
  | stay (crossings : s'.crossings = s.crossings) (bridge : s'.bridge = s.bridge)
      (flights : s'.flights = s.flights)
      (here : ∀ a, p'.attempt? = some a → ∃ b, s.flights[a]? = some (b, false))
  | land {a b : Nat} {fault : Option Fault} (here : p.attempt? = some a) (rest : p' = .rest)
      (flying : s.flights[a]? = some (b, false))
      (crossings : s'.crossings = s.crossings.modify b fun c =>
        { c with status := if fault.isNone then .ready else .failed, inflight := none })
      (bridge : s'.bridge = s.bridge) (flights : s'.flights = s.flights.set a (b, true))
  | start (rest : p' = .rest) (status : s.crossing.status ≠ .ready)
      (inflight : s.crossing.inflight = none)
      (crossings : s'.crossings = s.crossings.modify s.bridge fun c =>
        { status := .loading, attempts := c.attempts + 1, inflight := some s.attempts.length })
      (bridge : s'.bridge = s.bridge) (flights : s'.flights = s.flights ++ [(s.bridge, false)])

theorem flights_setAttempt (h : s.flights[a]? = some (b, false)) (stage : Loading) :
    (s.setAttempt a stage).flights = s.flights.set a (b, stage.isOver) := by
  refine map_modify_set fun made hmade => ?_
  simp only [flights, List.getElem?_map, hmade, Option.map_some, Option.some.injEq,
    Prod.mk.injEq] at h
  rw [h.1]

/-- An attempt that pauses is in flight as before. -/
theorem flights_pause (h : s.flights[a]? = some (b, false)) {stage : Loading}
    (hstage : stage.isOver = false) : (s.setAttempt a stage).flights = s.flights := by
  obtain ⟨ha, hflight⟩ := List.getElem?_eq_some_iff.mp h
  rw [flights_setAttempt h, hstage, ← hflight, List.set_getElem_self]

theorem flights_watchAttempt (n i a : Nat) (s : Session) :
    (s.watchAttempt n i a).flights = s.flights :=
  map_modify_eq (f := fun made : Attempt => { made with watchers := made.watchers ++ [n] })
    (fun _ => rfl) a s.attempts

theorem flights_of_loading? {stage : Loading} (h : s.loading? a = some stage)
    (hstage : stage.isOver = false) : ∃ b, s.flights[a]? = some (b, false) := by
  obtain ⟨made, hmade, rfl⟩ := Option.map_eq_some_iff.mp h
  exact ⟨made.bridge, inFlight_iff.mp ⟨made, hmade, rfl, hstage⟩⟩

theorem bridgeOf_eq (h : s.flights[a]? = some (b, false)) : s.bridgeOf a = b := by
  obtain ⟨made, hmade, rfl, -⟩ := inFlight_iff.mpr h
  simp [bridgeOf, hmade]

theorem Loading.isOver_of_isPaused {stage : Loading} (h : stage.isPaused) :
    stage.isOver = false := by
  cases stage <;> first | rfl | contradiction

theorem flight_endAttempt (fault : Option Fault) (here : p.attempt? = some a)
    (flying : s.flights[a]? = some (b, false)) : Flight p s .rest (s.endAttempt a fault) := by
  have hover := flights_setAttempt flying (.ended fault)
  have hcrossings : (s.endAttempt a fault).crossings = s.crossings.modify b fun c =>
      { c with status := if fault.isNone then .ready else .failed, inflight := none } := by
    rw [← bridgeOf_eq flying]
    cases fault <;> rfl
  cases fault <;> exact .land here rfl flying hcrossings rfl hover

theorem Move.flight (m : Move (p, s) (p', s'))
    (here : ∀ a, p.attempt? = some a → ∃ b, s.flights[a]? = some (b, false)) :
    Flight p s p' s' := by
  have pause {a : Nat} (ha : p.attempt? = some a) (stage : Loading) (h : stage.isOver = false) :
      (s.setAttempt a stage).flights = s.flights :=
    have ⟨_, flying⟩ := here a ha
    flights_pause flying h
  cases m
  case load paused h =>
    refine .stay rfl rfl rfl ?_
    rintro _ ⟨⟩
    exact flights_of_loading? h (Loading.isOver_of_isPaused paused)
  case adaptNext h _ | adaptOn h =>
    refine .stay rfl rfl rfl ?_
    rintro _ ⟨⟩
    exact flights_of_loading? h rfl
  case loadLater paused =>
    exact .stay rfl rfl (pause rfl _ (Loading.isOver_of_isPaused paused)) nofun
  case queueAdapter source _ => exact .stay rfl rfl (pause rfl (.queuedToRun source) rfl) nofun
  case adaptLater resume _ => exact .stay rfl rfl (pause rfl (.running resume) rfl) nofun
  case stickAttempt => exact .stay rfl rfl (pause rfl .stuck rfl) nofun
  case arrive | failAttempt | failAdapted =>
    obtain ⟨b, flying⟩ := here _ rfl
    exact flight_endAttempt _ rfl flying
  case watchAttempt => exact .stay rfl rfl (flights_watchAttempt ..) nofun
  case newAttempt status inflight =>
    refine .start rfl status inflight rfl rfl ((flights_watchAttempt ..).trans ?_)
    exact List.map_append
  all_goals exact .stay rfl rfl rfl here

/-- How bridges and attempts fit together. -/
structure Bridged (p : Point) (s : Session) : Prop where
  bridge : s.bridge < s.crossings.length
  flights {a b : Nat} {ended : Bool} : s.flights[a]? = some (b, ended) → b < s.crossings.length
  inflight {b : Nat} {c : Crossing} : s.crossings[b]? = some c →
    ∀ a, c.inflight = some a ↔ s.flights[a]? = some (b, false)
  loading {b : Nat} {c : Crossing} : s.crossings[b]? = some c →
    (c.status = .loading ↔ c.inflight ≠ none)
  attempts {b : Nat} {c : Crossing} : s.crossings[b]? = some c →
    c.attempts = s.flights.countP (·.1 = b)
  here {a : Nat} : p.attempt? = some a → ∃ b, s.flights[a]? = some (b, false)

/-- The bridge of new evaluations. -/
theorem Bridged.crossing?_eq (hb : Bridged p s) : s.crossings[s.bridge]? = some s.crossing := by
  have hc := List.getElem?_eq_getElem hb.bridge
  rw [crossing, hc, Option.getD_some]

theorem Bridged.unique (h : Bridged p s) {a a' : Nat} (ha : s.flights[a]? = some (b, false))
    (ha' : s.flights[a']? = some (b, false)) : a = a' := by
  have hc := List.getElem?_eq_getElem (h.flights ha)
  have hinflight := (h.inflight hc a).mpr ha
  exact Option.some.inj (hinflight.symm.trans ((h.inflight hc a').mpr ha'))

theorem getElem?_modify_some {α : Type} {f : α → α} {l : List α} {i j : Nat} {x : α}
    (h : (l.modify i f)[j]? = some x) : ∃ y, l[j]? = some y ∧ x = if i = j then f y else y := by
  rw [List.getElem?_modify] at h
  obtain ⟨y, hy, rfl⟩ := Option.map_eq_some_iff.mp h
  exact ⟨y, hy, rfl⟩

theorem countP_set_over (flying : s.flights[a]? = some (b, false)) (b' : Nat) :
    (s.flights.set a (b, true)).countP (·.1 = b') = s.flights.countP (·.1 = b') := by
  have hbridges : (s.flights.set a (b, true)).map Prod.fst = s.flights.map Prod.fst := by
    obtain ⟨ha, hflight⟩ := List.getElem?_eq_some_iff.mp flying
    have hlt : a < (s.flights.map Prod.fst).length := by simpa using ha
    have hbridge : b = (s.flights.map Prod.fst)[a] := by simp [hflight]
    rw [List.map_set, hbridge, List.set_getElem_self]
  have hcount := fun l : List (Nat × Bool) => List.countP_map (p := (· = b')) (f := Prod.fst) (l := l)
  simp only [Function.comp_def] at hcount
  rw [← hcount, ← hcount, hbridges]

/-- The attempt that is under way lands. -/
theorem Bridged.land {fault : Option Fault} (h : Bridged p s)
    (flying : s.flights[a]? = some (b, false))
    (crossings : s'.crossings = s.crossings.modify b fun c =>
      { c with status := if fault.isNone then .ready else .failed, inflight := none })
    (bridge : s'.bridge = s.bridge) (flights : s'.flights = s.flights.set a (b, true)) :
    Bridged .rest s' := by
  have hlanded : (s.flights.set a (b, true))[a]? = some (b, true) :=
    List.getElem?_set_self (List.getElem?_eq_some_iff.mp flying).1
  have hlength : s'.crossings.length = s.crossings.length := by rw [crossings, List.length_modify]
  refine ⟨by rw [bridge, hlength]; exact h.bridge, ?_, ?_, ?_, ?_, nofun⟩
  · intro a' b' ended hflight
    rw [flights] at hflight
    rw [hlength]
    by_cases ha : a = a'
    · subst ha
      rw [hlanded] at hflight
      cases hflight
      exact h.flights flying
    · rw [List.getElem?_set_ne ha] at hflight
      exact h.flights hflight
  · intro b' c hc a'
    obtain ⟨c₀, hc₀, rfl⟩ := getElem?_modify_some (crossings ▸ hc)
    have hold := h.inflight hc₀ a'
    rw [flights]
    by_cases ha : a = a'
    · subst ha
      rw [hlanded]
      by_cases hb : b = b' <;> simp [hb, hold, flying]
    · rw [List.getElem?_set_ne ha]
      by_cases hb : b = b'
      · subst hb
        simpa using fun ha' => ha (h.unique flying ha')
      · simp [hb, hold]
  · intro b' c hc
    obtain ⟨c₀, hc₀, rfl⟩ := getElem?_modify_some (crossings ▸ hc)
    have hold := h.loading hc₀
    grind
  · intro b' c hc
    obtain ⟨c₀, hc₀, rfl⟩ := getElem?_modify_some (crossings ▸ hc)
    rw [flights, countP_set_over flying, ← h.attempts hc₀]
    grind

/-- An attempt starts for the bridge in use, which has none under way. -/
theorem Bridged.start (h : Bridged p s) (inflight : s.crossing.inflight = none)
    (crossings : s'.crossings = s.crossings.modify s.bridge fun c =>
      { status := .loading, attempts := c.attempts + 1, inflight := some s.attempts.length })
    (bridge : s'.bridge = s.bridge) (flights : s'.flights = s.flights ++ [(s.bridge, false)]) :
    Bridged .rest s' := by
  have hlength : s'.crossings.length = s.crossings.length := by rw [crossings, List.length_modify]
  have hattempts : s.flights.length = s.attempts.length := List.length_map _
  have hnone : ∀ a : Nat, s.flights[a]? ≠ some (s.bridge, false) := by
    intro a ha
    have hc := List.getElem?_eq_getElem h.bridge
    have hinflight := (h.inflight hc a).mpr ha
    simp only [crossing, hc, Option.getD_some] at inflight
    rw [inflight] at hinflight
    contradiction
  refine ⟨by rw [bridge, hlength]; exact h.bridge, ?_, ?_, ?_, ?_, nofun⟩
  · intro a' b' ended hflight
    have hold := @h.flights
    have := h.bridge
    rw [flights, List.getElem?_append] at hflight
    grind
  · intro b' c hc a'
    obtain ⟨c₀, hc₀, rfl⟩ := getElem?_modify_some (crossings ▸ hc)
    have hold := h.inflight hc₀ a'
    have := hnone a'
    rw [flights, List.getElem?_append]
    grind
  · intro b' c hc
    obtain ⟨c₀, hc₀, rfl⟩ := getElem?_modify_some (crossings ▸ hc)
    have hold := h.loading hc₀
    grind
  · intro b' c hc
    obtain ⟨c₀, hc₀, rfl⟩ := getElem?_modify_some (crossings ▸ hc)
    have hold := h.attempts hc₀
    rw [flights, List.countP_append]
    grind

theorem Bridged.keep (h : Bridged p s) (hf : Flight p s p' s') : Bridged p' s' := by
  cases hf with
  | stay crossings bridge flights here =>
    have hattempts := @h.attempts
    refine ⟨?_, ?_, ?_, ?_, ?_, ?_⟩
    · rw [bridge, crossings]
      exact h.bridge
    · rw [flights, crossings]
      exact h.flights
    · rw [flights, crossings]
      exact h.inflight
    · rw [crossings]
      exact h.loading
    · rw [flights, crossings]
      exact h.attempts
    · rw [flights]
      exact here _
  | land _ rest flying crossings bridge flights =>
    exact rest ▸ h.land flying crossings bridge flights
  | start rest _ inflight crossings bridge flights =>
    exact rest ▸ h.start inflight crossings bridge flights

/-- A new bridge has no attempt. -/
theorem Bridged.close (h : Bridged .rest s) (crossings : s'.crossings = s.crossings ++ [({} : Crossing)])
    (bridge : s'.bridge = s.crossings.length) (flights : s'.flights = s.flights) :
    Bridged .rest s' := by
  have hnone : ∀ a ended, s.flights[a]? ≠ some (s.crossings.length, ended) :=
    fun a ended ha => absurd (h.flights ha) (Nat.lt_irrefl _)
  have hcount : s.flights.countP (·.1 = s.crossings.length) = 0 := by
    rw [List.countP_eq_zero]
    rintro ⟨b, ended⟩ hb
    obtain ⟨a, ha⟩ := List.getElem?_of_mem hb
    simpa using Nat.ne_of_lt (h.flights ha)
  have hlast {b : Nat} {c : Crossing} (hc : s'.crossings[b]? = some c) :
      s.crossings[b]? = some c ∨ b = s.crossings.length ∧ c = {} := by
    rw [crossings, List.getElem?_append] at hc
    grind
  have hlength : s'.crossings.length = s.crossings.length + 1 := by simp [crossings]
  refine ⟨by omega, fun ha => ?_, fun hc a => ?_, fun hc => ?_, fun hc => ?_, nofun⟩
  · have := h.flights (flights ▸ ha)
    omega
  · rw [flights]
    rcases hlast hc with hold | ⟨rfl, rfl⟩
    · exact h.inflight hold a
    · exact ⟨nofun, fun ha => absurd ha (hnone a false)⟩
  · rcases hlast hc with hold | ⟨rfl, rfl⟩
    · exact h.loading hold
    · exact ⟨nofun, fun hne => absurd rfl hne⟩
  · rw [flights]
    rcases hlast hc with hold | ⟨rfl, rfl⟩
    · exact h.attempts hold
    · exact hcount.symm

theorem Bridged.pick (h : Bridged .rest s) (event : Event) (ready : List Event) :
    Bridged (.picked event) { s with ready := ready } :=
  ⟨h.bridge, h.flights, h.inflight, h.loading, h.attempts, nofun⟩

theorem Visits.bridged (h : Visits rule s₀ p s) (h₀ : Bridged .rest s₀) : Bridged p s := by
  induction h with
  | start => exact h₀
  | move _ m ih => exact ih.keep (m.flight fun _ => ih.here)
  | pick _ _ _ ih => exact ih.pick _ _
  | submit _ _ _ ih | change _ _ _ _ _ ih =>
    exact ⟨ih.bridge, ih.flights, ih.inflight, ih.loading, ih.attempts, nofun⟩
  | close _ _ _ _ _ _ ih => exact ih.close rfl rfl rfl

theorem bridged_fresh (settings : Settings) (world : World) (cells : List Cell)
    (current : Option Nat) : Bridged .rest (fresh settings world cells current) := by
  refine ⟨Nat.zero_lt_one, nofun, fun {b _} hc a => ?_, fun {b _} hc => ?_, fun {b _} hc => ?_, nofun⟩
  all_goals
    obtain ⟨rfl, rfl⟩ : b = 0 ∧ _ = ({} : Crossing) := by
      rcases b with _ | b
      · exact ⟨rfl, (Option.some.inj hc).symm⟩
      · exact absurd hc (by simp [fresh])
    simp [fresh, flights]

theorem loading?_setAttempt_ne {a' : Nat} (h : a' ≠ a) (stage : Loading) (s : Session) :
    (s.setAttempt a' stage).loading? a = s.loading? a := by
  simp only [loading?, setAttempt, List.getElem?_modify, if_neg h]
  cases s.attempts[a]? <;> rfl

theorem loading?_setAttempt (a : Nat) (stage : Loading) (s : Session) :
    (s.setAttempt a stage).loading? a = (s.loading? a).map fun _ => stage := by
  simp only [loading?, setAttempt, List.getElem?_modify]
  cases s.attempts[a]? <;> simp

theorem loading?_watchAttempt (n i a' : Nat) (s : Session) :
    (s.watchAttempt n i a').loading? a = s.loading? a := by
  have hstages := map_modify_eq (g := (·.stage))
    (f := fun made : Attempt => { made with watchers := made.watchers ++ [n] }) (fun _ => rfl) a'
    s.attempts
  have hstage := congrArg (·[a]?) hstages
  simp only [List.getElem?_map] at hstage
  exact hstage

/-- An attempt that has ended stays so. -/
theorem Bridged.landed_stays (h : Bridged p s) (m : Move (p, s) (p', s')) {fault : Option Fault}
    (ha : s.loading? a = some (.ended fault)) : s'.loading? a = some (.ended fault) := by
  have hne {a' : Nat} (hat : p.attempt? = some a') : a' ≠ a := by
    rintro rfl
    obtain ⟨b, hb⟩ := h.here hat
    obtain ⟨made, hmade, -, hstage⟩ := inFlight_iff.mpr hb
    simp only [loading?, hmade, Option.map_some, Option.some.injEq] at ha
    rw [ha] at hstage
    cases hstage
  cases m
  case loadLater | queueAdapter | adaptLater | stickAttempt =>
    exact (loading?_setAttempt_ne (hne rfl) _ _).trans ha
  case arrive | failAttempt | failAdapted =>
    exact (loading?_setAttempt_ne (hne rfl) _ _).trans ha
  case watchAttempt => exact (loading?_watchAttempt ..).trans ha
  case newAttempt =>
    refine (loading?_watchAttempt ..).trans ?_
    simp only [loading?, Session.newAttempt, wake, mapCrossing] at ha ⊢
    grind
  all_goals exact ha

/-! How a bridge changes. -/

/-- The ways in which a bridge may change. -/
inductive Turn : Status → Status → Prop
  | load : Turn .unloaded .loading
  | arrive : Turn .loading .ready
  | fail : Turn .loading .failed
  | retry : Turn .failed .loading

theorem turn_of_loading {status : Status} (h : status = .loading) (fault : Option Fault) :
    Turn status (if fault.isNone then .ready else .failed) := by
  subst h
  cases fault with
  | none => exact .arrive
  | some fault => exact .fail

theorem turn_to_loading {status : Status} (h : status ≠ .ready) (h' : status ≠ .loading) :
    Turn status .loading := by
  cases status with
  | unloaded => exact .load
  | failed => exact .retry
  | loading | ready => contradiction

/-- A bridge changes when an attempt ends or starts; then its event is over. -/
theorem Flight.turn (f : Flight p s p' s') (h : Bridged p s) {c : Crossing}
    (hc : s.crossings[b]? = some c) : ∃ c', s'.crossings[b]? = some c' ∧
      (c'.status = c.status ∨ p' = .rest ∧ Turn c.status c'.status) := by
  cases f with
  | stay crossings => exact ⟨c, crossings ▸ hc, .inl rfl⟩
  | @land a b₀ fault _ rest flying crossings =>
    rw [crossings, List.getElem?_modify, hc]
    refine ⟨_, rfl, ?_⟩
    by_cases hb : b₀ = b
    · subst hb
      have hloading : c.status = .loading := by
        rw [h.loading hc, (h.inflight hc a).mpr flying]
        exact Option.some_ne_none a
      simp only [if_true]
      exact .inr ⟨rest, turn_of_loading hloading fault⟩
    · simp [hb]
  | start rest status inflight crossings =>
    rw [crossings, List.getElem?_modify, hc]
    refine ⟨_, rfl, ?_⟩
    by_cases hb : s.bridge = b
    · subst hb
      simp only [crossing, hc, Option.getD_some] at status inflight
      have hloading : c.status ≠ .loading := fun hloading => (h.loading hc).mp hloading inflight
      simpa using .inr ⟨rest, turn_to_loading status hloading⟩
    · simp [hb]

theorem moves_turn (h : Bridged p s) {x : Point × Session} (m : Moves (p, s) x) {c : Crossing}
    (hc : s.crossings[b]? = some c) : Bridged x.1 x.2 ∧ ∃ c', x.2.crossings[b]? = some c' ∧
      (c'.status = c.status ∨ x.1 = .rest ∧ Turn c.status c'.status) := by
  induction m with
  | refl => exact ⟨h, c, hc, .inl rfl⟩
  | @tail x y _ m ih =>
    obtain ⟨hx, c', hc', hstatus | ⟨hrest, -⟩⟩ := ih
    · have hflight := Move.flight m fun _ => hx.here
      exact ⟨hx.keep hflight, hstatus ▸ hflight.turn hx hc'⟩
    · exact absurd (hrest ▸ m : Move (.rest, x.2) y) (not_move_rest y)

theorem step_turn {cause : Cause} (h : Bridged .rest s) (hstep : Step cause s s') {c : Crossing}
    (hc : s.crossings[b]? = some c) : ∃ c', s'.crossings[b]? = some c' ∧
      (c'.status = c.status ∨ Turn c.status c'.status) := by
  cases hstep with
  | submit => exact ⟨c, hc, .inl rfl⟩
  | @fire _ event ready =>
    obtain ⟨-, c', hc', hturn⟩ :=
      moves_turn (h.pick event (s.ready.erase event)) (moves_fire event _) hc
    exact ⟨c', hc', hturn.imp_right And.right⟩
  | close =>
    obtain ⟨_, _, _, _, hclose | hclose⟩ := close_eq s
    · exact ⟨c, hclose ▸ hc, .inl rfl⟩
    · refine ⟨c, ?_, .inl rfl⟩
      rw [hclose]
      exact List.getElem?_append_left (List.getElem?_eq_some_iff.mp hc).1 ▸ hc
  | outside => exact ⟨c, hc, .inl rfl⟩

/-- An attempt that takes a step is in flight. -/
theorem Occasion.flying {deed : Deed} (ho : Occasion p s deed) (h : Bridged p s)
    (ha : deed.attempt? = some a) : ∃ b, s.flights[a]? = some (b, false) := by
  cases ho
  case strive hdeed =>
    obtain rfl := Option.some.inj (hdeed.symm.trans ha)
    exact h.here rfl
  case adaptNext hstage =>
    obtain rfl := Option.some.inj ha
    exact flights_of_loading? hstage rfl
  case settled =>
    obtain rfl := Option.some.inj ha
    exact h.here rfl
  all_goals cases ha

/-- What attempts do outside during an event is done by attempts in flight at its start. -/
theorem moves_flying (h : Bridged p s) {x : Point × Session} (m : Moves (p, s) x) :
    Bridged x.1 x.2 ∧ (x.1 = .rest ∨ x.2.flights = s.flights) ∧
      ∃ new, x.2.deeds = s.deeds ++ new ∧
        ∀ deed ∈ new, ∀ a, deed.attempt? = some a → ∃ b, s.InFlight a b := by
  induction m with
  | refl => exact ⟨h, .inr rfl, [], by simp, nofun⟩
  | @tail x y _ m ih =>
    obtain ⟨hx, hrest | hflights, new, hnew, hflying⟩ := ih
    · exact absurd (hrest ▸ m : Move (.rest, x.2) y) (not_move_rest y)
    have hflight := Move.flight m fun _ => hx.here
    refine ⟨hx.keep hflight, ?_, ?_⟩
    · cases hflight with
      | stay _ _ flights => exact .inr (flights.trans hflights)
      | land _ rest | start rest => exact .inl rest
    · rcases Move.deeds m with hsame | ⟨last, hlast, hdeeds⟩
      · exact ⟨new, hsame.trans hnew, hflying⟩
      · refine ⟨new ++ [last], by rw [hdeeds, hnew, List.append_assoc], fun deed hdeed a ha => ?_⟩
        rcases List.mem_append.mp hdeed with hdeed | hdeed
        · exact hflying deed hdeed a ha
        · obtain rfl := List.mem_singleton.mp hdeed
          obtain ⟨b, hb⟩ := hlast.flying hx ha
          exact ⟨b, inFlight_iff.mpr (hflights ▸ hb)⟩

theorem step_flying {cause : Cause} (h : Bridged .rest s) (hstep : Step cause s s') :
    ∃ new, s'.deeds = s.deeds ++ new ∧
      ∀ deed ∈ new, ∀ a, deed.attempt? = some a → ∃ b, s.InFlight a b := by
  cases hstep with
  | @fire _ event ready =>
    exact (moves_flying (h.pick event (s.ready.erase event)) (moves_fire event _)).2.2
  | submit | outside => exact ⟨[], by simp [submit, wake], nofun⟩
  | close =>
    obtain ⟨_, _, _, _, hclose | hclose⟩ := close_eq s
    all_goals exact ⟨[], by simp [hclose], nofun⟩

theorem Flight.flights_grow (f : Flight p s p' s') {ended : Bool}
    (ha : s.flights[a]? = some (b, ended)) : ∃ ended', s'.flights[a]? = some (b, ended') := by
  cases f with
  | stay _ _ flights => exact ⟨ended, flights ▸ ha⟩
  | land _ _ flying _ _ flights =>
    rw [flights, List.getElem?_set]
    grind
  | start _ _ _ _ _ flights =>
    exact ⟨ended, flights ▸ List.getElem?_append_left (List.getElem?_eq_some_iff.mp ha).1 ▸ ha⟩

/-- A bridge that is loaded stays as it is, and no attempt of it does anything outside. -/
theorem Visits.ready_stays (h : Visits rule s₁ p s) (h₁ : Bridged .rest s₁) {c : Crossing}
    (hc : s₁.crossings[b]? = some c) (hready : c.status = .ready) :
    s.crossings[b]? = some c ∧ ∃ later, s.deeds = s₁.deeds ++ later ∧
      ∀ deed ∈ later, ∀ a, deed.attempt? = some a →
        ∃ b' ended, s.flights[a]? = some (b', ended) ∧ b' ≠ b := by
  induction h with
  | start => exact ⟨hc, [], by simp, nofun⟩
  | @move p p' s s' h m ih =>
    obtain ⟨hold, later, hlater, hother⟩ := ih
    have hb := h.bridged h₁
    have hflight := m.flight fun _ => hb.here
    have hidle : ∀ a : Nat, s.flights[a]? ≠ some (b, false) := by
      intro a ha
      have hinflight := (hb.inflight hold a).mpr ha
      have := (hb.loading hold).mpr (by simp [hinflight])
      simp [hready] at this
    have hkept : s'.crossings[b]? = some c := by
      cases hflight with
      | stay crossings => rw [crossings, hold]
      | @land a b₀ _ _ _ flying crossings =>
        have hne : b₀ ≠ b := fun e => hidle a (e ▸ flying)
        rw [crossings, List.getElem?_modify, hold]
        simp [hne]
      | start _ status _ crossings =>
        have : s.bridge ≠ b := by
          rintro rfl
          simp [crossing, hold, hready] at status
        rw [crossings, List.getElem?_modify, hold]
        simp [this]
    have hgrow : ∀ deed ∈ later, ∀ a, deed.attempt? = some a →
        ∃ b' ended, s'.flights[a]? = some (b', ended) ∧ b' ≠ b := by
      intro deed hdeed a ha
      obtain ⟨b', ended, hflown, hne⟩ := hother deed hdeed a ha
      obtain ⟨ended', hflown'⟩ := hflight.flights_grow hflown
      exact ⟨b', ended', hflown', hne⟩
    refine ⟨hkept, ?_⟩
    rcases m.deeds with hsame | ⟨last, hlast, hnew⟩
    · exact ⟨later, hsame.trans hlater, hgrow⟩
    · refine ⟨later ++ [last], by rw [hnew, hlater, List.append_assoc], fun deed hdeed a ha => ?_⟩
      rcases List.mem_append.mp hdeed with hdeed | hdeed
      · exact hgrow deed hdeed a ha
      · obtain rfl := List.mem_singleton.mp hdeed
        obtain ⟨b', hflying⟩ := hlast.flying hb ha
        obtain ⟨ended, hflown⟩ := hflight.flights_grow hflying
        exact ⟨b', ended, hflown, fun e => hidle a (e ▸ hflying)⟩
  | pick _ _ _ ih | submit _ _ _ ih | change _ _ _ _ _ ih => exact ih
  | close _ _ _ _ _ _ ih =>
    obtain ⟨hold, hrest⟩ := ih
    refine ⟨?_, hrest⟩
    exact List.getElem?_append_left (List.getElem?_eq_some_iff.mp hold).1 ▸ hold

/-- Whatever comes in whatever order: a bridge is loading exactly while an attempt of it is in
flight, and that is the one that it knows of; it counts its attempts; it changes in four ways only;
what is done outside is done by attempts in flight; and once it is loaded it stays as it is, and no
attempt of it does anything outside. -/
theorem bridge_single_flight (settings : Settings) (world : World) (cells : List Cell)
    (current : Option Nat) (h : Reaches .anything (fresh settings world cells current) s)
    {c : Crossing} (hc : s.crossings[b]? = some c) :
    (c.status = .loading ↔ ∃ a, s.InFlight a b) ∧
    (∀ a, c.inflight = some a ↔ s.InFlight a b) ∧
    (∀ a a', s.InFlight a b → s.InFlight a' b → a = a') ∧
    c.attempts = s.attempts.countP (·.bridge = b) ∧
    (∀ cause s', Step cause s s' →
      (∃ c', s'.crossings[b]? = some c' ∧ (c'.status = c.status ∨ Turn c.status c'.status)) ∧
      ∃ new, s'.deeds = s.deeds ++ new ∧
        ∀ deed ∈ new, ∀ a, deed.attempt? = some a → ∃ b', s.InFlight a b') ∧
    (c.status = .ready → ∀ s', Reaches .anything s s' →
      s'.crossings[b]? = some c ∧ (∀ a, ¬s'.InFlight a b) ∧
      ∃ later, s'.deeds = s.deeds ++ later ∧ ∀ deed ∈ later, ∀ a, deed.attempt? = some a →
        ∃ made, s'.attempts[a]? = some made ∧ made.bridge ≠ b) := by
  have hb := (visits_of_reaches h).bridged (bridged_fresh settings world cells current)
  have hinflight : ∀ a, c.inflight = some a ↔ s.InFlight a b :=
    fun a => (hb.inflight hc a).trans inFlight_iff.symm
  refine ⟨?_, hinflight, fun a a' ha ha' => ?_, ?_,
    fun cause s' hstep => ⟨step_turn hb hstep hc, step_flying hb hstep⟩, fun hready s' hs' => ?_⟩
  · simp only [hb.loading hc, Option.ne_none_iff_exists', hinflight]
  · exact hb.unique (inFlight_iff.mp ha) (inFlight_iff.mp ha')
  · rw [hb.attempts hc, flights, List.countP_map]
    rfl
  · have hvisits := visits_of_reaches hs'
    obtain ⟨hkept, later, hlater, hother⟩ := hvisits.ready_stays hb hc hready
    refine ⟨hkept, fun a ha => ?_, later, hlater, fun deed hdeed a ha => ?_⟩
    · have hb' := hvisits.bridged hb
      have hloading := (hb'.loading hkept).mpr
        (by simp [(hb'.inflight hkept a).mpr (inFlight_iff.mp ha)])
      exact absurd (hready.symm.trans hloading) (by decide)
    · obtain ⟨b', ended, hflown, hne⟩ := hother deed hdeed a ha
      obtain ⟨made, hmade, hpair⟩ := Option.map_eq_some_iff.mp (List.getElem?_map ▸ hflown)
      exact ⟨made, hmade, (Prod.mk.inj hpair).1 ▸ hne⟩

/-- A world in which the heavy library is loaded when it is asked for. -/
def stocked : World where
  host := { scripts := [("https://veehz.github.io/torch/build/browser/torch.browser.umd.js",
    { register := [("torch", .object)] })] }
  web := { replies := [("https://veehz.github.io/torch/examples/pyodide/bridge.py",
    .response 200 "" none)] }

theorem bridge_stays_loaded : ∃ s, Reaches .anything (fresh default stocked [] none) s ∧
    s.crossings[0]? = some ⟨.ready, 1, none⟩ ∧
    ∀ s', Reaches .anything s s' → s'.crossings[0]? = some ⟨.ready, 1, none⟩ := by
  let s := ((fresh default stocked [] none).serve (.bootstrap 0)).2
  have hs : Reaches .anything (fresh default stocked [] none) s :=
    reaches_serve .refl trivial fun _ _ => trivial
  have hc : s.crossings[0]? = some ⟨.ready, 1, none⟩ := by decide +kernel
  obtain ⟨-, -, -, -, -, hready⟩ := bridge_single_flight default stocked [] none hs hc
  exact ⟨s, hs, hc, fun s' hs' => (hready rfl s' hs').1⟩

end Chunkwise.Session
