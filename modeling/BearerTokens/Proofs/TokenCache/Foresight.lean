import BearerTokens.Proofs.TokenCache.Economy
import BearerTokens.Proofs.TokenCache.Ownership

/-!
# What the state of a cache foretells

The state looks first whether an exchange is under way and then for a usable token; a caller looks the other
way round. Under a clock that never goes back both come to the same, since no usable token is held while an
exchange is under way. If the clock is set back, a token that was stale when its refresh began can be served
again.
-/

set_option autoImplicit false

namespace BearerTokens.TokenCache

open BearerTokens.Http BearerTokens.Time

variable {c c' : TokenCache} {ready : Option Reply}

def Serves (c : TokenCache) (ready : Option Reply) : Prop :=
  ∃ token, c.cached = some token ∧ c.step (.call ready) = c.serve token

/-- A caller that comes now joins the exchange under way, and no other is begun and nothing sent. -/
def Joins (c : TokenCache) (ready : Option Reply) : Prop :=
  ∃ e later, c.inFlight = some e ∧
    (c.step (.call ready)).history = c.history ++ (c.clock.now, .joined c.callers.length e) :: later ∧
    (c.step (.call ready)).exchanges.length = c.exchanges.length ∧
    (c.step (.call ready)).transport = c.transport

/-- A caller that comes now starts one exchange, for which one request is sent if it can be built. -/
def Starts (c : TokenCache) (ready : Option Reply) : Prop :=
  ∃ later,
    (c.step (.call ready)).history =
      c.history ++ (c.clock.now, .started c.callers.length c.exchanges.length) :: later ∧
    (c.step (.call ready)).exchanges.length = c.exchanges.length + 1 ∧
    (c.step (.call ready)).transport.calls.map Call.request =
      c.transport.calls.map Call.request ++ c.grant.request.toOption.toList

theorem look_exchanges_length (c : TokenCache) (e : Nat) : (c.look e).exchanges.length = c.exchanges.length := by
  unfold look
  split
  · split
    · rfl
    · unfold judge
      split <;> simp [settle, breakOff, note, record]
  · rfl

theorem resume_exchanges_length (c : TokenCache) (k : Nat) :
    (c.resume k).exchanges.length = c.exchanges.length := by
  unfold resume
  split
  · rfl
  · rename_i e _
    rw [← look_exchanges_length c e]
    rcases (c.look e).collect_eq_or k with hSame | ⟨a, hSet⟩
    · rw [hSame]
    · rw [hSet]
      rfl

/-- A new caller never leaves the cache without a holder. -/
theorem step_call_eq (hOwned : c.isOwned = true) (ready : Option Reply) : c.step (.call ready) = c.call ready := by
  have hHolders : 0 < (c.call ready).holders := Nat.lt_of_lt_of_le (isOwned_iff_holders.1 hOwned) (call_holders c ready)
  refine step_of_owned hOwned ?_
  simp only [step, hOwned, if_true, apply]
  exact isOwned_iff_holders.2 (by rwa [releaseUnowned_holders])

theorem serves_iff (hOwned : c.isOwned = true) : Serves c ready ↔ c.usable?.isSome = true := by
  rw [Option.isSome_iff_exists]
  constructor
  · rintro ⟨token, -, hServe⟩
    exact ⟨token, (step_call_eq_serve_iff hOwned).1 hServe⟩
  · rintro ⟨token, hUsable⟩
    exact ⟨token, (usable?_eq_some_iff.1 hUsable).1, step_call_of_usable hOwned hUsable ready⟩

theorem joins_of_flying (hOwned : c.isOwned = true) (hUnusable : c.usable? = none) {e : Nat}
    (hFlying : c.inFlight = some e) (ready : Option Reply) : Joins c ready := by
  have hStep : c.step (.call ready) = (c.join e).resume c.callers.length := by
    rw [step_call_eq hOwned, call, hUnusable, hFlying]
  obtain ⟨f, later, hHistory, ⟨e', hSame, rfl⟩ | ⟨hIdle, -⟩⟩ := step_call_of_unusable hOwned hUnusable ready
  · refine ⟨e', later, hSame, hHistory, ?_, ?_⟩
    · rw [hStep, resume_exchanges_length]
      rfl
    · rw [hStep, resume_transport]
      rfl
  · rw [hFlying] at hIdle
    cases hIdle

theorem starts_of_idle (hOwned : c.isOwned = true) (hUnusable : c.usable? = none) (hIdle : c.inFlight = none)
    (ready : Option Reply) : Starts c ready := by
  have hStep : c.step (.call ready) = (c.start ready).resume c.callers.length := by
    rw [step_call_eq hOwned, call, hUnusable, hIdle]
  obtain ⟨f, later, hHistory, ⟨e, hFlying, -⟩ | ⟨-, rfl⟩⟩ := step_call_of_unusable hOwned hUnusable ready
  · rw [hIdle] at hFlying
    cases hFlying
  · refine ⟨later, hHistory, ?_, ?_⟩
    · rw [hStep, resume_exchanges_length]
      cases hRequest : c.grant.request with
      | error err => simp [start_of_error hRequest hIdle]
      | ok r => simp [start_of_ok hRequest]
    · rw [hStep, resume_transport]
      cases hRequest : c.grant.request with
      | error err => simp [start_of_error hRequest hIdle, Except.toOption]
      | ok r => simp [start_of_ok hRequest, Transport.send, Except.toOption]

/-- The fact that a new caller is recorded with tells its course. -/
theorem first_fact_eq {h later later' : History} {t t' : Instant} {f f' : Fact}
    (hSame : h ++ (t, f) :: later = h ++ (t', f') :: later') : f = f' := by
  rw [List.append_cancel_left_eq] at hSame
  cases hSame
  rfl

theorem usable?_eq_none_of_unserved (hOwned : c.isOwned = true) {f : Fact} {later : History}
    (hHistory : (c.step (.call ready)).history = c.history ++ (c.clock.now, f) :: later)
    (hOther : ∀ token, f ≠ .served c.callers.length token) : c.usable? = none := by
  cases hUsable : c.usable? with
  | none => rfl
  | some token =>
    rw [step_call_of_usable hOwned hUsable] at hHistory
    have hSame : .served c.callers.length token = f := first_fact_eq hHistory
    exact absurd hSame.symm (hOther token)

theorem joins_iff (hOwned : c.isOwned = true) :
    Joins c ready ↔ c.usable? = none ∧ c.inFlight.isSome = true := by
  rw [Option.isSome_iff_exists]
  constructor
  · rintro ⟨e, later, hFlying, hHistory, -⟩
    exact ⟨usable?_eq_none_of_unserved hOwned hHistory (by simp), e, hFlying⟩
  · rintro ⟨hUnusable, e, hFlying⟩
    exact joins_of_flying hOwned hUnusable hFlying ready

theorem starts_iff (hOwned : c.isOwned = true) :
    Starts c ready ↔ c.usable? = none ∧ c.inFlight = none := by
  constructor
  · rintro ⟨later, hHistory, -⟩
    have hUnusable := usable?_eq_none_of_unserved hOwned hHistory (by simp)
    refine ⟨hUnusable, ?_⟩
    cases hFlying : c.inFlight with
    | none => rfl
    | some e =>
      obtain ⟨e', later', -, hJoined, -⟩ := joins_of_flying hOwned hUnusable hFlying ready
      cases first_fact_eq (hHistory.symm.trans hJoined)
  · rintro ⟨hUnusable, hIdle⟩
    exact starts_of_idle hOwned hUnusable hIdle ready

theorem state_eq_refreshing_iff : c.state = .refreshing ↔ c.inFlight.isSome = true := by
  cases hFlight : c.inFlight <;> cases hUsable : c.usable? <;> simp [state, hFlight, hUsable]

theorem state_eq_warm_iff : c.state = .warm ↔ c.inFlight = none ∧ c.usable?.isSome = true := by
  cases hFlight : c.inFlight <;> cases hUsable : c.usable? <;> simp [state, hFlight, hUsable]

theorem state_eq_cold_iff : c.state = .cold ↔ c.inFlight = none ∧ c.usable? = none := by
  cases hFlight : c.inFlight <;> cases hUsable : c.usable? <;> simp [state, hFlight, hUsable]

theorem usable?_isSome_iff : c.usable?.isSome = true ↔
    ∃ token, c.cached = some token ∧ c.clock.now.nanos + Expiry.buffer < token.expiresAt.nanos := by
  simp only [Option.isSome_iff_exists, usable?_eq_some_iff, HeldToken.isUsableAt_iff]

def StaleInFlight (c : TokenCache) : Prop :=
  ∀ e, c.inFlight = some e → c.usable? = none

theorem StaleInFlight.frame (h : StaleInFlight c) (hFlight : c'.inFlight = c.inFlight)
    (hCached : c'.cached = c.cached) (hClock : c'.clock = c.clock) : StaleInFlight c' := by
  intro e hFlying
  have hUnusable := h e (hFlight.symm.trans hFlying)
  unfold usable? at hUnusable ⊢
  rwa [hCached, hClock]

theorem StaleInFlight.judge (h : StaleInFlight c) {e : Nat} (hFlying : c.inFlight = some e) (reply : Reply) :
    StaleInFlight (c.judge e reply) := by
  cases hConclude : Exchange.conclude c.classify c.clock.now reply with
  | none =>
    rw [judge_of_none hConclude]
    exact h.frame rfl rfl rfl
  | some result =>
    rw [judge_of_some hConclude hFlying]
    rintro e' ⟨⟩

theorem StaleInFlight.still (h : StaleInFlight c) (hRecorded : Recorded c) (hMove : Still c c') :
    StaleInFlight c' := by
  obtain ⟨hMove, hClock⟩ := hMove
  cases hMove with
  | @start ready _ hUnusable hIdle =>
    intro e _
    unfold usable? at hUnusable ⊢
    rwa [start_cached hIdle, start_clock]
  | judge hWaiting => exact h.judge (hRecorded.inFlight_of_waiting hWaiting) _
  | clear =>
    intro e _
    rfl
  | release =>
    intro e hFlying
    simp [release, record] at hFlying
  | setClock => exact h.frame rfl rfl hClock
  | serve => exact h.frame rfl rfl rfl
  | join => exact h.frame rfl rfl rfl
  | answer => exact h.frame rfl rfl rfl
  | cancel => exact h.frame rfl rfl rfl
  | reply => exact h.frame rfl rfl rfl
  | share => exact h.frame rfl rfl rfl
  | giveBack => exact h.frame rfl rfl rfl

/-- A token that is stale stays so while the clock goes on. -/
theorem StaleInFlight.setClock (h : StaleInFlight c) {now : Instant} (hForward : c.clock.now ≤ now) :
    StaleInFlight { c with clock := c.clock.set now } := by
  intro e hFlying
  have hUnusable := usable?_eq_none_iff.1 (h e hFlying)
  refine usable?_eq_none_iff.2 fun token hCached => ?_
  have hStale := hUnusable token hCached
  have hNanos : c.clock.now.nanos ≤ now.nanos := hForward
  rw [← Bool.not_eq_true, HeldToken.isUsableAt_iff] at hStale ⊢
  simp only [Clock.set]
  omega

theorem StaleInFlight.step (h : StaleInFlight c) (hRecorded : Recorded c) {event : Event}
    (hForward : c.clock.now ≤ event.clockAfter c.clock.now) : StaleInFlight (c.step event) := by
  by_cases hEvent : ∃ now, event = .setClock now
  · obtain ⟨now, rfl⟩ := hEvent
    rw [step_setClock]
    exact h.setClock hForward
  · have hBoth : Recorded (c.step event) ∧ StaleInFlight (c.step event) :=
      chain_induction (P := fun d => Recorded d ∧ StaleInFlight d) (step_still c fun now h => hEvent ⟨now, h⟩)
        (fun hMove hd => ⟨hd.1.move hMove.1, hd.2.still hd.1 hMove⟩) ⟨hRecorded, h⟩
    exact hBoth.2

theorem StaleInFlight.run (h : StaleInFlight c) (hRecorded : Recorded c) {events : List Event}
    (hForward : NeverBack c.clock.now events) : StaleInFlight (c.run events) := by
  induction events generalizing c with
  | nil => exact h
  | cons event events ih =>
    rw [run_cons]
    refine ih (h.step hRecorded hForward.1) (hRecorded.run [event]) ?_
    rw [step_clock]
    exact hForward.2

/-- What the state of a cache says about a caller that comes at the same instant, however the clock was moved. -/
structure Foretells (c : TokenCache) : Prop where
  cold : c.isOwned = true → ∀ ready, Starts c ready ↔ c.state = .cold
  warm : c.isOwned = true → c.state = .warm → ∀ ready, Serves c ready
  /-- While the cache is refreshed a caller joins, unless the token that is held has become usable again. -/
  refreshing : c.isOwned = true → c.state = .refreshing → ∀ ready,
    ¬ Starts c ready ∧ (Joins c ready ↔ ¬ Serves c ready) ∧
      (Serves c ready ↔
        ∃ token, c.cached = some token ∧ c.clock.now.nanos + Expiry.buffer < token.expiresAt.nanos)

/-- The same under a clock that never goes back: then each state says just what happens. -/
structure ForetellsAll (c : TokenCache) : Prop where
  stale : ∀ e, c.inFlight = some e →
    ∀ token, c.cached = some token → token.expiresAt.nanos ≤ c.clock.now.nanos + Expiry.buffer
  warm : c.isOwned = true → ∀ ready, Serves c ready ↔ c.state = .warm
  refreshing : c.isOwned = true → ∀ ready, Joins c ready ↔ c.state = .refreshing
  cold : c.isOwned = true → ∀ ready, Starts c ready ↔ c.state = .cold

theorem starts_iff_cold (hOwned : c.isOwned = true) : Starts c ready ↔ c.state = .cold := by
  rw [starts_iff hOwned, state_eq_cold_iff, And.comm]

theorem foretells (c : TokenCache) : Foretells c where
  cold hOwned _ := starts_iff_cold hOwned
  warm hOwned hWarm _ := (serves_iff hOwned).2 (state_eq_warm_iff.1 hWarm).2
  refreshing hOwned hRefreshing ready := by
    have hFlying := state_eq_refreshing_iff.1 hRefreshing
    refine ⟨?_, ?_, (serves_iff hOwned).trans usable?_isSome_iff⟩
    · rw [starts_iff hOwned]
      rintro ⟨-, hIdle⟩
      rw [hIdle] at hFlying
      cases hFlying
    · rw [joins_iff hOwned, serves_iff hOwned, and_iff_left hFlying, Option.not_isSome_iff_eq_none]

theorem StaleInFlight.foretellsAll (h : StaleInFlight c) : ForetellsAll c where
  stale e hFlying token hCached := by
    have hStale := usable?_eq_none_iff.1 (h e hFlying) token hCached
    rwa [← Bool.not_eq_true, HeldToken.isUsableAt_iff, Int.not_lt] at hStale
  warm hOwned _ := by
    rw [serves_iff hOwned, state_eq_warm_iff]
    refine ⟨fun hUsable => ⟨?_, hUsable⟩, And.right⟩
    cases hFlying : c.inFlight with
    | none => rfl
    | some e =>
      rw [h e hFlying] at hUsable
      cases hUsable
  refreshing hOwned _ := by
    rw [joins_iff hOwned, state_eq_refreshing_iff]
    refine ⟨And.right, fun hFlying => ⟨?_, hFlying⟩⟩
    obtain ⟨e, hFlying⟩ := Option.isSome_iff_exists.1 hFlying
    exact h e hFlying
  cold hOwned _ := starts_iff_cold hOwned

/-- After every run the state foretells the next caller, wholly so if the clock never went back. -/
theorem run_foretells (grant : Grant) (classify : Classifier) (clock : Clock) (events : List Event) :
    Foretells ((new grant classify clock).run events) ∧
      (NeverBack clock.now events → ForetellsAll ((new grant classify clock).run events)) := by
  refine ⟨foretells _, fun hForward => ?_⟩
  have hStale : StaleInFlight ((new grant classify clock).run events) :=
    StaleInFlight.run (fun e hFlying => by cases hFlying) (recorded_new grant classify clock) hForward
  exact hStale.foretellsAll

def hourlyRefresh : List Event :=
  [.call (some (.response sampleResponse)), .setClock ⟨3600 * second, by decide, by decide⟩, .call none]

/-- The stale token stays beside the exchange under way, which the next caller joins. With the clock set back to the
beginning the same state has the token served. -/
theorem hourlyRefresh_foretold : NeverBack epoch hourlyRefresh ∧
    ((new sampleGrant asNetworkError ⟨epoch⟩).run hourlyRefresh).cached.isSome = true ∧
    Joins ((new sampleGrant asNetworkError ⟨epoch⟩).run hourlyRefresh) none ∧
    Serves ((new sampleGrant asNetworkError ⟨epoch⟩).run (hourlyRefresh ++ [.setClock epoch])) none := by
  have hForward : NeverBack epoch hourlyRefresh := by decide
  refine ⟨hForward, by decide +kernel, ?_, ?_⟩
  · have hAll := (run_foretells sampleGrant asNetworkError ⟨epoch⟩ hourlyRefresh).2 hForward
    exact (hAll.refreshing (by decide +kernel) none).2 (by decide +kernel)
  · have hAny := (run_foretells sampleGrant asNetworkError ⟨epoch⟩ (hourlyRefresh ++ [.setClock epoch])).1
    obtain ⟨-, -, hServes⟩ := hAny.refreshing (by decide +kernel) (by decide +kernel) none
    exact hServes.2 ⟨⟨⟨"opaque"⟩, ⟨3600 * second, by decide, by decide⟩, .expiresIn⟩, by decide +kernel,
      by decide +kernel⟩

end BearerTokens.TokenCache
