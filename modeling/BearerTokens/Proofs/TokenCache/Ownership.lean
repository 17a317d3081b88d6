import BearerTokens.Proofs.TokenCache.Waiting

/-!
# Who holds a token cache

A cache is held by the owners of its handles and by the callers that wait, and they leave one at a time. With
the last of them goes all that the cache holds: its token, its exchange and the request of that. Until then no
request is dropped, and whoever ends an exchange is one of those that hold the cache.
-/

set_option autoImplicit false

namespace BearerTokens.TokenCache

open BearerTokens.Http BearerTokens.Time Relation

variable {c c' : TokenCache}

def Caller.isHolder (k : Caller) : Bool := decide (k.state = .waiting)

def holders (c : TokenCache) : Nat :=
  c.handles + c.callers.countP Caller.isHolder

theorem isOwned_iff_holders : c.isOwned = true ↔ 0 < c.holders := by
  unfold isOwned holders
  rw [Nat.add_pos_iff_pos_or_pos, List.countP_pos_iff, Bool.or_eq_true, decide_eq_true_iff, List.any_eq_true]
  rfl

theorem isOwned_eq_false_iff_holders : c.isOwned = false ↔ c.holders = 0 := by
  rw [← Bool.not_eq_true, isOwned_iff_holders, Nat.pos_iff_ne_zero, not_not]

theorem holders_congr (hHandles : c'.handles = c.handles) (hCallers : c'.callers = c.callers) :
    c'.holders = c.holders := by
  unfold holders
  rw [hHandles, hCallers]

theorem holders_addCaller (c : TokenCache) (k : Caller) :
    (c.addCaller k).holders = c.holders + if k.isHolder then 1 else 0 := by
  simp only [holders, addCaller, List.countP_append, List.countP_singleton, Nat.add_assoc]

/-- A caller that stops waiting is one holder less. -/
theorem holders_setState {k e : Nat} {state : CallerState} (hAwaited : c.awaited? k = some e)
    (hState : state ≠ .waiting) : (c.setState k state).holders + 1 = c.holders := by
  obtain ⟨hk, hCaller⟩ := List.getElem?_eq_some_iff.1 (awaited?_eq_some_iff.1 hAwaited)
  have hCallers : c.callers = c.callers.take k ++ ⟨some e, .waiting⟩ :: c.callers.drop (k + 1) := by
    rw [← hCaller, ← List.drop_eq_getElem_cons hk, List.take_append_drop]
  have hSet : (c.setState k state).callers =
      c.callers.take k ++ ⟨some e, state⟩ :: c.callers.drop (k + 1) := by
    unfold setState
    rw [List.modify_eq_take_cons_drop hk, hCaller]
  have hHandles : (c.setState k state).handles = c.handles := rfl
  unfold holders
  rw [hHandles, hSet]
  conv_rhs => rw [hCallers]
  simp [List.countP_append, Caller.isHolder, hState]
  omega

theorem look_holders (c : TokenCache) (e : Nat) : (c.look e).holders = c.holders := by
  refine holders_congr ?_ (look_callers c e)
  unfold look
  split
  · split
    · rfl
    · unfold judge
      split <;> rfl
  · rfl

theorem release_holders (c : TokenCache) : c.release.holders = c.holders := by
  refine holders_congr ?_ (release_callers c)
  unfold release dropPending
  split <;> rfl

theorem releaseUnowned_holders (c : TokenCache) : c.releaseUnowned.holders = c.holders := by
  unfold releaseUnowned
  split
  · rfl
  · exact release_holders c

inductive Leaves (c : TokenCache) : Event → Prop where
  | owner (held : 0 < c.handles) : Leaves c .giveBack
  | cancelled {k e : Nat} (awaited : c.awaited? k = some e) : Leaves c (.cancel k)
  | answered {k e : Nat} {a : Answer} (awaited : c.awaited? k = some e)
      (answer : (c.step (.resume k)).answer? k = some a) : Leaves c (.resume k)

theorem collect_holders (c : TokenCache) (k : Nat) :
    c.collect k = c ∨
      (c.collect k).holders + 1 = c.holders ∧ ∃ a, (c.collect k).answer? k = some a := by
  unfold collect
  split
  · exact .inl rfl
  · rename_i e hAwaited
    split
    · exact .inl rfl
    · rename_i a _
      refine .inr ⟨holders_setState hAwaited (by simp), a, ?_⟩
      rw [answer?_eq_some_iff, setState_getElem?, awaited?_eq_some_iff.1 hAwaited]
      exact ⟨some e, by simp⟩

theorem resume_holders (c : TokenCache) (k : Nat) :
    c.holders = (c.resume k).holders ∨
      c.holders = (c.resume k).holders + 1 ∧
        ∃ e a, c.awaited? k = some e ∧ (c.resume k).answer? k = some a := by
  unfold resume
  split
  · exact .inl rfl
  · rename_i e hAwaited
    rw [← look_holders c e]
    rcases (c.look e).collect_holders k with hSame | ⟨hLess, a, hAnswer⟩
    · rw [hSame]
      exact .inl rfl
    · exact .inr ⟨hLess.symm, e, a, hAwaited, hAnswer⟩

/-- A new caller leaves again at most in its own place. -/
theorem call_holders (c : TokenCache) (ready : Option Reply) : c.holders ≤ (c.call ready).holders := by
  have hEntered (d : TokenCache) (hMore : d.holders = c.holders + 1) (k : Nat) :
      c.holders ≤ (d.resume k).holders := by
    rcases d.resume_holders k with hSame | ⟨hLess, -⟩ <;> omega
  unfold call
  split
  · exact Nat.le.intro (holders_addCaller c _).symm
  · split
    · exact hEntered _ (holders_addCaller c _) _
    · refine hEntered _ ?_ _
      unfold start
      split <;> exact holders_addCaller c _

theorem step_holders (c : TokenCache) (event : Event) :
    c.holders ≤ (c.step event).holders ∨
      c.holders = (c.step event).holders + 1 ∧ Leaves c event := by
  unfold step
  split
  · rename_i hOwned
    rw [releaseUnowned_holders]
    cases event with
    | call ready => exact .inl (call_holders c ready)
    | resume k =>
      rcases c.resume_holders k with hSame | ⟨hLess, e, a, hAwaited, hAnswer⟩
      · exact .inl (Nat.le_of_eq hSame)
      · refine .inr ⟨hLess, .answered (a := a) hAwaited ?_⟩
        simp only [step, hOwned, if_true]
        rw [answer?_congr (releaseUnowned_callers _)]
        exact hAnswer
    | cancel k =>
      unfold apply cancel
      dsimp only
      split
      · exact .inl (Nat.le_refl _)
      · rename_i e hAwaited
        have hLess : (c.setState k .cancelled).holders + 1 = c.holders := holders_setState hAwaited (by simp)
        exact .inr ⟨hLess.symm, .cancelled hAwaited⟩
    | reply q r =>
      unfold apply reply
      dsimp only
      split <;> exact .inl (Nat.le_refl _)
    | giveBack =>
      unfold apply holders
      dsimp only
      by_cases hHeld : 0 < c.handles
      · exact .inr ⟨by omega, .owner hHeld⟩
      · exact .inl (by omega)
    | setClock now => exact .inl (Nat.le_refl _)
    | clear => exact .inl (Nat.le_refl _)
    | share =>
      unfold apply holders
      dsimp only
      exact .inl (by omega)
  · split
    · unfold apply reply
      dsimp only
      split <;> exact .inl (Nat.le_refl _)
    · exact .inl (Nat.le_refl _)
    · exact .inl (Nat.le_refl _)

/-- What nobody holds, nobody can take hold of. -/
theorem step_unheld (hGone : c.holders = 0) (event : Event) : (c.step event).holders = 0 := by
  have hUnowned := isOwned_eq_false_iff_holders.2 hGone
  unfold step
  rw [hUnowned]
  simp only [Bool.false_eq_true, if_false]
  split
  · unfold apply reply
    dsimp only
    split <;> exact hGone
  · exact hGone
  · exact hGone

theorem run_unheld (hGone : c.holders = 0) (events : List Event) : (c.run events).holders = 0 := by
  induction events generalizing c with
  | nil => exact hGone
  | cons event events ih => exact ih (step_unheld hGone event)

/-- A request waits for as long as its exchange does, and is dropped with the cache only. -/
structure RequestsKept (c : TokenCache) : Prop where
  wanted : ∀ q, c.transport.state? q = some .waiting → ∃ e : Nat, c.exchanges[e]? = some (.waiting q)
  dropped : ∀ q, c.transport.state? q = some .dropped → Happened c.history .released

theorem requestsKept_new (grant : Grant) (classify : Classifier) (clock : Clock) :
    RequestsKept (new grant classify clock) := by
  constructor <;> simp [new, Transport.empty, Transport.state?]

theorem RequestsKept.frame (h : RequestsKept c) (hTransport : c'.transport = c.transport)
    (hExchanges : ∀ e q : Nat, c.exchanges[e]? = some (.waiting q) → c.transport.isWaiting q = true →
      c'.exchanges[e]? = some (.waiting q))
    (hGrows : c.history <+: c'.history) : RequestsKept c' := by
  constructor
  · intro q hWaiting
    rw [hTransport] at hWaiting
    obtain ⟨e, hPhase⟩ := h.wanted q hWaiting
    exact ⟨e, hExchanges e q hPhase (Transport.isWaiting_eq_true_iff.2 hWaiting)⟩
  · intro q hDropped
    rw [hTransport] at hDropped
    exact (h.dropped q hDropped).mono hGrows

theorem RequestsKept.start (h : RequestsKept c) (hIdle : c.inFlight = none) (ready : Option Reply) :
    RequestsKept (c.start ready) := by
  cases hRequest : c.grant.request with
  | error err =>
    rw [start_of_error hRequest hIdle]
    exact h.frame rfl (fun e q hPhase _ => getElem?_snoc_eq_some_iff.2 (.inl hPhase)) ⟨_, rfl⟩
  | ok r =>
    rw [start_of_ok hRequest]
    constructor
    · intro q hWaiting
      rw [Transport.state?_send] at hWaiting
      split at hWaiting
      · rename_i hNew
        exact ⟨_, getElem?_snoc_eq_some_iff.2 (.inr ⟨rfl, by rw [hNew]⟩)⟩
      · obtain ⟨e, hPhase⟩ := h.wanted q hWaiting
        exact ⟨e, getElem?_snoc_eq_some_iff.2 (.inl hPhase)⟩
    · intro q hDropped
      rw [Transport.state?_send] at hDropped
      split at hDropped
      · cases ready <;> cases hDropped
      · exact happened_append.2 (.inl (h.dropped q hDropped))

theorem RequestsKept.release (h : RequestsKept c) (hRecorded : Recorded c) : RequestsKept c.release := by
  by_cases hPending : ∃ e q, c.inFlight = some e ∧ c.exchanges[e]? = some (.waiting q)
  · obtain ⟨e, q, hFlying, hPhase⟩ := hPending
    rw [release_of_waiting hFlying hPhase]
    constructor
    · intro q' hWaiting
      rw [Transport.state?_abandon] at hWaiting
      split at hWaiting
      · obtain ⟨_, _, hDropped⟩ := Option.map_eq_some_iff.1 hWaiting
        cases hDropped
      · rename_i hOther
        obtain ⟨e', hPhase'⟩ := h.wanted q' hWaiting
        obtain rfl := hRecorded.waiting_unique hPhase hPhase'
        rw [hPhase] at hPhase'
        cases hPhase'
        exact absurd rfl hOther
    · intro q' _
      simp
  · rw [release_of_not_waiting fun e q hFlying hPhase => hPending ⟨e, q, hFlying, hPhase⟩]
    exact h.frame rfl (fun e q hPhase _ => hPhase) ⟨_, rfl⟩

theorem RequestsKept.move (h : RequestsKept c) (hRecorded : Recorded c) (hMove : Move c c') :
    RequestsKept c' := by
  have hGrows := hMove.history_grows
  cases hMove with
  | start _ _ hIdle => exact h.start hIdle _
  | @judge e q reply hPhase hCome =>
    refine h.frame (judge_transport c e reply) (fun e' q' hPhase' hWaiting => ?_) hGrows
    -- no other exchange waits, and the reply to this one has come
    obtain rfl := hRecorded.waiting_unique hPhase hPhase'
    rw [hPhase] at hPhase'
    cases hPhase'
    rw [Transport.isWaiting_eq_true_iff, Transport.reply?_eq_some_iff.1 hCome] at hWaiting
    cases hWaiting
  | release => exact h.release hRecorded
  | @reply q r hWaiting =>
    have hAnswer := Transport.state?_answer (Transport.isWaiting_eq_true_iff.1 hWaiting) r
    constructor
    · intro q' hWaiting'
      simp only [record, hAnswer] at hWaiting'
      split at hWaiting'
      · cases hWaiting'
      · exact h.wanted q' hWaiting'
    · intro q' hDropped
      simp only [record, hAnswer] at hDropped
      split at hDropped
      · cases hDropped
      · exact (h.dropped q' hDropped).mono hGrows
  | _ => exact h.frame rfl (fun e q hPhase _ => hPhase) hGrows

theorem RequestsKept.run (h : RequestsKept c) (hRecorded : Recorded c) (events : List Event) :
    RequestsKept (c.run events) :=
  (run_induction (P := fun c => Recorded c ∧ RequestsKept c)
    (fun hMove ⟨hRecorded, h⟩ => ⟨hRecorded.move hMove, h.move hRecorded hMove⟩) ⟨hRecorded, h⟩ events).2

theorem Recorded.inFlight_of_released (h : Recorded c) (hReleased : Happened c.history .released) :
    c.inFlight = none := by
  cases hFlying : c.inFlight with
  | none => rfl
  | some e => exact absurd hReleased (h.lawful.underWay_eq_some_iff.1 (h.inFlight.symm.trans hFlying)).2

/-- A request that waits when the cache is given up is dropped with it. -/
theorem Recorded.release_drops (h : Recorded c) (hKept : RequestsKept c) {q : Nat}
    (hWaiting : c.transport.state? q = some .waiting) : c.release.transport.state? q = some .dropped := by
  obtain ⟨e, hPhase⟩ := hKept.wanted q hWaiting
  rw [release_of_waiting (h.inFlight_of_waiting hPhase) hPhase, Transport.state?_abandon]
  simp [hWaiting]

theorem resume_transport (c : TokenCache) (k : Nat) : (c.resume k).transport = c.transport := by
  unfold resume
  split
  · rfl
  · rename_i e _
    have hLook : (c.look e).transport = c.transport := by
      unfold look
      split
      · split
        · rfl
        · exact judge_transport c e _
      · rfl
    rcases (c.look e).collect_eq_or k with hSame | ⟨a, hSet⟩
    · rw [hSame]
      exact hLook
    · rw [hSet]
      exact hLook

/-- Leaving a cache leaves its requests alone. -/
theorem Leaves.transport {event : Event} (h : Leaves c event) : (c.apply event).transport = c.transport := by
  cases h with
  | owner => rfl
  | cancelled awaited =>
    unfold apply cancel
    simp only [awaited]
    rfl
  | answered => exact resume_transport c _

theorem Recorded.drops_with_last (h : Recorded c) (hKept : RequestsKept c) {event : Event}
    (hHeld : 0 < c.holders) (hLast : (c.step event).holders = 0) {q : Nat}
    (hWaiting : c.transport.state? q = some .waiting) :
    (c.step event).transport.state? q = some .dropped := by
  have hOwned := isOwned_iff_holders.2 hHeld
  have hLeaves : Leaves c event := by
    rcases c.step_holders event with hMore | ⟨-, hLeaves⟩
    · omega
    · exact hLeaves
  have hEvent (now : Instant) : event ≠ .setClock now := by
    rintro rfl
    cases hLeaves
  obtain ⟨hApplied, hAppliedKept⟩ : Recorded (c.apply event) ∧ RequestsKept (c.apply event) :=
    chain_induction (P := fun d => Recorded d ∧ RequestsKept d) (apply_moves hOwned hEvent)
      (fun hMove h => ⟨h.1.move hMove.1, h.2.move h.1 hMove.1⟩) ⟨h, hKept⟩
  have hReleased : c.step event = (c.apply event).release := by
    simp only [step, hOwned, if_true] at hLast ⊢
    rw [releaseUnowned_holders, ← isOwned_eq_false_iff_holders] at hLast
    simp only [releaseUnowned, hLast, Bool.false_eq_true, if_false]
  rw [hReleased]
  apply hApplied.release_drops hAppliedKept
  rwa [hLeaves.transport]

def Fact.ended? : Fact → Option Nat
  | .judged e _ => some e
  | .settled e _ => some e
  | .broke e => some e
  | _ => none

/-- A caller that looks at the exchange: one that waits for it, or a new one that shares it. -/
inductive Looks (c : TokenCache) (exchange : Nat) : Event → Prop where
  | waiter {k : Nat} (awaited : c.awaited? k = some exchange) : Looks c exchange (.resume k)
  | newcomer {ready : Option Reply} (held : 0 < c.holders)
      (shares : (c.step (.call ready)).callers[c.callers.length]?.map Caller.exchange = some (some exchange)) :
      Looks c exchange (.call ready)

theorem Looks.held {exchange : Nat} {event : Event} (h : Looks c exchange event) : 0 < c.holders := by
  cases h with
  | waiter awaited => exact isOwned_iff_holders.1 (isOwned_of_awaited awaited)
  | newcomer held => exact held

def EndsOnly (p : Nat → Prop) (c c' : TokenCache) : Prop :=
  ∃ later, c'.history = c.history ++ later ∧ ∀ f e, Happened later f → f.ended? = some e → p e

variable {p : Nat → Prop}

theorem EndsOnly.of_same (hHistory : c'.history = c.history) : EndsOnly p c c' :=
  ⟨[], by rw [hHistory, List.append_nil], fun f _ hf => absurd hf (happened_nil f)⟩

theorem EndsOnly.of_other {t : Instant} {f : Fact} (hHistory : c'.history = c.history ++ [(t, f)])
    (hOther : f.ended? = none) : EndsOnly p c c' := by
  refine ⟨_, hHistory, fun g e hg hEnded => ?_⟩
  obtain rfl : g = f := by simpa using hg
  rw [hOther] at hEnded
  cases hEnded

theorem EndsOnly.trans {b : TokenCache} (hFirst : EndsOnly p c b) (hThen : EndsOnly p b c') :
    EndsOnly p c c' := by
  obtain ⟨first, hFirst, hEnds⟩ := hFirst
  obtain ⟨next, hNext, hEnds'⟩ := hThen
  refine ⟨first ++ next, by rw [hNext, hFirst, List.append_assoc], fun f e hf hEnded => ?_⟩
  rcases happened_append.1 hf with hf | hf
  · exact hEnds f e hf hEnded
  · exact hEnds' f e hf hEnded

theorem look_endsOnly {e : Nat} (he : p e) : EndsOnly p c (c.look e) := by
  unfold look
  split
  · split
    · exact .of_same rfl
    · refine ⟨_, judge_history c e _, fun f e' hf hEnded => ?_⟩
      rw [happened_cons, happened_cons] at hf
      rcases hf with rfl | rfl | hf
      · cases hEnded
        exact he
      · split at hEnded <;> cases hEnded <;> exact he
      · exact absurd hf (happened_nil f)
  · exact .of_same rfl

theorem resume_endsOnly {k : Nat} (hk : ∀ e, c.awaited? k = some e → p e) : EndsOnly p c (c.resume k) := by
  unfold resume
  split
  · exact .of_same rfl
  · rename_i e hAwaited
    exact (look_endsOnly (hk e hAwaited)).trans (.of_same (collect_history _ k))

theorem start_endsOnly (ready : Option Reply) (hNew : p c.exchanges.length) :
    EndsOnly p c (c.start ready) := by
  refine ⟨_, start_history c ready, fun f e hf hEnded => ?_⟩
  cases hRequest : c.grant.request with
  | error err =>
    simp only [hRequest, happened_cons, happened_nil, or_false] at hf
    rcases hf with rfl | rfl
    · cases hEnded
    · cases hEnded
      exact hNew
  | ok r =>
    cases ready with
    | none =>
      simp only [hRequest, Option.map_none, Option.toList_none, happened_cons, happened_nil, or_false] at hf
      rcases hf with rfl | rfl <;> cases hEnded
    | some reply =>
      simp only [hRequest, Option.map_some, Option.toList_some, happened_cons, happened_nil, or_false] at hf
      rcases hf with rfl | rfl | rfl <;> cases hEnded

theorem releaseUnowned_endsOnly (c : TokenCache) : EndsOnly p c c.releaseUnowned := by
  unfold releaseUnowned
  split
  · exact .of_same rfl
  · exact .of_other (release_history c) rfl

theorem resume_exchange (c : TokenCache) (k i : Nat) :
    (c.resume k).callers[i]?.map Caller.exchange = c.callers[i]?.map Caller.exchange := by
  unfold resume
  split
  · rfl
  · rename_i e _
    rcases (c.look e).collect_eq_or k with hSame | ⟨a, hSet⟩
    · rw [hSame, look_callers]
    · rw [hSet, setState_getElem?, look_callers, Option.map_map]
      congr 1
      funext caller
      simp only [Function.comp_apply]
      split <;> rfl

theorem call_endsOnly (c : TokenCache) (ready : Option Reply)
    (hShared : ∀ e, (c.call ready).callers[c.callers.length]?.map Caller.exchange = some (some e) → p e) :
    EndsOnly p c (c.call ready) := by
  unfold call at hShared ⊢
  split
  · exact .of_other rfl rfl
  · rename_i hUnusable
    simp only [hUnusable] at hShared
    split
    · rename_i e hFlying
      simp only [hFlying, resume_exchange] at hShared
      refine (EndsOnly.of_other rfl rfl).trans (resume_endsOnly fun e' hAwaited => hShared e' ?_)
      rw [awaited?_eq_some_iff.1 hAwaited]
      rfl
    · rename_i hIdle
      simp only [hIdle, resume_exchange, start_callers] at hShared
      refine (start_endsOnly ready (hShared _ (by simp))).trans (resume_endsOnly fun e' hAwaited => ?_)
      apply hShared
      rw [awaited?_eq_some_iff, start_callers] at hAwaited
      rw [hAwaited]
      rfl

/-- Whoever ends an exchange looks at it. -/
theorem step_endsOnly (c : TokenCache) (event : Event) :
    EndsOnly (fun e => Looks c e event) c (c.step event) := by
  unfold step
  split
  · rename_i hOwned
    refine EndsOnly.trans ?_ (releaseUnowned_endsOnly _)
    cases event with
    | call ready =>
      refine call_endsOnly c ready fun e hShared => .newcomer (isOwned_iff_holders.1 hOwned) ?_
      simpa only [step, hOwned, if_true, releaseUnowned_callers, apply] using hShared
    | resume k => exact resume_endsOnly fun e hAwaited => .waiter hAwaited
    | cancel k =>
      unfold apply cancel
      dsimp only
      split
      · exact .of_same rfl
      · exact .of_other rfl rfl
    | reply q r =>
      unfold apply reply
      dsimp only
      split
      · exact .of_other rfl rfl
      · exact .of_same rfl
    | clear => exact .of_other rfl rfl
    | setClock now => exact .of_same rfl
    | share => exact .of_same rfl
    | giveBack => exact .of_same rfl
  · split
    · unfold apply reply
      dsimp only
      split
      · exact .of_other rfl rfl
      · exact .of_same rfl
    · exact .of_same rfl
    · exact .of_same rfl

/-- What the holders of a cache keep alive, and what goes with the last of them. -/
structure Ownership (c : TokenCache) : Prop where
  /-- A request that waits is dropped by the step that leaves the cache without a holder, and by no other. -/
  dropped : ∀ event q, c.transport.isWaiting q = true →
    ((c.step event).transport.state? q = some .dropped ↔ (c.step event).holders = 0)
  /-- As long as there is a holder no request is dropped, whoever has been cancelled. -/
  kept : 0 < c.holders → ∀ q, c.transport.state? q ≠ some .dropped
  /-- Holders leave one at a time: an owner gives back a handle, or a caller that waits is cancelled or
  answered. -/
  leaving : ∀ event, c.holders ≤ (c.step event).holders ∨
    c.holders = (c.step event).holders + 1 ∧ Leaves c event
  /-- Then nothing is left that the cache could hold. -/
  gone : c.holders = 0 → c.inFlight = none ∧ c.cached = none ∧ (∀ q, c.transport.isWaiting q = false) ∧
    ∀ e q : Nat, c.exchanges[e]? ≠ some (.waiting q)
  forever : c.holders = 0 → ∀ events, (c.run events).holders = 0
  released : Happened c.history .released ↔ c.holders = 0
  /-- Whoever reads the reply of an exchange or settles it looks at it, and so holds the cache. -/
  looked : ∀ event, EndsOnly (fun e => Looks c e event) c (c.step event)
  /-- Nothing ends an exchange of a cache that was given up. -/
  closed : ∀ past t f later, c.history = past ++ (t, f) :: later → Happened past .released → f.ended? = none

theorem Lawful.closed {past later : History} {t : Instant} {f : Fact} (h : Lawful (past ++ (t, f) :: later))
    (hReleased : Happened past .released) : f.ended? = none := by
  have hIdle (e : Nat) : underWay past ≠ some e := fun hWay =>
    (h.split.underWay_eq_some_iff.1 hWay).2 hReleased
  have hAllowed := h.allows
  cases f with
  | judged e reply => exact absurd hAllowed.1 (hIdle e)
  | settled e result => exact absurd hAllowed (hIdle e)
  | broke e => exact absurd hAllowed (hIdle e)
  | _ => rfl

theorem Recorded.ownership (h : Recorded c) (hKept : RequestsKept c)
    (hReleased : c.isOwned = false → Happened c.history .released) : Ownership c := by
  have hReleasedIff : Happened c.history .released ↔ c.holders = 0 := by
    rw [← isOwned_eq_false_iff_holders]
    exact ⟨h.released, hReleased⟩
  have hGone (hNone : c.holders = 0) (e q : Nat) : c.exchanges[e]? ≠ some (.waiting q) := by
    intro hPhase
    have hFlying := h.inFlight_of_waiting hPhase
    rw [h.inFlight_of_released (hReleasedIff.2 hNone)] at hFlying
    cases hFlying
  have hUnwanted (hNone : c.holders = 0) (q : Nat) : c.transport.isWaiting q = false := by
    by_contra hWaiting
    rw [Bool.not_eq_false, Transport.isWaiting_eq_true_iff] at hWaiting
    obtain ⟨e, hPhase⟩ := hKept.wanted q hWaiting
    exact hGone hNone e q hPhase
  refine
    { dropped := ?_
      kept := ?_
      leaving := c.step_holders
      gone := ?_
      forever := fun hNone => run_unheld hNone
      released := hReleasedIff
      looked := c.step_endsOnly
      closed := ?_ }
  · intro event q hWaiting
    have hHeld : 0 < c.holders := by
      by_contra hNone
      rw [hUnwanted (by omega)] at hWaiting
      cases hWaiting
    constructor
    · intro hDropped
      have hStep : Recorded (c.step event) := h.run [event]
      have hStepKept : RequestsKept (c.step event) := hKept.run h [event]
      rw [← isOwned_eq_false_iff_holders]
      exact hStep.released (hStepKept.dropped q hDropped)
    · intro hLast
      exact h.drops_with_last hKept hHeld hLast (Transport.isWaiting_eq_true_iff.1 hWaiting)
  · intro hHeld q hDropped
    have hNone := hReleasedIff.1 (hKept.dropped q hDropped)
    omega
  · intro hNone
    refine ⟨h.inFlight_of_released (hReleasedIff.2 hNone), ?_, hUnwanted hNone, hGone hNone⟩
    cases hCached : c.cached with
    | none => rfl
    | some token =>
      have hOwned := ((h.content_iff hReleased token).1 hCached).1
      rw [isOwned_iff_holders] at hOwned
      omega
  · intro past t f later hHistory
    have hWhole : Lawful (past ++ (t, f) :: later) := hHistory ▸ h.lawful
    exact hWhole.closed

/-- A token cache and its request live exactly as long as somebody holds it, in every run. -/
theorem run_ownership (grant : Grant) (classify : Classifier) (clock : Clock) (events : List Event) :
    Ownership ((new grant classify clock).run events) := by
  apply (recorded_run grant classify clock events).ownership
  · exact (requestsKept_new grant classify clock).run (recorded_new grant classify clock) events
  · exact run_isOwned_or_released (fun hUnowned => by simp [isOwned, new] at hUnowned) events

end BearerTokens.TokenCache
