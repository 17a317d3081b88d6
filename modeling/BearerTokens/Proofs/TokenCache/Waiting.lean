import BearerTokens.Proofs.TokenCache.Economy
import BearerTokens.Proofs.TokenCache.FanOut

/-!
# Callers that wait

When every caller has run as far as it gets, whoever still waits does so for the exchange under way, and that
exchange for a reply that has not come. If the reply has come and lies unread, nobody waits for it, and the
next caller that needs a token reads it and is done.
-/

set_option autoImplicit false

namespace BearerTokens.TokenCache

open BearerTokens.Http BearerTokens.Time

variable {c c' : TokenCache}

/-- Requests and exchanges are given up only together, and only when the cache goes. -/
structure PendingKept (c : TokenCache) : Prop where
  live : ∀ e q : Nat, c.exchanges[e]? = some (.waiting q) → c.transport.state? q ≠ some .dropped
  dropped : ∀ e : Nat, c.exchanges[e]? = some .dropped → Happened c.history .released

theorem pendingKept_new (grant : Grant) (classify : Classifier) (clock : Clock) :
    PendingKept (new grant classify clock) where
  live := by simp [new]
  dropped := by simp [new]

theorem PendingKept.frame (h : PendingKept c) (hExchanges : c'.exchanges = c.exchanges)
    (hTransport : c'.transport = c.transport) (hGrows : c.history <+: c'.history) : PendingKept c' where
  live := by simpa only [hExchanges, hTransport] using h.live
  dropped e hDropped := (h.dropped e (hExchanges ▸ hDropped)).mono hGrows

theorem PendingKept.start (h : PendingKept c) (hRecorded : Recorded c) (hIdle : c.inFlight = none)
    (ready : Option Reply) : PendingKept (c.start ready) := by
  have hNone := hRecorded.phases.not_waiting (hRecorded.inFlight.symm.trans hIdle)
  cases hRequest : c.grant.request with
  | error err =>
    rw [start_of_error hRequest hIdle]
    constructor
    · intro e q hWaiting
      simp [getElem?_snoc_eq_some_iff, hNone] at hWaiting
    · intro e hDropped
      have hOld : c.exchanges[e]? = some .dropped := by simpa [getElem?_snoc_eq_some_iff] using hDropped
      exact happened_append.2 (.inl (h.dropped e hOld))
  | ok r =>
    rw [start_of_ok hRequest]
    constructor
    · intro e q hWaiting
      simp only [getElem?_snoc_eq_some_iff, hNone, false_or, Phase.waiting.injEq] at hWaiting
      obtain ⟨-, rfl⟩ := hWaiting
      cases ready <;> simp [Http.Transport.state?_send]
    · intro e hDropped
      have hOld : c.exchanges[e]? = some .dropped := by simpa [getElem?_snoc_eq_some_iff] using hDropped
      exact happened_append.2 (.inl (h.dropped e hOld))

/-- Once the exchange under way has come to its end, no exchange waits. -/
theorem PendingKept.finish (h : PendingKept c) (hRecorded : Recorded c) {e q : Nat} {p : Phase}
    (hWaiting : c.exchanges[e]? = some (.waiting q)) (hPhase : ∀ q, p ≠ .waiting q)
    (hExchanges : c'.exchanges = c.exchanges.set e p) (hGrows : c.history <+: c'.history)
    (hDropped : p = .dropped → Happened c'.history .released) : PendingKept c' where
  live e' q' hOther := by
    rw [hExchanges] at hOther
    exact absurd hOther (hRecorded.phases.not_waiting_set hWaiting hPhase e' q')
  dropped e' hOther := by
    rw [hExchanges, getElem?_set_eq_some_iff hWaiting (by simp)] at hOther
    rcases hOther with hOld | ⟨-, hNew⟩
    · exact (h.dropped e' hOld).mono hGrows
    · exact hDropped hNew

theorem PendingKept.move (h : PendingKept c) (hRecorded : Recorded c) (hMove : Move c c') :
    PendingKept c' := by
  have hGrows := hMove.history_grows
  cases hMove with
  | start _ _ hIdle => exact h.start hRecorded hIdle _
  | @judge e q reply hWaiting =>
    have hFlying : c.inFlight = some e := hRecorded.inFlight_of_waiting hWaiting
    cases hConclude : Exchange.conclude c.classify c.clock.now reply with
    | some result =>
      rw [judge_of_some hConclude hFlying] at hGrows ⊢
      exact h.finish hRecorded hWaiting (by simp) rfl hGrows (by simp)
    | none =>
      rw [judge_of_none hConclude] at hGrows ⊢
      exact h.finish hRecorded hWaiting (by simp) rfl hGrows (by simp)
  | release =>
    by_cases hPending : ∃ e q, c.inFlight = some e ∧ c.exchanges[e]? = some (.waiting q)
    · obtain ⟨e, q, hFlying, hWaiting⟩ := hPending
      rw [release_of_waiting hFlying hWaiting] at hGrows ⊢
      exact h.finish hRecorded hWaiting (by simp) rfl hGrows (by simp)
    · rw [release_of_not_waiting fun e q hFlying hWaiting => hPending ⟨e, q, hFlying, hWaiting⟩] at hGrows ⊢
      exact h.frame rfl rfl hGrows
  | reply hWaiting =>
    refine ⟨fun e q hPending => ?_, fun e hDropped => (h.dropped e hDropped).mono hGrows⟩
    simp only [record, Http.Transport.state?_answer (Http.Transport.isWaiting_eq_true_iff.1 hWaiting)]
    split
    · simp
    · exact h.live e q hPending
  | _ => exact h.frame rfl rfl hGrows

/-- All that is on record about a cache that a run has led to. -/
structure Consistent (c : TokenCache) : Prop where
  recorded : Recorded c
  callers : CallersRecorded c
  pending : PendingKept c

theorem Consistent.move (h : Consistent c) (hMove : Move c c') : Consistent c' where
  recorded := h.recorded.move hMove
  callers := h.callers.move h.recorded hMove
  pending := h.pending.move h.recorded hMove

theorem Consistent.run (h : Consistent c) (events : List Event) : Consistent (c.run events) :=
  run_induction (fun hMove h => h.move hMove) h events

theorem Consistent.step (h : Consistent c) (event : Event) : Consistent (c.step event) :=
  h.run [event]

theorem consistent_run (grant : Grant) (classify : Classifier) (clock : Clock) (events : List Event) :
    Consistent ((new grant classify clock).run events) :=
  Consistent.run ⟨recorded_new grant classify clock, callersRecorded_new grant classify clock,
    pendingKept_new grant classify clock⟩ events

theorem Consistent.waiting_or_answered (h : Consistent c) {e q : Nat}
    (hWaiting : c.exchanges[e]? = some (.waiting q)) :
    c.transport.isWaiting q = true ∨ ∃ reply, c.transport.reply? q = some reply := by
  obtain ⟨-, hSent, -⟩ := h.recorded.phases.waiting e q hWaiting
  have hNumber := (h.recorded.requests.sent e q hSent).2
  have hLive := h.pending.live e q hWaiting
  obtain ⟨state, hState⟩ : ∃ state, c.transport.state? q = some state :=
    ⟨_, by rw [Http.Transport.state?, List.getElem?_eq_getElem hNumber, Option.map_some]⟩
  cases state with
  | waiting => exact .inl (Http.Transport.isWaiting_eq_true_iff.2 hState)
  | answered reply => exact .inr ⟨reply, Http.Transport.reply?_eq_some_iff.2 hState⟩
  | dropped => exact absurd hState hLive

/-- A caller that collects changes nothing but its own state. -/
theorem collect_eq_or (c : TokenCache) (caller : Nat) :
    c.collect caller = c ∨ ∃ a, c.collect caller = c.setState caller (.answered a) := by
  unfold collect
  split
  · exact .inl rfl
  · split
    · exact .inl rfl
    · exact .inr ⟨_, rfl⟩

theorem resume_callers {k caller : Nat} (hk : k ≠ caller) :
    (c.resume caller).callers[k]? = c.callers[k]? := by
  unfold resume
  split
  · rfl
  · rename_i e _
    rw [← look_callers c e]
    rcases (c.look e).collect_eq_or caller with hSame | ⟨a, hSet⟩
    · rw [hSame]
    · rw [hSet, setState_getElem?]
      simp [Ne.symm hk]

theorem step_resume_callers {k caller : Nat} (hk : k ≠ caller) :
    (c.step (.resume caller)).callers[k]? = c.callers[k]? := by
  unfold step
  split
  · rw [releaseUnowned_callers]
    exact resume_callers hk
  · rfl

theorem step_resume_awaited? {k caller : Nat} (hk : k ≠ caller) :
    (c.step (.resume caller)).awaited? k = c.awaited? k := by
  unfold awaited?
  rw [step_resume_callers hk]

theorem not_awaited_of_answer {k : Nat} {a : Answer} (h : c.answer? k = some a) (e : Nat) :
    c.awaited? k ≠ some e := by
  intro hAwaited
  obtain ⟨x, hCaller⟩ := answer?_eq_some_iff.1 h
  rw [awaited?_eq_some_iff.1 hAwaited] at hCaller
  cases hCaller

def Blocked (c : TokenCache) (caller : Nat) : Prop :=
  ∀ e, c.awaited? caller = some e →
    ∃ q, c.exchanges[e]? = some (.waiting q) ∧ c.transport.reply? q = none

theorem Recorded.look_of_unanswered (h : Recorded c) {e q : Nat}
    (hWaiting : c.exchanges[e]? = some (.waiting q)) (hUnanswered : c.transport.reply? q = none) (e' : Nat) :
    c.look e' = c := by
  unfold look
  split
  · rename_i q' hWaiting'
    obtain rfl := h.waiting_unique hWaiting hWaiting'
    rw [hWaiting] at hWaiting'
    cases hWaiting'
    rw [hUnanswered]
  · rfl

theorem Blocked.look {k : Nat} (h : Blocked c k) (e : Nat) (hAwaited : c.awaited? k = some e) :
    c.look e = c := by
  obtain ⟨q, hWaiting, hUnanswered⟩ := h e hAwaited
  exact look_of_unanswered hWaiting hUnanswered

/-- Nothing comes of it when a blocked caller looks again. -/
theorem Blocked.step {k : Nat} (h : Blocked c k) : c.step (.resume k) = c := by
  have hResume : c.resume k = c := by
    cases hAwaited : c.awaited? k with
    | none => exact resume_of_unawaited hAwaited
    | some e =>
      obtain ⟨q, hWaiting, -⟩ := h e hAwaited
      rw [resume_of_awaited hAwaited, h.look e hAwaited]
      unfold collect
      rw [hAwaited]
      simp only [hWaiting, Option.bind_some, Phase.answer?]
  unfold TokenCache.step
  split
  · rename_i hOwned
    simp only [apply, hResume, releaseUnowned, hOwned, if_true]
  · rfl

theorem Consistent.phase_of_awaited (h : Consistent c) {k e : Nat} (hAwaited : c.awaited? k = some e) :
    ∃ p, c.exchanges[e]? = some p ∧ p ≠ .dropped := by
  have hBegun : Begun c.history e := by
    rcases (h.callers.entered k (some e)).1 ⟨_, awaited?_eq_some_iff.1 hAwaited⟩ with hJoined | hStarted
    · exact h.recorded.lawful.begun_of_happened hJoined fun _ _ hAllowed => hAllowed
    · exact ⟨k, hStarted⟩
  have hLength := (h.recorded.phases.begun e).2 hBegun
  refine ⟨c.exchanges[e], List.getElem?_eq_getElem hLength, fun hDropped => ?_⟩
  refine h.recorded.not_released (isOwned_of_awaited hAwaited) (h.pending.dropped e ?_)
  rw [List.getElem?_eq_getElem hLength, hDropped]

theorem Consistent.blocked_or_answered (h : Consistent c) (k : Nat) :
    Blocked c k ∨ ∃ a, (c.step (.resume k)).answer? k = some a := by
  by_cases hBlocked : Blocked c k
  · exact .inl hBlocked
  · right
    unfold Blocked at hBlocked
    push Not at hBlocked
    obtain ⟨e, hAwaited, hCome⟩ := hBlocked
    obtain ⟨p, hPhase, hAlive⟩ := h.phase_of_awaited hAwaited
    have hEnded {a : Answer} (hAnswer : p.answer? = some a) :
        ∃ a, (c.step (.resume k)).answer? k = some a := by
      have hEnded : c.exchanges[e]?.bind Phase.answer? = some a := by rw [hPhase]; exact hAnswer
      exact ⟨a, step_resume_answer hAwaited (by rw [look_of_ended hEnded, hEnded])⟩
    cases p with
    | waiting q =>
      obtain ⟨reply, hReply⟩ := Option.ne_none_iff_exists'.1 (hCome q hPhase)
      obtain ⟨a, hAnswer, -⟩ := h.recorded.responded h.callers hAwaited hPhase hReply
      exact ⟨a, hAnswer⟩
    | settled result =>
      cases result with
      | ok token => exact hEnded rfl
      | error err => exact hEnded rfl
    | broken => exact hEnded rfl
    | dropped => exact absurd rfl hAlive

theorem Consistent.blocked_self (h : Consistent c) (k : Nat) : Blocked (c.step (.resume k)) k := by
  rcases h.blocked_or_answered k with hBlocked | ⟨a, hAnswer⟩
  · rwa [hBlocked.step]
  · exact fun e hAwaited => absurd hAwaited (not_awaited_of_answer hAnswer e)

/-- A caller that is blocked stays so when others look again. -/
theorem Consistent.blocked_other (h : Consistent c) {k caller : Nat} (hk : k ≠ caller)
    (hBlocked : Blocked c k) : Blocked (c.step (.resume caller)) k := by
  intro e hStill
  have hAwaited : c.awaited? k = some e := by rwa [step_resume_awaited? hk] at hStill
  obtain ⟨q, hWaiting, hUnanswered⟩ := hBlocked e hAwaited
  rw [step_of_owned (isOwned_of_awaited hAwaited) (isOwned_of_awaited hStill)]
  refine ⟨q, ?_⟩
  unfold apply resume
  dsimp only
  split
  · exact ⟨hWaiting, hUnanswered⟩
  · rw [h.recorded.look_of_unanswered hWaiting hUnanswered]
    rcases c.collect_eq_or caller with hSame | ⟨a, hSet⟩
    · rw [hSame]
      exact ⟨hWaiting, hUnanswered⟩
    · rw [hSet]
      exact ⟨hWaiting, hUnanswered⟩

/-- Every caller has run until it is answered or blocked. -/
def Quiet (c : TokenCache) : Prop :=
  ∀ k, c.step (.resume k) = c

theorem Consistent.quiet_iff (h : Consistent c) : Quiet c ↔ ∀ k, Blocked c k := by
  constructor
  · intro hQuiet k
    have hBlocked := h.blocked_self k
    rwa [hQuiet k] at hBlocked
  · exact fun hBlocked k => (hBlocked k).step

/-- Whoever is blocked, or has looked, is blocked after a round of looking. -/
theorem Consistent.blocked_run (h : Consistent c) (callers : List Nat) {k : Nat}
    (hk : Blocked c k ∨ k ∈ callers) : Blocked (c.run (callers.map .resume)) k := by
  induction callers generalizing c with
  | nil => exact hk.resolve_right (by simp)
  | cons caller callers ih =>
    rw [List.map_cons, run_cons]
    refine ih (h.step _) ?_
    by_cases hSame : k = caller
    · subst hSame
      exact .inl (h.blocked_self k)
    · rcases hk with hBlocked | hMem
      · exact .inl (h.blocked_other hSame hBlocked)
      · exact .inr ((List.mem_cons.1 hMem).resolve_left hSame)

/-- Every caller that waits is among those that look. -/
def Attended (c : TokenCache) (looks : List Nat) : Prop :=
  ∀ k e, c.awaited? k = some e → k ∈ looks

theorem attended_range (c : TokenCache) : c.Attended (List.range c.callers.length) := by
  intro k e hAwaited
  rw [List.mem_range]
  exact (List.getElem?_eq_some_iff.1 (awaited?_eq_some_iff.1 hAwaited)).1

theorem Consistent.quiet_run (h : Consistent c) {looks : List Nat} (hLooks : c.Attended looks) :
    Quiet (c.run (looks.map .resume)) := by
  refine (h.run _).quiet_iff.2 fun k => h.blocked_run looks ?_
  by_cases hk : k ∈ looks
  · exact .inr hk
  · exact .inl fun e hAwaited => absurd (hLooks k e hAwaited) hk

theorem Consistent.quiet_resumeAll (h : Consistent c) : Quiet c.resumeAll :=
  h.quiet_run c.attended_range

theorem releaseUnowned_transport
    (h : ∀ e q : Nat, c.inFlight = some e → c.exchanges[e]? ≠ some (.waiting q)) :
    c.releaseUnowned.transport = c.transport := by
  unfold releaseUnowned
  split
  · rfl
  · rw [release_of_not_waiting h]

theorem releaseUnowned_history_grows (c : TokenCache) : c.history <+: c.releaseUnowned.history := by
  unfold releaseUnowned
  split
  · exact List.prefix_rfl
  · exact ⟨_, (release_history c).symm⟩

theorem Recorded.judge_not_waiting (h : Recorded c) {e q : Nat}
    (hWaiting : c.exchanges[e]? = some (.waiting q)) (reply : Reply) (e' q' : Nat) :
    (c.judge e reply).exchanges[e']? ≠ some (.waiting q') := by
  have hFlying : c.inFlight = some e := h.inFlight_of_waiting hWaiting
  cases hConclude : Exchange.conclude c.classify c.clock.now reply with
  | some result =>
    rw [judge_of_some hConclude hFlying]
    exact h.phases.not_waiting_set hWaiting (by simp) e' q'
  | none =>
    rw [judge_of_none hConclude]
    exact h.phases.not_waiting_set hWaiting (by simp) e' q'

/-- The first caller that looks when the reply has come ends the exchange and is answered. -/
theorem Recorded.step_resume_of_come (h : Recorded c) {k e q : Nat} {reply : Reply}
    (hAwaited : c.awaited? k = some e) (hWaiting : c.exchanges[e]? = some (.waiting q))
    (hCome : c.transport.reply? q = some reply) :
    c.step (.resume k) = ((c.judge e reply).setState k
      (.answered (.ofConclusion (Exchange.conclude c.classify c.clock.now reply)))).releaseUnowned := by
  have hFlying : c.inFlight = some e := h.inFlight_of_waiting hWaiting
  have hStill : (c.judge e reply).awaited? k = some e := by
    rw [awaited?_eq_some_iff, judge_callers]
    exact awaited?_eq_some_iff.1 hAwaited
  have hCollect : (c.judge e reply).collect k = (c.judge e reply).setState k
      (.answered (.ofConclusion (Exchange.conclude c.classify c.clock.now reply))) := by
    unfold collect
    rw [hStill]
    simp only [judge_answer hFlying hWaiting reply]
  simp only [step, isOwned_of_awaited hAwaited, if_true, apply, resume_of_awaited hAwaited,
    look_of_come hWaiting hCome, hCollect]

/-- The next caller that needs a token reads the reply, and is done without a request. -/
theorem Recorded.step_call_of_unread (h : Recorded c) (hOwned : c.isOwned = true)
    (hUnusable : c.usable? = none) {e q : Nat} {reply : Reply}
    (hWaiting : c.exchanges[e]? = some (.waiting q)) (hCome : c.transport.reply? q = some reply)
    (ready : Option Reply) :
    (c.step (.call ready)).answer? c.callers.length =
        some (.ofConclusion (Exchange.conclude c.classify c.clock.now reply)) ∧
      (c.step (.call ready)).transport = c.transport ∧
      Happened (c.step (.call ready)).history (.judged e reply) := by
  have hFlying : c.inFlight = some e := h.inFlight_of_waiting hWaiting
  have hJoined : Recorded (c.join e) := h.move (.join hOwned hUnusable hFlying)
  have hStep := hJoined.step_resume_of_come (awaited?_join c e) hWaiting hCome
  rw [step_call_of_flying hOwned hUnusable hFlying]
  refine ⟨?_, ?_, ?_⟩
  · apply step_resume_answer (awaited?_join c e)
    rw [look_of_come (c := c.join e) hWaiting hCome]
    exact judge_answer (c := c.join e) hFlying hWaiting reply
  · rw [hStep, releaseUnowned_transport]
    · exact judge_transport (c.join e) e reply
    · exact fun e' q' _ => hJoined.judge_not_waiting hWaiting reply e' q'
  · rw [hStep]
    refine Happened.mono (releaseUnowned_history_grows _) ⟨c.clock.now, ?_⟩
    have hJudged : (c.clock.now, .judged e reply) ∈ ((c.join e).judge e reply).history := by
      rw [judge_history]
      exact List.mem_append_right _ List.mem_cons_self
    exact hJudged

/-- No caller waits for what has come already, or for nothing at all. -/
structure NoStuckCaller (c : TokenCache) : Prop where
  /-- One round of looking is enough for every caller to be answered or blocked. -/
  quiet : Quiet c.resumeAll
  /-- Then whoever waits does so for the exchange under way, and that for a reply. -/
  waits : Quiet c → ∀ (k : Nat) (caller : Caller), c.callers[k]? = some caller → caller.state = .waiting →
    ∃ e q, caller.exchange = some e ∧ c.inFlight = some e ∧ c.exchanges[e]? = some (.waiting q) ∧
      c.transport.isWaiting q = true
  /-- An exchange under way that has neither been settled nor broken waits for its one request; if the reply to
  that has come, nobody waits for it, and the next caller that needs a token gets what it comes to, at once and
  without a request. -/
  unread : Quiet c → ∀ (e : Nat) (p : Phase), c.inFlight = some e → c.exchanges[e]? = some p →
    (∀ result, p ≠ .settled result) → p ≠ .broken → ∃ q, p = .waiting q ∧
      ∀ reply, c.transport.reply? q = some reply → (∀ k, c.awaited? k ≠ some e) ∧
        (c.usable? = none → ∀ ready,
          (c.step (.call ready)).answer? c.callers.length =
              some (.ofConclusion (Exchange.conclude c.classify c.clock.now reply)) ∧
            (c.step (.call ready)).transport = c.transport ∧
            Happened (c.step (.call ready)).history (.judged e reply))
  /-- Ten years before the end of the calendar, every reply comes to a result. -/
  concluded : c.clock.now.nanos + Expiry.longest ≤ latest → ∀ reply,
    ∃ result, Exchange.conclude c.classify c.clock.now reply = some result

theorem Consistent.exchange_of_waiting (h : Consistent c) {k : Nat} {caller : Caller}
    (hCaller : c.callers[k]? = some caller) (hState : caller.state = .waiting) :
    ∃ e, caller.exchange = some e ∧ c.awaited? k = some e := by
  obtain ⟨x, state⟩ := caller
  obtain rfl : state = .waiting := hState
  cases x with
  | some e => exact ⟨e, rfl, awaited?_eq_some_iff.2 hCaller⟩
  | none =>
    obtain ⟨token, hServed⟩ := (h.callers.entered k none).1 ⟨_, hCaller⟩
    have hAnswered := h.callers.served k token hServed
    rw [hCaller] at hAnswered
    cases hAnswered

theorem Consistent.noStuckCaller (h : Consistent c)
    (hReleased : c.isOwned = false → Happened c.history .released) : NoStuckCaller c where
  quiet := h.quiet_resumeAll
  waits hQuiet k caller hCaller hState := by
    obtain ⟨e, hExchange, hAwaited⟩ := h.exchange_of_waiting hCaller hState
    obtain ⟨q, hWaiting, hUnanswered⟩ := h.quiet_iff.1 hQuiet k e hAwaited
    refine ⟨e, q, hExchange, h.recorded.inFlight_of_waiting hWaiting, hWaiting, ?_⟩
    refine (h.waiting_or_answered hWaiting).resolve_right ?_
    rintro ⟨reply, hReply⟩
    rw [hUnanswered] at hReply
    cases hReply
  unread hQuiet e p hFlying hPhase hUnsettled hWhole := by
    obtain ⟨-, hAlive⟩ := h.recorded.lawful.underWay_eq_some_iff.1 (h.recorded.inFlight.symm.trans hFlying)
    have hOwned : c.isOwned = true := by
      by_contra hUnowned
      exact hAlive (hReleased (Bool.eq_false_iff.2 hUnowned))
    cases p with
    | settled result => exact absurd rfl (hUnsettled result)
    | broken => exact absurd rfl hWhole
    | dropped => exact absurd (h.pending.dropped e hPhase) hAlive
    | waiting q =>
      refine ⟨q, rfl, fun reply hCome => ⟨fun k hAwaited => ?_, fun hUnusable ready => ?_⟩⟩
      · obtain ⟨q', hWaiting, hUnanswered⟩ := h.quiet_iff.1 hQuiet k e hAwaited
        rw [hPhase] at hWaiting
        cases hWaiting
        rw [hUnanswered] at hCome
        cases hCome
      · exact h.recorded.step_call_of_unread hOwned hUnusable hPhase hCome ready
  concluded hEarly reply := by
    rw [← Option.ne_none_iff_exists', Ne, Exchange.conclude_eq_none_iff]
    exact reply.not_runsOut hEarly

/-- No caller of a token cache is ever stuck, in any run. -/
theorem run_noStuckCaller (grant : Grant) (classify : Classifier) (clock : Clock) (events : List Event) :
    NoStuckCaller ((new grant classify clock).run events) :=
  (consistent_run grant classify clock events).noStuckCaller
    (run_isOwned_or_released (fun hUnowned => by simp [isOwned, new] at hUnowned) events)

end BearerTokens.TokenCache
