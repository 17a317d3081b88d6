import BearerTokens.Proofs.TokenCache.Waiting

/-!
# Ends of exchanges

A reply that has come ends its exchange as soon as anybody looks, for all callers alike, and leaves the cache
free for the next one. The one exception is a token whose span leads out of the calendar: its exchange breaks,
and the cache asks for no token ever again.
-/

set_option autoImplicit false

namespace BearerTokens.TokenCache

open BearerTokens.Http BearerTokens.Time

variable {c : TokenCache}

def Fact.ending (exchange : Nat) : Option Exchange.Result → Fact
  | some result => .settled exchange result
  | none => .broke exchange

theorem ended_of_ending {h : History} {e : Nat} {conclusion : Option Exchange.Result}
    (hEnding : Happened h (.ending e conclusion)) : Ended h e (.ofConclusion conclusion) := by
  cases conclusion with
  | some result => exact .inl ⟨result, hEnding, rfl⟩
  | none => exact .inr ⟨hEnding, rfl⟩

theorem Recorded.ending_of_come (h : Recorded c) {k e q : Nat} {reply : Reply}
    (hAwaited : c.awaited? k = some e) (hWaiting : c.exchanges[e]? = some (.waiting q))
    (hCome : c.transport.reply? q = some reply) :
    Happened (c.step (.resume k)).history
      (.ending e (Exchange.conclude c.classify c.clock.now reply)) := by
  rw [h.step_resume_of_come hAwaited hWaiting hCome]
  refine Happened.mono (releaseUnowned_history_grows _) ⟨c.clock.now, ?_⟩
  have hEnding : (c.clock.now, .ending e (Exchange.conclude c.classify c.clock.now reply)) ∈
      (c.judge e reply).history := by
    rw [judge_history]
    exact List.mem_append_right _ (List.mem_cons_of_mem _ List.mem_cons_self)
  exact hEnding

/-- A caller that does not wait for the exchange under way leaves it alone. -/
theorem Recorded.step_resume_of_other (h : Recorded c) {k caller e q : Nat}
    (hAwaited : c.awaited? k = some e) (hWaiting : c.exchanges[e]? = some (.waiting q))
    (hOther : c.awaited? caller ≠ some e) :
    (c.step (.resume caller)).exchanges = c.exchanges ∧
      (c.step (.resume caller)).transport = c.transport ∧
      (c.step (.resume caller)).classify = c.classify ∧
      (c.step (.resume caller)).clock = c.clock := by
  have hk : k ≠ caller := by
    rintro rfl
    exact hOther hAwaited
  have hStill : (c.step (.resume caller)).awaited? k = some e := by rwa [step_resume_awaited? hk]
  rw [step_of_owned (isOwned_of_awaited hAwaited) (isOwned_of_awaited hStill)]
  unfold apply resume
  dsimp only
  split
  · exact ⟨rfl, rfl, rfl, rfl⟩
  · rename_i e' hAwaited'
    have hLook : c.look e' = c := by
      unfold look
      split
      · rename_i q' hWaiting'
        obtain rfl := h.waiting_unique hWaiting hWaiting'
        exact absurd hAwaited' hOther
      · rfl
    rw [hLook]
    rcases c.collect_eq_or caller with hSame | ⟨a, hSet⟩
    · rw [hSame]
      exact ⟨rfl, rfl, rfl, rfl⟩
    · rw [hSet]
      exact ⟨rfl, rfl, rfl, rfl⟩

/-- Whoever looks after an exchange has ended is answered, in whatever order they look. -/
theorem Consistent.answered_run (h : Consistent c) {e k : Nat} {a : Answer} (hEnded : Ended c.history e a)
    (hAwaited : c.awaited? k = some e) (callers : List Nat) (hk : k ∈ callers) :
    (c.run (callers.map .resume)).answer? k = some a := by
  induction callers generalizing c with
  | nil => cases hk
  | cons caller callers ih =>
    rw [List.map_cons, run_cons]
    by_cases hSame : k = caller
    · subst hSame
      rw [← h.recorded.ended_iff] at hEnded
      refine run_answer_lasts (step_resume_answer hAwaited ?_) _
      rw [look_of_ended hEnded, hEnded]
    · refine ih (h.step _) ?_ ?_ ((List.mem_cons.1 hk).resolve_left hSame)
      · obtain ⟨later, hLater⟩ := step_history_grows c (.resume caller)
        rw [← hLater]
        exact hEnded.append
      · rwa [step_resume_awaited? hSame]

/-- The first of those that look ends the exchange at once, with what the reply comes to at that instant, and
the others are answered the same. -/
theorem Consistent.ending_run (h : Consistent c) {e q k : Nat} {reply : Reply}
    (hWaiting : c.exchanges[e]? = some (.waiting q)) (hCome : c.transport.reply? q = some reply)
    (hAwaited : c.awaited? k = some e) (callers : List Nat) (hk : k ∈ callers) :
    Happened (c.run (callers.map .resume)).history
        (.ending e (Exchange.conclude c.classify c.clock.now reply)) ∧
      ∀ k' ∈ callers, c.awaited? k' = some e → (c.run (callers.map .resume)).answer? k' =
        some (.ofConclusion (Exchange.conclude c.classify c.clock.now reply)) := by
  induction callers generalizing c with
  | nil => cases hk
  | cons caller callers ih =>
    rw [List.map_cons, run_cons]
    by_cases hFirst : c.awaited? caller = some e
    · have hEnding := h.recorded.ending_of_come hFirst hWaiting hCome
      refine ⟨hEnding.mono (run_history_grows _ _), fun k' hk' hAwaited' => ?_⟩
      by_cases hSame : k' = caller
      · subst hSame
        obtain ⟨a, hAnswer, hEnded⟩ := h.recorded.responded h.callers hFirst hWaiting hCome
        obtain rfl := hEnded.unique (h.step _).recorded (ended_of_ending hEnding)
        exact run_answer_lasts hAnswer _
      · refine (h.step _).answered_run (ended_of_ending hEnding) ?_ callers
          ((List.mem_cons.1 hk').resolve_left hSame)
        rwa [step_resume_awaited? hSame]
    · have hOther {k' : Nat} (hAwaited' : c.awaited? k' = some e) : k' ≠ caller := by
        rintro rfl
        exact hFirst hAwaited'
      obtain ⟨hExchanges, hTransport, hClassify, hClock⟩ :=
        h.recorded.step_resume_of_other hAwaited hWaiting hFirst
      have hRest := ih (h.step (.resume caller)) (by rwa [hExchanges]) (by rwa [hTransport])
        (by rwa [step_resume_awaited? (hOther hAwaited)])
        ((List.mem_cons.1 hk).resolve_left (hOther hAwaited))
      rw [hClassify, hClock] at hRest
      refine ⟨hRest.1, fun k' hk' hAwaited' => ?_⟩
      exact hRest.2 k' ((List.mem_cons.1 hk').resolve_left (hOther hAwaited'))
        (by rwa [step_resume_awaited? (hOther hAwaited')])

theorem judge_inFlight (c : TokenCache) (e : Nat) (reply : Reply) :
    (c.judge e reply).inFlight = none ∨ (c.judge e reply).inFlight = c.inFlight := by
  unfold judge
  split
  · exact ite_eq_or_eq _ _ _
  · exact .inr rfl

theorem collect_inFlight (c : TokenCache) (k : Nat) : (c.collect k).inFlight = c.inFlight := by
  rcases c.collect_eq_or k with hSame | ⟨a, hSet⟩
  · rw [hSame]
  · rw [hSet]
    rfl

theorem resume_inFlight (c : TokenCache) (k : Nat) :
    (c.resume k).inFlight = none ∨ (c.resume k).inFlight = c.inFlight := by
  unfold resume
  split
  · exact .inr rfl
  · rw [collect_inFlight]
    unfold look
    split
    · split
      · exact .inr rfl
      · exact judge_inFlight c _ _
    · exact .inr rfl

theorem releaseUnowned_inFlight (c : TokenCache) :
    c.releaseUnowned.inFlight = none ∨ c.releaseUnowned.inFlight = c.inFlight := by
  unfold releaseUnowned
  split
  · exact .inr rfl
  · exact .inl rfl

theorem apply_inFlight (c : TokenCache) {event : Event} (hEvent : ∀ ready, event ≠ .call ready) :
    (c.apply event).inFlight = none ∨ (c.apply event).inFlight = c.inFlight := by
  cases event with
  | call ready => exact absurd rfl (hEvent ready)
  | resume k => exact resume_inFlight c k
  | cancel k =>
    refine .inr ?_
    unfold apply cancel
    dsimp only
    split <;> rfl
  | reply q r =>
    refine .inr ?_
    unfold apply reply
    dsimp only
    split <;> rfl
  | _ => exact .inr rfl

/-- An exchange is put under way by a new caller and by nothing else. -/
theorem step_inFlight (c : TokenCache) {event : Event} (hEvent : ∀ ready, event ≠ .call ready) :
    (c.step event).inFlight = none ∨ (c.step event).inFlight = c.inFlight := by
  unfold step
  split
  · rcases releaseUnowned_inFlight (c.apply event) with hNone | hSame
    · exact .inl hNone
    · rw [hSame]
      exact apply_inFlight c hEvent
  · split
    · exact apply_inFlight c hEvent
    · exact apply_inFlight c hEvent
    · exact .inr rfl

theorem run_inFlight (c : TokenCache) (events : List Event) (hEvents : ∀ ready, .call ready ∉ events) :
    (c.run events).inFlight = none ∨ (c.run events).inFlight = c.inFlight := by
  induction events generalizing c with
  | nil => exact .inr rfl
  | cons event events ih =>
    rw [run_cons]
    rcases ih (c.step event) fun ready hCall => hEvents ready (List.mem_cons_of_mem _ hCall) with hNone | hSame
    · exact .inl hNone
    · rw [hSame]
      refine step_inFlight c ?_
      rintro ready rfl
      exact hEvents ready List.mem_cons_self

/-- No exchange is under way, and the next caller that finds no usable token starts one, whatever happens
before it comes. -/
structure Free (c : TokenCache) : Prop where
  idle : c.inFlight = none
  next : ∀ events, (∀ ready, .call ready ∉ events) → ∀ d, d = c.run events → d.isOwned = true →
    d.usable? = none → ∀ ready, ∃ later, (d.step (.call ready)).history =
      d.history ++ (d.clock.now, .started d.callers.length d.exchanges.length) :: later

theorem free_of_idle (hIdle : c.inFlight = none) : Free c where
  idle := hIdle
  next events hEvents d hRun hOwned hUnusable ready := by
    subst hRun
    obtain ⟨f, later, hHistory, hFact⟩ := step_call_of_unusable hOwned hUnusable ready
    have hStill : (c.run events).inFlight = none :=
      (run_inFlight c events hEvents).elim id fun hSame => hSame.trans hIdle
    rw [hStill] at hFact
    rcases hFact with ⟨e, hFlying, -⟩ | ⟨-, rfl⟩
    · cases hFlying
    · exact ⟨later, hHistory⟩

theorem Consistent.idle_of_settled (h : Consistent c) {e : Nat} {result : Exchange.Result}
    (hFlying : c.inFlight = some e) (callers : List Nat)
    (hSettled : Happened (c.run (callers.map .resume)).history (.settled e result)) :
    (c.run (callers.map .resume)).inFlight = none := by
  have hRun := (h.run (callers.map .resume)).recorded
  rcases run_inFlight c (callers.map .resume) (by simp) with hNone | hSame
  · exact hNone
  · have hWay := hRun.inFlight.symm.trans (hSame.trans hFlying)
    exact absurd ⟨result, hSettled⟩ (hRun.lawful.underWay_eq_some_iff.1 hWay).1.2

/-- The exchange under way has no result and never will: as long as somebody holds the cache, whoever finds no
usable token shares that exchange and gets nothing, and no request is sent. -/
structure Wedged (c : TokenCache) (exchange : Nat) : Prop where
  stuck : ∀ events, (c.run events).isOwned = true → (c.run events).inFlight = some exchange
  next : ∀ events d, d = c.run events → d.isOwned = true → d.usable? = none → ∀ ready,
    (d.step (.call ready)).answer? d.callers.length = some .overflow ∧
      (d.step (.call ready)).transport = d.transport

theorem Recorded.inFlight_of_broke (h : Recorded c) {e : Nat} (hOwned : c.isOwned = true)
    (hBroke : Happened c.history (.broke e)) : c.inFlight = some e := by
  have hPhase := (h.phases.broken e).2 hBroke
  rw [h.inFlight, h.lawful.underWay_eq_some_iff]
  refine ⟨⟨(h.phases.begun e).1 (List.getElem?_eq_some_iff.1 hPhase).1, ?_⟩, h.not_released hOwned⟩
  rintro ⟨result, hSettled⟩
  rw [← h.phases.settled, hPhase] at hSettled
  cases hSettled

theorem Recorded.step_call_of_broke (h : Recorded c) {e : Nat} (hOwned : c.isOwned = true)
    (hUnusable : c.usable? = none) (hBroke : Happened c.history (.broke e)) (ready : Option Reply) :
    (c.step (.call ready)).answer? c.callers.length = some .overflow ∧
      (c.step (.call ready)).transport = c.transport := by
  have hPhase := (h.phases.broken e).2 hBroke
  have hFlying := h.inFlight_of_broke hOwned hBroke
  have hEnded : (c.join e).exchanges[e]?.bind Phase.answer? = some .overflow := by
    show c.exchanges[e]?.bind Phase.answer? = some .overflow
    rw [hPhase]
    rfl
  have hAwaited := awaited?_join c e
  have hLook : (c.join e).look e = c.join e := look_of_ended hEnded
  rw [step_call_of_flying hOwned hUnusable hFlying]
  refine ⟨step_resume_answer hAwaited (by rw [hLook, hEnded]), ?_⟩
  have hResume : (c.join e).resume c.callers.length =
      (c.join e).setState c.callers.length (.answered .overflow) := by
    rw [resume_of_awaited hAwaited, hLook]
    unfold collect
    simp only [hAwaited, hEnded]
  simp only [step, isOwned_of_awaited hAwaited, if_true, apply, hResume]
  refine releaseUnowned_transport fun e' q hFlying' hWaiting => ?_
  obtain rfl : e = e' := Option.some.inj (hFlying.symm.trans hFlying')
  rw [show c.exchanges[e]? = some (.waiting q) from hWaiting] at hPhase
  cases hPhase

theorem Consistent.wedged_of_broke (h : Consistent c) {e : Nat} (hBroke : Happened c.history (.broke e)) :
    Wedged c e where
  stuck events hOwned := (h.run events).recorded.inFlight_of_broke hOwned
    (hBroke.mono (run_history_grows c events))
  next events d hRun hOwned hUnusable ready := by
    subst hRun
    exact (h.run events).recorded.step_call_of_broke hOwned hUnusable
      (hBroke.mono (run_history_grows c events)) ready

/-- What a reply that is read at `now` does to the exchange it belongs to, in the cache `d` that this leads to,
and to the callers that share the exchange. -/
structure EndedBy (reply : Reply) (classify : Classifier) (now : Instant) (d : TokenCache) (exchange : Nat)
    (shares : Nat → Prop) : Prop where
  /-- A reply within the calendar settles the exchange and leaves the cache free, and the callers all get
  the same token or the same error. -/
  settled : ¬ reply.RunsOut now → ∃ result, Exchange.conclude classify now reply = some result ∧
    Happened d.history (.settled exchange result) ∧ Free d ∧
    ∀ k, shares k → d.answer? k = some (.ofResult result)
  /-- A reply that leads out of the calendar wedges the cache, and the callers get neither. -/
  broken : reply.RunsOut now → Wedged d exchange ∧ ∀ k, shares k → d.answer? k = some .overflow

theorem EndedBy.of_shares {reply : Reply} {classify : Classifier} {now : Instant} {exchange : Nat}
    {shares shares' : Nat → Prop} (h : EndedBy reply classify now c exchange shares)
    (hShares : ∀ k, shares' k → shares k) : EndedBy reply classify now c exchange shares' where
  settled hInside := by
    obtain ⟨result, hConclude, hSettled, hFree, hAnswers⟩ := h.settled hInside
    exact ⟨result, hConclude, hSettled, hFree, fun k hk => hAnswers k (hShares k hk)⟩
  broken hOutside := by
    obtain ⟨hWedged, hAnswers⟩ := h.broken hOutside
    exact ⟨hWedged, fun k hk => hAnswers k (hShares k hk)⟩

theorem Consistent.endedBy (h : Consistent c) {e q k : Nat} {reply : Reply}
    (hWaiting : c.exchanges[e]? = some (.waiting q)) (hCome : c.transport.reply? q = some reply)
    (hAwaited : c.awaited? k = some e) (callers : List Nat) (hk : k ∈ callers) :
    EndedBy reply c.classify c.clock.now (c.run (callers.map .resume)) e
      fun k' => k' ∈ callers ∧ c.awaited? k' = some e := by
  obtain ⟨hEnding, hAnswers⟩ := h.ending_run hWaiting hCome hAwaited callers hk
  have hFlying : c.inFlight = some e := h.recorded.inFlight_of_waiting hWaiting
  constructor
  · intro hInside
    have hResult : Exchange.conclude c.classify c.clock.now reply ≠ none :=
      fun hNone => hInside (Exchange.conclude_eq_none_iff.1 hNone)
    obtain ⟨result, hConclude⟩ := Option.ne_none_iff_exists'.1 hResult
    rw [hConclude] at hEnding hAnswers
    exact ⟨result, hConclude, hEnding, free_of_idle (h.idle_of_settled hFlying callers hEnding),
      fun k' hk' => hAnswers k' hk'.1 hk'.2⟩
  · intro hOutside
    have hNone : Exchange.conclude c.classify c.clock.now reply = none :=
      Exchange.conclude_eq_none_iff.2 hOutside
    rw [hNone] at hEnding hAnswers
    exact ⟨(h.run _).wedged_of_broke hEnding, fun k' hk' => hAnswers k' hk'.1 hk'.2⟩

/-- How exchanges end by their replies, at every instant of the calendar. -/
structure EndsByReply (c : TokenCache) : Prop where
  /-- Once the reply has come and a caller of the exchange is among those that look, whoever they are and in
  whatever order, the exchange ends. -/
  come : ∀ (e q k : Nat) (reply : Reply), c.exchanges[e]? = some (.waiting q) →
    c.transport.reply? q = some reply → c.awaited? k = some e → ∀ callers : List Nat, k ∈ callers →
    EndedBy reply c.classify c.clock.now (c.run (callers.map .resume)) e
      fun k' => k' ∈ callers ∧ c.awaited? k' = some e
  /-- A reply that is ready when its request is sent ends the exchange in the same step. -/
  ready : c.isOwned = true → c.usable? = none → c.inFlight = none → ∀ r, c.grant.request = .ok r →
    ∀ reply, EndedBy reply c.classify c.clock.now (c.step (.call (some reply))) c.exchanges.length
      fun k => k = c.callers.length
  /-- Only in the last ten years of the calendar can a reply lead out of it. -/
  early : c.clock.now.nanos + Expiry.longest ≤ latest → ∀ reply : Reply, ¬ reply.RunsOut c.clock.now

theorem Consistent.endsByReply (h : Consistent c) : EndsByReply c where
  come _ _ _ _ hWaiting hCome hAwaited callers hk := h.endedBy hWaiting hCome hAwaited callers hk
  ready hOwned hUnusable hIdle r hRequest reply := by
    have hStarted : Consistent (c.start (some reply)) := h.move (.start hOwned hUnusable hIdle)
    have hWaiting : (c.start (some reply)).exchanges[c.exchanges.length]? =
        some (.waiting c.transport.nextNumber) := by
      rw [start_of_ok hRequest]
      simp
    have hCome : (c.start (some reply)).transport.reply? c.transport.nextNumber = some reply := by
      rw [start_of_ok hRequest]
      simp [Http.Transport.reply?_eq_some_iff, Http.Transport.state?_send]
    have hAwaited := awaited?_start c (some reply)
    have hEnded := hStarted.endedBy hWaiting hCome hAwaited [c.callers.length] (List.mem_singleton_self _)
    rw [start_classify, start_clock] at hEnded
    rw [step_call_of_idle hOwned hUnusable hIdle]
    refine hEnded.of_shares ?_
    rintro k rfl
    exact ⟨List.mem_singleton_self _, hAwaited⟩
  early hEarly reply := reply.not_runsOut hEarly

/-- Every reply ends its exchange, in every run; only one that leads out of the calendar wedges the cache. -/
theorem run_endsByReply (grant : Grant) (classify : Classifier) (clock : Clock) (events : List Event) :
    EndsByReply ((new grant classify clock).run events) :=
  (consistent_run grant classify clock events).endsByReply

/-- At the end of the calendar an ordinary response leaves its exchange under way for ever. -/
theorem not_every_reply_settles : ¬ ∀ (grant : Grant) (classify : Classifier) (clock : Clock)
    (events : List Event) (c : TokenCache), c = (new grant classify clock).run events →
    ∀ e q k reply, c.inFlight = some e → c.pendingRequest? = some q → c.transport.reply? q = some reply →
    c.awaited? k = some e → c.resumeAll.inFlight = none ∧ c.resumeAll.answer? k ≠ some .overflow := by
  intro hAlways
  have hEnds := hAlways sampleGrant asNetworkError ⟨⟨253402300799 * second, by decide, by decide⟩⟩
    [.call none, .reply 0 (.response sampleResponse)] _ rfl 0 0 0 (.response sampleResponse)
    (by decide +kernel) (by decide +kernel) (by decide +kernel) (by decide +kernel)
  revert hEnds
  decide +kernel

end BearerTokens.TokenCache
