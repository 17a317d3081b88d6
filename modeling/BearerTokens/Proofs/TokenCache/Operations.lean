import BearerTokens.Proofs.TokenCache.History
import BearerTokens.Token.Cache.Step

/-!
# Operations of a token cache

What each operation comes to in the cases there are, what it adds to the history, and what it leaves alone.
-/

set_option autoImplicit false

namespace BearerTokens.TokenCache

open BearerTokens.Http BearerTokens.Time

variable {c c' : TokenCache}

theorem look_of_come {exchange request : Nat} {reply : Reply}
    (hWaiting : c.exchanges[exchange]? = some (.waiting request))
    (hCome : c.transport.reply? request = some reply) : c.look exchange = c.judge exchange reply := by
  unfold look
  rw [hWaiting]
  simp only [hCome]

theorem look_of_unanswered {exchange request : Nat}
    (hWaiting : c.exchanges[exchange]? = some (.waiting request))
    (hUnanswered : c.transport.reply? request = none) : c.look exchange = c := by
  unfold look
  simp only [hWaiting, hUnanswered]

theorem look_of_not_waiting {exchange : Nat}
    (h : ∀ request, c.exchanges[exchange]? ≠ some (.waiting request)) : c.look exchange = c := by
  unfold look
  split
  · rename_i request hWaiting
    exact absurd hWaiting (h request)
  · rfl

theorem look_of_ended {exchange : Nat} {a : Answer}
    (hEnded : c.exchanges[exchange]?.bind Phase.answer? = some a) : c.look exchange = c := by
  refine look_of_not_waiting fun request hWaiting => ?_
  rw [hWaiting] at hEnded
  cases hEnded

theorem resume_of_unawaited {caller : Nat} (h : c.awaited? caller = none) : c.resume caller = c := by
  unfold resume
  rw [h]

theorem resume_of_awaited {caller exchange : Nat} (h : c.awaited? caller = some exchange) :
    c.resume caller = (c.look exchange).collect caller := by
  unfold resume
  rw [h]

theorem cancel_of_unawaited {caller : Nat} (h : c.awaited? caller = none) : c.cancel caller = c := by
  unfold cancel
  rw [h]

theorem start_of_error {e : ConfigError} (h : c.grant.request = .error e) (hIdle : c.inFlight = none)
    (ready : Option Reply) :
    c.start ready =
      { c with
        exchanges := c.exchanges ++ [.settled (.error (.config e))]
        callers := c.callers ++ [⟨some c.exchanges.length, .waiting⟩]
        notes := c.notes ++ .decision .token .startFetch :: Exchange.openingNotes ++
          Exchange.closingNotes (some (.error (.config e)))
        history := c.history ++
          [(c.clock.now, .started c.callers.length c.exchanges.length),
            (c.clock.now, .settled c.exchanges.length (.error (.config e)))] } := by
  simp [start, h, hIdle, register, settle, note, record, addCaller]

theorem start_of_ok {r : Request} (h : c.grant.request = .ok r) (ready : Option Reply) :
    c.start ready =
      { c with
        exchanges := c.exchanges ++ [.waiting c.transport.nextNumber]
        inFlight := some c.exchanges.length
        callers := c.callers ++ [⟨some c.exchanges.length, .waiting⟩]
        transport := c.transport.send r ready
        notes := c.notes ++ .decision .token .startFetch :: Exchange.openingNotes
        history := c.history ++
          (c.clock.now, .started c.callers.length c.exchanges.length) ::
          (c.clock.now, .sent c.exchanges.length c.transport.nextNumber) ::
          (ready.map fun reply => (c.clock.now, Fact.replied c.transport.nextNumber reply)).toList } := by
  cases ready <;> simp [start, h, register, send, note, record, addCaller]

theorem judge_of_some {exchange : Nat} {reply : Reply} {result : Exchange.Result}
    (h : Exchange.conclude c.classify c.clock.now reply = some result)
    (hFlying : c.inFlight = some exchange) :
    c.judge exchange reply =
      { c with
        exchanges := c.exchanges.set exchange (.settled result)
        inFlight := none
        cached := (Fact.settled exchange result).content c.cached
        notes := c.notes ++ Exchange.closingNotes (some result)
        history := c.history ++
          [(c.clock.now, .judged exchange reply), (c.clock.now, .settled exchange result)] } := by
  cases result <;> simp [judge, h, hFlying, settle, note, record, Fact.content]

theorem judge_of_none {exchange : Nat} {reply : Reply}
    (h : Exchange.conclude c.classify c.clock.now reply = none) :
    c.judge exchange reply =
      { c with
        exchanges := c.exchanges.set exchange .broken
        history := c.history ++
          [(c.clock.now, .judged exchange reply), (c.clock.now, .broke exchange)] } := by
  simp [judge, h, breakOff, record]

theorem release_of_waiting {exchange request : Nat} (hFlying : c.inFlight = some exchange)
    (hWaiting : c.exchanges[exchange]? = some (.waiting request)) :
    c.release =
      { c with
        transport := c.transport.abandon request
        exchanges := c.exchanges.set exchange .dropped
        inFlight := none
        cached := none
        history := c.history ++ [(c.clock.now, .released)] } := by
  simp [release, dropPending, pendingRequest?, hFlying, hWaiting, record]

theorem release_of_not_waiting
    (h : ∀ exchange request, c.inFlight = some exchange →
      c.exchanges[exchange]? ≠ some (.waiting request)) :
    c.release =
      { c with
        inFlight := none
        cached := none
        history := c.history ++ [(c.clock.now, .released)] } := by
  have hPending : c.pendingRequest? = none := by
    unfold pendingRequest?
    split
    · rename_i request hWaiting
      obtain ⟨exchange, hFlying, hPhase⟩ := Option.bind_eq_some_iff.1 hWaiting
      exact absurd hPhase (h exchange request hFlying)
    · rfl
  have hKept : c.dropPending = c := by
    unfold dropPending
    split
    · rename_i hWaiting
      rw [hPending] at hWaiting
      cases hWaiting
    · rfl
  simp [release, hKept, record]

theorem judge_history (c : TokenCache) (exchange : Nat) (reply : Reply) :
    (c.judge exchange reply).history = c.history ++
      [(c.clock.now, .judged exchange reply),
        (c.clock.now,
          match Exchange.conclude c.classify c.clock.now reply with
          | some result => .settled exchange result
          | none => .broke exchange)] := by
  cases h : Exchange.conclude c.classify c.clock.now reply <;>
    simp [judge, h, settle, breakOff, note, record]

theorem start_history (c : TokenCache) (ready : Option Reply) :
    (c.start ready).history = c.history ++
      (c.clock.now, .started c.callers.length c.exchanges.length) ::
      match c.grant.request with
      | .error e => [(c.clock.now, .settled c.exchanges.length (.error (.config e)))]
      | .ok _ =>
        (c.clock.now, .sent c.exchanges.length c.transport.nextNumber) ::
        (ready.map fun reply => (c.clock.now, Fact.replied c.transport.nextNumber reply)).toList := by
  cases h : c.grant.request <;> cases ready <;>
    simp [start, h, register, settle, send, note, record, addCaller]

theorem release_history (c : TokenCache) :
    c.release.history = c.history ++ [(c.clock.now, .released)] := by
  unfold release dropPending
  split <;> rfl

theorem collect_history (c : TokenCache) (k : Nat) : (c.collect k).history = c.history := by
  unfold collect
  split
  · rfl
  · split <;> rfl

theorem judge_grant (c : TokenCache) (exchange : Nat) (reply : Reply) :
    (c.judge exchange reply).grant = c.grant := by
  unfold judge
  split <;> rfl

theorem judge_classify (c : TokenCache) (exchange : Nat) (reply : Reply) :
    (c.judge exchange reply).classify = c.classify := by
  unfold judge
  split <;> rfl

theorem judge_clock (c : TokenCache) (exchange : Nat) (reply : Reply) :
    (c.judge exchange reply).clock = c.clock := by
  unfold judge
  split <;> rfl

theorem judge_transport (c : TokenCache) (exchange : Nat) (reply : Reply) :
    (c.judge exchange reply).transport = c.transport := by
  unfold judge
  split <;> rfl

theorem judge_callers (c : TokenCache) (e : Nat) (reply : Reply) : (c.judge e reply).callers = c.callers := by
  unfold judge
  split <;> rfl

theorem start_grant (c : TokenCache) (ready : Option Reply) : (c.start ready).grant = c.grant := by
  unfold start
  split <;> rfl

theorem start_classify (c : TokenCache) (ready : Option Reply) : (c.start ready).classify = c.classify := by
  unfold start
  split <;> rfl

theorem start_clock (c : TokenCache) (ready : Option Reply) : (c.start ready).clock = c.clock := by
  unfold start
  split <;> rfl

theorem start_cached (hIdle : c.inFlight = none) (ready : Option Reply) :
    (c.start ready).cached = c.cached := by
  cases hRequest : c.grant.request with
  | error err => rw [start_of_error hRequest hIdle]
  | ok r => rw [start_of_ok hRequest]

theorem start_callers (c : TokenCache) (ready : Option Reply) :
    (c.start ready).callers = c.callers ++ [⟨some c.exchanges.length, .waiting⟩] := by
  unfold start
  split <;> rfl

theorem release_grant (c : TokenCache) : c.release.grant = c.grant := by
  unfold release dropPending
  split <;> rfl

theorem release_classify (c : TokenCache) : c.release.classify = c.classify := by
  unfold release dropPending
  split <;> rfl

theorem release_clock (c : TokenCache) : c.release.clock = c.clock := by
  unfold release dropPending
  split <;> rfl

theorem release_callers (c : TokenCache) : c.release.callers = c.callers := by
  unfold release dropPending
  split <;> rfl

theorem collect_cached (c : TokenCache) (k : Nat) : (c.collect k).cached = c.cached := by
  unfold collect
  split
  · rfl
  · split <;> rfl

theorem look_callers (c : TokenCache) (e : Nat) : (c.look e).callers = c.callers := by
  unfold look
  split
  · split
    · rfl
    · exact judge_callers c e _
  · rfl

theorem releaseUnowned_callers (c : TokenCache) : c.releaseUnowned.callers = c.callers := by
  unfold releaseUnowned
  split
  · rfl
  · exact release_callers c

theorem usable?_eq_some_iff {token : HeldToken} :
    c.usable? = some token ↔ c.cached = some token ∧ token.isUsableAt c.clock.now = true := by
  simp [usable?, Option.filter_eq_some_iff]

theorem awaited?_eq_some_iff {k e : Nat} :
    c.awaited? k = some e ↔ c.callers[k]? = some ⟨some e, .waiting⟩ := by
  unfold awaited?
  cases hCaller : c.callers[k]? with
  | none => simp
  | some caller =>
    obtain ⟨exchange, state⟩ := caller
    by_cases hState : state = .waiting
    · simp [hState]
    · simp [hState]

theorem answer?_eq_some_iff {k : Nat} {a : Answer} :
    c.answer? k = some a ↔ ∃ x, c.callers[k]? = some ⟨x, .answered a⟩ := by
  unfold answer?
  cases hCaller : c.callers[k]? with
  | none => simp
  | some caller =>
    obtain ⟨exchange, state⟩ := caller
    cases state <;> simp

theorem answer?_congr (hCallers : c'.callers = c.callers) (k : Nat) : c'.answer? k = c.answer? k := by
  simp only [answer?, hCallers]

theorem setState_getElem? (c : TokenCache) (caller i : Nat) (state : CallerState) :
    (c.setState caller state).callers[i]? =
      c.callers[i]?.map fun k => if caller = i then { k with state := state } else k := by
  simp [setState, List.getElem?_modify]

theorem mem_callers_setState {caller : Nat} {state : CallerState} {k : Caller}
    (h : k ∈ (c.setState caller state).callers) : k ∈ c.callers ∨ k.state = state := by
  obtain ⟨i, hk⟩ := List.mem_iff_getElem?.1 h
  rw [setState_getElem?] at hk
  obtain ⟨old, hOld, rfl⟩ := Option.map_eq_some_iff.1 hk
  split
  · exact .inr rfl
  · exact .inl (List.mem_of_getElem? hOld)

theorem isOwned_eq_false_iff :
    c.isOwned = false ↔ c.handles = 0 ∧ ∀ k ∈ c.callers, k.state ≠ .waiting := by
  simp [isOwned]

theorem isOwned_of_awaited {k e : Nat} (h : c.awaited? k = some e) : c.isOwned = true := by
  by_contra hUnowned
  obtain ⟨-, hCallers⟩ := isOwned_eq_false_iff.1 (Bool.eq_false_iff.2 hUnowned)
  exact hCallers _ (List.mem_of_getElem? (awaited?_eq_some_iff.1 h)) rfl

theorem isOwned_setState {caller : Nat} {state : CallerState} (hState : state ≠ .waiting)
    (h : c.isOwned = false) : (c.setState caller state).isOwned = false := by
  obtain ⟨hHandles, hCallers⟩ := isOwned_eq_false_iff.1 h
  refine isOwned_eq_false_iff.2 ⟨hHandles, ?_⟩
  intro k hMem
  rcases mem_callers_setState hMem with hMem | hk
  · exact hCallers k hMem
  · rw [hk]
    exact hState

theorem release_isOwned (c : TokenCache) : c.release.isOwned = c.isOwned := by
  unfold isOwned release dropPending
  split <;> rfl

theorem step_of_owned (hOwned : c.isOwned = true) {event : Event}
    (hStill : (c.step event).isOwned = true) : c.step event = c.apply event := by
  simp only [step, hOwned, if_true, releaseUnowned] at hStill ⊢
  split
  · rfl
  · rename_i hUnowned
    simp [hUnowned, release_isOwned] at hStill

theorem step_clear (hOwned : c.isOwned = true) : c.step .clear = c.clear := by
  have hStill : c.clear.isOwned = true := hOwned
  simp [step, hOwned, apply, releaseUnowned, hStill]

theorem step_setClock (c : TokenCache) (now : Instant) :
    c.step (.setClock now) = { c with clock := c.clock.set now } := by
  unfold step
  split
  · rename_i hOwned
    have hStill : ({ c with clock := c.clock.set now } : TokenCache).isOwned = true := hOwned
    simp [apply, releaseUnowned, hStill]
  · rfl

end BearerTokens.TokenCache
