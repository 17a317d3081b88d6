import BearerTokens.Proofs.Places
import BearerTokens.Proofs.TokenCache.Move

/-!
# The record of a token cache

The history of a cache tells the truth about it: the slot, the phases of the exchanges and the requests of the
transport are what the recorded facts lead to, and every fact was allowed by those before it.
-/

set_option autoImplicit false

namespace BearerTokens.TokenCache

open BearerTokens.Http BearerTokens.Time

variable {c c' : TokenCache}

structure PhasesRecorded (c : TokenCache) : Prop where
  begun : ∀ e, e < c.exchanges.length ↔ Begun c.history e
  waiting : ∀ e q, c.exchanges[e]? = some (.waiting q) →
    underWay c.history = some e ∧ Happened c.history (.sent e q) ∧ ∀ r, ¬ Happened c.history (.judged e r)
  settled : ∀ e r, c.exchanges[e]? = some (.settled r) ↔ Happened c.history (.settled e r)
  broken : ∀ e, c.exchanges[e]? = some .broken ↔ Happened c.history (.broke e)

structure RequestsRecorded (c : TokenCache) : Prop where
  sent : ∀ e q, Happened c.history (.sent e q) → e < c.exchanges.length ∧ q < c.transport.calls.length
  requested : ∀ q, q < c.transport.calls.length → ∃ e, Happened c.history (.sent e q)
  pending : ∀ q, c.transport.state? q = some .waiting → ∀ r, ¬ Happened c.history (.replied q r)
  replied : ∀ q r, c.transport.state? q = some (.answered r) → Happened c.history (.replied q r)

def Fact.isOfExchange : Fact → Bool
  | .started .. | .sent .. | .judged .. | .settled .. | .broke .. | .released => true
  | _ => false

theorem PhasesRecorded.frame (h : PhasesRecorded c) {t : Instant} {f : Fact}
    (hExchanges : c'.exchanges = c.exchanges) (hHistory : c'.history = c.history ++ [(t, f)])
    (hOther : f.isOfExchange = false) : PhasesRecorded c' := by
  cases f <;> cases hOther <;>
    exact
      { begun := by simpa [hExchanges, hHistory] using h.begun
        waiting := by simpa [hExchanges, hHistory, underWay_snoc, Fact.flight] using h.waiting
        settled := by simpa [hExchanges, hHistory] using h.settled
        broken := by simpa [hExchanges, hHistory] using h.broken }

theorem PhasesRecorded.eq_of_waiting (h : PhasesRecorded c) {e e' q : Nat}
    (hWay : underWay c.history = some e) (hWaiting : c.exchanges[e']? = some (.waiting q)) : e' = e := by
  have hWay' := (h.waiting e' q hWaiting).1
  rw [hWay] at hWay'
  exact (Option.some.inj hWay').symm

theorem PhasesRecorded.not_begun_length (h : PhasesRecorded c) : ¬ Begun c.history c.exchanges.length :=
  fun hBegun => Nat.lt_irrefl _ ((h.begun _).2 hBegun)

theorem PhasesRecorded.not_waiting (h : PhasesRecorded c) (hIdle : underWay c.history = none) (e q : Nat) :
    c.exchanges[e]? ≠ some (.waiting q) := by
  intro hWaiting
  rw [(h.waiting e q hWaiting).1] at hIdle
  cases hIdle

/-- Once the exchange under way has taken another phase, no exchange waits. -/
theorem PhasesRecorded.not_waiting_set (h : PhasesRecorded c) {e q : Nat} {p : Phase}
    (hWaiting : c.exchanges[e]? = some (.waiting q)) (hPhase : ∀ q, p ≠ .waiting q) (e' q' : Nat) :
    (c.exchanges.set e p)[e']? ≠ some (.waiting q') := by
  intro hOther
  by_cases he : e' = e
  · subst he
    rw [List.getElem?_set_self (List.getElem?_eq_some_iff.1 hWaiting).1] at hOther
    exact hPhase q' (Option.some.inj hOther)
  · rw [List.getElem?_set_ne (Ne.symm he)] at hOther
    exact he (h.eq_of_waiting (h.waiting e q hWaiting).1 hOther)

theorem PhasesRecorded.start (h : PhasesRecorded c) (hLawful : Lawful c.history)
    (hFlight : c.inFlight = underWay c.history) (hIdle : c.inFlight = none) (ready : Option Reply) :
    PhasesRecorded (c.start ready) := by
  have hNone := h.not_waiting (hFlight.symm.trans hIdle)
  have hLength (e : Nat) : e < c.exchanges.length + 1 ↔ Begun c.history e ∨ c.exchanges.length = e := by
    rw [Nat.lt_succ_iff_lt_or_eq, h.begun e]
    simp [eq_comm]
  cases hRequest : c.grant.request with
  | error err =>
    rw [start_of_error hRequest hIdle]
    refine { begun := ?_, waiting := ?_, settled := ?_, broken := ?_ }
    · intro e
      simpa using hLength e
    · intro e q hWaiting
      simp [getElem?_snoc_eq_some_iff, hNone] at hWaiting
    · intro e r
      rw [getElem?_snoc_eq_some_iff, h.settled]
      simp [eq_comm]
    · intro e
      simp [getElem?_snoc_eq_some_iff, h.broken]
  | ok r =>
    rw [start_of_ok hRequest]
    refine { begun := ?_, waiting := ?_, settled := ?_, broken := ?_ }
    · intro e
      cases ready <;> simpa using hLength e
    · intro e q hWaiting
      simp only [getElem?_snoc_eq_some_iff, hNone, false_or, Phase.waiting.injEq] at hWaiting
      obtain ⟨rfl, rfl⟩ := hWaiting
      have hFresh (reply : Reply) : ¬ Happened c.history (.judged c.exchanges.length reply) :=
        fun hJudged => h.not_begun_length (hLawful.begun_of_judged hJudged)
      cases ready <;> simp [underWay, Fact.flight, hFresh]
    · intro e r
      cases ready <;> simp [getElem?_snoc_eq_some_iff, h.settled]
    · intro e
      cases ready <;> simp [getElem?_snoc_eq_some_iff, h.broken]

/-- An exchange that waits takes its last phase, and the history says which. -/
theorem PhasesRecorded.finish (h : PhasesRecorded c) {e q : Nat} {p : Phase} {later : History}
    (hWaiting : c.exchanges[e]? = some (.waiting q)) (hPhase : ∀ q, p ≠ .waiting q)
    (hExchanges : c'.exchanges = c.exchanges.set e p) (hHistory : c'.history = c.history ++ later)
    (hBegun : ∀ e', ¬ Begun later e')
    (hSettled : ∀ e' r, Happened later (.settled e' r) ↔ e' = e ∧ p = .settled r)
    (hBroke : ∀ e', Happened later (.broke e') ↔ e' = e ∧ p = .broken) : PhasesRecorded c' := by
  refine { begun := ?_, waiting := ?_, settled := ?_, broken := ?_ }
  · intro e'
    rw [hExchanges, List.length_set, h.begun, hHistory, begun_append]
    exact (or_iff_left (hBegun e')).symm
  · intro e' q' hOther
    rw [hExchanges] at hOther
    exact absurd hOther (h.not_waiting_set hWaiting hPhase e' q')
  · intro e' r
    rw [hExchanges, getElem?_set_eq_some_iff hWaiting (by simp), h.settled, hHistory, happened_append,
      hSettled]
  · intro e'
    rw [hExchanges, getElem?_set_eq_some_iff hWaiting (by simp), h.broken, hHistory, happened_append, hBroke]

theorem PhasesRecorded.judge (h : PhasesRecorded c) (hFlight : c.inFlight = underWay c.history)
    {e q : Nat} (hWaiting : c.exchanges[e]? = some (.waiting q)) (reply : Reply) :
    PhasesRecorded (c.judge e reply) := by
  have hFlying : c.inFlight = some e := hFlight.trans (h.waiting e q hWaiting).1
  cases hConclude : Exchange.conclude c.classify c.clock.now reply with
  | some result =>
    rw [judge_of_some hConclude hFlying]
    exact h.finish hWaiting (by simp) rfl rfl (by simp) (by simp [eq_comm]) (by simp)
  | none =>
    rw [judge_of_none hConclude]
    exact h.finish hWaiting (by simp) rfl rfl (by simp) (by simp) (by simp)

theorem PhasesRecorded.release (h : PhasesRecorded c) (hFlight : c.inFlight = underWay c.history) :
    PhasesRecorded c.release := by
  by_cases hPending : ∃ e q, c.inFlight = some e ∧ c.exchanges[e]? = some (.waiting q)
  · obtain ⟨e, q, hFlying, hWaiting⟩ := hPending
    rw [release_of_waiting hFlying hWaiting]
    exact h.finish hWaiting (by simp) rfl rfl (by simp) (by simp) (by simp)
  · have hNone (e q : Nat) : c.exchanges[e]? ≠ some (.waiting q) := fun hWaiting =>
      hPending ⟨e, q, hFlight.trans (h.waiting e q hWaiting).1, hWaiting⟩
    rw [release_of_not_waiting fun e q _ => hNone e q]
    refine { begun := ?_, waiting := ?_, settled := ?_, broken := ?_ }
    · intro e'
      simpa using h.begun e'
    · intro e' q' hOther
      exact absurd hOther (hNone e' q')
    · intro e' r
      simpa using h.settled e' r
    · intro e'
      simpa using h.broken e'

def Fact.isOfRequest : Fact → Bool
  | .sent .. | .replied .. => true
  | _ => false

theorem RequestsRecorded.frame (h : RequestsRecorded c) {later : History}
    (hLength : c.exchanges.length ≤ c'.exchanges.length) (hTransport : c'.transport = c.transport)
    (hHistory : c'.history = c.history ++ later) (hOther : ∀ f, Happened later f → f.isOfRequest = false) :
    RequestsRecorded c' := by
  have hSent (e q : Nat) : Happened c'.history (.sent e q) ↔ Happened c.history (.sent e q) := by
    rw [hHistory, happened_append]
    exact or_iff_left fun hNew => absurd (hOther _ hNew) (by simp [Fact.isOfRequest])
  have hReplied (q : Nat) (r : Reply) :
      Happened c'.history (.replied q r) ↔ Happened c.history (.replied q r) := by
    rw [hHistory, happened_append]
    exact or_iff_left fun hNew => absurd (hOther _ hNew) (by simp [Fact.isOfRequest])
  refine { sent := ?_, requested := ?_, pending := ?_, replied := ?_ }
  · intro e q hNow
    obtain ⟨he, hq⟩ := h.sent e q ((hSent e q).1 hNow)
    exact ⟨Nat.lt_of_lt_of_le he hLength, hTransport ▸ hq⟩
  · intro q hq
    obtain ⟨e, hNow⟩ := h.requested q (hTransport ▸ hq)
    exact ⟨e, (hSent e q).2 hNow⟩
  · intro q hState r hNow
    exact h.pending q (hTransport ▸ hState) r ((hReplied q r).1 hNow)
  · intro q r hState
    exact (hReplied q r).2 (h.replied q r (hTransport ▸ hState))

theorem Lawful.sent_of_replied {h : History} (hLawful : Lawful h) {q : Nat} {r : Reply}
    (hReplied : Happened h (.replied q r)) : ∃ e, Happened h (.sent e q) := by
  obtain ⟨t, hMem⟩ := hReplied
  obtain ⟨past, later, rfl⟩ := List.append_of_mem hMem
  obtain ⟨⟨e, hSent⟩, -⟩ : Allows past t (.replied q r) := hLawful.allows
  exact ⟨e, happened_append.2 (.inl hSent)⟩

theorem RequestsRecorded.not_replied_length (h : RequestsRecorded c) (hLawful : Lawful c.history)
    (r : Reply) : ¬ Happened c.history (.replied c.transport.nextNumber r) := by
  intro hReplied
  obtain ⟨e, hSent⟩ := hLawful.sent_of_replied hReplied
  exact Nat.lt_irrefl _ (h.sent e _ hSent).2

theorem RequestsRecorded.start (h : RequestsRecorded c) (hLawful : Lawful c.history)
    (hIdle : c.inFlight = none) (ready : Option Reply) : RequestsRecorded (c.start ready) := by
  cases hRequest : c.grant.request with
  | error err =>
    rw [start_of_error hRequest hIdle]
    exact h.frame (by simp) rfl rfl (by simp [Fact.isOfRequest])
  | ok r =>
    have hFresh := h.not_replied_length hLawful
    rw [start_of_ok hRequest]
    refine { sent := ?_, requested := ?_, pending := ?_, replied := ?_ }
    · intro e q hSent
      have hOld : Happened c.history (.sent e q) ∨ e = c.exchanges.length ∧ q = c.transport.nextNumber := by
        cases ready <;> simpa using hSent
      simp only [List.length_append, List.length_singleton, Http.Transport.length_send]
      rcases hOld with hOld | ⟨rfl, rfl⟩
      · obtain ⟨he, hq⟩ := h.sent e q hOld
        omega
      · exact ⟨Nat.lt_succ_self _, Nat.lt_succ_self _⟩
    · intro q hq
      rw [Http.Transport.length_send, Nat.lt_succ_iff_lt_or_eq] at hq
      rcases hq with hq | rfl
      · obtain ⟨e, hSent⟩ := h.requested q hq
        exact ⟨e, happened_append.2 (.inl hSent)⟩
      · exact ⟨c.exchanges.length, by simp [Http.Transport.nextNumber]⟩
    · intro q hState reply
      rw [Http.Transport.state?_send] at hState
      split at hState
      · rename_i hNew
        subst hNew
        cases ready with
        | none => simp [hFresh]
        | some reply => cases hState
      · rename_i hOld
        have hNone := h.pending q hState reply
        cases ready <;> simp [hNone, hOld]
    · intro q reply hState
      rw [Http.Transport.state?_send] at hState
      split at hState
      · rename_i hNew
        subst hNew
        cases ready with
        | none => cases hState
        | some reply =>
          cases hState
          simp
      · exact happened_append.2 (.inl (h.replied q reply hState))

theorem RequestsRecorded.judge (h : RequestsRecorded c) {e : Nat} (hFlying : c.inFlight = some e)
    (reply : Reply) : RequestsRecorded (c.judge e reply) := by
  cases hConclude : Exchange.conclude c.classify c.clock.now reply with
  | some result =>
    rw [judge_of_some hConclude hFlying]
    exact h.frame (by simp) rfl rfl (by simp [Fact.isOfRequest])
  | none =>
    rw [judge_of_none hConclude]
    exact h.frame (by simp) rfl rfl (by simp [Fact.isOfRequest])

theorem RequestsRecorded.reply (h : RequestsRecorded c) {request : Nat} (r : Reply)
    (hWaiting : c.transport.state? request = some .waiting) :
    RequestsRecorded
      ({ c with transport := c.transport.answer request r }.record [.replied request r]) := by
  refine { sent := ?_, requested := ?_, pending := ?_, replied := ?_ }
  · intro e q hSent
    simpa [record] using h.sent e q (by simpa [record] using hSent)
  · intro q hq
    obtain ⟨e, hSent⟩ := h.requested q (by simpa [record] using hq)
    exact ⟨e, happened_append.2 (.inl hSent)⟩
  · intro q hState reply
    simp only [record, Http.Transport.state?_answer hWaiting] at hState
    split at hState
    · cases hState
    · rename_i hOther
      have hNone := h.pending q hState reply
      simp [record, hNone, hOther]
  · intro q reply hState
    simp only [record, Http.Transport.state?_answer hWaiting] at hState
    split at hState
    · rename_i hSame
      cases hState
      simp [record, hSame]
    · exact happened_append.2 (.inl (h.replied q reply hState))

theorem RequestsRecorded.abandon (h : RequestsRecorded c) {request : Nat}
    (hTransport : c'.transport = c.transport.abandon request)
    (hLength : c.exchanges.length ≤ c'.exchanges.length)
    (hHistory : c'.history = c.history ++ [(c.clock.now, .released)]) : RequestsRecorded c' := by
  refine { sent := ?_, requested := ?_, pending := ?_, replied := ?_ }
  · intro e q hSent
    obtain ⟨he, hq⟩ := h.sent e q (by simpa [hHistory] using hSent)
    exact ⟨Nat.lt_of_lt_of_le he hLength, by simpa [hTransport] using hq⟩
  · intro q hq
    obtain ⟨e, hSent⟩ := h.requested q (by simpa [hTransport] using hq)
    exact ⟨e, by simpa [hHistory] using hSent⟩
  · intro q hState reply
    rw [hTransport, Http.Transport.state?_abandon] at hState
    split at hState
    · obtain ⟨_, _, hDropped⟩ := Option.map_eq_some_iff.1 hState
      cases hDropped
    · simpa [hHistory] using h.pending q hState reply
  · intro q reply hState
    rw [hTransport, Http.Transport.state?_abandon] at hState
    split at hState
    · obtain ⟨_, _, hDropped⟩ := Option.map_eq_some_iff.1 hState
      cases hDropped
    · simpa [hHistory] using h.replied q reply hState

theorem RequestsRecorded.release (h : RequestsRecorded c) : RequestsRecorded c.release := by
  by_cases hPending : ∃ e q, c.inFlight = some e ∧ c.exchanges[e]? = some (.waiting q)
  · obtain ⟨e, q, hFlying, hWaiting⟩ := hPending
    rw [release_of_waiting hFlying hWaiting]
    exact h.abandon rfl (by simp) rfl
  · rw [release_of_not_waiting fun e q hFlying hWaiting => hPending ⟨e, q, hFlying, hWaiting⟩]
    exact h.frame (Nat.le_refl _) rfl rfl (by simp [Fact.isOfRequest])

structure Recorded (c : TokenCache) : Prop where
  lawful : Lawful c.history
  inFlight : c.inFlight = underWay c.history
  cached : c.cached = held c.history
  released : Happened c.history .released → c.isOwned = false
  phases : PhasesRecorded c
  requests : RequestsRecorded c

theorem recorded_new (grant : Grant) (classify : Classifier) (clock : Clock) :
    Recorded (new grant classify clock) where
  lawful := .nil
  inFlight := rfl
  cached := rfl
  released h := absurd h (happened_nil _)
  phases :=
    { begun := by simp [new]
      waiting := by simp [new]
      settled := by simp [new]
      broken := by simp [new] }
  requests :=
    { sent := by simp [new]
      requested := by simp [new, Transport.empty]
      pending := by simp [new]
      replied := by simp [new, Transport.empty, Transport.state?] }

theorem Recorded.not_released (h : Recorded c) (hOwned : c.isOwned = true) :
    ¬ Happened c.history .released := by
  intro hReleased
  rw [h.released hReleased] at hOwned
  cases hOwned

theorem Recorded.inFlight_of_waiting (h : Recorded c) {e q : Nat}
    (hWaiting : c.exchanges[e]? = some (.waiting q)) : c.inFlight = some e :=
  h.inFlight.trans (h.phases.waiting e q hWaiting).1

theorem Recorded.waiting_unique (h : Recorded c) {e e' q q' : Nat}
    (hFirst : c.exchanges[e]? = some (.waiting q)) (hSecond : c.exchanges[e']? = some (.waiting q')) :
    e' = e :=
  h.phases.eq_of_waiting (h.phases.waiting e q hFirst).1 hSecond

theorem Recorded.frame (h : Recorded c) {f : Fact} (hExchange : f.isOfExchange = false)
    (hRequest : f.isOfRequest = false) (hHistory : c'.history = c.history ++ [(c.clock.now, f)])
    (hExchanges : c'.exchanges = c.exchanges) (hTransport : c'.transport = c.transport)
    (hFlight : c'.inFlight = c.inFlight) (hContent : c'.cached = f.content c.cached)
    (hAllowed : Allows c.history c.clock.now f)
    (hReleased : Happened c.history .released → c'.isOwned = false) : Recorded c' where
  lawful := hHistory ▸ h.lawful.snoc hAllowed
  inFlight := by
    rw [hFlight, hHistory, underWay_snoc, h.inFlight]
    cases f <;> first | rfl | cases hExchange
  cached := by rw [hContent, hHistory, held_snoc, h.cached]
  released hNow := by
    rw [hHistory] at hNow
    refine hReleased ?_
    cases f <;> first | simpa using hNow | cases hExchange
  phases := h.phases.frame hExchanges hHistory hExchange
  requests :=
    h.requests.frame (Nat.le_of_eq (by rw [hExchanges])) hTransport hHistory (by simpa using hRequest)

/-- What is recorded does not depend on the clock, the callers and the handles. -/
theorem Recorded.congr (h : Recorded c) (hHistory : c'.history = c.history)
    (hExchanges : c'.exchanges = c.exchanges) (hTransport : c'.transport = c.transport)
    (hFlight : c'.inFlight = c.inFlight) (hContent : c'.cached = c.cached)
    (hReleased : Happened c.history .released → c'.isOwned = false) : Recorded c' where
  lawful := hHistory ▸ h.lawful
  inFlight := by rw [hFlight, hHistory, h.inFlight]
  cached := by rw [hContent, hHistory, h.cached]
  released hNow := hReleased (hHistory ▸ hNow)
  phases :=
    { begun := by simpa [hExchanges, hHistory] using h.phases.begun
      waiting := by simpa [hExchanges, hHistory] using h.phases.waiting
      settled := by simpa [hExchanges, hHistory] using h.phases.settled
      broken := by simpa [hExchanges, hHistory] using h.phases.broken }
  requests :=
    { sent := by simpa [hExchanges, hHistory, hTransport] using h.requests.sent
      requested := by simpa [hHistory, hTransport] using h.requests.requested
      pending := by simpa [hHistory, hTransport] using h.requests.pending
      replied := by simpa [hHistory, hTransport] using h.requests.replied }

theorem Recorded.lawful_start (h : Recorded c) (hOwned : c.isOwned = true) (hIdle : c.inFlight = none)
    (ready : Option Reply) : Lawful (c.start ready).history := by
  have hWay : underWay c.history = none := h.inFlight.symm.trans hIdle
  have hStarted : Lawful (c.history ++ [(c.clock.now, .started c.callers.length c.exchanges.length)]) :=
    h.lawful.snoc ⟨hWay, h.phases.not_begun_length, h.not_released hOwned⟩
  rw [start_history]
  cases c.grant.request with
  | error err =>
    have hSettled : Lawful (_ ++ [(c.clock.now, .settled c.exchanges.length (.error (.config err)))]) :=
      hStarted.snoc (by simp [Allows, underWay, Fact.flight])
    simpa using hSettled
  | ok r =>
    have hUnsent (q : Nat) : ¬ Happened c.history (.sent c.exchanges.length q) := fun hSent =>
      Nat.lt_irrefl _ (h.requests.sent _ q hSent).1
    have hUnused (e : Nat) : ¬ Happened c.history (.sent e c.transport.nextNumber) := fun hSent =>
      Nat.lt_irrefl _ (h.requests.sent e _ hSent).2
    have hSent : Lawful (_ ++ [(c.clock.now, .sent c.exchanges.length c.transport.nextNumber)]) :=
      hStarted.snoc (by simp [Allows, underWay, Fact.flight, hUnsent, hUnused])
    cases ready with
    | none => simpa using hSent
    | some reply =>
      have hReplied : Lawful (_ ++ [(c.clock.now, .replied c.transport.nextNumber reply)]) :=
        hSent.snoc ⟨⟨c.exchanges.length, by simp⟩, by simp [h.requests.not_replied_length h.lawful]⟩
      simpa using hReplied

theorem Recorded.start (h : Recorded c) (hOwned : c.isOwned = true) (hIdle : c.inFlight = none)
    (ready : Option Reply) : Recorded (c.start ready) := by
  have hAlive := h.not_released hOwned
  refine
    { lawful := h.lawful_start hOwned hIdle ready
      phases := h.phases.start h.lawful h.inFlight hIdle ready
      requests := h.requests.start h.lawful hIdle ready
      inFlight := ?_
      cached := ?_
      released := ?_ }
  · cases hRequest : c.grant.request with
    | error err =>
      rw [start_of_error hRequest hIdle]
      simp [underWay, Fact.flight, hIdle]
    | ok r =>
      rw [start_of_ok hRequest]
      cases ready <;> simp [underWay, Fact.flight]
  · rw [start_cached hIdle, start_history, h.cached]
    cases c.grant.request <;> cases ready <;> simp [held, Fact.content]
  · rw [start_history]
    cases c.grant.request <;> cases ready <;> simp [hAlive]

theorem Recorded.judge (h : Recorded c) {e q : Nat} {reply : Reply}
    (hWaiting : c.exchanges[e]? = some (.waiting q)) (hCome : c.transport.reply? q = some reply) :
    Recorded (c.judge e reply) := by
  obtain ⟨hWay, hSent, hUnjudged⟩ := h.phases.waiting e q hWaiting
  have hFlying : c.inFlight = some e := h.inFlight.trans hWay
  have hReplied := h.requests.replied q reply (Http.Transport.reply?_eq_some_iff.1 hCome)
  have hJudged : Lawful (c.history ++ [(c.clock.now, .judged e reply)]) :=
    h.lawful.snoc ⟨hWay, hUnjudged, q, hSent, hReplied⟩
  have hPhases := h.phases.judge h.inFlight hWaiting reply
  have hRequests := h.requests.judge hFlying reply
  cases hConclude : Exchange.conclude c.classify c.clock.now reply with
  | some result =>
    rw [judge_of_some hConclude hFlying] at hPhases hRequests ⊢
    have hSettled : Lawful (_ ++ [(c.clock.now, .settled e result)]) :=
      hJudged.snoc (by simpa [Allows, underWay_snoc, Fact.flight] using hWay)
    refine
      { phases := hPhases
        requests := hRequests
        lawful := by simpa using hSettled
        inFlight := by simp [underWay, Fact.flight]
        cached := ?_
        released := fun hReleased => h.released (by simpa using hReleased) }
    cases result <;> simp [held, Fact.content, h.cached]
  | none =>
    rw [judge_of_none hConclude] at hPhases hRequests ⊢
    have hBroke : Lawful (_ ++ [(c.clock.now, .broke e)]) :=
      hJudged.snoc (by simpa [Allows, underWay_snoc, Fact.flight] using hWay)
    exact
      { phases := hPhases
        requests := hRequests
        lawful := by simpa using hBroke
        inFlight := by simpa [underWay, Fact.flight] using h.inFlight
        cached := by simpa [held, Fact.content] using h.cached
        released := fun hReleased => h.released (by simpa using hReleased) }

theorem Recorded.release (h : Recorded c) (hUnowned : c.isOwned = false) : Recorded c.release := by
  have hHistory := release_history c
  refine
    { phases := h.phases.release h.inFlight
      requests := h.requests.release
      lawful := hHistory ▸ h.lawful.snoc trivial
      inFlight := by rw [hHistory, underWay_snoc]; rfl
      cached := by rw [hHistory, held_snoc]; rfl
      released := fun _ => ?_ }
  exact (release_isOwned c).trans hUnowned

theorem Recorded.reply (h : Recorded c) {request : Nat} (r : Reply)
    (hWaiting : c.transport.state? request = some .waiting) :
    Recorded ({ c with transport := c.transport.answer request r }.record [.replied request r]) := by
  have hNumber : request < c.transport.calls.length := by
    obtain ⟨call, hCall, -⟩ := Option.map_eq_some_iff.1 hWaiting
    exact (List.getElem?_eq_some_iff.1 hCall).1
  exact
    { lawful := h.lawful.snoc ⟨h.requests.requested request hNumber, h.requests.pending request hWaiting⟩
      inFlight := by simpa [record, underWay, Fact.flight] using h.inFlight
      cached := by simpa [record, held, Fact.content] using h.cached
      released := fun hReleased => h.released (by simpa [record] using hReleased)
      phases := h.phases.frame rfl rfl rfl
      requests := h.requests.reply r hWaiting }

/-- Every move keeps the record true. -/
theorem Recorded.move (h : Recorded c) (hMove : Move c c') : Recorded c' := by
  cases hMove with
  | serve hOwned hUsable =>
    obtain ⟨hCached, hUsable⟩ := usable?_eq_some_iff.1 hUsable
    exact h.frame rfl rfl rfl rfl rfl rfl rfl ⟨h.cached.symm.trans hCached, hUsable⟩
      fun hReleased => absurd hReleased (h.not_released hOwned)
  | join hOwned _ hFlying =>
    exact h.frame rfl rfl rfl rfl rfl rfl rfl (h.inFlight.symm.trans hFlying)
      fun hReleased => absurd hReleased (h.not_released hOwned)
  | start hOwned _ hIdle => exact h.start hOwned hIdle _
  | judge hWaiting hCome => exact h.judge hWaiting hCome
  | answer =>
    exact h.congr rfl rfl rfl rfl rfl fun hReleased => isOwned_setState (by simp) (h.released hReleased)
  | cancel =>
    exact h.frame rfl rfl rfl rfl rfl rfl rfl trivial
      fun hReleased => isOwned_setState (by simp) (h.released hReleased)
  | reply hWaiting => exact h.reply _ (Http.Transport.isWaiting_eq_true_iff.1 hWaiting)
  | setClock => exact h.congr rfl rfl rfl rfl rfl h.released
  | clear => exact h.frame rfl rfl rfl rfl rfl rfl rfl trivial h.released
  | share hOwned =>
    exact h.congr rfl rfl rfl rfl rfl fun hReleased => absurd hReleased (h.not_released hOwned)
  | giveBack =>
    refine h.congr rfl rfl rfl rfl rfl fun hReleased => ?_
    obtain ⟨hHandles, hCallers⟩ := isOwned_eq_false_iff.1 (h.released hReleased)
    exact isOwned_eq_false_iff.2 ⟨by simp [hHandles], hCallers⟩
  | release hUnowned => exact h.release hUnowned

theorem Recorded.run (h : Recorded c) (events : List Event) : Recorded (c.run events) :=
  run_induction (fun hMove h => h.move hMove) h events

/-- The history of every run tells the truth about the cache. -/
theorem recorded_run (grant : Grant) (classify : Classifier) (clock : Clock) (events : List Event) :
    Recorded ((new grant classify clock).run events) :=
  (recorded_new grant classify clock).run events

end BearerTokens.TokenCache
