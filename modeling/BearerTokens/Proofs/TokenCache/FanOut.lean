import BearerTokens.Proofs.TokenCache.Content
import BearerTokens.Proofs.TokenCache.Settlement

/-!
# Fan-out

Every caller that is neither served from memory nor given up gets what its own exchange comes to, the same as
all others that share it. However many there are, the exchange sends one request and reads one reply.
-/

set_option autoImplicit false

namespace BearerTokens.TokenCache

open BearerTokens.Http BearerTokens.Time

variable {grant : Grant} {classify : Classifier} {c c' : TokenCache}

theorem answer?_snoc {k : Nat} {a : Answer} {caller : Caller} (hCallers : c'.callers = c.callers ++ [caller])
    (h : c.answer? k = some a) : c'.answer? k = some a := by
  obtain ⟨x, hCaller⟩ := answer?_eq_some_iff.1 h
  rw [answer?_eq_some_iff, hCallers]
  exact ⟨x, getElem?_snoc_eq_some_iff.2 (.inl hCaller)⟩

theorem answer?_setState_other {k caller e : Nat} {a : Answer} {state : CallerState}
    (hAwaited : c.awaited? caller = some e) (h : c.answer? k = some a) :
    (c.setState caller state).answer? k = some a := by
  obtain ⟨x, hCaller⟩ := answer?_eq_some_iff.1 h
  have hOther : caller ≠ k := by
    rintro rfl
    rw [awaited?_eq_some_iff.1 hAwaited] at hCaller
    cases hCaller
  rw [answer?_eq_some_iff, setState_getElem?, hCaller]
  exact ⟨x, by simp [hOther]⟩

theorem Move.answer_lasts (hMove : Move c c') {k : Nat} {a : Answer} (h : c.answer? k = some a) :
    c'.answer? k = some a := by
  cases hMove with
  | serve => exact answer?_snoc rfl h
  | join => exact answer?_snoc rfl h
  | start => exact answer?_snoc (start_callers c _) h
  | judge => exact (answer?_congr (judge_callers c _ _) k).trans h
  | release => exact (answer?_congr (release_callers c) k).trans h
  | answer hAwaited => exact answer?_setState_other hAwaited h
  | cancel hAwaited => exact answer?_setState_other hAwaited h
  | _ => exact h

theorem run_answer_lasts {k : Nat} {a : Answer} (h : c.answer? k = some a) (events : List Event) :
    (c.run events).answer? k = some a :=
  run_induction (P := fun d => d.answer? k = some a) (fun hMove h => hMove.answer_lasts h) h events

theorem step_resume_answer {k e : Nat} {a : Answer} (hAwaited : c.awaited? k = some e)
    (hEnded : (c.look e).exchanges[e]?.bind Phase.answer? = some a) :
    (c.step (.resume k)).answer? k = some a := by
  have hStep : c.step (.resume k) = ((c.look e).collect k).releaseUnowned := by
    simp only [step, isOwned_of_awaited hAwaited, if_true, apply, resume_of_awaited hAwaited]
  have hStill : (c.look e).awaited? k = some e := by
    rw [awaited?_eq_some_iff, look_callers]
    exact awaited?_eq_some_iff.1 hAwaited
  have hCollect : (c.look e).collect k = (c.look e).setState k (.answered a) := by
    unfold collect
    rw [hStill]
    simp only [hEnded]
  rw [hStep, answer?_congr (releaseUnowned_callers _), hCollect, answer?_eq_some_iff, setState_getElem?,
    awaited?_eq_some_iff.1 hStill]
  exact ⟨some e, by simp⟩

def Answer.ofConclusion : Option Exchange.Result → Answer
  | some result => .ofResult result
  | none => .overflow

theorem judge_answer {e q : Nat} (hFlying : c.inFlight = some e)
    (hWaiting : c.exchanges[e]? = some (.waiting q)) (reply : Reply) :
    (c.judge e reply).exchanges[e]?.bind Phase.answer? =
      some (.ofConclusion (Exchange.conclude c.classify c.clock.now reply)) := by
  obtain ⟨he, -⟩ := List.getElem?_eq_some_iff.1 hWaiting
  cases hConclude : Exchange.conclude c.classify c.clock.now reply with
  | none =>
    rw [judge_of_none hConclude]
    simp [he, Phase.answer?, Answer.ofConclusion]
  | some result =>
    rw [judge_of_some hConclude hFlying]
    cases result <;> simp [he, Phase.answer?, Answer.ofConclusion, Answer.ofResult]

/-- What it means that the callers of an exchange share it. -/
structure FanOut (grant : Grant) (classify : Classifier) (c : TokenCache) : Prop where
  /-- A caller came in by being served, or by joining or starting the one exchange that it shares. -/
  shares : ∀ (k : Nat) (x : Option Nat), (∃ state : CallerState, c.callers[k]? = some ⟨x, state⟩) ↔
    Entered c.history k x
  /-- Nobody stops waiting but by an answer or of its own will. -/
  cancelled : ∀ k : Nat, (∃ x : Option Nat, c.callers[k]? = some ⟨x, .cancelled⟩) ↔
    Happened c.history (.cancelled k)
  answered : ∀ (k e : Nat) (a : Answer), c.callers[k]? = some ⟨some e, .answered a⟩ → Ended c.history e a
  agree : ∀ e a a', Ended c.history e a → Ended c.history e a' → a = a'
  /-- A caller that waits gets what its exchange has come to when it looks again. -/
  returned : ∀ k e a, c.awaited? k = some e → Ended c.history e a → (c.step (.resume k)).answer? k = some a
  /-- A caller that looks first when the reply has come gets what the exchange comes to by it. -/
  responded : ∀ k e q reply, c.awaited? k = some e → c.exchanges[e]? = some (.waiting q) →
    c.transport.reply? q = some reply →
    ∃ a, (c.step (.resume k)).answer? k = some a ∧ Ended (c.step (.resume k)).history e a
  lasting : ∀ k a, c.answer? k = some a → ∀ events, (c.run events).answer? k = some a
  /-- What an exchange comes to is the conclusion from the reply to its own request. -/
  concluded : ∀ t e result, (t, .settled e result) ∈ c.history →
    Concluded grant classify c.history t e (some result)
  replied : ∀ e reply, Happened c.history (.judged e reply) →
    ∃ q, Happened c.history (.sent e q) ∧ Happened c.history (.replied q reply)
  owned : ∀ e e' q, Happened c.history (.sent e q) → Happened c.history (.sent e' q) → e = e'
  /-- An exchange sends once, its request is answered once, and the reply is read and concluded from once. -/
  once : ∀ kind, c.history.countP (fun x => x.2.kind? = some kind) ≤ 1
  called : c.transport.calls.length = c.history.countP (·.2.isSent)
  /-- The settlement that gives the waiting callers a token leaves it in the cache. -/
  installed : ∀ event e token, c.isOwned = true → ¬ Settled c.history e →
    Happened (c.apply event).history (.settled e (.ok token)) → (c.apply event).cached = some token
  token : ∀ (k e : Nat) (secret : Secret), c.callers[k]? = some ⟨some e, .answered (.token secret)⟩ →
    ∃ token, Happened c.history (.settled e (.ok token)) ∧ secret = token.secret

theorem Ended.unique (h : Recorded c) {e : Nat} {a a' : Answer} (hEnded : Ended c.history e a)
    (hEnded' : Ended c.history e a') : a = a' := by
  rw [← h.ended_iff] at hEnded hEnded'
  exact Option.some.inj (hEnded.symm.trans hEnded')

theorem Ended.token {h : History} {e : Nat} {secret : Secret} (hEnded : Ended h e (.token secret)) :
    ∃ token, Happened h (.settled e (.ok token)) ∧ secret = token.secret := by
  rcases hEnded with ⟨result, hSettled, hAnswer⟩ | ⟨-, hAnswer⟩
  · cases result with
    | ok token =>
      cases hAnswer
      exact ⟨token, hSettled, rfl⟩
    | error err => cases hAnswer
  · cases hAnswer

theorem Recorded.responded (h : Recorded c) (hCallers : CallersRecorded c) {k e q : Nat} {reply : Reply}
    (hAwaited : c.awaited? k = some e) (hWaiting : c.exchanges[e]? = some (.waiting q))
    (hCome : c.transport.reply? q = some reply) :
    ∃ a, (c.step (.resume k)).answer? k = some a ∧ Ended (c.step (.resume k)).history e a := by
  have hFlying : c.inFlight = some e := h.inFlight.trans (h.phases.waiting e q hWaiting).1
  have hEnded := judge_answer hFlying hWaiting reply
  rw [← look_of_come hWaiting hCome] at hEnded
  have hAnswer := step_resume_answer hAwaited hEnded
  refine ⟨_, hAnswer, ?_⟩
  obtain ⟨x, hCaller⟩ := answer?_eq_some_iff.1 hAnswer
  have hStepped : CallersRecorded (c.step (.resume k)) := hCallers.run h [.resume k]
  -- the caller still shares the exchange that it waited for
  have hShares : Entered (c.step (.resume k)).history k (some e) := by
    obtain ⟨later, hLater⟩ := step_history_grows c (.resume k)
    rw [← hLater, Entered.append]
    exact .inl ((hCallers.entered k (some e)).1 ⟨_, awaited?_eq_some_iff.1 hAwaited⟩)
  obtain ⟨state, hSame⟩ := (hStepped.entered k (some e)).2 hShares
  rw [hCaller] at hSame
  cases hSame
  exact hStepped.answered k e _ hCaller

theorem Recorded.fanOut (h : Recorded c) (hCallers : CallersRecorded c)
    (hSettlements : SettlementsRecorded grant classify c)
    (hCounted : c.transport.calls.length = c.history.countP (·.2.isSent)) : FanOut grant classify c where
  shares := hCallers.entered
  cancelled := hCallers.cancelled
  answered := hCallers.answered
  agree _ _ _ := Ended.unique h
  returned k e a hAwaited hEnded := by
    rw [← h.ended_iff] at hEnded
    refine step_resume_answer hAwaited ?_
    rw [look_of_ended hEnded, hEnded]
  responded _ _ _ _ := h.responded hCallers
  lasting _ _ := run_answer_lasts
  concluded := hSettlements.settled
  replied := by
    rintro e reply ⟨t, hJudged⟩
    obtain ⟨past, later, q, hHistory, hSent, hReplied⟩ := h.lawful.replied_of_judged hJudged
    rw [hHistory]
    exact ⟨q, happened_append.2 (.inl hSent), happened_append.2 (.inl hReplied)⟩
  owned _ _ _ := h.lawful.sender_unique
  once := h.lawful.countP_kind
  called := hCounted
  installed event e token hOwned hOpen hSettled := by
    by_cases hEvent : event = .clear
    · subst hEvent
      exact absurd (settled_of_clear hSettled) hOpen
    · exact (h.apply_change hOwned hEvent).installed hOpen hSettled
  token k e secret hCaller := (hCallers.answered k e _ hCaller).token

/-- The callers of a token cache share its exchanges, in every run. -/
theorem run_fanOut (grant : Grant) (classify : Classifier) (clock : Clock) (events : List Event) :
    FanOut grant classify ((new grant classify clock).run events) :=
  (recorded_run grant classify clock events).fanOut (callersRecorded_run grant classify clock events)
    (settlementsRecorded_run grant classify clock events) (run_induction Move.calls_length rfl events)

end BearerTokens.TokenCache
