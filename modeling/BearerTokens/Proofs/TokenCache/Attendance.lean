import BearerTokens.Proofs.TokenCache.Record

/-!
# Callers on record

How each caller came in, and what it was answered, as the history has it: a caller that was not served from
memory shares exactly one exchange, and what it is answered is the end of that exchange.
-/

set_option autoImplicit false

namespace BearerTokens.TokenCache

open BearerTokens.Http BearerTokens.Time

variable {c c' : TokenCache}

def Answer.ofResult : Exchange.Result → Answer
  | .ok held => .token held.secret
  | .error e => .failure e

def Entered (h : History) (caller : Nat) : Option Nat → Prop
  | none => ∃ token, Happened h (.served caller token)
  | some exchange => Happened h (.joined caller exchange) ∨ Happened h (.started caller exchange)

def Ended (h : History) (exchange : Nat) (a : Answer) : Prop :=
  (∃ result, Happened h (.settled exchange result) ∧ a = .ofResult result) ∨
    Happened h (.broke exchange) ∧ a = .overflow

theorem Entered.append {past later : History} {k : Nat} {x : Option Nat} :
    Entered (past ++ later) k x ↔ Entered past k x ∨ Entered later k x := by
  cases x with
  | none => simp [Entered, exists_or]
  | some e =>
    simp only [Entered, happened_append]
    exact or_or_or_comm

theorem Entered.mono {past whole : History} {k : Nat} {x : Option Nat} (hPrefix : past <+: whole)
    (h : Entered past k x) : Entered whole k x := by
  obtain ⟨later, rfl⟩ := hPrefix
  exact Entered.append.2 (.inl h)

theorem Ended.append {past later : History} {e : Nat} {a : Answer} (h : Ended past e a) :
    Ended (past ++ later) e a := by
  rcases h with ⟨result, hSettled, rfl⟩ | ⟨hBroke, rfl⟩
  · exact .inl ⟨result, happened_append.2 (.inl hSettled), rfl⟩
  · exact .inr ⟨happened_append.2 (.inl hBroke), rfl⟩

theorem Recorded.ended_iff (h : Recorded c) {e : Nat} {a : Answer} :
    c.exchanges[e]?.bind Phase.answer? = some a ↔ Ended c.history e a := by
  unfold Ended
  simp only [← h.phases.settled, ← h.phases.broken]
  cases hPhase : c.exchanges[e]? with
  | none => simp
  | some p =>
    cases p with
    | settled result => cases result <;> simp [Phase.answer?, Answer.ofResult, eq_comm]
    | broken => simp [Phase.answer?, eq_comm]
    | waiting q => simp [Phase.answer?]
    | dropped => simp [Phase.answer?]

structure CallersRecorded (c : TokenCache) : Prop where
  entered : ∀ (k : Nat) (x : Option Nat), (∃ state : CallerState, c.callers[k]? = some ⟨x, state⟩) ↔
    Entered c.history k x
  served : ∀ (k : Nat) (token : HeldToken), Happened c.history (.served k token) →
    c.callers[k]? = some ⟨none, .answered (.token token.secret)⟩
  answered : ∀ (k e : Nat) (a : Answer), c.callers[k]? = some ⟨some e, .answered a⟩ → Ended c.history e a
  cancelled : ∀ k : Nat, (∃ x : Option Nat, c.callers[k]? = some ⟨x, .cancelled⟩) ↔
    Happened c.history (.cancelled k)

def Fact.isOfCaller : Fact → Bool
  | .served .. | .joined .. | .started .. | .cancelled .. => true
  | _ => false

theorem not_entered_of_other {later : History} (hOther : ∀ f, Happened later f → f.isOfCaller = false)
    (k : Nat) (x : Option Nat) : ¬ Entered later k x := by
  cases x with
  | none =>
    rintro ⟨token, hServed⟩
    cases hOther _ hServed
  | some e =>
    rintro (hJoined | hStarted)
    · cases hOther _ hJoined
    · cases hOther _ hStarted

theorem CallersRecorded.frame (h : CallersRecorded c) {later : History} (hCallers : c'.callers = c.callers)
    (hHistory : c'.history = c.history ++ later) (hOther : ∀ f, Happened later f → f.isOfCaller = false) :
    CallersRecorded c' where
  entered k x := by
    rw [hCallers, hHistory, Entered.append, or_iff_left (not_entered_of_other hOther k x)]
    exact h.entered k x
  served k token hServed := by
    rw [hHistory, happened_append] at hServed
    rw [hCallers]
    exact h.served k token (hServed.resolve_right fun hNew => by cases hOther _ hNew)
  answered k e a hAnswered := by
    rw [hCallers] at hAnswered
    rw [hHistory]
    exact (h.answered k e a hAnswered).append
  cancelled k := by
    rw [hCallers, hHistory, happened_append, or_iff_left fun hNew => by cases hOther _ hNew]
    exact h.cancelled k

/-- A new caller comes in with one fact of its own. -/
theorem CallersRecorded.enter (h : CallersRecorded c) {later : History} {x : Option Nat} {state : CallerState}
    (hCallers : c'.callers = c.callers ++ [⟨x, state⟩]) (hHistory : c'.history = c.history ++ later)
    (hEntered : ∀ k y, Entered later k y ↔ k = c.callers.length ∧ y = x)
    (hServed : ∀ k token, Happened later (.served k token) → state = .answered (.token token.secret))
    (hWaits : x ≠ none → state = .waiting) (hStays : ∀ k, ¬ Happened later (.cancelled k))
    (hLives : state ≠ .cancelled) : CallersRecorded c' where
  entered k y := by
    rw [hHistory, Entered.append, ← h.entered k y, hEntered, hCallers]
    simp only [getElem?_snoc_eq_some_iff, exists_or, Caller.mk.injEq]
    simp [eq_comm]
  served k token hHappened := by
    rw [hHistory, happened_append] at hHappened
    rw [hCallers, getElem?_snoc_eq_some_iff]
    rcases hHappened with hOld | hNew
    · exact .inl (h.served k token hOld)
    · obtain ⟨rfl, rfl⟩ := (hEntered k none).1 ⟨token, hNew⟩
      exact .inr ⟨rfl, by rw [hServed _ token hNew]⟩
  answered k e a hAnswered := by
    rw [hCallers, getElem?_snoc_eq_some_iff] at hAnswered
    rw [hHistory]
    rcases hAnswered with hOld | ⟨rfl, hNew⟩
    · exact (h.answered k e a hOld).append
    · cases hNew
      cases hWaits (by simp)
  cancelled k := by
    rw [hHistory, happened_append, or_iff_left (hStays k), ← h.cancelled k, hCallers]
    simp only [getElem?_snoc_eq_some_iff, exists_or, Caller.mk.injEq]
    simp [hLives]

theorem CallersRecorded.leave (h : CallersRecorded c) {caller e : Nat} {state : CallerState}
    (hAwaited : c.awaited? caller = some e) {later : History}
    (hCallers : c'.callers = (c.setState caller state).callers) (hHistory : c'.history = c.history ++ later)
    (hEntered : ∀ k x, ¬ Entered later k x) (hAnswered : ∀ a, state = .answered a → Ended c.history e a)
    (hCancelled : ∀ k, Happened later (.cancelled k) ↔ k = caller ∧ state = .cancelled) :
    CallersRecorded c' := by
  have hWaiting := awaited?_eq_some_iff.1 hAwaited
  have hSame : c'.callers[caller]? = some ⟨some e, state⟩ := by
    rw [hCallers, setState_getElem?, hWaiting]
    simp
  have hOther {k : Nat} (hk : k ≠ caller) : c'.callers[k]? = c.callers[k]? := by
    rw [hCallers, setState_getElem?]
    simp [Ne.symm hk]
  refine { entered := ?_, served := ?_, answered := ?_, cancelled := ?_ }
  · intro k x
    rw [hHistory, Entered.append, or_iff_left (hEntered k x), ← h.entered k x]
    by_cases hk : k = caller
    · subst hk
      simp [hSame, hWaiting]
    · rw [hOther hk]
  · intro k token hServed
    have hOld := h.served k token <| by
      rw [hHistory, happened_append] at hServed
      exact hServed.resolve_right fun hNew => hEntered k none ⟨token, hNew⟩
    by_cases hk : k = caller
    · subst hk
      rw [hWaiting] at hOld
      cases hOld
    · rw [hOther hk, hOld]
  · intro k e' a hNow
    rw [hHistory]
    by_cases hk : k = caller
    · subst hk
      rw [hSame] at hNow
      cases hNow
      exact (hAnswered a rfl).append
    · rw [hOther hk] at hNow
      exact (h.answered k e' a hNow).append
  · intro k
    rw [hHistory, happened_append, hCancelled, ← h.cancelled k]
    by_cases hk : k = caller
    · subst hk
      simp [hSame, hWaiting, eq_comm]
    · rw [hOther hk]
      simp [hk]

theorem callersRecorded_new (grant : Grant) (classify : Classifier) (clock : Clock) :
    CallersRecorded (new grant classify clock) where
  entered k x := by cases x <;> simp [new, Entered]
  served := by simp [new]
  answered := by simp [new]
  cancelled := by simp [new]

theorem CallersRecorded.start (h : CallersRecorded c) (ready : Option Reply) :
    CallersRecorded (c.start ready) := by
  refine h.enter (start_callers c ready) (start_history c ready) ?_ ?_ (fun _ => rfl) ?_ (by simp)
  · intro k x
    cases x <;> cases c.grant.request <;> cases ready <;> simp [Entered]
  · cases c.grant.request <;> cases ready <;> simp
  · cases c.grant.request <;> cases ready <;> simp

theorem CallersRecorded.move (h : CallersRecorded c) (hRecorded : Recorded c) (hMove : Move c c') :
    CallersRecorded c' := by
  cases hMove with
  | serve =>
    refine h.enter rfl rfl ?_ (by simp) (absurd rfl) (by simp) (by simp)
    intro k x
    cases x <;> simp [Entered]
  | join =>
    refine h.enter rfl rfl ?_ (by simp) (fun _ => rfl) (by simp) (by simp)
    intro k x
    cases x <;> simp [Entered]
  | start => exact h.start _
  | @judge e q reply =>
    refine h.frame (judge_callers c e reply) (judge_history c e reply) ?_
    cases hConclude : Exchange.conclude c.classify c.clock.now reply <;> simp [Fact.isOfCaller]
  | answer hAwaited hEnded =>
    refine h.leave hAwaited rfl (List.append_nil _).symm (fun k x => ?_) ?_ (by simp)
    · cases x <;> simp [Entered]
    · rintro a hState
      cases hState
      exact hRecorded.ended_iff.1 hEnded
  | cancel hAwaited =>
    refine h.leave hAwaited rfl rfl (fun k x => ?_) (by simp) (by simp)
    cases x <;> simp [Entered]
  | reply => exact h.frame rfl rfl (by simp [Fact.isOfCaller])
  | clear => exact h.frame rfl rfl (by simp [Fact.isOfCaller])
  | release =>
    exact h.frame (release_callers c) (release_history c) (by simp [Fact.isOfCaller])
  | setClock => exact ⟨h.entered, h.served, h.answered, h.cancelled⟩
  | share => exact ⟨h.entered, h.served, h.answered, h.cancelled⟩
  | giveBack => exact ⟨h.entered, h.served, h.answered, h.cancelled⟩

theorem CallersRecorded.run (h : CallersRecorded c) (hRecorded : Recorded c) (events : List Event) :
    CallersRecorded (c.run events) := by
  have hBoth : Recorded (c.run events) ∧ CallersRecorded (c.run events) :=
    run_induction (P := fun c => Recorded c ∧ CallersRecorded c)
      (fun hMove h => ⟨h.1.move hMove, h.2.move h.1 hMove⟩) ⟨hRecorded, h⟩ events
  exact hBoth.2

theorem callersRecorded_run (grant : Grant) (classify : Classifier) (clock : Clock) (events : List Event) :
    CallersRecorded ((new grant classify clock).run events) :=
  (callersRecorded_new grant classify clock).run (recorded_new grant classify clock) events

end BearerTokens.TokenCache
