import BearerTokens.Proofs.Token.Lifetime
import BearerTokens.Proofs.TokenCache.Content
import BearerTokens.Proofs.TokenCache.Receipt

/-!
# Economy

A cache asks for a token only when it holds none with more than the buffer left of its time, and hands out no
other. So under a clock that never goes back, no exchange is started before the end of the time of a token
that an earlier one has left there, unless the cache was cleared in between.
-/

set_option autoImplicit false

namespace BearerTokens.TokenCache

open BearerTokens.Http BearerTokens.Time

variable {c c' : TokenCache}

theorem usable?_eq_none_iff :
    c.usable? = none ↔ ∀ token, c.cached = some token → token.isUsableAt c.clock.now = false := by
  simp [usable?, Option.filter_eq_none_iff]

theorem isOwned_addCaller (hOwned : c.isOwned = true) (k : Caller) : (c.addCaller k).isOwned = true := by
  simp only [isOwned, addCaller, List.any_append, Bool.or_eq_true] at hOwned ⊢
  exact hOwned.imp_right .inl

theorem step_call_of_usable (hOwned : c.isOwned = true) {token : HeldToken} (hUsable : c.usable? = some token)
    (ready : Option Reply) : c.step (.call ready) = c.serve token := by
  have hCall : c.call ready = c.serve token := by
    unfold call
    rw [hUsable]
  have hStill : (c.serve token).isOwned = true := isOwned_addCaller hOwned _
  simp [step, hOwned, apply, hCall, releaseUnowned, hStill]

theorem step_call_of_flying (hOwned : c.isOwned = true) (hUnusable : c.usable? = none) {e : Nat}
    (hFlying : c.inFlight = some e) (ready : Option Reply) :
    c.step (.call ready) = (c.join e).step (.resume c.callers.length) := by
  have hCall : c.call ready = (c.join e).resume c.callers.length := by
    unfold call
    rw [hUnusable, hFlying]
  have hJoined : (c.join e).isOwned = true := isOwned_of_awaited (awaited?_join c e)
  simp only [step, hOwned, hJoined, if_true, apply, hCall]

theorem awaited?_start (c : TokenCache) (ready : Option Reply) :
    (c.start ready).awaited? c.callers.length = some c.exchanges.length := by
  rw [awaited?_eq_some_iff, start_callers]
  simp

theorem step_call_of_idle (hOwned : c.isOwned = true) (hUnusable : c.usable? = none)
    (hIdle : c.inFlight = none) (ready : Option Reply) :
    c.step (.call ready) = (c.start ready).step (.resume c.callers.length) := by
  have hCall : c.call ready = (c.start ready).resume c.callers.length := by
    unfold call
    rw [hUnusable, hIdle]
  have hStarted : (c.start ready).isOwned = true := isOwned_of_awaited (awaited?_start c ready)
  simp only [step, hOwned, hStarted, if_true, apply, hCall]

/-- A caller that finds no usable token joins the exchange under way, or starts one. -/
theorem step_call_of_unusable (hOwned : c.isOwned = true) (hUnusable : c.usable? = none)
    (ready : Option Reply) : ∃ f later,
      (c.step (.call ready)).history = c.history ++ (c.clock.now, f) :: later ∧
      ((∃ e, c.inFlight = some e ∧ f = .joined c.callers.length e) ∨
        (c.inFlight = none ∧ f = .started c.callers.length c.exchanges.length)) := by
  cases hFlight : c.inFlight with
  | some e =>
    rw [step_call_of_flying hOwned hUnusable hFlight]
    obtain ⟨later, hLater⟩ := step_history_grows (c.join e) (.resume c.callers.length)
    refine ⟨.joined c.callers.length e, later, ?_, .inl ⟨e, rfl, rfl⟩⟩
    rw [← hLater]
    simp [join, addCaller, note, record]
  | none =>
    rw [step_call_of_idle hOwned hUnusable hFlight]
    obtain ⟨later, hLater⟩ := step_history_grows (c.start ready) (.resume c.callers.length)
    rw [start_history, List.append_assoc, List.cons_append] at hLater
    exact ⟨.started c.callers.length c.exchanges.length, _, hLater.symm, .inr ⟨rfl, rfl⟩⟩

theorem step_call_eq_serve_iff (hOwned : c.isOwned = true) {token : HeldToken} {ready : Option Reply} :
    c.step (.call ready) = c.serve token ↔ c.usable? = some token := by
  constructor
  · intro hStep
    have hServed (token : HeldToken) : (c.serve token).history =
        c.history ++ [(c.clock.now, .served c.callers.length token)] := rfl
    have hHistory := congrArg TokenCache.history hStep
    cases hUsable : c.usable? with
    | some other =>
      rw [step_call_of_usable hOwned hUsable, hServed, hServed, List.append_cancel_left_eq] at hHistory
      cases hHistory
      rfl
    | none =>
      obtain ⟨f, later, hMissed, hFact⟩ := step_call_of_unusable hOwned hUsable ready
      rw [hMissed, hServed, List.append_cancel_left_eq] at hHistory
      cases hHistory
      rcases hFact with ⟨e, -, hFact⟩ | ⟨-, hFact⟩ <;> cases hFact
  · exact fun hUsable => step_call_of_usable hOwned hUsable ready

def Sparing (h : History) : Prop :=
  ∀ past t k e later, h = past ++ (t, .started k e) :: later →
    ∀ token, held past = some token → token.isUsableAt t = false

theorem sparing_nil : Sparing [] := by
  intro past t k e later hHistory
  simp at hHistory

theorem Sparing.snoc {past : History} {t : Instant} {f : Fact} (h : Sparing past)
    (hLast : ∀ k e, f = .started k e → ∀ token, held past = some token → token.isUsableAt t = false) :
    Sparing (past ++ [(t, f)]) := by
  intro past' t' k e later hHistory
  rcases List.eq_nil_or_concat later with rfl | ⟨later', last, rfl⟩
  · obtain ⟨rfl, hSame⟩ := List.append_inj' hHistory rfl
    cases hSame
    exact hLast k e rfl
  · rw [List.concat_eq_append, ← List.cons_append, ← List.append_assoc] at hHistory
    obtain ⟨rfl, -⟩ := List.append_inj' hHistory rfl
    exact h past' t' k e later' rfl

theorem Sparing.append {past later : History} (h : Sparing past)
    (hOther : ∀ k e, ¬ Happened later (.started k e)) : Sparing (past ++ later) := by
  induction later using List.reverseRecOn with
  | nil => simpa using h
  | append_singleton later last ih =>
    obtain ⟨t, f⟩ := last
    rw [← List.append_assoc]
    refine (ih fun k e hStarted => hOther k e (happened_append.2 (.inl hStarted))).snoc ?_
    rintro k e rfl
    exact absurd (by simp) (hOther k e)

theorem Sparing.frame (h : Sparing c.history) {later : History} (hHistory : c'.history = c.history ++ later)
    (hOther : ∀ k e, ¬ Happened later (.started k e)) : Sparing c'.history :=
  hHistory ▸ h.append hOther

theorem Sparing.move (h : Sparing c.history) (hRecorded : Recorded c) (hMove : Move c c') :
    Sparing c'.history := by
  cases hMove with
  | @start ready hOwned hUnusable hIdle =>
    rw [start_history, List.append_cons]
    refine (h.snoc ?_).append ?_
    · intro k e _ token hHeld
      exact usable?_eq_none_iff.1 hUnusable token (hRecorded.cached.trans hHeld)
    · cases c.grant.request <;> cases ready <;> simp
  | judge =>
    refine h.frame (judge_history c _ _) ?_
    cases Exchange.conclude c.classify c.clock.now _ <;> simp
  | release => exact h.frame (release_history c) (by simp)
  | serve => exact h.frame rfl (by simp)
  | join => exact h.frame rfl (by simp)
  | cancel => exact h.frame rfl (by simp)
  | reply => exact h.frame rfl (by simp)
  | clear => exact h.frame rfl (by simp)
  | _ => exact h

theorem sparing_run (grant : Grant) (classify : Classifier) (clock : Clock) (events : List Event) :
    Sparing ((new grant classify clock).run events).history := by
  have hBoth : Recorded _ ∧ Sparing ((new grant classify clock).run events).history :=
    run_induction (P := fun c => Recorded c ∧ Sparing c.history)
      (fun hMove h => ⟨h.1.move hMove, h.2.move h.1 hMove⟩)
      ⟨recorded_new grant classify clock, sparing_nil⟩ events
  exact hBoth.2

/-- Every exchange started after a token was received, with no clear in between, is started when no more than
the buffer is left of the token's time. -/
def Spaced (h : History) : Prop :=
  ∀ past t e token between t' k e' later,
    h = past ++ (t, .settled e (.ok token)) :: (between ++ (t', .started k e') :: later) →
    ¬ Happened between .cleared → token.expiresAt.nanos ≤ t'.nanos + Expiry.buffer

/-- An exchange settled after another one was also started after that one was settled. -/
theorem Lawful.started_between {past between later : History} {t t' : Instant} {e e' : Nat}
    {result result' : Exchange.Result}
    (h : Lawful (past ++ (t, .settled e result) :: (between ++ (t', .settled e' result') :: later))) :
    Begun between e' := by
  have hFirst : Lawful (past ++ [(t, .settled e result)]) := by
    rw [List.append_cons] at h
    exact h.split
  have hWay : underWay past = some e := Lawful.allows h
  have hSecond : Lawful ((past ++ (t, .settled e result) :: between) ++ (t', .settled e' result') :: later) := by
    simpa using h
  have hWay' : underWay (past ++ (t, .settled e result) :: between) = some e' := hSecond.allows
  obtain ⟨hOpen, -⟩ := hSecond.split.underWay_eq_some_iff.1 hWay'
  have hPast : Lawful past := h.split
  rcases begun_append.1 hOpen.1 with hBegun | hBegun
  · -- then both would have been unsettled before the first settlement
    have hOpen' : Unsettled past e' := ⟨hBegun, fun hSettled => hOpen.2 (settled_append.2 (.inl hSettled))⟩
    obtain rfl := hPast.unsettled_unique hOpen' (hPast.underWay_eq_some_iff.1 hWay).1
    exact absurd (by simp) hOpen.2
  · simpa using hBegun

theorem Lawful.spaced {h : History} (hLawful : Lawful h) (hSparing : Sparing h)
    (hOrdered : h.Pairwise fun earlier later => earlier.1 ≤ later.1) : Spaced h := by
  intro past t e token between
  -- each token in between ends the argument at the exchange that fetched it
  induction hLength : between.length using Nat.strongRecOn generalizing between with
  | ind n ih =>
    intro t' k e' later hHistory hUncleared
    subst hHistory
    have hWhole : past ++ (t, .settled e (.ok token)) :: (between ++ (t', .started k e') :: later) =
        (past ++ (t, .settled e (.ok token)) :: between) ++ (t', .started k e') :: later := by simp
    by_cases hAgain : ∃ e₂ token₂, Happened between (.settled e₂ (.ok token₂))
    · obtain ⟨e₂, token₂, t₂, hMem⟩ := hAgain
      obtain ⟨before, after, rfl⟩ := List.append_of_mem hMem
      have hBoth : Lawful (past ++ (t, .settled e (.ok token)) :: (before ++
          (t₂, .settled e₂ (.ok token₂)) :: (after ++ (t', .started k e') :: later))) := by
        simpa using hLawful
      obtain ⟨k₂, t₃, hMem₂⟩ := hBoth.started_between
      obtain ⟨before₂, after₂, rfl⟩ := List.append_of_mem hMem₂
      have hEarlier := ih before₂.length (by simp at hLength; omega) before₂ rfl t₃ k₂ e₂
        (after₂ ++ (t₂, .settled e₂ (.ok token₂)) :: (after ++ (t', .started k e') :: later)) (by simp)
        (fun hCleared => hUncleared (by simp [hCleared]))
      have hOrder : t₃ ≤ t' := by
        rw [List.pairwise_append] at hOrdered
        have hRest := hOrdered.2.1.of_cons
        rw [List.pairwise_append] at hRest
        exact hRest.2.2 (t₃, .started k₂ e₂) (by simp) (t', .started k e') (by simp)
      have hNanos : t₃.nanos ≤ t'.nanos := hOrder
      omega
    · rw [hWhole] at hLawful hSparing
      have hAlive : ¬ Happened between .released := fun hReleased =>
        hLawful.allows.2.2 (by simp [hReleased])
      have hHeld : held (past ++ (t, .settled e (.ok token)) :: between) = some token := by
        refine held_eq_some_iff.2 ⟨past, t, e, between, rfl, fun f hf => ?_⟩
        cases f with
        | settled e₂ result =>
          cases result with
          | ok token₂ => exact absurd ⟨e₂, token₂, hf⟩ hAgain
          | error err => rfl
        | cleared => exact absurd hf hUncleared
        | released => exact absurd hf hAlive
        | _ => rfl
      have hStale := hSparing _ t' k e' later rfl token hHeld
      rw [← Bool.not_eq_true, HeldToken.isUsableAt_iff] at hStale
      omega

/-- When a cache answers from memory, and when it asks for a token. -/
structure Economy (c : TokenCache) : Prop where
  replayed : c.cached = held c.history
  /-- A caller that comes now is served from memory, at once and without a request, exactly if a token is held
  of whose time more than the buffer is left. -/
  hit : c.isOwned = true → ∀ ready token, c.step (.call ready) = c.serve token ↔
    c.cached = some token ∧ c.clock.now.nanos + Expiry.buffer < token.expiresAt.nanos
  unsent : ∀ token, (c.serve token).transport = c.transport ∧
    (c.serve token).answer? c.callers.length = some (.token token.secret)
  /-- Any other caller joins the exchange under way or, when there is none, starts one. -/
  miss : c.isOwned = true →
    (∀ token, c.cached = some token → token.expiresAt.nanos ≤ c.clock.now.nanos + Expiry.buffer) →
    ∀ ready, ∃ f later, (c.step (.call ready)).history = c.history ++ (c.clock.now, f) :: later ∧
      ((∃ e, c.inFlight = some e ∧ f = .joined c.callers.length e) ∨
        (c.inFlight = none ∧ f = .started c.callers.length c.exchanges.length))
  /-- However the clock was moved, no token was ever served with no more than the buffer left of its time. -/
  valid : ∀ t k token, (t, .served k token) ∈ c.history →
    t.nanos + Expiry.buffer < token.expiresAt.nanos
  /-- An exchange was started only at an instant at which the token held had no more than the buffer left. -/
  started : ∀ past t k e later, c.history = past ++ (t, .started k e) :: later →
    ∀ token, held past = some token → token.expiresAt.nanos ≤ t.nanos + Expiry.buffer

theorem Recorded.economy (h : Recorded c) (hSparing : Sparing c.history) : Economy c where
  replayed := h.cached
  hit hOwned ready token := by
    rw [step_call_eq_serve_iff hOwned, usable?_eq_some_iff, HeldToken.isUsableAt_iff]
  unsent token := by
    refine ⟨rfl, answer?_eq_some_iff.2 ⟨none, ?_⟩⟩
    simp [serve, addCaller, note, record]
  miss hOwned hStale ready := by
    refine step_call_of_unusable hOwned (usable?_eq_none_iff.2 fun token hCached => ?_) ready
    rw [← Bool.not_eq_true, HeldToken.isUsableAt_iff, Int.not_lt]
    exact hStale token hCached
  valid t k token hServed := by
    obtain ⟨past, later, hHistory⟩ := List.append_of_mem hServed
    have hLawful := h.lawful
    rw [hHistory] at hLawful
    obtain ⟨-, hUsable⟩ := hLawful.allows
    exact HeldToken.isUsableAt_iff.1 hUsable
  started past t k e later hHistory token hHeld := by
    have hStale := hSparing past t k e later hHistory token hHeld
    rwa [← Bool.not_eq_true, HeldToken.isUsableAt_iff, Int.not_lt] at hStale

/-- A token cache serves a token while it is valid and asks for one only then, in every run; under a clock that
never goes back its exchanges are as far apart as the tokens last. -/
theorem run_economy (grant : Grant) (classify : Classifier) (clock : Clock) (events : List Event) :
    Economy ((new grant classify clock).run events) ∧
      (NeverBack clock.now events → Spaced ((new grant classify clock).run events).history) := by
  have hRecorded := recorded_run grant classify clock events
  have hSparing := sparing_run grant classify clock events
  refine ⟨hRecorded.economy hSparing, fun hForward => ?_⟩
  have hTimely : Timely ((new grant classify clock).run events) :=
    Timely.run ⟨by simp [new], by simp [new]⟩ hForward
  exact hRecorded.lawful.spaced hSparing hTimely.ordered

end BearerTokens.TokenCache
