import BearerTokens.Proofs.TokenCache.Attendance
import BearerTokens.Proofs.TokenCache.SingleFlight

/-!
# The content of a token cache

A cache holds the token of the last exchange that was settled with one, unless it has been cleared since. So
nobody who comes after a clear gets anything from before it, while an exchange under way still leaves its
token behind.
-/

set_option autoImplicit false

namespace BearerTokens.TokenCache

open BearerTokens.Http BearerTokens.Time

variable {c d : TokenCache}

theorem Ended.of_append {past later : History} {e : Nat} {a : Answer} (h : Ended (past ++ later) e a)
    (hOpen : ¬ Settled past e) :
    (∃ result, Happened later (.settled e result) ∧ a = .ofResult result) ∨
      Happened (past ++ later) (.broke e) ∧ a = .overflow := by
  rcases h with ⟨result, hSettled, hAnswer⟩ | hBroke
  · rcases happened_append.1 hSettled with hPast | hLater
    · exact absurd ⟨result, hPast⟩ hOpen
    · exact .inl ⟨result, hLater, hAnswer⟩
  · exact .inr hBroke

theorem Lawful.not_settled_of_entered {past later : History} {t : Instant} {f : Fact} {k e : Nat}
    (h : Lawful (past ++ (t, f) :: later)) (hCame : f = .joined k e ∨ f = .started k e) :
    ¬ Settled past e := by
  rcases hCame with rfl | rfl
  · exact (h.split.underWay_eq_some_iff.1 h.allows).1.2
  · obtain ⟨-, hFresh, -⟩ := h.allows
    exact fun hSettled => hFresh (h.split.begun_of_settled hSettled)

/-- What a caller gets that comes after a clear is the result of an exchange settled after it. -/
theorem CallersRecorded.answer_after_clear (h : CallersRecorded c) (hLawful : Lawful c.history)
    {past later : History} {t : Instant} (hHistory : c.history = past ++ (t, .cleared) :: later)
    {k : Nat} {x : Option Nat} (hEntered : Entered later k x) {a : Answer} (hAnswer : c.answer? k = some a) :
    (∃ e result, Happened later (.settled e result) ∧ a = .ofResult result) ∨
      ∃ e, x = some e ∧ Happened c.history (.broke e) ∧ a = .overflow := by
  obtain ⟨y, hCaller⟩ := answer?_eq_some_iff.1 hAnswer
  rw [List.append_cons] at hHistory
  cases x with
  | none =>
    obtain ⟨token, t', hMem⟩ := hEntered
    obtain ⟨before, after, rfl⟩ := List.append_of_mem hMem
    rw [← List.append_assoc] at hHistory
    have hServed := h.served k token ⟨t', by simp [hHistory]⟩
    rw [hCaller] at hServed
    cases hServed
    have hHeld : held (past ++ [(t, .cleared)] ++ before) = some token := by
      rw [hHistory] at hLawful
      exact hLawful.allows.1
    rcases held_append_eq_some hHeld with hCleared | ⟨e, hSettled⟩
    · rw [held_snoc] at hCleared
      cases hCleared
    · exact .inl ⟨e, .ok token, happened_append.2 (.inl hSettled), rfl⟩
  | some e =>
    have hCame : ∃ f, Happened later f ∧ (f = .joined k e ∨ f = .started k e) := by
      rcases hEntered with hJoined | hStarted
      · exact ⟨_, hJoined, .inl rfl⟩
      · exact ⟨_, hStarted, .inr rfl⟩
    obtain ⟨f, ⟨t', hMem⟩, hf⟩ := hCame
    obtain ⟨before, after, rfl⟩ := List.append_of_mem hMem
    have hEntry : ∃ state, c.callers[k]? = some ⟨some e, state⟩ := by
      refine (h.entered k (some e)).2 ?_
      rw [hHistory]
      exact Entered.append.2 (.inr hEntered)
    obtain ⟨state, hEntry⟩ := hEntry
    rw [hCaller] at hEntry
    cases hEntry
    have hEnded := h.answered k e a hCaller
    rw [← List.append_assoc] at hHistory
    rw [hHistory] at hEnded hLawful ⊢
    rcases hEnded.of_append (hLawful.not_settled_of_entered hf) with ⟨result, hSettled, hResult⟩ | hBroke
    · exact .inl ⟨e, result, happened_append.2 (.inr hSettled), hResult⟩
    · exact .inr ⟨e, rfl, hBroke⟩

/-- Between two states the token is kept, or replaced by that of the one exchange settled in between. -/
inductive Change (c d : TokenCache) : Prop where
  | kept (same : d.cached = c.cached)
      (none : ∀ e token, Happened d.history (.settled e (.ok token)) →
        Happened c.history (.settled e (.ok token)))
  | replaced {e : Nat} {token : HeldToken} (open_ : ¬ Settled c.history e)
      (settled : Happened d.history (.settled e (.ok token))) (held : d.cached = some token)
      (only : ∀ e' token', Happened d.history (.settled e' (.ok token')) →
        Happened c.history (.settled e' (.ok token')) ∨ e' = e ∧ token' = token)

theorem Change.frame {later : History} (hCached : d.cached = c.cached)
    (hHistory : d.history = c.history ++ later)
    (hOther : ∀ e token, ¬ Happened later (.settled e (.ok token))) : Change c d := by
  refine .kept hCached fun e token hSettled => ?_
  rw [hHistory, happened_append] at hSettled
  exact hSettled.resolve_right (hOther e token)

theorem Change.refl (c : TokenCache) : Change c c := .kept rfl fun _ _ h => h

theorem Change.after {b : TokenCache} (h : Change b d) {later : History} (hCached : b.cached = c.cached)
    (hHistory : b.history = c.history ++ later)
    (hOther : ∀ e token, ¬ Happened later (.settled e (.ok token))) : Change c d := by
  have hOld (e : Nat) (token : HeldToken) (hSettled : Happened b.history (.settled e (.ok token))) :
      Happened c.history (.settled e (.ok token)) := by
    rw [hHistory, happened_append] at hSettled
    exact hSettled.resolve_right (hOther e token)
  cases h with
  | kept same none =>
    exact .kept (same.trans hCached) fun e token hSettled => hOld e token (none e token hSettled)
  | replaced hOpen hSettled hHeld only =>
    refine .replaced (fun hEarlier => hOpen ?_) hSettled hHeld fun e' token' hNow =>
      (only e' token' hNow).imp_left (hOld e' token')
    rw [hHistory]
    exact settled_append.2 (.inl hEarlier)

/-- A token that is settled with in between is the one then held. -/
theorem Change.installed (h : Change c d) {e : Nat} {token : HeldToken} (hOpen : ¬ Settled c.history e)
    (hSettled : Happened d.history (.settled e (.ok token))) : d.cached = some token := by
  cases h with
  | kept _ none => exact absurd ⟨_, none e token hSettled⟩ hOpen
  | replaced _ _ hHeld only =>
    rcases only e token hSettled with hOld | ⟨rfl, rfl⟩
    · exact absurd ⟨_, hOld⟩ hOpen
    · exact hHeld

theorem settled_of_clear {e : Nat} {result : Exchange.Result}
    (h : Happened c.clear.history (.settled e result)) : Settled c.history e :=
  ⟨result, by simpa [clear, note, record] using h⟩

theorem Recorded.judge_change (h : Recorded c) {e q : Nat}
    (hWaiting : c.exchanges[e]? = some (.waiting q)) (reply : Reply) : Change c (c.judge e reply) := by
  obtain ⟨hWay, -, -⟩ := h.phases.waiting e q hWaiting
  have hFlying : c.inFlight = some e := h.inFlight.trans hWay
  have hHistory := judge_history c e reply
  cases hConclude : Exchange.conclude c.classify c.clock.now reply with
  | none =>
    rw [hConclude] at hHistory
    refine .frame ?_ hHistory (by simp)
    rw [judge_of_none hConclude]
  | some result =>
    rw [hConclude] at hHistory
    cases result with
    | error err =>
      refine .frame ?_ hHistory (by simp)
      rw [judge_of_some hConclude hFlying]
      rfl
    | ok token =>
      have hSettled : Happened (c.judge e reply).history (.settled e (.ok token)) := by simp [hHistory]
      refine .replaced (h.lawful.underWay_eq_some_iff.1 hWay).1.2 hSettled ?_ ?_
      · rw [judge_of_some hConclude hFlying]
        rfl
      · intro e' token' hSettled
        simpa [hHistory] using hSettled

theorem Recorded.look_change (h : Recorded c) (e : Nat) : Change c (c.look e) := by
  unfold look
  split
  · rename_i q hWaiting
    split
    · exact .refl c
    · exact h.judge_change hWaiting _
  · exact .refl c

theorem Recorded.resume_change (h : Recorded c) (k : Nat) : Change c (c.resume k) := by
  unfold resume
  split
  · exact .refl c
  · rename_i e _
    have hLook := h.look_change e
    cases hLook with
    | kept same none =>
      exact .kept ((collect_cached _ k).trans same) (by rwa [collect_history])
    | replaced hOpen hSettled hHeld only =>
      exact .replaced hOpen (by rwa [collect_history]) ((collect_cached _ k).trans hHeld)
        (by rwa [collect_history])

theorem Recorded.call_change (h : Recorded c) (hOwned : c.isOwned = true) (ready : Option Reply) :
    Change c (c.call ready) := by
  unfold call
  split
  · exact .frame rfl rfl (by simp)
  · rename_i hUnusable
    split
    · rename_i e hFlying
      have hJoined : Recorded (c.join e) := h.move (.join hOwned hUnusable hFlying)
      exact (hJoined.resume_change _).after rfl rfl (by simp)
    · rename_i hIdle
      have hStarted : Recorded (c.start ready) := h.start hOwned hIdle ready
      refine (hStarted.resume_change _).after (start_cached hIdle ready) (start_history c ready) ?_
      cases c.grant.request <;> cases ready <;> simp

theorem cancel_change (c : TokenCache) (k : Nat) : Change c (c.cancel k) := by
  unfold cancel
  split
  · exact .refl c
  · exact .frame rfl rfl (by simp)

theorem reply_change (c : TokenCache) (q : Nat) (r : Reply) : Change c (c.reply q r) := by
  unfold reply
  split
  · exact .frame rfl rfl (by simp)
  · exact .refl c

/-- Apart from clears, nothing but a successful settlement touches the token held. -/
theorem Recorded.apply_change (h : Recorded c) (hOwned : c.isOwned = true) {event : Event}
    (hEvent : event ≠ .clear) : Change c (c.apply event) := by
  cases event with
  | call ready => exact h.call_change hOwned ready
  | resume k => exact h.resume_change k
  | cancel k => exact cancel_change c k
  | reply q r => exact reply_change c q r
  | setClock now => exact .kept rfl fun _ _ h => h
  | clear => exact absurd rfl hEvent
  | share => exact .kept rfl fun _ _ h => h
  | giveBack => exact .kept rfl fun _ _ h => h

theorem Recorded.step_change (h : Recorded c) {event : Event} (hEvent : event ≠ .clear)
    (hStill : (c.step event).isOwned = true) : Change c (c.step event) := by
  by_cases hOwned : c.isOwned = true
  · rw [step_of_owned hOwned hStill]
    exact h.apply_change hOwned hEvent
  · unfold step
    rw [if_neg hOwned]
    split
    · exact reply_change c _ _
    · exact .kept rfl fun _ _ h => h
    · exact .refl c

theorem resume_cached {k e q : Nat} {reply : Reply} {token : HeldToken} (hFlying : c.inFlight = some e)
    (hAwaited : c.awaited? k = some e) (hWaiting : c.exchanges[e]? = some (.waiting q))
    (hCome : c.transport.reply? q = some reply)
    (hConclude : Exchange.conclude c.classify c.clock.now reply = some (.ok token)) :
    (c.resume k).cached = some token := by
  rw [resume_of_awaited hAwaited, collect_cached, look_of_come hWaiting hCome,
    judge_of_some hConclude hFlying]
  rfl

theorem awaited?_join (c : TokenCache) (e : Nat) : (c.join e).awaited? c.callers.length = some e := by
  rw [awaited?_eq_some_iff]
  simp [join, addCaller, note, record]

theorem fetched_after_clear {e q : Nat} {reply : Reply} {token : HeldToken} (hFlying : c.inFlight = some e)
    (hWaiting : c.exchanges[e]? = some (.waiting q)) (hCome : c.transport.reply? q = some reply)
    (hConclude : Exchange.conclude c.classify c.clock.now reply = some (.ok token)) :
    (∀ k, c.awaited? k = some e → (c.clear.resume k).cached = some token) ∧
      ∀ ready, (c.clear.call ready).cached = some token := by
  constructor
  · intro k hAwaited
    exact resume_cached (c := c.clear) hFlying hAwaited hWaiting hCome hConclude
  · intro ready
    have hCall : c.clear.call ready = (c.clear.join e).resume c.clear.callers.length := by
      have hFlying' : c.clear.inFlight = some e := hFlying
      have hUnusable : c.clear.usable? = none := rfl
      unfold call
      rw [hUnusable, hFlying']
    rw [hCall]
    exact resume_cached (c := c.clear.join e) hFlying (awaited?_join _ e) hWaiting hCome hConclude

def IsLastToken (h : History) (token : HeldToken) : Prop :=
  ∃ past t e later, h = past ++ (t, .settled e (.ok token)) :: later ∧
    ¬ Happened later .cleared ∧ ∀ e' token', ¬ Happened later (.settled e' (.ok token'))

/-- What a cache holds is told by its settlements and clears alone. -/
structure FollowsHistory (c : TokenCache) : Prop where
  content : ∀ token, c.cached = some token ↔ c.isOwned = true ∧ IsLastToken c.history token
  /-- No event changes it that neither clears the cache nor settles an exchange with a token. -/
  kept : ∀ event, event ≠ .clear → (c.step event).isOwned = true →
    (∀ e token, Happened (c.step event).history (.settled e (.ok token)) → Settled c.history e) →
    (c.step event).cached = c.cached
  /-- A token is put in by the very event that settles its exchange. -/
  installed : ∀ event e token, ¬ Settled c.history e →
    Happened (c.step event).history (.settled e (.ok token)) → (c.step event).isOwned = true →
    (c.step event).cached = some token
  /-- A clear leaves exchanges, callers and requests alone. -/
  cleared : c.isOwned = true → c.step .clear = { c with
    cached := none
    notes := c.notes ++ [.decision .token .cacheCleared]
    history := c.history ++ [(c.clock.now, .cleared)] }
  /-- An exchange whose reply is unread at a clear puts its token in as soon as somebody looks. -/
  fetched : ∀ e q reply token, c.inFlight = some e → c.exchanges[e]? = some (.waiting q) →
    c.transport.reply? q = some reply → Exchange.conclude c.classify c.clock.now reply = some (.ok token) →
    ∀ event, (∃ ready, event = .call ready) ∨ (∃ k, event = .resume k ∧ c.awaited? k = some e) →
      ((c.step .clear).step event).isOwned = true → ((c.step .clear).step event).cached = some token
  /-- A caller that comes after a clear is answered by an exchange that is settled after it. Whoever shares an
  exchange that broke gets no result at all. -/
  fresh : c.isOwned = true → ∀ events k a, c.callers.length ≤ k →
    ((c.step .clear).run events).answer? k = some a →
    ∃ later, ((c.step .clear).run events).history = c.history ++ (c.clock.now, .cleared) :: later ∧
      ((∃ e result, Happened later (.settled e result) ∧ a = .ofResult result) ∨
        ∃ e, Entered later k (some e) ∧ Happened ((c.step .clear).run events).history (.broke e) ∧
          a = .overflow)

theorem Recorded.content_iff (h : Recorded c) (hReleased : c.isOwned = false → Happened c.history .released)
    (token : HeldToken) : c.cached = some token ↔ c.isOwned = true ∧ IsLastToken c.history token := by
  rw [h.cached, held_eq_some_iff]
  constructor
  · rintro ⟨past, t, e, later, hHistory, hQuiet⟩
    have hWhole : Lawful (past ++ (t, .settled e (.ok token)) :: later) := hHistory ▸ h.lawful
    refine ⟨?_, past, t, e, later, hHistory, fun hCleared => ?_, fun e' token' hSettled => ?_⟩
    · -- a release would be before the settlement, and nothing is settled after a release
      by_contra hUnowned
      have hAlive := (hWhole.split.underWay_eq_some_iff.1 hWhole.allows).2
      have hGone := hReleased (Bool.eq_false_iff.2 hUnowned)
      rw [hHistory, happened_append, happened_cons] at hGone
      rcases hGone with hGone | hGone | hGone
      · exact hAlive hGone
      · cases hGone
      · cases hQuiet _ hGone
    · cases hQuiet _ hCleared
    · cases hQuiet _ hSettled
  · rintro ⟨hOwned, past, t, e, later, hHistory, hUncleared, hLast⟩
    refine ⟨past, t, e, later, hHistory, fun f hf => ?_⟩
    have hAlive := h.not_released hOwned
    cases f with
    | settled e' result =>
      cases result with
      | ok token' => exact absurd hf (hLast e' token')
      | error err => rfl
    | cleared => exact absurd hf hUncleared
    | released => exact absurd (by simp [hHistory, hf]) hAlive
    | _ => rfl

theorem CallersRecorded.fresh (h : CallersRecorded c) (hRecorded : Recorded c) (hOwned : c.isOwned = true)
    (events : List Event) {k : Nat} {a : Answer} (hNew : c.callers.length ≤ k)
    (hAnswer : ((c.step .clear).run events).answer? k = some a) :
    ∃ later, ((c.step .clear).run events).history = c.history ++ (c.clock.now, .cleared) :: later ∧
      ((∃ e result, Happened later (.settled e result) ∧ a = .ofResult result) ∨
        ∃ e, Entered later k (some e) ∧ Happened ((c.step .clear).run events).history (.broke e) ∧
          a = .overflow) := by
  have hCleared : Recorded c.clear := hRecorded.move .clear
  have hCallers : CallersRecorded c.clear := h.move hRecorded .clear
  rw [step_clear hOwned] at hAnswer ⊢
  obtain ⟨later, hLater⟩ := run_history_grows c.clear events
  have hHistory : (c.clear.run events).history = c.history ++ (c.clock.now, .cleared) :: later := by
    rw [← hLater]
    simp [clear, note, record]
  refine ⟨later, hHistory, ?_⟩
  have hEnd := hCallers.run hCleared events
  obtain ⟨x, hCaller⟩ := answer?_eq_some_iff.1 hAnswer
  have hEntered : Entered later k x := by
    have hEver := (hEnd.entered k x).1 ⟨_, hCaller⟩
    rw [← hLater, Entered.append, ← hCallers.entered k x] at hEver
    refine hEver.resolve_left ?_
    rintro ⟨state, hOld⟩
    exact absurd (List.getElem?_eq_some_iff.1 hOld).1 (Nat.not_lt.2 hNew)
  rcases hEnd.answer_after_clear (hCleared.run events).lawful hHistory hEntered hAnswer with
    hSettled | ⟨e, rfl, hBroke, hOverflow⟩
  · exact .inl hSettled
  · exact .inr ⟨e, hEntered, hBroke, hOverflow⟩

theorem Recorded.followsHistory (h : Recorded c) (hCallers : CallersRecorded c)
    (hReleased : c.isOwned = false → Happened c.history .released) : FollowsHistory c where
  content := h.content_iff hReleased
  kept event hEvent hStill hNone := by
    cases h.step_change hEvent hStill with
    | kept same _ => exact same
    | replaced hOpen hSettled => exact absurd (hNone _ _ hSettled) hOpen
  installed event e token hOpen hSettled hStill := by
    by_cases hEvent : event = .clear
    · subst hEvent
      have hOwned : c.isOwned = true := by
        by_contra hUnowned
        simp [step, hUnowned] at hStill
      rw [step_clear hOwned] at hSettled
      exact absurd (settled_of_clear hSettled) hOpen
    · exact (h.step_change hEvent hStill).installed hOpen hSettled
  cleared hOwned := step_clear hOwned
  fetched e q reply token hFlying hWaiting hCome hConclude event hEvent hStill := by
    have hWay := h.inFlight.symm.trans hFlying
    have hOwned : c.isOwned = true := by
      by_contra hUnowned
      exact (h.lawful.underWay_eq_some_iff.1 hWay).2 (hReleased (Bool.eq_false_iff.2 hUnowned))
    have hOwned' : c.clear.isOwned = true := hOwned
    rw [step_clear hOwned] at hStill ⊢
    rw [step_of_owned hOwned' hStill]
    obtain ⟨hResumed, hCalled⟩ := fetched_after_clear hFlying hWaiting hCome hConclude
    rcases hEvent with ⟨ready, rfl⟩ | ⟨k, rfl, hAwaited⟩
    · exact hCalled ready
    · exact hResumed k hAwaited
  fresh hOwned events _ _ hNew hAnswer := hCallers.fresh h hOwned events hNew hAnswer

/-- What a token cache holds follows from its settlements and clears, in every run. -/
theorem run_followsHistory (grant : Grant) (classify : Classifier) (clock : Clock) (events : List Event) :
    FollowsHistory ((new grant classify clock).run events) :=
  (recorded_run grant classify clock events).followsHistory (callersRecorded_run grant classify clock events)
    (run_isOwned_or_released (fun hUnowned => by simp [isOwned, new] at hUnowned) events)

end BearerTokens.TokenCache
