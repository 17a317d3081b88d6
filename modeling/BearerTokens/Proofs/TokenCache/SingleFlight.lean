import BearerTokens.Proofs.TokenCache.Record

/-!
# Single flight

A token cache has at most one exchange under way, whoever calls, gives up, clears the cache or moves the
clock. The slot names that exchange until it is settled, and no request is sent before.
-/

set_option autoImplicit false

namespace BearerTokens.TokenCache

open BearerTokens.Http BearerTokens.Time

variable {c c' : TokenCache}

/-- A move only adds to the history, and what it adds happens at that instant. -/
theorem Move.history_append (hMove : Move c c') :
    ∃ later, c'.history = c.history ++ later ∧ ∀ x ∈ later, x.1 = c.clock.now := by
  cases hMove with
  | @start ready =>
    refine ⟨_, start_history c ready, ?_⟩
    cases c.grant.request <;> cases ready <;> simp
  | @judge e q reply =>
    refine ⟨_, judge_history c e reply, ?_⟩
    cases Exchange.conclude c.classify c.clock.now reply <;> simp
  | release => exact ⟨_, release_history c, by simp⟩
  | answer => exact ⟨[], (List.append_nil _).symm, by simp⟩
  | setClock => exact ⟨[], (List.append_nil _).symm, by simp⟩
  | share => exact ⟨[], (List.append_nil _).symm, by simp⟩
  | giveBack => exact ⟨[], (List.append_nil _).symm, by simp⟩
  | _ => exact ⟨_, rfl, List.forall_mem_singleton.2 rfl⟩

theorem Move.history_grows (hMove : Move c c') : c.history <+: c'.history := by
  obtain ⟨later, hHistory, -⟩ := hMove.history_append
  exact ⟨later, hHistory.symm⟩

theorem step_history_grows (c : TokenCache) (event : Event) : c.history <+: (c.step event).history :=
  chain_induction (P := fun d => c.history <+: d.history) (step_moves c event)
    (fun hMove h => h.trans hMove.history_grows) List.prefix_rfl

theorem run_history_grows (c : TokenCache) (events : List Event) : c.history <+: (c.run events).history :=
  chain_induction (P := fun d => c.history <+: d.history) (run_moves c events)
    (fun hMove h => h.trans hMove.history_grows) List.prefix_rfl

theorem Happened.mono {past whole : History} (hPrefix : past <+: whole) {f : Fact}
    (h : Happened past f) : Happened whole f := by
  obtain ⟨later, rfl⟩ := hPrefix
  exact happened_append.2 (.inl h)

/-- A cache that nobody holds has been released: its slot is gone. -/
theorem step_isOwned_or_released (h : c.isOwned = false → Happened c.history .released) (event : Event)
    (hUnowned : (c.step event).isOwned = false) : Happened (c.step event).history .released := by
  by_cases hOwned : c.isOwned = true
  · simp only [step, hOwned, if_true, releaseUnowned] at hUnowned ⊢
    split
    · rename_i hStill
      simp [hStill] at hUnowned
    · simp [release, record]
  · exact (h (Bool.eq_false_iff.2 hOwned)).mono (step_history_grows c event)

theorem run_isOwned_or_released {c : TokenCache} (h : c.isOwned = false → Happened c.history .released)
    (events : List Event) (hUnowned : (c.run events).isOwned = false) :
    Happened (c.run events).history .released := by
  induction events generalizing c with
  | nil => exact h hUnowned
  | cons event events ih => exact ih (step_isOwned_or_released h event) hUnowned

def Fact.isSent : Fact → Bool
  | .sent .. => true
  | _ => false

theorem release_calls_length (c : TokenCache) :
    c.release.transport.calls.length = c.transport.calls.length := by
  unfold release dropPending
  split
  · exact Http.Transport.length_abandon _ _
  · rfl

theorem Move.calls_length (hMove : Move c c')
    (h : c.transport.calls.length = c.history.countP (·.2.isSent)) :
    c'.transport.calls.length = c'.history.countP (·.2.isSent) := by
  cases hMove with
  | @start ready _ _ hIdle =>
    cases hRequest : c.grant.request with
    | error err => simpa [start_of_error hRequest hIdle, Fact.isSent] using h
    | ok r => cases ready <;> simp [start_of_ok hRequest, h, Fact.isSent]
  | judge =>
    rw [judge_transport, judge_history, List.countP_append, ← h]
    split <;> simp [Fact.isSent]
  | release =>
    rw [release_calls_length, release_history, h]
    simp [Fact.isSent]
  | answer => exact h
  | setClock => exact h
  | share => exact h
  | giveBack => exact h
  | reply => simpa [record, Fact.isSent] using h
  | serve => simpa [TokenCache.serve, addCaller, note, record, Fact.isSent] using h
  | join => simpa [TokenCache.join, addCaller, note, record, Fact.isSent] using h
  | cancel => simpa [setState, record, Fact.isSent] using h
  | clear => simpa [TokenCache.clear, note, record, Fact.isSent] using h

/-- What single flight means for a cache, slot and transport and all that has happened to it. -/
structure SingleFlight (c : TokenCache) : Prop where
  /-- At no instant are two exchanges unsettled. -/
  unique : ∀ past later, c.history = past ++ later → ∀ e e', Unsettled past e → Unsettled past e' → e = e'
  /-- The slot names the unsettled exchange, and names one only then. -/
  marked : ∀ e, c.inFlight = some e ↔ c.isOwned = true ∧ Unsettled c.history e
  /-- The exchanges on record as unsettled are those without a result. -/
  unsettled : ∀ e, Unsettled c.history e ↔ ∃ p, c.exchanges[e]? = some p ∧ ∀ result, p ≠ .settled result
  /-- Only the exchange in the slot can still be settled by a look at its reply. -/
  waiting : ∀ e q, c.exchanges[e]? = some (.waiting q) → c.inFlight = some e
  replayed : c.inFlight = underWay c.history
  /-- An exchange is settled only while the slot names it. -/
  settled : ∀ past t e result later, c.history = past ++ (t, .settled e result) :: later →
    underWay past = some e
  /-- All exchanges before one that is started are settled. -/
  started : ∀ past t caller e later, c.history = past ++ (t, .started caller e) :: later →
    ∀ e', Begun past e' → Settled past e'
  /-- All exchanges for which a request was sent before are settled when the next one is sent. -/
  sent : ∀ past t e q later, c.history = past ++ (t, .sent e q) :: later →
    ∀ e' q', Happened past (.sent e' q') → Settled past e'
  /-- The transport is called only by what is on record. -/
  counted : c.transport.calls.length = c.history.countP (·.2.isSent)

theorem Recorded.singleFlight (h : Recorded c) (hReleased : c.isOwned = false → Happened c.history .released)
    (hCounted : c.transport.calls.length = c.history.countP (·.2.isSent)) : SingleFlight c where
  unique past later hHistory e e' := by
    have hWhole : Lawful (past ++ later) := hHistory ▸ h.lawful
    exact hWhole.split.unsettled_unique
  marked e := by
    rw [h.inFlight, h.lawful.underWay_eq_some_iff, and_comm]
    refine and_congr_left fun _ => ⟨fun hAlive => ?_, h.not_released⟩
    by_contra hUnowned
    exact hAlive (hReleased (Bool.eq_false_iff.2 hUnowned))
  unsettled e := by
    unfold Unsettled Settled
    rw [← h.phases.begun e]
    simp only [← h.phases.settled]
    constructor
    · rintro ⟨he, hOpen⟩
      refine ⟨c.exchanges[e], List.getElem?_eq_getElem he, fun result hPhase => hOpen ⟨result, ?_⟩⟩
      rw [List.getElem?_eq_getElem he, hPhase]
    · rintro ⟨p, hPhase, hOpen⟩
      refine ⟨(List.getElem?_eq_some_iff.1 hPhase).1, ?_⟩
      rintro ⟨result, hSettled⟩
      rw [hPhase] at hSettled
      exact hOpen result (Option.some.inj hSettled)
  waiting e q hWaiting := h.inFlight.trans (h.phases.waiting e q hWaiting).1
  replayed := h.inFlight
  settled past t e result later hHistory := by
    have hWhole : Lawful (past ++ (t, .settled e result) :: later) := hHistory ▸ h.lawful
    exact hWhole.allows
  started past t caller e later hHistory e' hBegun := by
    have hWhole : Lawful (past ++ (t, .started caller e) :: later) := hHistory ▸ h.lawful
    obtain ⟨hIdle, -, hAlive⟩ := hWhole.allows
    exact hWhole.split.settled_of_begun hIdle hAlive hBegun
  sent past t e q later hHistory e' q' hSent := by
    have hWhole : Lawful (past ++ (t, .sent e q) :: later) := hHistory ▸ h.lawful
    obtain ⟨hWay, hFirst, -⟩ := hWhole.allows
    have hPast : Lawful past := hWhole.split
    by_contra hOpen
    -- the earlier exchange would still be under way, but this one is, and it had sent nothing
    have hUnsettled : Unsettled past e' := ⟨hPast.begun_of_sent hSent, hOpen⟩
    obtain rfl : e' = e := hPast.unsettled_unique hUnsettled (hPast.underWay_eq_some_iff.1 hWay).1
    exact hFirst q' hSent
  counted := hCounted

/-- A token cache flies one exchange at a time, in every run. -/
theorem run_singleFlight (grant : Grant) (classify : Classifier) (clock : Clock) (events : List Event) :
    SingleFlight ((new grant classify clock).run events) := by
  apply (recorded_run grant classify clock events).singleFlight
  · exact run_isOwned_or_released (fun hUnowned => by simp [isOwned, new] at hUnowned) events
  · exact run_induction Move.calls_length rfl events

end BearerTokens.TokenCache
