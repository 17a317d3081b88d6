import BearerTokens.Proofs.KeySetCache.Reading
import BearerTokens.Proofs.KeySetCache.Record

/-!
# What a cache holds

The entry of a URL is the set of the last download that succeeded, stamped with the instant of its storing, unless
it has been invalidated since. A fetch is answered with a set that it stored itself, or with one that was the
entry, and young enough, when it looked.
-/

set_option autoImplicit false

namespace BearerTokens.KeySetCache

open BearerTokens.Http BearerTokens.Time

def Event.url? : Event → Option Url
  | .call url .. => some url
  | .resume url .. => some url
  | .cancel url _ => some url
  | .reply url .. => some url
  | .invalidate url => some url
  | .setClock _ => none

variable {c : KeySetCache} {url : Url}

theorem step_other {event : Event} (hOther : event.url? ≠ some url) : (c.step event).lane url = c.lane url := by
  have hWithin {target : Url} (hTarget : some target ≠ some url) (ready : List Reply)
      (act : Surroundings → Work → Work) : (c.within target ready act).lane url = c.lane url := by
    rw [lane_within, if_neg]
    rintro rfl
    exact hTarget rfl
  cases event with
  | setClock now => rfl
  | call => exact hWithin hOther ..
  | resume => exact hWithin hOther ..
  | cancel => exact hWithin hOther ..
  | reply => exact hWithin hOther ..
  | invalidate => exact hWithin hOther ..

theorem tells_of_step {event : Event} {later : History}
    (hHistory : ((c.step event).lane url).history = (c.lane url).history ++ later) {f : Fact}
    (hTold : Happened later f) : event.Tells url f := by
  obtain ⟨added, hAdded, hLater⟩ := step_adds c url event
  obtain rfl := List.append_cancel_left (hHistory.symm.trans hAdded)
  obtain ⟨t, hMem⟩ := hTold
  exact (hLater _ hMem).2

/-- What is told in a run was told before, or by one of its events. -/
theorem told_of_run {events : List Event} {f : Fact} (hTold : Happened ((c.run events).lane url).history f) :
    Happened (c.lane url).history f ∨ ∃ event ∈ events, event.Tells url f := by
  induction events generalizing c with
  | nil => exact .inl hTold
  | cons event events ih =>
    rcases ih (c := c.step event) hTold with hBefore | ⟨event', hMem, hTells⟩
    · obtain ⟨later, hHistory, -⟩ := step_adds c url event
      rw [hHistory, happened_append] at hBefore
      rcases hBefore with hOld | hNow
      · exact .inl hOld
      · exact .inr ⟨event, List.mem_cons_self, tells_of_step hHistory hNow⟩
    · exact .inr ⟨event', List.mem_cons_of_mem event hMem, hTells⟩

theorem step_invalidated_iff {event : Event} {later : History}
    (hHistory : ((c.step event).lane url).history = (c.lane url).history ++ later) :
    Happened later .invalidated ↔ event = .invalidate url := by
  constructor
  · exact tells_of_step hHistory
  · rintro rfl
    have hRemoved : ((c.step (.invalidate url)).lane url).history =
        (c.lane url).history ++ [((c.surroundings url).now, .invalidated)] := by
      rw [KeySetCache.step, lane_within, if_pos rfl]
      rfl
    obtain rfl := List.append_cancel_left (hHistory.symm.trans hRemoved)
    exact ⟨_, List.mem_singleton_self _⟩

/-- The reply is a response with a status of success and a well-formed key set. -/
def Delivers (reply : Reply) (set : KeySet) : Prop :=
  ∃ r, reply = .response r ∧ isSuccess r.status = true ∧ KeySet.parse r.body = .ok set

theorem judge_eq_ok_iff {classify : Classifier} {reply : Reply} {set : KeySet} :
    judge url classify reply = .ok set ↔ Delivers reply set := by
  unfold judge Delivers
  cases reply with
  | failure f => simp [Reply.result]
  | response r =>
    simp only [Reply.result, Reply.response.injEq]
    constructor
    · intro hJudged
      split at hJudged
      · rename_i hSuccess
        cases hParsed : KeySet.parse r.body with
        | error e =>
          rw [hParsed] at hJudged
          cases hJudged
        | ok set' =>
          rw [hParsed] at hJudged
          cases hJudged
          exact ⟨r, rfl, hSuccess, hParsed⟩
      · cases hJudged
    · rintro ⟨r, rfl, hSuccess, hParsed⟩
      rw [if_pos hSuccess, hParsed]
      rfl

theorem Concludes.of_fetch {x : Surroundings} {h : History} {n : CallName} {a : Answer}
    (hConcludes : Concludes x h n .fetch a) : (∃ e, a = .failure e) ∨
      ∃ s, a = .set s ∧ progress h n = .read .lookup (.ok s.number) ∧ s ∈ sets h := by
  rcases hConcludes with ⟨-, token, validation, e, hJob, -⟩ | ⟨-, purpose, result, hRead, hSet, hWarranted, hConclusion⟩
  · cases hJob
  · cases result with
    | error e =>
      cases hConclusion
      exact .inl ⟨e, rfl⟩
    | ok s =>
      cases purpose with
      | lookup =>
        cases hConclusion
        exact .inr ⟨s, rfl, hRead, hSet s rfl⟩
      | replacement stale =>
        -- a fetch misses no key, so it has no set to replace
        obtain ⟨s', -, -, hMissed⟩ := hWarranted
        cases hMissed

theorem Recorded.fetched {x : Surroundings} {l : Lane} (hRecorded : Recorded x l .idle) {call : Call}
    (hMem : call ∈ l.calls) (hJob : call.job = .fetch) {a : Answer} (hStage : call.stage = .finished a) :
    (∃ e, a = .failure e) ∨ ∃ s, a = .set s ∧ CameTo x.ttl l.history call.name .lookup s := by
  have hAccounted := hRecorded.placed.accounted call hMem
  rw [hJob, hStage] at hAccounted
  obtain ⟨past, t, later, hHistory, hConcludes⟩ := hAccounted
  rcases hConcludes.of_fetch with hFailed | ⟨s, rfl, hRead, hs⟩
  · exact .inl hFailed
  · have hLawful : Lawful x.ttl (past ++ (t, .finished call.name) :: later) := hHistory ▸ hRecorded.stocked.lawful
    rw [hHistory]
    exact .inr ⟨s, rfl, (hLawful.split.cameTo (reads_of_progress hRead) hs).append _⟩

/-- The entry of a URL is told by its downloads and invalidations alone. -/
structure EntryFollowsHistory (c : KeySetCache) (url : Url) : Prop where
  /-- The entry is the one that was stored last, if none was invalidated since. -/
  content : ∀ e, (c.lane url).entry = some e ↔ IsLastEntry (c.lane url).history e
  /-- The history tells what happens when it happens, and an entry is invalidated by that event alone. -/
  told : ∀ event, ∃ later, ((c.step event).lane url).history = (c.lane url).history ++ later ∧
    (∀ p ∈ later, p.1 = c.clock.now) ∧ (Happened later .invalidated ↔ event = .invalidate url)
  /-- Only invalidations and the storing of sets change the entry. -/
  kept : ∀ event later, ((c.step event).lane url).history = (c.lane url).history ++ later →
    event ≠ .invalidate url → (∀ n purpose q e, ¬ Happened later (.stored n purpose q e)) →
    ((c.step event).lane url).entry = (c.lane url).entry
  cancelled : ∀ target n, ((c.step (.cancel target n)).lane url).entry = (c.lane url).entry
  other : ∀ event : Event, event.url? ≠ some url → (c.step event).lane url = c.lane url
  /-- Whatever was sent asks for the key set of the URL. -/
  sent : ∀ call ∈ (c.lane url).transport.calls, request url = .ok call.request
  /-- What is stored, as of now, is the set of the reply to a request that the call sent before. -/
  stored : ∀ past t n purpose q e later, (c.lane url).history = past ++ (t, .stored n purpose q e) :: later →
    e.fetchedAt = t ∧ Happened past (.sent n purpose q) ∧
      ∃ reply, (c.lane url).transport.reply? q = some reply ∧ Delivers reply e.stored.set
  /-- A download fails only if the reply has no set to deliver, or if no request can be built. -/
  failed : ∀ n purpose q e, Happened (c.lane url).history (.failed n purpose q e) →
    (q = none ∧ ∃ fault, request url = .error fault) ∨ ∃ request reply, q = some request ∧
      (c.lane url).transport.reply? request = some reply ∧ ∀ set, ¬ Delivers reply set
  /-- Every request has been answered with a set that was stored or with none, was given up, or is under way. -/
  outcome : ∀ n purpose q, Happened (c.lane url).history (.sent n purpose q) →
    (∃ e, Happened (c.lane url).history (.stored n purpose q e)) ∨
      (∃ e, Happened (c.lane url).history (.failed n purpose (some q) e)) ∨
      Happened (c.lane url).history (.cancelled n) ∨
      ∃ g, (c.lane url).stage? n = some (.downloading purpose g q)
  /-- A fetch that succeeds comes to a set that it stored itself, or to the entry of that moment, younger then than
  the time to live. -/
  fetched : ∀ call ∈ (c.lane url).calls, call.job = .fetch → ∀ a, call.stage = .finished a →
    (∃ e, a = .failure e) ∨ ∃ s, a = .set s ∧ CameTo c.ttl (c.lane url).history call.name .lookup s

theorem cancel_entry (x : Surroundings) (n : CallName) (w : Work) : (cancel x n w).lane.entry = w.lane.entry := by
  unfold cancel
  split
  · rfl
  · dsimp only
    split <;> simp [Work.record, Work.setCall, Lane.modifyGuard]

theorem Recorded.entryFollowsHistory (h : Recorded (c.surroundings url) (c.lane url) .idle) :
    EntryFollowsHistory c url where
  content e := by rw [h.stocked.entry, content_eq_some_iff]
  told event := by
    obtain ⟨later, hHistory, hLater⟩ := step_adds c url event
    exact ⟨later, hHistory, fun p hMem => (hLater p hMem).1, step_invalidated_iff hHistory⟩
  kept event later hHistory hEvent hNone := by
    rw [(h.step event).stocked.entry, h.stocked.entry, hHistory]
    refine content_append_of_quiet fun f hf => ?_
    cases f with
    | stored n purpose q e => exact absurd hf (hNone n purpose q e)
    | invalidated => exact absurd ((step_invalidated_iff hHistory).1 hf) hEvent
    | _ => rfl
  cancelled target n := by
    rw [KeySetCache.step, lane_within]
    split
    · rename_i hTarget
      subst hTarget
      exact cancel_entry ..
    · rfl
  other event hOther := step_other hOther
  sent := h.stocked.built
  stored past t n purpose q e later hHistory := by
    have hLawful : Lawful c.ttl (past ++ (t, .stored n purpose q e) :: later) := hHistory ▸ h.stocked.lawful
    obtain ⟨hLoads, -, hStamp⟩ := hLawful.allows
    obtain ⟨reply, hCome, hJudged⟩ := h.stocked.grounded t (.stored n purpose q e) (by simp [hHistory])
    exact ⟨hStamp, sent_of_loading hLoads, reply, hCome, judge_eq_ok_iff.1 hJudged⟩
  failed n purpose q e hFailed := by
    obtain ⟨t, hMem⟩ := hFailed
    have hGrounded := h.stocked.grounded t _ hMem
    cases q with
    | none =>
      obtain ⟨fault, hFault, -⟩ := hGrounded
      exact .inl ⟨rfl, fault, hFault⟩
    | some q =>
      obtain ⟨reply, hCome, hJudged⟩ := hGrounded
      refine .inr ⟨q, reply, rfl, hCome, fun set hDelivers => ?_⟩
      rw [judge_eq_ok_iff.2 hDelivers] at hJudged
      cases hJudged
  outcome n purpose q hSent := by
    rcases h.stocked.lawful.outcome hSent with hLoads | hStored | hFailed | hCancelled
    · exact .inr (.inr (.inr (h.downloading_of_loading hLoads)))
    · exact .inl hStored
    · exact .inr (.inl hFailed)
    · exact .inr (.inr (.inl hCancelled))
  fetched call hMem hJob a hStage := h.fetched hMem hJob hStage

/-- In every run, the entry of every URL follows from what was stored and invalidated. -/
theorem run_entryFollowsHistory (ttl : Int) (classify : Classifier) (clock : Clock) (checks : Checks)
    (events : List Event) (url : Url) :
    EntryFollowsHistory ((empty ttl classify clock checks).run events) url :=
  (recorded_run ttl classify clock checks events url).entryFollowsHistory

end BearerTokens.KeySetCache
