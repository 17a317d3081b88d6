import BearerTokens.Proofs.KeySetCache.Rejection
import BearerTokens.Proofs.KeySetCache.Waiting

/-!
# Transparent caching

An endpoint that answers every request for a URL with one and the same key set cannot be told from that set itself:
whatever is cached, expired, invalidated or replaced meanwhile, a verification comes to what it would come to with
the set at hand, and unless it is cancelled it does come to that.
-/

set_option autoImplicit false

namespace BearerTokens.KeySetCache

open BearerTokens.Http BearerTokens.Time

variable {x : Surroundings} {l : Lane} {n : CallName} {job : Job} {purpose : Purpose}

theorem Recorded.told_of_cancelled (hRecorded : Recorded x l .idle) {call : Call} (hMem : call ∈ l.calls)
    (hStage : call.stage = .cancelled) : Happened l.history (.cancelled call.name) := by
  have hAccounted := hRecorded.placed.accounted call hMem
  rw [hStage] at hAccounted
  obtain ⟨-, past, t, later, -, hHistory, -⟩ := hAccounted
  exact ⟨t, by simp [hHistory]⟩

theorem Recorded.not_told_of_unknown (hRecorded : Recorded x l .idle) (hUnknown : l.stage? n = none) :
    ¬ Happened l.history (.cancelled n) :=
  hRecorded.untold_of_unknown hUnknown rfl

/-- A call is cancelled by nothing else than its cancellation. -/
theorem cancelled_of_run {c : KeySetCache} {url : Url} {events : List Event}
    (hTold : Happened ((c.run events).lane url).history (.cancelled n)) :
    Happened (c.lane url).history (.cancelled n) ∨ .cancel url n ∈ events := by
  rcases told_of_run hTold with hBefore | ⟨event, hMem, rfl⟩
  · exact .inl hBefore
  · exact .inr hMem

def uncached (check : Jwt.Check) (set : KeySet) (token : String) (validation : Jwt.Validation) : Answer :=
  match Jwt.verifyAgainst check set token validation with
  | .ok payload => .claims payload
  | .error e => .failure (.keySet e)

/-- Every reply that has come to a request of the lane brings the key set. -/
def Steady (l : Lane) (set : KeySet) : Prop :=
  ∀ call ∈ l.transport.calls, ∀ reply, call.state = .answered reply → Delivers reply set

theorem Delivers.unique {reply : Reply} {set set' : KeySet} (h : Delivers reply set) (h' : Delivers reply set') :
    set = set' := by
  obtain ⟨r, rfl, -, hSet⟩ := h
  obtain ⟨r', hReply, -, hSet'⟩ := h'
  cases hReply
  exact Except.ok.inj (hSet.symm.trans hSet')

theorem Steady.delivers {set : KeySet} (h : Steady l set) {q : Nat} {reply : Reply}
    (hCome : l.transport.reply? q = some reply) : Delivers reply set := by
  obtain ⟨call, hCall, hState⟩ := Option.map_eq_some_iff.1 (Transport.reply?_eq_some_iff.1 hCome)
  exact h call (List.mem_of_getElem? hCall) reply hState

/-- All sets that are stored are the one that the endpoint has. -/
theorem Recorded.set_of_steady (hRecorded : Recorded x l .idle) {set : KeySet} (hSteady : Steady l set)
    {s : Stored} (hs : s ∈ sets l.history) : s.set = set := by
  obtain ⟨m, purpose, q, e, ⟨t, hMem⟩, rfl⟩ := mem_sets_iff.1 hs
  obtain ⟨reply, hCome, hJudged⟩ := hRecorded.stocked.grounded t _ hMem
  exact (judge_eq_ok_iff.1 hJudged).unique (hSteady.delivers hCome)

/-- No download fails, as all requests can be built and all replies bring the set. -/
theorem Recorded.not_failed (hRecorded : Recorded x l .idle) {set : KeySet} (hSteady : Steady l set)
    (hBuilt : ∃ r, request x.url = .ok r) (q : Option Nat) (e : Error) :
    ¬ Happened l.history (.failed n purpose q e) := by
  rintro ⟨t, hMem⟩
  have hGrounded := hRecorded.stocked.grounded t _ hMem
  cases q with
  | none =>
    obtain ⟨fault, hFault, -⟩ := hGrounded
    obtain ⟨r, hRequest⟩ := hBuilt
    rw [hRequest] at hFault
    cases hFault
  | some q =>
    obtain ⟨reply, hCome, hJudged⟩ := hGrounded
    rw [judge_eq_ok_iff.2 (hSteady.delivers hCome)] at hJudged
    cases hJudged

section Verified

variable {c : KeySetCache} {url : Url} {call : Call} {kid token : String} {validation : Jwt.Validation}
  {set : KeySet}

/-- Whichever set a verification came to, it is as if it had the key set at hand. -/
theorem Verified.uncached (h : Verified c url call kid token validation)
    (hSets : ∀ s ∈ sets (c.lane url).history, s.set = set)
    (hNever : ∀ n purpose q e, ¬ Happened (c.lane url).history (.failed n purpose q e)) {a : Answer}
    (hStage : call.stage = .finished a) : a = KeySetCache.uncached (c.checks url call.name) set token validation := by
  unfold KeySetCache.uncached Jwt.verifyAgainst
  cases hKey : Jwt.keyId token with
  | error e =>
    obtain ⟨hRefused, -⟩ := h.refused e hKey
    cases hStage.symm.trans hRefused
    rfl
  | ok k =>
    obtain rfl := h.named k hKey
    rcases h.first hKey with ⟨s, hCame⟩ | hUnfinished | ⟨q, e, hFailed, -⟩
    · have hSet := hSets s hCame.mem_sets
      dsimp only
      cases hFound : set.find? k with
      | some key =>
        obtain ⟨hDirect, -⟩ := h.direct s key hCame (hSet ▸ hFound)
        cases hStage.symm.trans hDirect
        unfold verdict
        dsimp only
        cases c.checks url call.name key token validation <;> rfl
      | none =>
        rcases h.missed s hCame (hSet ▸ hFound) with hUnfinished | ⟨q, e, hFailed, -⟩ | ⟨s', hAgain, hSecond⟩
        · exact absurd hStage (hUnfinished a)
        · exact absurd hFailed (hNever _ _ _ _)
        · rw [hSets s' hAgain.mem_sets, hFound] at hSecond
          cases hStage.symm.trans hSecond
          rfl
    · exact absurd hStage (hUnfinished a)
    · exact absurd hFailed (hNever _ _ _ _)

end Verified

structure AnsweredBy (answer : Answer) (l : Lane) (name : CallName) (isCancelled : Prop) : Prop where
  /-- It gets no other answer. -/
  only : ∀ a, l.answer? name = some a → a = answer
  /-- Once every request is answered and every call has run as far as it gets, it has that answer, unless it was
  cancelled. -/
  returns : ¬ isCancelled → l.Quiet → (∀ q, l.transport.isWaiting q = false) → l.answer? name = some answer

/-- In a run, every verification for a URL comes to what it would come to with the key set at hand. -/
def Transparent (start : KeySetCache) (events : List Event) (url : Url) (set : KeySet) : Prop :=
  ∀ past name token validation ready later, events = past ++ .call url name (.verify token validation) ready :: later →
    ((start.run past).lane url).stage? name = none →
    AnsweredBy (uncached (start.checks url name) set token validation) ((start.run events).lane url) name
      (.cancel url name ∈ later)

theorem checks_step (c : KeySetCache) (event : Event) : (c.step event).checks = c.checks := by
  cases event <;> rfl

theorem checks_run (c : KeySetCache) (events : List Event) : (c.run events).checks = c.checks := by
  induction events generalizing c with
  | nil => rfl
  | cons event events ih => exact (ih (c.step event)).trans (checks_step c event)

theorem run_append (c : KeySetCache) (past later : List Event) : c.run (past ++ later) = (c.run past).run later :=
  List.foldl_append

theorem task?_run {c : KeySetCache} {url : Url} (hTask : task? (c.lane url) .idle n = some job)
    (events : List Event) : task? ((c.run events).lane url) .idle n = some job := by
  induction events generalizing c with
  | nil => exact hTask
  | cons event events ih => exact ih (task?_step event hTask)

theorem Lane.answer?_eq_some_iff {a : Answer} : l.answer? n = some a ↔ l.stage? n = some (.finished a) := by
  unfold Lane.answer?
  split
  · rename_i hStage
    rw [hStage, Option.some.injEq, Option.some.injEq, Stage.finished.injEq]
  · rename_i hOther
    exact ⟨nofun, fun hStage => absurd hStage (hOther a)⟩

/-- A call that has begun to verify a token has that token to verify from then on. -/
theorem exists_verification {c : KeySetCache} {url : Url} {token : String} {validation : Jwt.Validation}
    {ready : List Reply} {later : List Event} (hUnknown : (c.lane url).stage? n = none) :
    ∃ kid, ∃ call ∈ ((c.run (.call url n (.verify token validation) ready :: later)).lane url).calls,
      call.name = n ∧ call.job = .verify kid token validation := by
  obtain ⟨kid, hTask⟩ := task?_verify hUnknown token validation ready
  exact ⟨kid, exists_call_of_task (task?_run hTask later)⟩

/-- An endpoint that has one key set for all is as good as the set itself, in every run. -/
theorem run_transparent (ttl : Int) (classify : Classifier) (clock : Clock) (checks : Checks) (events : List Event)
    (url : Url) (set : KeySet) (hBuilt : ∃ r, request url = .ok r)
    (hSteady : Steady (((empty ttl classify clock checks).run events).lane url) set) :
    Transparent (empty ttl classify clock checks) events url set := by
  intro past name token validation ready later hEvents hUnknown
  obtain ⟨hExcluded, hAttended⟩ := attended_run ttl classify clock checks events url
  have hRecorded := recorded_run ttl classify clock checks events url
  have hSplit : (empty ttl classify clock checks).run events =
      ((empty ttl classify clock checks).run past).run (.call url name (.verify token validation) ready :: later) := by
    rw [hEvents, run_append]
  have hChecks : ((empty ttl classify clock checks).run events).checks = checks := checks_run _ events
  obtain ⟨kid, call, hMem, rfl, hJob⟩ := exists_verification hUnknown
  rw [← hSplit] at hMem
  have hStage := (Lane.stage?_eq_some_iff hExcluded.distinct).2 ⟨call, hMem, rfl, rfl⟩
  have hAnswer {a : Answer} (hFinished : call.stage = .finished a) :
      a = uncached (checks url call.name) set token validation := by
    have hVerified := hRecorded.verified hExcluded.distinct hMem hJob
    rw [← hChecks]
    exact hVerified.uncached (fun s hs => hRecorded.set_of_steady hSteady hs)
      (fun _ _ q e => hRecorded.not_failed hSteady hBuilt q e) hFinished
  constructor
  · intro a hAnswered
    rw [Lane.answer?_eq_some_iff, hStage] at hAnswered
    exact hAnswer (Option.some.inj hAnswered)
  · intro hNever hQuiet hAnswered
    rcases hAttended.over_of_quiet hExcluded hQuiet hAnswered hMem with ⟨a, hFinished⟩ | hCancelled
    · rw [Lane.answer?_eq_some_iff, hStage, hFinished, hAnswer hFinished]
      rfl
    · -- the cancellation is on record, and can only have been told after the call began
      have hTold := hRecorded.told_of_cancelled hMem hCancelled
      rw [hSplit] at hTold
      rcases cancelled_of_run hTold with hBefore | hLater
      · exact absurd hBefore ((recorded_run ttl classify clock checks past url).not_told_of_unknown hUnknown)
      · exact absurd ((List.mem_cons.1 hLater).resolve_left nofun) hNever

/-- A verification misses its key in the set and replaces it, and is then given the reply to its second request. -/
def twiceEmpty : List Event :=
  [.call sampleUrl "a" (.verify sampleToken sampleValidation) [emptySetReply], .reply sampleUrl 1 emptySetReply,
    .resume sampleUrl "a" []]

theorem twiceEmpty_transparent : (∃ r, request sampleUrl = .ok r) ∧
    Steady (((new defaultTtl asNetworkError ⟨⟨0, by decide, by decide⟩⟩ 0).run twiceEmpty).lane sampleUrl) ⟨[]⟩ ∧
    Transparent (new defaultTtl asNetworkError ⟨⟨0, by decide, by decide⟩⟩ 0) twiceEmpty sampleUrl ⟨[]⟩ := by
  have hBuilt : ∃ r, request sampleUrl = .ok r := by
    cases hRequest : request sampleUrl with
    | ok r => exact ⟨r, rfl⟩
    | error e =>
      have hOk : (request sampleUrl).toBool = true := by decide +kernel
      rw [hRequest] at hOk
      cases hOk
  have hDelivers : Delivers emptySetReply ⟨[]⟩ := ⟨_, rfl, by decide, by decide +kernel⟩
  have hReplies : ∀ call ∈ (((new defaultTtl asNetworkError ⟨⟨0, by decide, by decide⟩⟩ 0).run twiceEmpty).lane
      sampleUrl).transport.calls, call.state = .answered emptySetReply := by decide +kernel
  have hSteady : Steady (((new defaultTtl asNetworkError ⟨⟨0, by decide, by decide⟩⟩ 0).run twiceEmpty).lane
      sampleUrl) ⟨[]⟩ := by
    intro call hMem reply hState
    rw [hReplies call hMem] at hState
    cases hState
    exact hDelivers
  exact ⟨hBuilt, hSteady, run_transparent _ _ _ _ _ _ _ hBuilt hSteady⟩

end BearerTokens.KeySetCache
