import BearerTokens.Proofs.KeySetCache.Content
import BearerTokens.Proofs.KeySetCache.Reclaim
import BearerTokens.Proofs.KeySetCache.Verification

/-!
# Rejections of unknown keys

No key is called unknown for lack of fresh knowledge: before a verification says so, a set without that key is
stored that was not there when it began. Its request was sent since, unless it was under way already: a
verification that waits behind another call's download makes do with what that brings.
-/

set_option autoImplicit false

namespace BearerTokens.KeySetCache

open BearerTokens.Http BearerTokens.Time Relation

/-- A set without the key has been stored since an instant, before the call finished. -/
def LearnedSince (l : Lane) (n : CallName) (kid : String) (past later : History) : Prop :=
  ∃ mid t m purpose q e after reply, later = mid ++ (t, .stored m purpose q e) :: after ∧
    Happened after (.finished n) ∧ (Happened mid (.sent m purpose q) ∨ UnderWay past m purpose q) ∧
    l.transport.reply? q = some reply ∧ Delivers reply e.stored.set ∧ e.stored.set.find? kid = none

structure Rejections (c : KeySetCache) (url : Url) : Prop where
  /-- A set without that key has been stored since any instant at which the call had not begun. -/
  learned : ∀ call ∈ (c.lane url).calls, ∀ kid token validation k, call.job = .verify kid token validation →
    call.stage = .finished (.failure (.keySet (.unknownKey k))) → ¬ Misnamed c url call.name k →
    k = kid ∧ ∀ past later, (c.lane url).history = past ++ later → ¬ Happened past (.began call.name) →
      LearnedSince (c.lane url) call.name kid past later
  /-- If no set lacks the key that is asked for from some instant on, or was being asked for then, then no
  verification of that key fails that has begun since. -/
  spared : ∀ past later kid, (c.lane url).history = past ++ later →
    (∀ m purpose q, Happened later (.sent m purpose q) ∨ UnderWay past m purpose q → ∀ reply set,
      (c.lane url).transport.reply? q = some reply → Delivers reply set → set.find? kid ≠ none) →
    ∀ call ∈ (c.lane url).calls, ∀ token validation, call.job = .verify kid token validation →
      ¬ Happened past (.began call.name) → ∀ k,
        call.stage = .finished (.failure (.keySet (.unknownKey k))) → Misnamed c url call.name k

variable {c : KeySetCache} {url : Url} {call : Call} {kid token k : String} {validation : Jwt.Validation}
  {past later : History} {n : CallName}

theorem Lawful.finished_later {ttl : Int} {before after : History} {t : Instant}
    (hLawful : Lawful ttl (before ++ (t, .finished n) :: after))
    (hSplit : before ++ (t, .finished n) :: after = past ++ later) (hNew : ¬ Happened past (.began n)) :
    ∃ mid, before = past ++ mid ∧ later = mid ++ (t, .finished n) :: after := by
  rcases List.append_eq_append_iff.1 hSplit with ⟨mid, rfl, hRest⟩ | ⟨mid, rfl, hRest⟩
  · cases mid with
    | nil => exact ⟨[], by simp, by simpa using hRest.symm⟩
    | cons first mid =>
      obtain ⟨rfl, -⟩ := List.cons.inj hRest
      have hPast : Lawful ttl (before ++ (t, .finished n) :: mid) := (hSplit ▸ hLawful).split
      have hRank := hPast.rank_le_of_mem (t := t) (f := .finished n) (by simp) rfl
      refine absurd (hPast.began_of_progress fun hAbsent => ?_) hNew
      rw [hAbsent] at hRank
      simp [Progress.rank] at hRank
  · exact ⟨mid, rfl, hRest⟩

theorem Recorded.learned (hRecorded : Recorded (c.surroundings url) (c.lane url) .idle)
    (hMem : call ∈ (c.lane url).calls) (hJob : call.job = .verify kid token validation)
    (hStage : call.stage = .finished (.failure (.keySet (.unknownKey k)))) (hOwn : ¬ Misnamed c url call.name k) :
    k = kid ∧ ∀ past later, (c.lane url).history = past ++ later → ¬ Happened past (.began call.name) →
      LearnedSince (c.lane url) call.name kid past later := by
  have hLawful : Lawful c.ttl (c.lane url).history := hRecorded.stocked.lawful
  have hNamed : call.job.Named := by
    cases hKey : Jwt.keyId token with
    | ok k' => simpa [hJob, Job.Named, hKey] using hRecorded.named hMem hJob hKey
    | error e =>
      rw [(hRecorded.refused hMem hJob hKey).1] at hStage
      cases hStage
      exact absurd hKey (keyId_ne_unknownKey token k)
  obtain ⟨before, t, after, hHistory, hCourse⟩ := hRecorded.finished hMem hNamed hStage
  rw [hJob] at hCourse
  rw [hHistory] at hLawful
  -- either the second set lacks the key, and it was stored since, or the error is one that the transport gave
  rcases hCourse.unknown with ⟨rfl, s, s', hCame, -, hAgain, hMissing⟩ | ⟨purpose, hReads⟩
  · refine ⟨rfl, fun past later hSplit hNew => ?_⟩
    obtain ⟨mid, rfl, rfl⟩ := hLawful.finished_later (hHistory.symm.trans hSplit) hNew
    have hStored := hLawful.split.stored_since hNew hCame hAgain
    obtain ⟨m, purpose, q, e, ⟨t', hFact⟩, rfl⟩ := mem_sets_iff.1 hStored
    obtain ⟨mid, mid', rfl⟩ := List.append_of_mem hFact
    have hWhole : Lawful c.ttl (past ++ mid ++ (t', .stored m purpose q e) :: mid') := by
      simpa using hLawful.split
    obtain ⟨reply, hCome, hJudged⟩ := hRecorded.stocked.grounded t' (.stored m purpose q e) (by simp [hHistory])
    exact ⟨mid, t', m, purpose, q, e, mid' ++ (t, .finished call.name) :: after, reply, by simp, ⟨t, by simp⟩,
      hWhole.sent_or_underWay, hCome, judge_eq_ok_iff.1 hJudged, hMissing⟩
  · have hEver : Reads (c.lane url).history call.name purpose (.error (.keySet (.unknownKey k))) := by
      rw [hHistory]
      exact hReads.append _
    exact absurd (hRecorded.misnamed hEver) hOwn

theorem rejections_of_recorded (hRecorded : Recorded (c.surroundings url) (c.lane url) .idle) :
    Rejections c url where
  learned call hMem kid token validation k hJob hStage hOwn := hRecorded.learned hMem hJob hStage hOwn
  spared past later kid hSplit hKnown call hMem token validation hJob hNew k hStage := by
    by_contra hOwn
    obtain ⟨-, hLearned⟩ := hRecorded.learned hMem hJob hStage hOwn
    obtain ⟨mid, t, m, purpose, q, e, after, reply, rfl, -, hSent, hCome, hDelivers, hMissing⟩ :=
      hLearned past later hSplit hNew
    refine hKnown m purpose q ?_ reply e.stored.set hCome hDelivers hMissing
    rcases hSent with hSince | hUnderWay
    · exact .inl (hSince.append_left _)
    · exact .inr hUnderWay

/-- In every run, a verification calls a key unknown only after it has learned so since it began. -/
theorem run_rejections (ttl : Int) (classify : Classifier) (clock : Clock) (checks : Checks) (events : List Event)
    (url : Url) : Rejections ((empty ttl classify clock checks).run events) url :=
  rejections_of_recorded (recorded_run ttl classify clock checks events url)

deriving instance DecidableEq for Fact

def Answer.unknownKey? : Answer → Option String
  | .failure (.keySet (.unknownKey kid)) => some kid
  | _ => none

def sampleToken : String :=
  "eyJhbGciOiJIUzI1NiIsImtpZCI6Im5leHQifQ.eyJzdWIiOiJ1IiwiZXhwIjo0MTAyNDQ0ODAwfQ.sig"

def sampleValidation : Jwt.Validation :=
  ⟨[.hmac .sha256], 60, true, false, true, none, none, none, ["exp"]⟩

def emptySetReply : Reply :=
  .response ⟨200, "\x7b\"keys\":[]\x7d".toUTF8.toList⟩

/-- One call replaces a set without keys, and while it downloads another call begins that misses the same key. -/
def lateJoin : List Event :=
  [.call sampleUrl "a" .fetch [emptySetReply], .call sampleUrl "b" (.verify sampleToken sampleValidation) [],
    .call sampleUrl "c" (.verify sampleToken sampleValidation) [], .reply sampleUrl 1 emptySetReply,
    .resume sampleUrl "b" [], .resume sampleUrl "c" []]

/-- The last call is refused its key though nothing has been sent since it began. -/
theorem not_every_rejection_asks : ¬ ∀ (ttl : Int) (classify : Classifier) (clock : Clock) (seconds : Nat)
    (events : List Event) (url : Url) (c : KeySetCache), c = (new ttl classify clock seconds).run events →
    ∀ n kid past t later, (c.lane url).history = past ++ (t, .began n) :: later →
      ((c.lane url).answer? n).bind Answer.unknownKey? = some kid →
      ∃ m purpose q, Happened later (.sent m purpose q) := by
  intro hAlways
  let c := (new defaultTtl asNetworkError ⟨⟨0, by decide, by decide⟩⟩ 0).run lateJoin
  have hNone : ∀ p ∈ (c.lane sampleUrl).history.drop 8, p.2.request? = none := by decide +kernel
  obtain ⟨m, purpose, q, t, hMem⟩ := hAlways defaultTtl asNetworkError ⟨⟨0, by decide, by decide⟩⟩ 0 lateJoin
    sampleUrl c rfl "c" "next" ((c.lane sampleUrl).history.take 7) ⟨0, by decide, by decide⟩
    ((c.lane sampleUrl).history.drop 8) (by decide +kernel) (by decide +kernel)
  cases hNone _ hMem

end BearerTokens.KeySetCache
