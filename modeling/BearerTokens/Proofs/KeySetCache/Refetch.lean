import BearerTokens.Proofs.KeySetCache.Rejection
import BearerTokens.Proofs.KeySetCache.Turns

/-!
# Refetches

However many verifications miss their keys in a key set, one download replaces it. Whoever comes to the guard after
that download finds another set there and makes do with it, and whoever comes before it has only a failure to show.
Sets are told apart by their numbers, so that a download which brings the same keys again still counts as one.
-/

set_option autoImplicit false

namespace BearerTokens.KeySetCache

open BearerTokens.Http BearerTokens.Time

def Fact.renews (stale : Nat) : Fact → Bool
  | .stored _ (.replacement number) _ _ => number == stale
  | _ => false

/-- What a set decides about a token after which there is no further set. -/
def decided (check : Jwt.Check) (s : Stored) (kid token : String) (validation : Jwt.Validation) : Answer :=
  match s.set.find? kid with
  | some key => verdict check key token validation
  | none => .failure (.keySet (.unknownKey kid))

/-- What the refetch of a set comes to that a call began because of a missing key, and the answer after it. -/
inductive Refetched (h : History) (n : CallName) (s : Stored) (decide : Stored → Answer) : Answer → Prop where
  | stored {q : Nat} {e : Entry} (sent : Happened h (.sent n (.replacement s.number) q))
      (stored : Happened h (.stored n (.replacement s.number) q e)) : Refetched h n s decide (decide e.stored)
  /-- Another set is the entry when the call gets the guard. -/
  | joined {s' : Stored} (other : s' ≠ s)
      (held : ∃ past t later e, h = past ++ (t, .found n (.replacement s.number) s'.number) :: later ∧
        IsLastEntry past e ∧ e.stored = s')
      (unsent : ∀ stale q, ¬ Happened h (.sent n (.replacement stale) q)) : Refetched h n s decide (decide s')
  | failed {q : Nat} {e : Error} (sent : Happened h (.sent n (.replacement s.number) q))
      (failed : Happened h (.failed n (.replacement s.number) (some q) e)) : Refetched h n s decide (.failure e)

/-- What is known of the refetches of a URL. -/
structure Refetches (c : KeySetCache) (url : Url) : Prop where
  /-- Every set is replaced by one download at most. -/
  single : ∀ stale, (c.lane url).history.countP (·.2.renews stale) ≤ 1
  /-- It is replaced by verifications only that missed their key in it. -/
  missed : ∀ n stale q, Happened (c.lane url).history (.sent n (.replacement stale) q) →
    ∃ call ∈ (c.lane url).calls, call.name = n ∧ ∃ kid token validation, call.job = .verify kid token validation ∧
      ∃ s, CameTo c.ttl (c.lane url).history n .lookup s ∧ s.number = stale ∧ s.set.find? kid = none
  /-- A verification that missed its key in a set and has come to its end stored a set itself, or was given another
  one without having sent a request, or sent a request that failed and returned that failure. -/
  ended : ∀ call ∈ (c.lane url).calls, ∀ kid token validation, call.job = .verify kid token validation →
    ∀ s, CameTo c.ttl (c.lane url).history call.name .lookup s → s.set.find? kid = none →
      ∀ a, call.stage = .finished a →
        Refetched (c.lane url).history call.name s (decided (c.checks url call.name) · kid token validation) a

variable {c : KeySetCache} {url : Url} {h : History} {ttl : Int} {n : CallName} {stale q : Nat}

theorem Fact.renews_iff {f : Fact} :
    f.renews stale = true ↔ ∃ n q e, f = .stored n (.replacement stale) q e := by
  constructor
  · intro hRenews
    cases f with
    | stored n purpose q e =>
      cases purpose with
      | lookup => cases hRenews
      | replacement number =>
        obtain rfl : number = stale := beq_iff_eq.1 hRenews
        exact ⟨n, q, e, rfl⟩
    | _ => cases hRenews
  · rintro ⟨n, q, e, rfl⟩
    exact beq_self_eq_true stale

/-- After a download has replaced a set, none that replaces it can end: its request would have been sent while the
set was still the entry. -/
theorem Lawful.not_renewed_twice {before mid later : History} {t' t : Instant} {n' : CallName} {q' : Nat} {e' e : Entry}
    (hLawful : Lawful ttl (before ++ (t', .stored n' (.replacement stale) q' e') :: mid ++
      (t, .stored n (.replacement stale) q e) :: later))
    (hApart : Apart (before ++ (t', .stored n' (.replacement stale) q' e') :: mid ++
      (t, .stored n (.replacement stale) q e) :: later))
    (hKept : ¬ Happened mid .invalidated) : False := by
  obtain ⟨mid, t₀, rest, rfl, s, m, p, r, known, -, hContent, hStale⟩ :=
    hLawful.split.known_when_sent hApart.split hKept hLawful.allows.1
  have hSent : Lawful ttl (before ++ (t', .stored n' (.replacement stale) q' e') :: mid) := by
    have hEarly := hLawful.split
    rw [← List.cons_append, ← List.append_assoc] at hEarly
    exact hEarly.split
  have hLatest := hSent.number_of_content hContent
  have hStill : known.stored.number = stale := not_not.1 hStale
  have hCame : CameTo ttl (before ++ (t', .stored n' (.replacement stale) q' e') :: mid) n' (.replacement stale)
      e'.stored := .inl ⟨q', e', ⟨t', by simp⟩, rfl⟩
  have hNewer := hSent.newer hCame
  have hLess := hSent.number_lt hCame.mem_sets
  omega

theorem Lawful.countP_renews (hLawful : Lawful ttl h) (hApart : Apart h) (hKept : ¬ Happened h .invalidated)
    (stale : Nat) : h.countP (·.2.renews stale) ≤ 1 := by
  induction h using List.reverseRecOn with
  | nil => exact Nat.zero_le 1
  | append_singleton past last ih =>
    obtain ⟨t, f⟩ := last
    have hPast := ih hLawful.split hApart.split fun hOld => hKept (hOld.append_left _)
    rw [List.countP_append, List.countP_singleton]
    by_cases hRenews : f.renews stale = true
    · have hNone : past.countP (·.2.renews stale) = 0 := by
        rw [List.countP_eq_zero]
        rintro ⟨t', f'⟩ hMem hRenews'
        obtain ⟨n', q', e', rfl⟩ := Fact.renews_iff.1 hRenews'
        obtain ⟨n, q, e, rfl⟩ := Fact.renews_iff.1 hRenews
        obtain ⟨before, mid, rfl⟩ := List.append_of_mem hMem
        refine hLawful.not_renewed_twice hApart fun hBetween => hKept ?_
        obtain ⟨s, hMid⟩ := hBetween
        exact ⟨s, by simp [hMid]⟩
      simp [hNone, hRenews]
    · simpa [hRenews] using hPast

theorem Lawful.sent_of_ended {f : Fact} {purpose : Purpose} {t : Instant} (hLawful : Lawful ttl h) (hMem : (t, f) ∈ h)
    (hLoads : ∀ past, Allows ttl past t f → progress past n = .loading purpose q) :
    Happened h (.sent n purpose q) := by
  obtain ⟨past, later, rfl⟩ := List.append_of_mem hMem
  exact (sent_of_loading (hLoads past hLawful.allows)).append_left _

theorem Lawful.unsent_of_found {past later : History} {t : Instant} {number : Nat}
    (hLawful : Lawful ttl (past ++ (t, .found n (.replacement stale) number) :: later)) (stale' q : Nat) :
    ¬ Happened (past ++ (t, .found n (.replacement stale) number) :: later) (.sent n (.replacement stale') q) := by
  -- whoever has sent a request for a replacement is past looking for one, and this call looks for one here
  rintro ⟨t', hMem⟩
  obtain ⟨hSeeks, -⟩ := hLawful.allows
  rcases List.mem_append.1 hMem with hPast | hRest
  · have hReached := hLawful.split.rank_le_of_mem hPast rfl
    rcases hSeeks.cases with ⟨-, hLookup⟩ | ⟨number', hRead, -⟩
    · cases hLookup
    · rw [hRead] at hReached
      simp [Progress.rank] at hReached
  · have hLater := (List.mem_cons.1 hRest).resolve_left (by simp)
    rw [List.append_cons] at hLawful
    have hRank := hLawful.rank_lt_of_later hLater rfl
    rw [progress_snoc_self rfl] at hRank
    simp [Progress.rank] at hRank

theorem Recorded.built_of_stored {x : Surroundings} {l : Lane} {a : Activity} (hRecorded : Recorded x l a) {s : Stored}
    (hs : s ∈ sets l.history) : ∃ r, request x.url = .ok r := by
  obtain ⟨m, purpose, q, e, ⟨t, hMem⟩, -⟩ := mem_sets_iff.1 hs
  have hSent := hRecorded.stocked.lawful.sent_of_ended hMem fun _ hAllowed => hAllowed.1
  have hRequests : (requests l.history).length ≠ 0 := fun hNone => by
    have hRequest := mem_requests_iff.2 ⟨m, purpose, hSent⟩
    rw [List.length_eq_zero_iff.1 hNone] at hRequest
    cases hRequest
  rw [← hRecorded.stocked.requests] at hRequests
  obtain ⟨call, hCall⟩ := List.exists_mem_of_length_pos (Nat.pos_of_ne_zero hRequests)
  exact ⟨_, hRecorded.stocked.built call hCall⟩

theorem Recorded.refetched (hRecorded : Recorded (c.surroundings url) (c.lane url) .idle)
    (hDistinct : (c.lane url).Distinct) {call : Call} (hMem : call ∈ (c.lane url).calls) {kid token : String}
    {validation : Jwt.Validation} (hJob : call.job = .verify kid token validation) {s : Stored}
    (hCame : CameTo c.ttl (c.lane url).history call.name .lookup s) (hNone : s.set.find? kid = none) {a : Answer}
    (hStage : call.stage = .finished a) :
    Refetched (c.lane url).history call.name s (decided (c.checks url call.name) · kid token validation) a := by
  have hLawful : Lawful c.ttl (c.lane url).history := hRecorded.stocked.lawful
  rcases (hRecorded.verified hDistinct hMem hJob).missed s hCame hNone with
    hUnfinished | ⟨request, e, ⟨t, hFailed⟩, hFailure⟩ | ⟨s', hAgain, hSecond⟩
  · exact absurd hStage (hUnfinished a)
  · cases hStage.symm.trans hFailure
    cases request with
    | none =>
      -- requests can be built for this URL, as one was whose reply has been stored
      obtain ⟨fault, hFault, -⟩ := hRecorded.stocked.grounded t _ hFailed
      obtain ⟨r, hBuilt⟩ := hRecorded.built_of_stored hCame.mem_sets
      cases hBuilt.symm.trans hFault
    | some q => exact .failed (hLawful.sent_of_ended hFailed fun _ hAllowed => hAllowed) ⟨t, hFailed⟩
  · obtain rfl : a = decided (c.checks url call.name) s' kid token validation :=
        Stage.finished.inj (hStage.symm.trans hSecond)
    rcases hAgain with ⟨q, e, ⟨t, hStored⟩, rfl⟩ | ⟨past, t, later, e, hHistory, hLast, rfl, hSuits⟩
    · exact .stored (hLawful.sent_of_ended hStored fun _ hAllowed => hAllowed.1) ⟨t, hStored⟩
    · refine .joined ?_ ⟨past, t, later, e, hHistory, hLast, rfl⟩ fun stale q => ?_
      · rintro rfl
        exact hSuits rfl
      · rw [hHistory] at hLawful ⊢
        exact hLawful.unsent_of_found stale q

theorem answer?_eq_none {x : Surroundings} {n : CallName} {s : Stored} {job : Job} (hMissed : answer? x n s job = none) :
    ∃ kid token validation, job = .verify kid token validation ∧ s.set.find? kid = none := by
  cases job with
  | fetch => cases hMissed
  | verify kid token validation => exact ⟨kid, token, validation, rfl, Option.map_eq_none_iff.1 hMissed⟩

theorem Lawful.cameTo_of_reads (hLawful : Lawful ttl h) {purpose : Purpose} {number : Nat}
    (hReads : Reads h n purpose (.ok number)) : ∃ s, CameTo ttl h n purpose s ∧ s.number = number := by
  have hLess : number < (sets h).length := by
    obtain ⟨t, f, hMem, hf⟩ := hReads
    obtain ⟨past, later, rfl⟩ := List.append_of_mem hMem
    have hCount := (hLawful.number_of_reads hf).2
    rw [List.append_cons, sets_append, List.length_append]
    omega
  rw [← List.mem_range, ← hLawful.sets_number] at hLess
  obtain ⟨s, hs, rfl⟩ := List.mem_map.1 hLess
  exact ⟨s, hLawful.cameTo hReads hs, rfl⟩

theorem Course.missed_of_sent {x : Surroundings} {job : Job} {stage : Stage} (hCourse : Course x h n job stage)
    (hLawful : Lawful x.ttl h) (hSent : Happened h (.sent n (.replacement stale) q)) :
    ∃ s, CameTo x.ttl h n .lookup s ∧ s.number = stale ∧ answer? x n s job = none := by
  have hReads : Reads h n .lookup (.ok stale) := by
    obtain ⟨t, hMem⟩ := hSent
    obtain ⟨past, later, rfl⟩ := List.append_of_mem hMem
    exact (Lawful.reads_of_seeks hLawful.allows.1).append _
  obtain ⟨s, hCame, hNumber⟩ := hLawful.cameTo_of_reads hReads
  refine ⟨s, hCame, hNumber, ?_⟩
  have hSame {s' : Stored} (hCame' : CameTo x.ttl h n .lookup s') : s' = s := hLawful.cameTo_unique hCame' hCame
  cases hCourse with
  | looking hNone => exact absurd hCame (hNone s)
  | failed hNone => exact absurd hCame (hNone s)
  | answered _ _ hAlone => exact absurd hSent (hAlone stale q)
  | replacing hCame' hMissed => exact hSame hCame' ▸ hMissed
  | unreplaced hCame' hMissed => exact hSame hCame' ▸ hMissed
  | replaced hCame' hMissed => exact hSame hCame' ▸ hMissed

theorem Recorded.missed (hRecorded : Recorded (c.surroundings url) (c.lane url) .idle)
    (hDistinct : (c.lane url).Distinct) (hSent : Happened (c.lane url).history (.sent n (.replacement stale) q)) :
    ∃ call ∈ (c.lane url).calls, call.name = n ∧ ∃ kid token validation, call.job = .verify kid token validation ∧
      ∃ s, CameTo c.ttl (c.lane url).history n .lookup s ∧ s.number = stale ∧ s.set.find? kid = none := by
  have hLawful : Lawful c.ttl (c.lane url).history := hRecorded.stocked.lawful
  obtain ⟨t, hMem⟩ := hSent
  have hRank := hLawful.rank_le_of_mem hMem rfl
  -- the call has got somewhere, so the lane knows it
  cases hStage : (c.lane url).stage? n with
  | none =>
    have hFits := hRecorded.fitsStage n
    rw [hStage] at hFits
    rw [show progress (c.lane url).history n = .absent from hFits] at hRank
    simp [Progress.rank] at hRank
  | some stage =>
    obtain ⟨call, hCall, rfl, -⟩ := (Lane.stage?_eq_some_iff hDistinct).1 hStage
    refine ⟨call, hCall, rfl, ?_⟩
    rcases hRecorded.named_or_refused hCall with hNamed | ⟨token, validation, e, -, -, -, hEarly⟩
    · obtain ⟨s, hCame, hNumber, hMissed⟩ := (hRecorded.course hDistinct hCall hNamed).missed_of_sent hLawful ⟨t, hMem⟩
      obtain ⟨kid, token, validation, hJob, hNone⟩ := answer?_eq_none hMissed
      exact ⟨kid, token, validation, hJob, s, hCame, hNumber, hNone⟩
    · have hRefused := hEarly t _ _ hMem rfl (by simp)
      simp [Progress.rank] at hRefused

/-- In every run, for every URL that is not invalidated, each key set is replaced by one successful download however
many verifications miss their keys in it. -/
theorem run_refetches (ttl : Int) (classify : Classifier) (clock : Clock) (checks : Checks) (events : List Event)
    (url : Url) (hKept : .invalidate url ∉ events) : Refetches ((empty ttl classify clock checks).run events) url := by
  have hRecorded := recorded_run ttl classify clock checks events url
  have hExcluded := excluded_run ttl classify clock checks events url
  have hNever : ¬ Happened (((empty ttl classify clock checks).run events).lane url).history .invalidated := by
    intro hTold
    rcases told_of_run hTold with ⟨t, hMem⟩ | ⟨event, hMem, rfl⟩
    · cases hMem
    · exact hKept hMem
  constructor
  · intro stale
    exact hRecorded.stocked.lawful.countP_renews hExcluded.loaded.single hNever stale
  · intro n stale q hSent
    exact hRecorded.missed hExcluded.distinct hSent
  · intro call hMem kid token validation hJob s hCame hNone a hStage
    exact hRecorded.refetched hExcluded.distinct hMem hJob hCame hNone hStage

/-- Two verifications that overlap miss the same key, and one download serves both. -/
theorem lateJoin_refetches : .invalidate sampleUrl ∉ lateJoin ∧
    (((new defaultTtl asNetworkError ⟨⟨0, by decide, by decide⟩⟩ 0).run lateJoin).lane sampleUrl).history.countP
      (·.2.renews 0) = 1 ∧
    Refetches ((new defaultTtl asNetworkError ⟨⟨0, by decide, by decide⟩⟩ 0).run lateJoin) sampleUrl := by
  have hKept : .invalidate sampleUrl ∉ lateJoin := by simp [lateJoin]
  exact ⟨hKept, by decide +kernel, run_refetches _ _ _ _ _ _ hKept⟩

end BearerTokens.KeySetCache
