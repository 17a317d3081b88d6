import BearerTokens.Proofs.KeySetCache.Balance
import BearerTokens.Proofs.KeySetCache.Calls
import BearerTokens.Proofs.KeySetCache.Pacing
import BearerTokens.Proofs.KeySetCache.Refetch
import BearerTokens.Proofs.KeySetCache.Transparency

/-!
# Coalescing of fetches

Fetches of one URL that overlap make do with one set. Each download that comes to nothing costs one request and
fails one call, the one that sent it; the first that brings a set brings it for all calls that are left, in
whatever order they get the guard.
-/

set_option autoImplicit false

namespace BearerTokens.KeySetCache

open BearerTokens.Http BearerTokens.Time

variable {ttl : Int} {h past later : History} {n : CallName} {purpose : Purpose} {q : Nat}

/-- At a URL nothing begins but fetches, nothing is invalidated, and the clock stands still. -/
def Event.IsFetching (url : Url) : Event → Prop
  | .call target _ inquiry _ => target = url → inquiry = .fetch
  | .invalidate target => target ≠ url
  | .setClock _ => False
  | _ => True

variable {c : KeySetCache} {url : Url} {events : List Event} {x : Surroundings} {l : Lane}

theorem surroundings_of_fetching {event : Event} (hFetching : event.IsFetching url) :
    (c.step event).surroundings url = c.surroundings url := by
  cases event with
  | setClock now => exact hFetching.elim
  | _ => rfl

theorem adds_of_fetching (hFetching : ∀ event ∈ events, event.IsFetching url) :
    Adds (c.surroundings url) (· ≠ .invalidated) (c.lane url).history ((c.run events).lane url).history := by
  induction events generalizing c with
  | nil => exact .none rfl
  | cons event events ih =>
    have hEvent := hFetching event List.mem_cons_self
    have hFirst : Adds (c.surroundings url) (· ≠ .invalidated) (c.lane url).history
        ((c.step event).lane url).history := by
      refine (step_adds c url event).mono ?_
      rintro f hTells rfl
      have hInvalidates : event = .invalidate url := hTells
      subst hInvalidates
      exact hEvent rfl
    have hRest := ih (c := c.step event) fun event' hMem => hFetching event' (List.mem_cons_of_mem event hMem)
    rw [surroundings_of_fetching hEvent] at hRest
    exact hFirst.trans hRest

/-- Whoever is there after such a run was there before, or fetches. -/
theorem calls_of_fetching (hFetching : ∀ event ∈ events, event.IsFetching url) {call : Call}
    (hMem : call ∈ ((c.run events).lane url).calls) :
    (∃ old ∈ (c.lane url).calls, old.name = call.name ∧ old.job = call.job) ∨ call.job = .fetch := by
  induction events generalizing c with
  | nil => exact .inl ⟨call, hMem, rfl, rfl⟩
  | cons event events ih =>
    rcases ih (c := c.step event) (fun event' hRest => hFetching event' (List.mem_cons_of_mem event hRest)) hMem with
      ⟨old, hOld, hName, hJob⟩ | hFetch
    · rcases call_of_step hOld with ⟨first, hFirst, hName', hJob'⟩ | ⟨inquiry, ready, rfl, hNew⟩
      · exact .inl ⟨first, hFirst, hName'.trans hName, hJob'.trans hJob⟩
      · have hInquiry : inquiry = .fetch := hFetching _ List.mem_cons_self rfl
        exact .inr (hJob.symm.trans (hNew hInquiry))
    · exact .inr hFetch

theorem progress_of_purpose {f : Fact} (hf : f.purpose? = some (n, purpose)) :
    ∃ p, f.progress? = some (n, p) ∧ p ≠ .over ∧ (p.rank ≤ 3 → purpose = .lookup) := by
  have hRead (r : Except Error Nat) : (Progress.read purpose r).rank ≤ 3 → purpose = .lookup := by
    cases purpose <;> simp [Progress.rank]
  cases f with
  | sent call p q =>
    cases hf
    refine ⟨_, rfl, by simp, ?_⟩
    cases purpose <;> simp [Progress.rank]
  | stored call p q e =>
    cases hf
    exact ⟨_, rfl, by simp, hRead _⟩
  | failed call p q e =>
    cases hf
    exact ⟨_, rfl, by simp, hRead _⟩
  | found call p number =>
    cases hf
    exact ⟨_, rfl, by simp, hRead _⟩
  | _ => cases hf

theorem Warranted.lookup (hWarranted : Warranted x h n .fetch purpose) : purpose = .lookup := by
  cases purpose with
  | lookup => rfl
  | replacement stale =>
    obtain ⟨s, -, -, hMissed⟩ := hWarranted
    cases hMissed

/-- A fetch misses no key, and so it replaces no set. -/
theorem Recorded.lookup_of_fetch (hRecorded : Recorded x l .idle) (hDistinct : l.Distinct) {call : Call}
    (hMem : call ∈ l.calls) (hJob : call.job = .fetch) {f : Fact} (hTold : Happened l.history f)
    (hf : f.purpose? = some (call.name, purpose)) : purpose = .lookup := by
  obtain ⟨p, hp, hOver, hLow⟩ := progress_of_purpose hf
  obtain ⟨t, hFact⟩ := hTold
  apply hLow
  have hLawful := hRecorded.stocked.lawful
  have hFits := hRecorded.fitsStage call.name
  have hAccounted := hRecorded.placed.accounted call hMem
  rw [(Lane.stage?_eq_some_iff hDistinct).2 ⟨call, hMem, rfl, rfl⟩] at hFits
  rw [hJob] at hAccounted
  cases hStage : call.stage with
  | queued purpose' g =>
    rw [hStage] at hFits hAccounted
    obtain rfl := hAccounted.2.lookup
    have hReached := hLawful.rank_le_of_mem hFact hp
    have hEarly := rank_of_waits (.inl hFits)
    omega
  | downloading purpose' g q =>
    rw [hStage] at hFits hAccounted
    obtain rfl := hAccounted.2.lookup
    have hReached := hLawful.rank_le_of_mem hFact hp
    have hEarly := rank_of_waits (.inr ⟨q, hFits⟩)
    omega
  | finished a =>
    rw [hStage] at hAccounted
    obtain ⟨past, t', later, hHistory, ⟨-, token, validation, e, hVerify, -⟩ |
      ⟨-, purpose', result, hRead, -, hWarranted, -⟩⟩ := hAccounted
    · cases hVerify
    · obtain rfl := hWarranted.lookup
      rw [hHistory] at hLawful hFact
      have hReached := hLawful.split.rank_le_of_mem (hLawful.mem_before_over rfl hFact hp hOver) hp
      rw [hRead] at hReached
      exact hReached
  | cancelled =>
    rw [hStage] at hAccounted
    obtain ⟨-, past, t', later, purpose', hHistory, hWaits, hWarranted⟩ := hAccounted
    obtain rfl := hWarranted.lookup
    rw [hHistory] at hLawful hFact
    have hReached := hLawful.split.rank_le_of_mem (hLawful.mem_before_over rfl hFact hp hOver) hp
    have hEarly := rank_of_waits hWaits
    omega

theorem Lawful.not_waits_of_failed (hLawful : Lawful ttl h) {e : Error} (hReads : Reads h n .lookup (.error e)) :
    ¬ (progress h n).Waits purpose := by
  intro hWaits
  cases purpose with
  | lookup =>
    have hReached : 3 ≤ (progress h n).rank := hLawful.rank_le_of_reads hReads
    have hEarly := rank_of_waits hWaits
    omega
  | replacement stale =>
    have hOther := hLawful.reads_of_replaces (.inl hWaits)
    cases (hLawful.reads_unique hReads hOther rfl).2

/-- The failure of a download is what its call returns. -/
theorem Recorded.answer_of_failed (hRecorded : Recorded x l .idle) (hDistinct : l.Distinct) {e : Error}
    {request : Option Nat} (hFailed : Happened l.history (.failed n .lookup request e)) :
    l.answer? n = some (.failure e) := by
  have hLawful := hRecorded.stocked.lawful
  obtain ⟨t, hFact⟩ := hFailed
  have hReads : Reads l.history n .lookup (.error e) := ⟨t, _, hFact, rfl⟩
  have hFits := hRecorded.fitsStage n
  rw [Lane.answer?_eq_some_iff]
  cases hStage : l.stage? n with
  | none =>
    rw [hStage] at hFits
    have hReached := hLawful.rank_le_of_reads hReads
    rw [show progress l.history n = .absent from hFits] at hReached
    simp [Progress.rank] at hReached
  | some stage =>
    obtain ⟨call, hMem, rfl, rfl⟩ := (Lane.stage?_eq_some_iff hDistinct).1 hStage
    have hAccounted := hRecorded.placed.accounted call hMem
    rw [hStage] at hFits
    cases hCase : call.stage with
    | queued purpose g =>
      rw [hCase] at hFits
      exact absurd (.inl hFits) (hLawful.not_waits_of_failed hReads)
    | downloading purpose g q =>
      rw [hCase] at hFits
      exact absurd (.inr ⟨q, hFits⟩) (hLawful.not_waits_of_failed hReads)
    | finished a =>
      rw [hCase] at hAccounted
      obtain ⟨past, t', later, hHistory, hConcludes⟩ := hAccounted
      rw [hHistory] at hLawful hReads
      have hBefore := hLawful.reads_before_over rfl hReads
      have hReached := hLawful.split.rank_le_of_reads hBefore
      rcases hConcludes with ⟨hBegun, -⟩ | ⟨-, purpose, result, hRead, -, -, hConclusion⟩
      · rw [hBegun] at hReached
        simp [Progress.rank] at hReached
      · cases purpose with
        | lookup =>
          have hSame := (hLawful.split.reads_unique hBefore (reads_of_progress hRead) rfl).2
          cases result with
          | ok s => cases hSame
          | error e' =>
            cases hSame
            cases hConclusion
            rfl
        | replacement stale =>
          have hOther := hLawful.split.reads_of_replaces (.inr ⟨_, hRead⟩)
          cases (hLawful.split.reads_unique hBefore hOther rfl).2
    | cancelled =>
      rw [hCase] at hAccounted
      obtain ⟨-, past, t', later, purpose, hHistory, hWaits, -⟩ := hAccounted
      rw [hHistory] at hLawful hReads
      exact absurd hWaits (hLawful.split.not_waits_of_failed (hLawful.reads_before_over rfl hReads))

def Lane.Idle (l : Lane) : Prop :=
  ∀ call ∈ l.calls, call.stage.guard? = none

theorem Excluded.downloads_of_idle (hExcluded : Excluded l .idle) (hIdle : l.Idle) : downloads l.history = [] := by
  refine List.eq_nil_iff_forall_not_mem.2 ?_
  rintro ⟨n, q⟩ hMem
  obtain ⟨g, hTie⟩ := (hExcluded.loaded.listed n q).1 hMem
  obtain ⟨call, hCall, -, ⟨purpose, hStage⟩ | ⟨purpose, q', hStage⟩⟩ := hExcluded.call_of_tie hTie
  · have hFree := hIdle call hCall
    rw [hStage] at hFree
    cases hFree
  · have hFree := hIdle call hCall
    rw [hStage] at hFree
    cases hFree

/-- Whatever is told later is told of calls that begin later. -/
theorem Recorded.unknown_of_later (hRecorded : Recorded x l .idle) (hDistinct : l.Distinct) (hIdle : l.Idle)
    (hLawful : Lawful ttl (l.history ++ later)) {f : Fact} {p : Progress} (hTold : Happened later f)
    (hf : f.progress? = some (n, p)) : l.stage? n = none := by
  obtain ⟨t, hMem⟩ := hTold
  have hRank := hLawful.rank_lt_of_later hMem hf
  have hFits := hRecorded.fitsStage n
  cases hStage : l.stage? n with
  | none => rfl
  | some stage =>
    have hOver : progress l.history n = .over := by
      obtain ⟨call, hCall, rfl, rfl⟩ := (Lane.stage?_eq_some_iff hDistinct).1 hStage
      have hFree := hIdle call hCall
      rw [hStage] at hFits
      cases hCase : call.stage with
      | queued purpose g =>
        rw [hCase] at hFree
        cases hFree
      | downloading purpose g q =>
        rw [hCase] at hFree
        cases hFree
      | finished a =>
        rw [hCase] at hFits
        exact hFits
      | cancelled =>
        rw [hCase] at hFits
        exact hFits
    rw [hOver] at hRank
    exact absurd hRank (Nat.not_lt.2 p.rank_le_over)

theorem Recorded.later_of_unknown (hRecorded : Recorded x l .idle) (hUnknown : l.stage? n = none) {f : Fact}
    {p : Progress} (hTold : Happened (l.history ++ later) f) (hf : f.progress? = some (n, p)) : Happened later f :=
  (happened_append.1 hTold).resolve_left (hRecorded.untold_of_unknown hUnknown hf)

theorem Recorded.split_of_unknown (hRecorded : Recorded x l .idle) (hUnknown : l.stage? n = none) {f : Fact}
    {p : Progress} (hf : f.progress? = some (n, p)) {t : Instant} {rest : History}
    (hSplit : l.history ++ later = past ++ (t, f) :: rest) :
    ∃ mid, past = l.history ++ mid ∧ later = mid ++ (t, f) :: rest := by
  rcases List.append_eq_append_iff.1 hSplit with ⟨mid, hPast, hLater⟩ | ⟨mid, hStart, hRest⟩
  · exact ⟨mid, hPast, hLater⟩
  · cases mid with
    | nil => exact ⟨[], by simpa using hStart.symm, hRest.symm⟩
    | cons first mid =>
      obtain ⟨rfl, -⟩ := List.cons.inj hRest
      exact absurd ⟨t, by simp [hStart]⟩ (hRecorded.untold_of_unknown hUnknown hf)

/-- What fetches come to that begin in a lane without a young set while no other call has to do with it. -/
structure Coalesced (url : Url) (start l : Lane) (later : History) : Prop where
  /-- As long as no set is stored, every request was lost or is under way. -/
  unsuccessful : sets later = [] → (requests later).length = lost later + (downloads later).length
  /-- The first download that succeeds is the last, and all others were lost before. -/
  successful : ∀ mid t n purpose q e after, later = mid ++ (t, .stored n purpose q e) :: after →
    sets later = [e.stored] ∧ (requests later).length = lost mid + 1 ∧ lost later = lost mid ∧ downloads later = []
  /-- The failure of a download is returned by the call that sent its request. -/
  own : ∀ n purpose q e, Happened later (.failed n purpose (some q) e) →
    Happened later (.sent n purpose q) ∧ l.answer? n = some (.failure e)
  /-- If no request can be built for the URL, every call that would send one returns why. -/
  unbuilt : ∀ n purpose e, Happened later (.failed n purpose none e) →
    (∃ fault, request url = .error fault ∧ e = .config fault) ∧ l.answer? n = some (.failure e)
  /-- No call returns another failure. -/
  alone : ∀ n e, start.stage? n = none → l.answer? n = some (.failure e) →
    ∃ q, Happened later (.failed n .lookup q e)
  /-- All other calls return the set that is stored. -/
  shared : ∀ n a, start.stage? n = none → l.answer? n = some a →
    (∃ e, a = .failure e) ∨ ∃ s, a = .set s ∧ sets later = [s]
  /-- When no call gets on any more and no request waits for an answer, every call has returned that was not
  cancelled, and no download is under way. -/
  returned : l.Quiet → (∀ q, l.transport.isWaiting q = false) → downloads later = [] ∧
    ∀ n, Happened later (.began n) → Happened later (.cancelled n) ∨ ∃ a, l.answer? n = some a

structure Stretch (x₀ x : Surroundings) (start l : Lane) (later : History) : Prop where
  positive : 0 < x.ttl
  stale : start.fresh? x₀.now x.ttl = none
  idle : start.Idle
  recorded₀ : Recorded x₀ start .idle
  excluded₀ : Excluded start .idle
  recorded : Recorded x l .idle
  excluded : Excluded l .idle
  attended : Attended l .idle
  history : l.history = start.history ++ later
  still : ∀ p ∈ later, p.1 = x₀.now
  kept : ¬ Happened later .invalidated
  fetches : ∀ call ∈ l.calls, start.stage? call.name = none → call.job = .fetch

namespace Stretch

variable {x₀ : Surroundings} {start : Lane}

theorem lawful (h : Stretch x₀ x start l later) : Lawful x.ttl (start.history ++ later) :=
  h.history ▸ h.recorded.stocked.lawful

theorem apart (h : Stretch x₀ x start l later) : Apart (start.history ++ later) :=
  h.history ▸ h.excluded.loaded.single

theorem happened (h : Stretch x₀ x start l later) {f : Fact} (hTold : Happened later f) : Happened l.history f :=
  h.history ▸ happened_append.2 (.inr hTold)

theorem known_of_later (h : Stretch x₀ x start l later) {f : Fact} {p : Progress} (hTold : Happened later f)
    (hf : f.progress? = some (n, p)) : ∃ call ∈ l.calls, call.name = n := by
  obtain ⟨t, hMem⟩ := h.happened hTold
  have hRank := h.recorded.stocked.lawful.rank_le_of_mem hMem hf
  have hFits := h.recorded.fitsStage n
  cases hStage : l.stage? n with
  | none =>
    rw [hStage] at hFits
    rw [show progress l.history n = .absent from hFits] at hRank
    exact absurd (f.rank_pos hf) (Nat.not_lt.2 hRank)
  | some stage =>
    obtain ⟨call, hCall, hName, -⟩ := (Lane.stage?_eq_some_iff h.excluded.distinct).1 hStage
    exact ⟨call, hCall, hName⟩

theorem unknown (h : Stretch x₀ x start l later) {f : Fact} {p : Progress} (hTold : Happened later f)
    (hf : f.progress? = some (n, p)) : start.stage? n = none :=
  h.recorded₀.unknown_of_later h.excluded₀.distinct h.idle h.lawful hTold hf

theorem fetching (h : Stretch x₀ x start l later) : Fetching later x₀.now where
  still := h.still
  kept := h.kept
  lookups f n purpose hTold hf := by
    obtain ⟨p, hp, -⟩ := progress_of_purpose hf
    obtain ⟨call, hMem, rfl⟩ := h.known_of_later hTold hp
    have hJob := h.fetches call hMem (h.unknown hTold hp)
    exact h.recorded.lookup_of_fetch h.excluded.distinct hMem hJob (h.happened hTold) hf

theorem balance (h : Stretch x₀ x start l later) :
    (requests later).length = lost later + (sets later).length + (downloads later).length :=
  h.lawful.requests_balance h.apart (h.excluded₀.downloads_of_idle h.idle)

theorem quiet_after_stored (h : Stretch x₀ x start l later) {mid after : History} {t : Instant} {e : Entry}
    (hSplit : later = mid ++ (t, .stored n purpose q e) :: after) (f : Fact) (hf : Happened after f) :
    f.isOfDownload = false := by
  have hLawful := h.lawful
  have hApart := h.apart
  rw [hSplit, ← List.append_assoc] at hLawful hApart
  refine hLawful.quiet_after_stored h.positive hApart (h.fetching.of_sublist fun p hMem => ?_) f hf
  rw [hSplit]
  exact List.mem_append_right mid hMem

theorem successful (h : Stretch x₀ x start l later) {mid after : History} {t : Instant} {e : Entry}
    (hSplit : later = mid ++ (t, .stored n purpose q e) :: after) :
    sets later = [e.stored] ∧ (requests later).length = lost mid + 1 ∧ lost later = lost mid ∧ downloads later = [] := by
  have hQuiet := h.quiet_after_stored hSplit
  have hBalance := h.balance
  have hNone : downloads (mid ++ [(t, .stored n purpose q e)]) = [] := by
    have hAll : start.history ++ later = (start.history ++ mid ++ [(t, .stored n purpose q e)]) ++ after := by
      simp [hSplit]
    have hEnded := (hAll ▸ h.lawful).split.downloads_of_stored (hAll ▸ h.apart).split
    rwa [List.append_assoc, downloads_append (h.excluded₀.downloads_of_idle h.idle)] at hEnded
  have hFirst : sets mid = [] := by
    refine List.eq_nil_iff_forall_not_mem.2 fun s hs => ?_
    obtain ⟨m, p, r, e', ⟨t', hMem⟩, -⟩ := mem_sets_iff.1 hs
    obtain ⟨before, between, rfl⟩ := List.append_of_mem hMem
    have hEarlier := h.quiet_after_stored (hSplit.trans (List.append_assoc ..)) (.stored n purpose q e) ⟨t, by simp⟩
    cases hEarlier
  obtain ⟨hLost, hSets, -⟩ := lost_of_quiet hNone hQuiet
  have hWhole : later = (mid ++ [(t, .stored n purpose q e)]) ++ after := by simp [hSplit]
  have hEnd : downloads later = [] := by
    rw [hWhole]
    exact downloads_eq_nil_of_quiet hNone hQuiet
  have hOne : sets later = [e.stored] := by
    rw [hWhole, sets_append, sets_snoc, hFirst, hSets]
    rfl
  have hSame : lost later = lost mid := by
    rw [hWhole, hLost, lost_snoc]
    rfl
  refine ⟨hOne, ?_, hSame, hEnd⟩
  rw [hBalance, hOne, hEnd, hSame]
  rfl

theorem own (h : Stretch x₀ x start l later) {request : Option Nat} {e : Error}
    (hFailed : Happened later (.failed n purpose request e)) : l.answer? n = some (.failure e) := by
  obtain rfl := h.fetching.lookups _ n purpose hFailed rfl
  exact h.recorded.answer_of_failed h.excluded.distinct (h.happened hFailed)

theorem sent_of_failed (h : Stretch x₀ x start l later) {e : Error}
    (hFailed : Happened later (.failed n purpose (some q) e)) : Happened later (.sent n purpose q) := by
  obtain ⟨t, hMem⟩ := h.happened hFailed
  have hSent := h.recorded.stocked.lawful.sent_of_ended hMem fun _ hAllowed => hAllowed
  rw [h.history] at hSent
  exact h.recorded₀.later_of_unknown (h.unknown hFailed rfl) hSent rfl

theorem fault_of_failed (h : Stretch x₀ x start l later) {e : Error}
    (hFailed : Happened later (.failed n purpose none e)) : ∃ fault, request x.url = .error fault ∧ e = .config fault := by
  obtain ⟨t, hMem⟩ := h.happened hFailed
  exact h.recorded.stocked.grounded t _ hMem

/-- A call that begins meanwhile is a fetch, and has taken the course of one. -/
theorem course (h : Stretch x₀ x start l later) (hUnknown : start.stage? n = none) {a : Answer}
    (hAnswer : l.answer? n = some a) : Course x l.history n .fetch (.finished a) := by
  obtain ⟨call, hMem, rfl, hStage⟩ :=
    (Lane.stage?_eq_some_iff h.excluded.distinct).1 (Lane.answer?_eq_some_iff.1 hAnswer)
  have hJob := h.fetches call hMem hUnknown
  have hNamed : call.job.Named := by
    rw [hJob]
    trivial
  rw [← hJob, ← hStage]
  exact h.recorded.course h.excluded.distinct hMem hNamed

theorem alone (h : Stretch x₀ x start l later) (hUnknown : start.stage? n = none) {e : Error}
    (hAnswer : l.answer? n = some (.failure e)) : ∃ q, Happened later (.failed n .lookup q e) := by
  cases h.course hUnknown hAnswer with
  | looking _ hUnfinished => exact absurd rfl (hUnfinished _)
  | failed _ hFault =>
    obtain ⟨q, hFailed⟩ := hFault.failed
    rw [h.history] at hFailed
    exact ⟨q, h.recorded₀.later_of_unknown hUnknown hFailed rfl⟩
  | answered _ hHit => cases hHit
  | replacing _ hMissed => cases hMissed
  | unreplaced _ hMissed => cases hMissed

/-- A set that a call comes to meanwhile was stored meanwhile: the one that was there before is too old. -/
theorem mem_sets_later (h : Stretch x₀ x start l later) (hUnknown : start.stage? n = none) {s : Stored}
    (hCame : CameTo x.ttl l.history n .lookup s) : s ∈ sets later := by
  have hLawful := h.lawful
  rw [h.history] at hCame
  rcases hCame with ⟨q, e, hStored, rfl⟩ | ⟨past, t, rest, e, hSplit, hLast, rfl, hSuits⟩
  · exact mem_sets_iff.2 ⟨n, .lookup, q, e, h.recorded₀.later_of_unknown hUnknown hStored rfl, rfl⟩
  · obtain ⟨mid, rfl, rfl⟩ := h.recorded₀.split_of_unknown hUnknown rfl hSplit
    have hContent := content_eq_some_iff.2 hLast
    have hNow : t = x₀.now := h.still (t, .found n .lookup e.stored.number) (by simp)
    rw [← List.append_assoc] at hLawful
    by_cases hNone : sets mid = []
    · have hQuiet : ∀ f, Happened mid f → f.replaces = false := by
        intro f hf
        cases f with
        | stored m p r e' =>
          have hSet := mem_sets_iff.2 ⟨m, p, r, e', hf, rfl⟩
          rw [hNone] at hSet
          cases hSet
        | invalidated => exact absurd (hf.append_left _) h.kept
        | _ => rfl
      have hEntry : start.entry = some e := by
        rw [h.recorded₀.stocked.entry, ← content_append_of_quiet hQuiet]
        exact hContent
      have hYoung : x₀.now.since e.fetchedAt < x.ttl := hNow ▸ hSuits
      have hStale := h.stale
      simp [Lane.fresh?, hEntry, hYoung] at hStale
    · have hLast := hLawful.split.number_of_content hContent
      have hSome := List.length_pos_of_ne_nil hNone
      rw [sets_append, List.length_append] at hLast
      rw [sets_append, List.mem_append]
      refine .inl (hLawful.split.stored_later (content_eq_some_iff.1 hContent).mem_sets ?_)
      omega

theorem shared (h : Stretch x₀ x start l later) (hUnknown : start.stage? n = none) {a : Answer}
    (hAnswer : l.answer? n = some a) : (∃ e, a = .failure e) ∨ ∃ s, a = .set s ∧ sets later = [s] := by
  cases h.course hUnknown hAnswer with
  | looking _ hUnfinished => exact absurd rfl (hUnfinished a)
  | @failed e => exact .inl ⟨e, rfl⟩
  | @answered s _ hCame hHit =>
    obtain rfl := Option.some.inj hHit
    have hSet := h.mem_sets_later hUnknown hCame
    obtain ⟨m, p, q, e, ⟨t, hMem⟩, rfl⟩ := mem_sets_iff.1 hSet
    obtain ⟨mid, after, hSplit⟩ := List.append_of_mem hMem
    exact .inr ⟨e.stored, rfl, (h.successful hSplit).1⟩
  | replacing _ hMissed => cases hMissed
  | @unreplaced _ e => exact .inl ⟨e, rfl⟩
  | replaced _ hMissed => cases hMissed

theorem returned (h : Stretch x₀ x start l later) (hQuiet : l.Quiet)
    (hAnswered : ∀ q, l.transport.isWaiting q = false) : downloads later = [] ∧
      ∀ n, Happened later (.began n) → Happened later (.cancelled n) ∨ ∃ a, l.answer? n = some a := by
  have hOver {call : Call} (hMem : call ∈ l.calls) := h.attended.over_of_quiet h.excluded hQuiet hAnswered hMem
  constructor
  · have hIdle : l.Idle := by
      intro call hMem
      rcases hOver hMem with ⟨a, hStage⟩ | hStage
      · rw [hStage]
        rfl
      · rw [hStage]
        rfl
    have hNone := h.excluded.downloads_of_idle hIdle
    rwa [h.history, downloads_append (h.excluded₀.downloads_of_idle h.idle)] at hNone
  · intro n hBegan
    obtain ⟨call, hMem, rfl⟩ := h.known_of_later hBegan rfl
    rcases hOver hMem with ⟨a, hStage⟩ | hStage
    · have hKnown := (Lane.stage?_eq_some_iff h.excluded.distinct).2 ⟨call, hMem, rfl, hStage⟩
      exact .inr ⟨a, Lane.answer?_eq_some_iff.2 hKnown⟩
    · have hTold := h.recorded.told_of_cancelled hMem hStage
      rw [h.history] at hTold
      exact .inl (h.recorded₀.later_of_unknown (h.unknown hBegan rfl) hTold rfl)

theorem coalesced (h : Stretch x₀ x start l later) : Coalesced x.url start l later where
  unsuccessful hNone := by rw [h.balance, hNone, List.length_nil, Nat.add_zero]
  successful mid t n purpose q e after hSplit := h.successful hSplit
  own n purpose q e hFailed := ⟨h.sent_of_failed hFailed, h.own hFailed⟩
  unbuilt n purpose e hFailed := ⟨h.fault_of_failed hFailed, h.own hFailed⟩
  alone n e hUnknown hAnswer := h.alone hUnknown hAnswer
  shared n a hUnknown hAnswer := h.shared hUnknown hAnswer
  returned := h.returned

end Stretch

/-- In every run, for every URL without a young set and without calls: if only fetches follow, however many, in
whatever order they get the guard and whichever fail or are cancelled, they coalesce. -/
theorem run_coalesced (ttl : Int) (classify : Classifier) (clock : Clock) (checks : Checks) (before events : List Event)
    (url : Url) {c : KeySetCache} (hStart : c = (empty ttl classify clock checks).run before) (hTtl : 0 < ttl)
    (hStale : (c.lane url).fresh? c.clock.now ttl = none) (hIdle : (c.lane url).Idle)
    (hFetching : ∀ event ∈ events, event.IsFetching url) :
    ∃ later, ((c.run events).lane url).history = (c.lane url).history ++ later ∧
      Coalesced url (c.lane url) ((c.run events).lane url) later := by
  have hRecorded₀ := recorded_run ttl classify clock checks before url
  obtain ⟨hExcluded₀, -⟩ := attended_run ttl classify clock checks before url
  have hRecorded := recorded_run ttl classify clock checks (before ++ events) url
  obtain ⟨hExcluded, hAttended⟩ := attended_run ttl classify clock checks (before ++ events) url
  have hSame : ((c.run events).surroundings url).ttl = ttl := by
    rw [hStart, ← run_append]
    exact ttl_run _ _
  rw [run_append, ← hStart] at hRecorded hExcluded hAttended
  rw [← hStart] at hRecorded₀ hExcluded₀
  obtain ⟨later, hHistory, hLater⟩ := adds_of_fetching hFetching
  suffices hStretch : Stretch (c.surroundings url) ((c.run events).surroundings url) (c.lane url)
      ((c.run events).lane url) later from ⟨later, hHistory, hStretch.coalesced⟩
  constructor
  · rwa [hSame]
  · rwa [hSame]
  · exact hIdle
  · exact hRecorded₀
  · exact hExcluded₀
  · exact hRecorded
  · exact hExcluded
  · exact hAttended
  · exact hHistory
  · exact fun p hMem => (hLater p hMem).1
  · rintro ⟨t, hMem⟩
    exact (hLater _ hMem).2 rfl
  · intro call hMem hUnknown
    rcases calls_of_fetching hFetching hMem with ⟨old, hOld, hName, -⟩ | hFetch
    · have hKnown := (Lane.stage?_eq_some_iff hExcluded₀.distinct).2 ⟨old, hOld, hName, rfl⟩
      rw [hUnknown] at hKnown
      cases hKnown
    · exact hFetch

def expiry : List Event :=
  [.call sampleUrl "z" .fetch [emptySetReply], .setClock expired]

/-- Of four fetches that overlap the first is cancelled, the second is refused, the third brings a set, and the
fourth finds it. -/
def stampede : List Event :=
  [.call sampleUrl "a" .fetch [], .call sampleUrl "b" .fetch [], .call sampleUrl "c" .fetch [],
    .call sampleUrl "d" .fetch [], .cancel sampleUrl "a", .resume sampleUrl "b" [],
    .reply sampleUrl 2 (.response ⟨500, []⟩), .resume sampleUrl "b" [], .resume sampleUrl "c" [emptySetReply],
    .resume sampleUrl "d" []]

theorem stampede_coalesced : ∃ c, c = (new defaultTtl asNetworkError ⟨⟨0, by decide, by decide⟩⟩ 0).run expiry ∧
    0 < defaultTtl ∧ (c.lane sampleUrl).fresh? c.clock.now defaultTtl = none ∧ (c.lane sampleUrl).Idle ∧
    (∀ event ∈ stampede, event.IsFetching sampleUrl) ∧
    (requests ((c.run stampede).lane sampleUrl).history).length = 1 + (2 + 1) ∧
    ∃ later, ((c.run stampede).lane sampleUrl).history = (c.lane sampleUrl).history ++ later ∧
      Coalesced sampleUrl (c.lane sampleUrl) ((c.run stampede).lane sampleUrl) later := by
  have hTtl : 0 < defaultTtl := by decide
  have hStale : (((new defaultTtl asNetworkError ⟨⟨0, by decide, by decide⟩⟩ 0).run expiry).lane sampleUrl).fresh?
      expired defaultTtl = none := by decide +kernel
  have hIdle : ∀ call ∈ (((new defaultTtl asNetworkError ⟨⟨0, by decide, by decide⟩⟩ 0).run expiry).lane
      sampleUrl).calls, call.stage.guard? = none := by decide +kernel
  have hFetching : ∀ event ∈ stampede, event.IsFetching sampleUrl := by
    simp [stampede, Event.IsFetching]
  exact ⟨_, rfl, hTtl, hStale, hIdle, hFetching, by decide +kernel,
    run_coalesced _ _ _ _ _ _ _ rfl hTtl hStale hIdle hFetching⟩

end BearerTokens.KeySetCache
