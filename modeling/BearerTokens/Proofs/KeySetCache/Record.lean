import BearerTokens.Proofs.KeySetCache.History
import BearerTokens.Proofs.KeySetCache.Tie

/-!
# What is on record

A lane at every moment is what its history says: the entry, the count of sets and of requests follow from it,
every call has got as far in the lane as in the history, every set came with a reply to a request, and every
answer follows from what the call has read. Moves keep all of that.
-/

set_option autoImplicit false

namespace BearerTokens.KeySetCache

open BearerTokens.Http BearerTokens.Time Relation

/-- What stands behind the end of a download: the reply to its request, or the fault of a request. -/
def Grounded (x : Surroundings) (transport : Transport) : Fact → Prop
  | .stored _ _ request entry =>
    ∃ reply, transport.reply? request = some reply ∧ judge x.url x.classify reply = .ok entry.stored.set
  | .failed _ _ (some request) e =>
    ∃ reply, transport.reply? request = some reply ∧ judge x.url x.classify reply = .error e
  | .failed _ _ none e => ∃ fault, request x.url = .error fault ∧ e = .config fault
  | _ => True

def Fact.ends? : Fact → Option Nat
  | .stored _ _ request _ => some request
  | .failed _ _ request _ => request
  | _ => none

structure Stocked (x : Surroundings) (entry : Option Entry) (storedCount : Nat) (transport : Transport)
    (h : History) : Prop where
  lawful : Lawful x.ttl h
  entry : entry = content h
  storedCount : storedCount = (sets h).length
  requests : transport.calls.length = (requests h).length
  /-- All that was sent are requests for the key set of the URL. -/
  built : ∀ call ∈ transport.calls, request x.url = .ok call.request
  grounded : ∀ t f, (t, f) ∈ h → Grounded x transport f

variable {x : Surroundings} {transport transport' : Transport} {h : History} {entry : Option Entry} {k : Nat}
  {f : Fact}

theorem stocked_empty : Stocked x none 0 .empty [] where
  lawful := lawful_nil
  entry := rfl
  storedCount := rfl
  requests := rfl
  built := by simp [Transport.empty]
  grounded := by simp

theorem Grounded.mono (hGrounded : Grounded x transport f)
    (hReplies : ∀ q reply, f.ends? = some q → transport.reply? q = some reply →
      transport'.reply? q = some reply) : Grounded x transport' f := by
  cases f with
  | stored n p q e =>
    obtain ⟨reply, hCome, hJudged⟩ := hGrounded
    exact ⟨reply, hReplies q reply rfl hCome, hJudged⟩
  | failed n p request e =>
    cases request with
    | none => exact hGrounded
    | some q =>
      obtain ⟨reply, hCome, hJudged⟩ := hGrounded
      exact ⟨reply, hReplies q reply rfl hCome, hJudged⟩
  | _ => trivial

theorem Stocked.snoc (hStocked : Stocked x entry k transport h) (hAllowed : Allows x.ttl h x.now f)
    (hRequests : transport'.calls.length = transport.calls.length + f.request?.toList.length)
    (hReplies : ∀ t g q reply, (t, g) ∈ h → g.ends? = some q → transport.reply? q = some reply →
      transport'.reply? q = some reply)
    (hBuilt : ∀ call ∈ transport'.calls, request x.url = .ok call.request)
    (hGrounded : Grounded x transport' f) :
    Stocked x (f.content entry) (k + f.set?.toList.length) transport' (h ++ [(x.now, f)]) where
  lawful := hStocked.lawful.snoc hAllowed
  entry := by rw [content_snoc, hStocked.entry]
  storedCount := by rw [sets_snoc, List.length_append, hStocked.storedCount]
  requests := by rw [requests_snoc, List.length_append, hRequests, hStocked.requests]
  built := hBuilt
  grounded t g hMem := by
    rcases List.mem_append.1 hMem with hOld | hNew
    · exact (hStocked.grounded t g hOld).mono (hReplies t g · · hOld)
    · cases List.mem_singleton.1 hNew
      exact hGrounded

/-- A fact of a history that neither sends a request nor changes what has become of one. -/
theorem Stocked.still (hStocked : Stocked x entry k transport h) (hAllowed : Allows x.ttl h x.now f)
    (hRequest : f.request? = none) (hGrounded : Grounded x transport f) :
    Stocked x (f.content entry) (k + f.set?.toList.length) transport (h ++ [(x.now, f)]) :=
  hStocked.snoc hAllowed (by simp [hRequest]) (fun _ _ _ _ _ _ hCome => hCome) hStocked.built hGrounded

theorem Stocked.send (hStocked : Stocked x entry k transport h) {n : CallName} {p : Purpose}
    (hAllowed : Allows x.ttl h x.now (.sent n p transport.nextNumber)) {r : Request} (hBuilt : request x.url = .ok r)
    (ready : Option Reply) :
    Stocked x entry k (transport.send r ready) (h ++ [(x.now, .sent n p transport.nextNumber)]) := by
  refine hStocked.snoc hAllowed (by simp [Fact.request?]) ?_ ?_ trivial
  · intro _ _ q reply _ _ hCome
    rw [Http.Transport.reply?_eq_some_iff] at hCome ⊢
    rw [Http.Transport.state?_send, if_neg]
    · exact hCome
    · rintro rfl
      simp [Http.Transport.state?, Http.Transport.nextNumber] at hCome
  · intro call hMem
    rcases List.mem_append.1 hMem with hOld | hNew
    · exact hStocked.built call hOld
    · cases List.mem_singleton.1 hNew
      exact hBuilt

theorem Stocked.answer (hStocked : Stocked x entry k transport h) {number : Nat} {reply : Reply}
    (hWaiting : transport.state? number = some .waiting) :
    Stocked x entry k (transport.answer number reply) (h ++ [(x.now, .replied number)]) := by
  have hSent : number ∈ KeySetCache.requests h := by
    obtain ⟨call, hCall, -⟩ := Option.map_eq_some_iff.1 hWaiting
    have hLess := (List.getElem?_eq_some_iff.1 hCall).1
    rw [hStocked.requests] at hLess
    rw [hStocked.lawful.requests_eq]
    exact List.mem_range.2 hLess
  have hAllowed : Allows x.ttl h x.now (.replied number) := hSent
  refine hStocked.snoc hAllowed (by simp [Fact.request?]) ?_ ?_ trivial
  · -- a download ends with a reply that has come, and the request answered here was still waiting
    intro _ _ q reply' _ _ hCome
    rw [Http.Transport.reply?_eq_some_iff] at hCome ⊢
    rw [Http.Transport.state?_answer hWaiting, if_neg]
    · exact hCome
    · rintro rfl
      rw [hWaiting] at hCome
      cases hCome
  · intro call hMem
    obtain ⟨old, hOld, rfl | rfl⟩ := mem_modify hMem
    · exact hStocked.built _ hOld
    · split
      · exact hStocked.built old hOld
      · exact hStocked.built _ hOld

theorem Lawful.not_ended {ttl : Int} (hLawful : Lawful ttl h) {n : CallName} {p : Purpose} {q : Nat}
    (hLoads : progress h n = .loading p q) {t : Instant} (hMem : (t, f) ∈ h) : f.ends? ≠ some q := by
  intro hEnds
  have hSent := sent_of_loading hLoads
  have hOver {call : CallName} {purpose : Purpose} {r : Except Error Nat}
      (hf : f.progress? = some (call, .read purpose r))
      (hBefore : ∀ before, Allows ttl before t f → progress before call = .loading purpose q) : False := by
    obtain ⟨before, after, rfl⟩ := List.append_of_mem hMem
    have hSent' := (sent_of_loading (hBefore before hLawful.allows)).append_left ((t, f) :: after)
    obtain ⟨rfl, rfl⟩ := hLawful.sender_unique hSent hSent'
    have hRank := hLawful.rank_le_of_mem hMem hf
    rw [hLoads] at hRank
    cases p <;> simp [Progress.rank] at hRank
  cases f with
  | stored call purpose request e =>
    cases hEnds
    exact hOver rfl fun _ hAllowed => hAllowed.1
  | failed call purpose request e =>
    cases hEnds
    exact hOver rfl fun _ hAllowed => hAllowed
  | _ => cases hEnds

theorem Stocked.abandon (hStocked : Stocked x entry k transport h) {n : CallName} {p : Purpose} {q : Nat}
    (hLoads : progress h n = .loading p q) :
    Stocked x entry k (transport.abandon q) (h ++ [(x.now, .cancelled n)]) := by
  have hAllowed : Allows x.ttl h x.now (.cancelled n) := ⟨p, .inr ⟨q, hLoads⟩⟩
  refine hStocked.snoc hAllowed (by simp [Fact.request?]) ?_ ?_ trivial
  · intro t g q' reply hMem hEnds hCome
    rw [Http.Transport.reply?_eq_some_iff] at hCome ⊢
    rw [Http.Transport.state?_abandon, if_neg]
    · exact hCome
    · rintro rfl
      exact hStocked.lawful.not_ended hLoads hMem hEnds
  · intro call hMem
    obtain ⟨old, hOld, rfl | rfl⟩ := mem_modify hMem
    · exact hStocked.built _ hOld
    · exact hStocked.built old hOld

namespace Progress

def FitsStage (p : Progress) : Option Stage → Prop
  | none => p = .absent
  | some (.queued purpose _) => p.Seeks purpose
  | some (.downloading purpose _ request) => p = .loading purpose request
  | some (.finished _) => p = .over
  | some .cancelled => p = .over

def FitsActivity (p : Progress) : Activity → Prop
  | .idle => True
  | .outside .. => p = .begun
  | .inside _ _ purpose _ => p.Seeks purpose
  | .loading _ _ purpose _ request => p = .loading purpose request
  | .done _ _ purpose result => p = .read purpose (result.map Stored.number)

end Progress

def Stands (l : Lane) (a : Activity) (n : CallName) : Prop :=
  if a.name? = some n then (progress l.history n).FitsActivity a
  else (progress l.history n).FitsStage (l.stage? n)

def Job.Named : Job → Prop
  | .fetch => True
  | .verify kid token _ => Jwt.keyId token = .ok kid

def Warranted (x : Surroundings) (h : History) (n : CallName) (job : Job) : Purpose → Prop
  | .lookup => True
  | .replacement stale => ∃ s ∈ sets h, s.number = stale ∧ answer? x n s job = none

/-- An answer follows from what the call has read in the end, or from the token alone. -/
def Concludes (x : Surroundings) (h : History) (n : CallName) (job : Job) (a : Answer) : Prop :=
  (progress h n = .begun ∧ ∃ token validation e, job = .verify "" token validation ∧
    Jwt.keyId token = .error e ∧ a = .failure (.keySet e)) ∨
  (job.Named ∧ ∃ purpose result, progress h n = .read purpose (result.map Stored.number) ∧
    (∀ s, result = .ok s → s ∈ sets h) ∧ Warranted x h n job purpose ∧ conclusion? x n job purpose result = some a)

def Accounted (x : Surroundings) (h : History) (n : CallName) (job : Job) : Stage → Prop
  | .queued purpose _ => job.Named ∧ Warranted x h n job purpose
  | .downloading purpose _ _ => job.Named ∧ Warranted x h n job purpose
  | .finished a => ∃ past t later, h = past ++ (t, .finished n) :: later ∧ Concludes x past n job a
  | .cancelled => job.Named ∧ ∃ past t later purpose, h = past ++ (t, .cancelled n) :: later ∧
      (progress past n).Waits purpose ∧ Warranted x past n job purpose

/-- What the history tells of the call at work. -/
def AtWork (x : Surroundings) (l : Lane) : Activity → Prop
  | .idle => True
  | .outside _ job => job.Named
  | .inside name job purpose _ => job.Named ∧ Warranted x l.history name job purpose
  | .loading name job purpose _ _ => job.Named ∧ Warranted x l.history name job purpose
  | .done name job purpose result => job.Named ∧ Warranted x l.history name job purpose ∧
      ∀ s, result = .ok s → s ∈ sets l.history ∧ (purpose = .lookup → l.entry.map (·.stored) = some s)

structure Placed (x : Surroundings) (l : Lane) (a : Activity) : Prop where
  stands : ∀ n, Stands l a n
  accounted : ∀ call ∈ l.calls, Accounted x l.history call.name call.job call.stage
  work : AtWork x l a

variable {l l' : Lane} {a a' : Activity} {name n : CallName} {job : Job} {purpose : Purpose}

theorem stands_of_name (hName : a.name? = some n) :
    Stands l a n ↔ (progress l.history n).FitsActivity a := by
  rw [Stands, if_pos hName]

theorem stands_of_other (hName : a.name? ≠ some n) :
    Stands l a n ↔ (progress l.history n).FitsStage (l.stage? n) := by
  rw [Stands, if_neg hName]

theorem Warranted.append (hWarranted : Warranted x h n job purpose) (later : History) :
    Warranted x (h ++ later) n job purpose := by
  cases purpose with
  | lookup => trivial
  | replacement stale =>
    obtain ⟨s, hs, hNumber, hMissed⟩ := hWarranted
    refine ⟨s, ?_, hNumber, hMissed⟩
    rw [sets_append]
    exact List.mem_append_left _ hs

theorem Accounted.append {stage : Stage} (hAccounted : Accounted x h n job stage) (later : History) :
    Accounted x (h ++ later) n job stage := by
  cases stage with
  | queued p g => exact ⟨hAccounted.1, hAccounted.2.append later⟩
  | downloading p g q => exact ⟨hAccounted.1, hAccounted.2.append later⟩
  | finished a =>
    obtain ⟨past, t, rest, rfl, hConcludes⟩ := hAccounted
    exact ⟨past, t, rest ++ later, by simp, hConcludes⟩
  | cancelled =>
    obtain ⟨hNamed, past, t, rest, p, rfl, hWaits, hWarranted⟩ := hAccounted
    exact ⟨hNamed, past, t, rest ++ later, p, by simp, hWaits, hWarranted⟩

theorem placed_empty : Placed x .empty .idle where
  stands n := rfl
  accounted := by simp [Lane.empty]
  work := trivial

/-- One call goes on, and perhaps adds to the history what concerns it; all others are left as they were. -/
theorem Placed.step (hPlaced : Placed x l a) (name : CallName) (hBefore : a.Concerns name)
    (hAfter : a'.Concerns name) (hStages : ∀ n, n ≠ name → l'.stage? n = l.stage? n)
    {later : History} (hHistory : l'.history = l.history ++ later)
    (hLater : ∀ t f, (t, f) ∈ later → ∀ n p, f.progress? = some (n, p) → n = name)
    (hSelf : Stands l' a' name)
    (hCalls : ∀ call ∈ l'.calls, call ∈ l.calls ∨ Accounted x l'.history call.name call.job call.stage)
    (hWork : AtWork x l' a') : Placed x l' a' where
  stands n := by
    by_cases hn : n = name
    · rwa [hn]
    · have hOther := (stands_of_other (hBefore.other hn)).1 (hPlaced.stands n)
      have hProgress : progress l'.history n = progress l.history n := by
        rw [hHistory, progress_append_of_other]
        rintro f p ⟨t, hMem⟩ hf
        exact hn (hLater t f hMem n p hf)
      rw [stands_of_other (hAfter.other hn), hProgress, hStages n hn]
      exact hOther
  accounted call hMem := by
    rcases hCalls call hMem with hOld | hNew
    · rw [hHistory]
      exact (hPlaced.accounted call hOld).append later
    · exact hNew
  work := hWork

structure Recorded (x : Surroundings) (l : Lane) (a : Activity) : Prop where
  stocked : Stocked x l.entry l.storedCount l.transport l.history
  placed : Placed x l a

theorem recorded_empty : Recorded x .empty .idle := ⟨stocked_empty, placed_empty⟩

/-- Guards have no part in the record. -/
theorem Recorded.of_parts (hRecorded : Recorded x l a) (hEntry : l'.entry = l.entry)
    (hCount : l'.storedCount = l.storedCount) (hCalls : l'.calls = l.calls)
    (hTransport : l'.transport = l.transport) (hHistory : l'.history = l.history) : Recorded x l' a := by
  obtain ⟨hStocked, hStands, hAccounted, hWork⟩ := hRecorded
  obtain ⟨entry, count, guards, guard, calls, transport, history⟩ := l
  obtain ⟨entry', count', guards', guard', calls', transport', history'⟩ := l'
  subst hEntry hCount hCalls hTransport hHistory
  exact ⟨hStocked, hStands, hAccounted, hWork⟩

theorem Recorded.leave (hRecorded : Recorded x l a) (g : Nat) (name : CallName) :
    Recorded x (l.leaveGuard g name) a :=
  hRecorded.of_parts (by simp) (by simp) (by simp) (by simp) (by simp)

theorem Recorded.turn (hRecorded : Recorded x l a) (hBefore : a.Concerns name) (hAfter : a'.name? = some name)
    (hFits : (progress l.history name).FitsActivity a') (hWork : AtWork x l a') : Recorded x l a' :=
  ⟨hRecorded.stocked, hRecorded.placed.step name hBefore (.inr hAfter) (fun _ _ => rfl) (List.append_nil _).symm
    (by simp) ((stands_of_name hAfter).2 hFits) (fun _ hMem => .inl hMem) hWork⟩

theorem only_of_fact {now : Instant} {p : Progress} (hFact : f.progress? = some (name, p)) (t : Instant) (g : Fact)
    (hMem : (t, g) ∈ [(now, f)]) (n : CallName) (p' : Progress) (hg : g.progress? = some (n, p')) : n = name := by
  cases List.mem_singleton.1 hMem
  rw [hFact] at hg
  cases hg
  rfl

/-- The call at work does something that the history tells. -/
theorem Recorded.tell (hRecorded : Recorded x l a) {p : Progress} (hFact : f.progress? = some (name, p))
    (hBefore : a.Concerns name) (hAfter : a'.name? = some name)
    (hStocked : Stocked x l'.entry l'.storedCount l'.transport l'.history) (hCalls : l'.calls = l.calls)
    (hHistory : l'.history = l.history ++ [(x.now, f)]) (hFits : p.FitsActivity a') (hWork : AtWork x l' a') :
    Recorded x l' a' := by
  refine ⟨hStocked, hRecorded.placed.step name hBefore (.inr hAfter) (fun n _ => ?_) hHistory
    (only_of_fact hFact) ?_ ?_ hWork⟩
  · unfold Lane.stage?
    rw [hCalls]
  · rw [stands_of_name hAfter, hHistory, progress_snoc_self hFact]
    exact hFits
  · intro call hMem
    rw [hCalls] at hMem
    exact .inl hMem

/-- The call at work is left at a stage, and the history may tell why. -/
theorem Recorded.settle (hRecorded : Recorded x l a) (hBefore : a.Concerns name) (job : Job) (stage : Stage)
    (later : History) (hLater : ∀ t f, (t, f) ∈ later → ∀ n p, f.progress? = some (n, p) → n = name)
    (hFits : (progress (l.history ++ later) name).FitsStage (some stage))
    (hAccounted : Accounted x (l.history ++ later) name job stage)
    (hStocked : Stocked x l'.entry l'.storedCount l'.transport l'.history)
    (hCalls : l'.calls = (l.setCall ⟨name, job, stage⟩).calls) (hHistory : l'.history = l.history ++ later) :
    Recorded x l' .idle := by
  have hStage (n : CallName) : l'.stage? n = (l.setCall ⟨name, job, stage⟩).stage? n := by
    unfold Lane.stage?
    rw [hCalls]
  refine ⟨hStocked, hRecorded.placed.step name hBefore (Activity.concerns_idle name) (fun n hn => ?_) hHistory
    hLater ?_ ?_ trivial⟩
  · rw [hStage, Lane.stage?_setCall_of_other _ hn]
  · rw [stands_of_other (by simp [Activity.name?]), hHistory, hStage, Lane.stage?_setCall, if_pos rfl]
    exact hFits
  · intro call hMem
    rw [hCalls] at hMem
    rcases Lane.mem_calls_setCall hMem with rfl | hOld
    · right
      rw [hHistory]
      exact hAccounted
    · exact .inl hOld

theorem Recorded.fitsStage (hRecorded : Recorded x l .idle) (n : CallName) :
    (progress l.history n).FitsStage (l.stage? n) :=
  (stands_of_other (by simp [Activity.name?])).1 (hRecorded.placed.stands n)

theorem Recorded.fitsActivity (hRecorded : Recorded x l a) (hName : a.name? = some n) :
    (progress l.history n).FitsActivity a :=
  (stands_of_name hName).1 (hRecorded.placed.stands n)

theorem Recorded.untold_of_unknown (hRecorded : Recorded x l .idle) (hUnknown : l.stage? n = none) {f : Fact}
    {p : Progress} (hf : f.progress? = some (n, p)) : ¬ Happened l.history f := by
  rintro ⟨t, hMem⟩
  have hAbsent := hRecorded.fitsStage n
  rw [hUnknown] at hAbsent
  have hRank := hRecorded.stocked.lawful.rank_le_of_mem hMem hf
  rw [show progress l.history n = .absent from hAbsent] at hRank
  exact absurd (f.rank_pos hf) (Nat.not_lt.2 hRank)

theorem suits_of_ready {now : Instant} {ttl : Int} {s : Stored} (hReady : l.ready? now ttl purpose = some s) :
    ∃ e : Entry, l.entry = some e ∧ e.stored = s ∧ e.Suits now ttl purpose := by
  cases purpose with
  | lookup =>
    have hFresh : l.fresh? now ttl = some s := hReady
    unfold Lane.fresh? at hFresh
    split at hFresh
    · rename_i e hEntry
      split at hFresh
      · rename_i hYoung
        exact ⟨e, hEntry, Option.some.inj hFresh, hYoung⟩
      · cases hFresh
    · cases hFresh
  | replacement stale =>
    have hKept : (l.entry.map (·.stored)).filter (fun s => s.number != stale) = some s := hReady
    obtain ⟨hStored, hOther⟩ := Option.filter_eq_some_iff.1 hKept
    obtain ⟨e, hEntry, rfl⟩ := Option.map_eq_some_iff.1 hStored
    exact ⟨e, hEntry, rfl, by simpa [Entry.Suits] using hOther⟩

theorem not_suits_of_not_ready {now : Instant} {ttl : Int} (hNeeded : l.ready? now ttl purpose = none)
    {e : Entry} (hEntry : l.entry = some e) : ¬ e.Suits now ttl purpose := by
  cases purpose with
  | lookup => simpa [Lane.ready?, Lane.fresh?, hEntry, Entry.Suits] using hNeeded
  | replacement stale => simpa [Lane.ready?, hEntry, Entry.Suits, Option.filter] using hNeeded

theorem Recorded.begin {w : Work} (hRecorded : Recorded x w.lane .idle) (hUnknown : w.lane.stage? name = none)
    (hNamed : job.Named) : Recorded x (w.record x [.began name]).lane (.outside name job) := by
  have hAbsent := hRecorded.fitsStage name
  rw [hUnknown] at hAbsent
  have hAllowed : Allows x.ttl w.lane.history x.now (.began name) := hAbsent
  exact hRecorded.tell rfl (Activity.concerns_idle name) rfl (hRecorded.stocked.still hAllowed rfl trivial) rfl rfl
    rfl hNamed

theorem Concludes.allows {ttl : Int} {t : Instant} {answer : Answer}
    (hConcludes : Concludes x h name job answer) : Allows ttl h t (.finished name) := by
  rcases hConcludes with ⟨hBegun, -⟩ | ⟨-, purpose, result, hRead, -⟩
  · exact .inl hBegun
  · exact .inr ⟨purpose, _, hRead⟩

theorem Recorded.finish {w : Work} (hRecorded : Recorded x w.lane a) (hName : a.name? = some name)
    {answer : Answer} (hConcludes : Concludes x w.lane.history name job answer) :
    Recorded x (w.finish x name job answer).lane .idle := by
  have hStocked := hRecorded.stocked.still hConcludes.allows rfl trivial
  refine hRecorded.settle (.inr hName) job (.finished answer) [(x.now, .finished name)] (only_of_fact rfl) ?_
    ⟨_, x.now, [], rfl, hConcludes⟩ ?_ rfl ?_
  · rw [progress_snoc_self rfl]
    rfl
  · simpa [Work.finish, Work.record, Work.setCall, Fact.content, Fact.set?] using hStocked
  · simp [Work.finish, Work.record, Work.setCall]

theorem Recorded.wait (hRecorded : Recorded x l a) (hName : a.name? = some name) {stage : Stage}
    (hFits : (progress l.history name).FitsStage (some stage))
    (hAccounted : Accounted x l.history name job stage) : Recorded x (l.setCall ⟨name, job, stage⟩) .idle := by
  refine hRecorded.settle (.inr hName) job stage [] (by simp) ?_ ?_ ?_ rfl (by simp)
  · simpa using hFits
  · simpa using hAccounted
  · simpa using hRecorded.stocked

theorem Recorded.find (hRecorded : Recorded x l a) (hName : a.name? = some name) (hNamed : job.Named)
    (hSeeks : (progress l.history name).Seeks purpose) (hWarranted : Warranted x l.history name job purpose)
    {s : Stored} (hReady : l.ready? x.now x.ttl purpose = some s) :
    Recorded x { l with history := l.history ++ [(x.now, .found name purpose s.number)] }
      (.done name job purpose (.ok s)) := by
  obtain ⟨e, hEntry, rfl, hSuits⟩ := suits_of_ready hReady
  have hContent : content l.history = some e := hRecorded.stocked.entry.symm.trans hEntry
  have hAllowed : Allows x.ttl l.history x.now (.found name purpose e.stored.number) :=
    ⟨hSeeks, e, hContent, rfl, hSuits⟩
  refine hRecorded.tell rfl (.inr hName) rfl (hRecorded.stocked.still hAllowed rfl trivial) rfl rfl rfl ?_
  refine ⟨hNamed, hWarranted.append _, ?_⟩
  rintro s ⟨⟩
  refine ⟨?_, fun _ => by rw [hEntry, Option.map_some]⟩
  rw [sets_append]
  exact List.mem_append_left _ (content_eq_some_iff.1 hContent).mem_sets

theorem Recorded.unbuilt (hRecorded : Recorded x l a) (hName : a.name? = some name) (hNamed : job.Named)
    (hSeeks : (progress l.history name).Seeks purpose) (hWarranted : Warranted x l.history name job purpose)
    (hNeeded : l.ready? x.now x.ttl purpose = none) {e : ConfigError} (hFault : request x.url = .error e) :
    Recorded x { l with history := l.history ++ [(x.now, .failed name purpose none (.config e))] }
      (.done name job purpose (.error (.config e))) := by
  have hAllowed : Allows x.ttl l.history x.now (.failed name purpose none (.config e)) :=
    ⟨hSeeks, fun e' hContent => not_suits_of_not_ready hNeeded (hRecorded.stocked.entry.trans hContent)⟩
  refine hRecorded.tell rfl (.inr hName) rfl (hRecorded.stocked.still hAllowed rfl ⟨e, hFault, rfl⟩) rfl rfl rfl ?_
  exact ⟨hNamed, hWarranted.append _, by simp⟩

theorem Recorded.send {w : Work} {g : Nat} (hRecorded : Recorded x w.lane (.inside name job purpose g))
    (hNeeded : w.lane.ready? x.now x.ttl purpose = none) {r : Request} (hBuilt : request x.url = .ok r) :
    Recorded x (w.send x name purpose r).lane
      (.loading name job purpose g w.lane.transport.nextNumber) := by
  have hSeeks : (progress w.lane.history name).Seeks purpose := hRecorded.fitsActivity rfl
  have hAllowed : Allows x.ttl w.lane.history x.now (.sent name purpose w.lane.transport.nextNumber) :=
    ⟨hSeeks, hRecorded.stocked.requests,
      fun e hContent => not_suits_of_not_ready hNeeded (hRecorded.stocked.entry.trans hContent)⟩
  obtain ⟨hNamed, hWarranted⟩ := hRecorded.placed.work
  exact hRecorded.tell rfl (.inr rfl) rfl (hRecorded.stocked.send hAllowed hBuilt w.ready.head?) rfl rfl rfl
    ⟨hNamed, hWarranted.append _⟩

theorem Recorded.fail {g number : Nat} (hRecorded : Recorded x l (.loading name job purpose g number))
    {reply : Reply} {e : Error} (hCome : l.transport.reply? number = some reply)
    (hJudged : judge x.url x.classify reply = .error e) :
    Recorded x { l with history := l.history ++ [(x.now, .failed name purpose (some number) e)] }
      (.done name job purpose (.error e)) := by
  have hAllowed : Allows x.ttl l.history x.now (.failed name purpose (some number) e) :=
    hRecorded.fitsActivity rfl
  obtain ⟨hNamed, hWarranted⟩ := hRecorded.placed.work
  exact hRecorded.tell rfl (.inr rfl) rfl (hRecorded.stocked.still hAllowed rfl ⟨reply, hCome, hJudged⟩) rfl rfl rfl
    ⟨hNamed, hWarranted.append _, by simp⟩

theorem Recorded.store {g number : Nat} (hRecorded : Recorded x l (.loading name job purpose g number))
    {reply : Reply} {set : KeySet} (hCome : l.transport.reply? number = some reply)
    (hJudged : judge x.url x.classify reply = .ok set) {e : Entry} (hEntry : e = ⟨⟨l.storedCount, set⟩, x.now⟩) :
    Recorded x
      { l with
        entry := some e
        storedCount := l.storedCount + 1
        history := l.history ++ [(x.now, .stored name purpose number e)] }
      (.done name job purpose (.ok e.stored)) := by
  have hLoads : progress l.history name = .loading purpose number := hRecorded.fitsActivity rfl
  subst hEntry
  have hAllowed : Allows x.ttl l.history x.now (.stored name purpose number ⟨⟨l.storedCount, set⟩, x.now⟩) :=
    ⟨hLoads, hRecorded.stocked.storedCount, rfl⟩
  obtain ⟨hNamed, hWarranted⟩ := hRecorded.placed.work
  refine hRecorded.tell rfl (.inr rfl) rfl (hRecorded.stocked.still hAllowed rfl ⟨reply, hCome, hJudged⟩) rfl rfl
    rfl ⟨hNamed, hWarranted.append _, ?_⟩
  rintro s ⟨⟩
  refine ⟨?_, fun _ => rfl⟩
  rw [sets_snoc]
  exact List.mem_append_right _ (List.mem_singleton.2 rfl)

theorem Recorded.giveUp {w : Work} {g : Nat} (hRecorded : Recorded x w.lane .idle)
    (hStocked : Stocked x w.lane.entry w.lane.storedCount transport
      (w.lane.history ++ [(x.now, .cancelled name)]))
    (hNamed : job.Named) (hWaits : (progress w.lane.history name).Waits purpose)
    (hWarranted : Warranted x w.lane.history name job purpose) :
    Recorded x ({ w with lane := { w.lane with transport := transport } }.giveUp x name job g).lane .idle := by
  refine hRecorded.settle (Activity.concerns_idle name) job .cancelled [(x.now, .cancelled name)]
    (only_of_fact rfl) ?_ ⟨hNamed, _, x.now, [], purpose, rfl, hWaits, hWarranted⟩ ?_ ?_ ?_
  · rw [progress_snoc_self rfl]
    rfl
  · simpa [Work.giveUp, Work.record, Work.setCall, Lane.modifyGuard] using hStocked
  · simp only [Work.giveUp, Work.record, Work.setCall, Lane.calls_setCall]
    rfl
  · simp [Work.giveUp, Work.record, Work.setCall, Lane.modifyGuard]

/-- Something happens that no call does. -/
theorem Recorded.befall (hRecorded : Recorded x l .idle) (hFact : f.progress? = none)
    (hStocked : Stocked x l'.entry l'.storedCount l'.transport l'.history) (hCalls : l'.calls = l.calls)
    (hHistory : l'.history = l.history ++ [(x.now, f)]) : Recorded x l' .idle := by
  have hNone (n : CallName) (p : Progress) : f.progress? ≠ some (n, p) := by simp [hFact]
  have hStage (n : CallName) : l'.stage? n = l.stage? n := by
    unfold Lane.stage?
    rw [hCalls]
  refine ⟨hStocked, fun n => ?_, fun call hMem => ?_, trivial⟩
  · rw [stands_of_other (by simp [Activity.name?]), hHistory, hStage, progress_snoc_other (hNone n)]
    exact hRecorded.fitsStage n
  · rw [hCalls] at hMem
    rw [hHistory]
    exact (hRecorded.placed.accounted call hMem).append _

theorem Recorded.left (hRecorded : Recorded x l .idle) {call : Call} {stage : Stage}
    (hKnown : l.calls.find? (·.name == name) = some call) (hStage : call.stage = stage) :
    (progress l.history name).FitsStage (some stage) ∧ Accounted x l.history name call.job stage := by
  have hName : call.name = name := beq_iff_eq.1 (List.find?_some (p := fun c : Call => c.name == name) hKnown)
  have hFits := hRecorded.fitsStage name
  have hAccounted := hRecorded.placed.accounted call (List.mem_of_find?_eq_some hKnown)
  rw [Lane.stage?_of_known hKnown, hStage] at hFits
  rw [hName, hStage] at hAccounted
  exact ⟨hFits, hAccounted⟩

theorem Recorded.move {m m' : Moment} (hMove : Move x m m') (hRecorded : Recorded x m.work.lane m.activity) :
    Recorded x m'.work.lane m'.activity := by
  cases hMove with
  | @begin w name inquiry job hUnknown hTask =>
    refine hRecorded.begin hUnknown ?_
    cases inquiry with
    | fetch =>
      cases hTask
      trivial
    | verify token validation =>
      cases hKey : Jwt.keyId token with
      | error e =>
        rw [Inquiry.job, hKey] at hTask
        cases hTask
      | ok kid =>
        rw [Inquiry.job, hKey] at hTask
        cases hTask
        exact hKey
  | @refuse w name token validation e hUnknown hFault =>
    -- a job that needs no key stands in until the call is finished
    have hBegun : Recorded x (w.record x [.began name]).lane (.outside name .fetch) :=
      hRecorded.begin hUnknown trivial
    exact hBegun.finish (w := w.record x [.began name]) rfl
      (.inl ⟨progress_snoc_self rfl, token, validation, e, rfl, hFault, rfl⟩)
  | @hit w name job s hFresh =>
    have hBegun : progress w.lane.history name = .begun := hRecorded.fitsActivity rfl
    have hSeeks : (progress w.lane.history name).Seeks .lookup := by
      rw [hBegun]
      exact rfl
    have hWarranted : Warranted x w.lane.history name job .lookup := trivial
    exact hRecorded.find rfl hRecorded.placed.work hSeeks hWarranted hFresh
  | @enter w name job =>
    have hBegun : progress w.lane.history name = .begun := hRecorded.fitsActivity rfl
    have hTurned : Recorded x w.lane (.inside name job .lookup w.newcomerGuard) := by
      refine hRecorded.turn (.inr rfl) rfl ?_ ⟨hRecorded.placed.work, trivial⟩
      rw [hBegun]
      exact rfl
    exact hTurned.of_parts w.lane.entry_takeGuard w.lane.storedCount_takeGuard w.lane.calls_takeGuard
      w.lane.transport_takeGuard w.lane.history_takeGuard
  | @miss w name job s hMissed =>
    have hRead : progress w.lane.history name = .read .lookup (.ok s.number) := hRecorded.fitsActivity rfl
    obtain ⟨hNamed, -, hSet⟩ := hRecorded.placed.work
    have hTurned : Recorded x w.lane (.inside name job (.replacement s.number) w.newcomerGuard) := by
      refine hRecorded.turn (.inr rfl) rfl ?_ ⟨hNamed, s, (hSet s rfl).1, rfl, hMissed⟩
      rw [hRead]
      exact rfl
    exact hTurned.of_parts w.lane.entry_takeGuard w.lane.storedCount_takeGuard w.lane.calls_takeGuard
      w.lane.transport_takeGuard w.lane.history_takeGuard
  | queue => exact hRecorded.wait rfl (hRecorded.fitsActivity rfl) hRecorded.placed.work
  | @find w name job purpose g s _ hReady =>
    obtain ⟨hNamed, hWarranted⟩ := hRecorded.placed.work
    have hFound := hRecorded.find rfl hNamed (hRecorded.fitsActivity rfl) hWarranted hReady
    have hLane : (w.find x name purpose s).lane =
        { w.lane with history := w.lane.history ++ [(x.now, .found name purpose s.number)] } := by
      cases purpose <;> rfl
    rw [← hLane] at hFound
    exact hFound.leave g name
  | @unbuilt w name job purpose g e _ hNeeded hFault =>
    obtain ⟨hNamed, hWarranted⟩ := hRecorded.placed.work
    exact (hRecorded.unbuilt rfl hNamed (hRecorded.fitsActivity rfl) hWarranted hNeeded hFault).leave g name
  | @send w name job purpose g r _ hNeeded hBuilt =>
    have hNoted : Recorded x (w.note openingNotes).lane (.inside name job purpose g) := hRecorded
    exact hNoted.send hNeeded hBuilt
  | wait => exact hRecorded.wait rfl (hRecorded.fitsActivity rfl) hRecorded.placed.work
  | @fail w name job purpose g number reply e hCome hJudged =>
    exact (hRecorded.fail hCome hJudged).leave g name
  | @store w name job purpose g number reply set hCome hJudged =>
    exact (hRecorded.store hCome hJudged rfl).leave g name
  | @finish w name job purpose result answer hConcluded =>
    obtain ⟨hNamed, hWarranted, hSet⟩ := hRecorded.placed.work
    exact hRecorded.finish rfl (.inr ⟨hNamed, purpose, result, hRecorded.fitsActivity rfl,
      fun s hs => (hSet s hs).1, hWarranted, hConcluded⟩)
  | @wake w name call purpose g hKnown hQueued =>
    obtain ⟨hFits, hAccounted⟩ := hRecorded.left hKnown hQueued
    have hTurned : Recorded x w.lane (.inside name call.job purpose g) :=
      hRecorded.turn (Activity.concerns_idle name) rfl hFits hAccounted
    exact hTurned.of_parts rfl rfl rfl rfl rfl
  | @reread w name call purpose g number hKnown hDownloading =>
    obtain ⟨hFits, hAccounted⟩ := hRecorded.left hKnown hDownloading
    exact hRecorded.turn (Activity.concerns_idle name) rfl hFits hAccounted
  | @cancelQueued w name call purpose g hKnown hQueued =>
    obtain ⟨hFits, hAccounted⟩ := hRecorded.left hKnown hQueued
    have hAllowed : Allows x.ttl w.lane.history x.now (.cancelled name) := ⟨purpose, .inl hFits⟩
    exact hRecorded.giveUp (hRecorded.stocked.still hAllowed rfl trivial) hAccounted.1 (.inl hFits) hAccounted.2
  | @cancelDownload w name call purpose g number hKnown hDownloading =>
    obtain ⟨hFits, hAccounted⟩ := hRecorded.left hKnown hDownloading
    exact hRecorded.giveUp (hRecorded.stocked.abandon hFits) hAccounted.1 (.inr ⟨number, hFits⟩) hAccounted.2
  | @reply w number reply hWaiting =>
    exact hRecorded.befall rfl (hRecorded.stocked.answer (Http.Transport.isWaiting_eq_true_iff.1 hWaiting)) rfl rfl
  | @invalidate w =>
    exact hRecorded.befall rfl (hRecorded.stocked.still (f := .invalidated) trivial rfl trivial) rfl rfl

theorem Recorded.downloading_of_loading (hRecorded : Recorded x l .idle) {q : Nat}
    (hLoads : progress l.history n = .loading purpose q) : ∃ g, l.stage? n = some (.downloading purpose g q) := by
  have hFits := hRecorded.fitsStage n
  rw [hLoads] at hFits
  cases hStage : l.stage? n with
  | none =>
    rw [hStage] at hFits
    cases hFits
  | some stage =>
    rw [hStage] at hFits
    cases stage with
    | downloading purpose' g q' =>
      cases hFits
      exact ⟨g, rfl⟩
    | _ => cases hFits

theorem Recorded.tick (hRecorded : Recorded x l .idle) (now : Instant) : Recorded { x with now := now } l .idle where
  stocked :=
    { lawful := hRecorded.stocked.lawful
      entry := hRecorded.stocked.entry
      storedCount := hRecorded.stocked.storedCount
      requests := hRecorded.stocked.requests
      built := hRecorded.stocked.built
      grounded := hRecorded.stocked.grounded }
  placed :=
    { stands := hRecorded.placed.stands
      accounted := hRecorded.placed.accounted
      work := trivial }

theorem recorded_run (ttl : Int) (classify : Classifier) (clock : Clock) (checks : Checks) (events : List Event)
    (url : Url) :
    Recorded (((empty ttl classify clock checks).run events).surroundings url)
      (((empty ttl classify clock checks).run events).lane url) .idle :=
  run_keeps (P := Recorded) Recorded.move (fun now hRest => hRest.tick now) recorded_empty events

theorem Recorded.step {c : KeySetCache} {url : Url} (hRecorded : Recorded (c.surroundings url) (c.lane url) .idle)
    (event : Event) : Recorded ((c.step event).surroundings url) ((c.step event).lane url) .idle :=
  run_keeps (P := Recorded) Recorded.move (fun now hRest => hRest.tick now) hRecorded [event]

end BearerTokens.KeySetCache
