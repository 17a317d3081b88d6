import BearerTokens.Proofs.KeySetCache.Exclusion
import BearerTokens.Proofs.KeySetCache.Reading
import BearerTokens.Proofs.KeySetCache.Record

/-!
# Verifications

A verification looks its key up in one set. If the set has the key, that key decides; if not, the set is replaced
once, and the key is looked up in a set that was stored later. So it sends two requests at most, and none for a
token that names no key.
-/

set_option autoImplicit false

namespace BearerTokens.KeySetCache

open BearerTokens.Http BearerTokens.Time Relation

variable {x : Surroundings} {h past later : History} {t : Instant} {l l' : Lane} {a a' : Activity}
  {name n : CallName} {job : Job} {purpose : Purpose}

def Activity.job? : Activity → Option Job
  | .idle => none
  | .outside _ job => some job
  | .inside _ job _ _ => some job
  | .loading _ job _ _ _ => some job
  | .done _ job _ _ => some job

def task? (l : Lane) (a : Activity) (n : CallName) : Option Job :=
  if a.name? = some n then a.job? else (l.calls.find? (·.name == n)).map (·.job)

theorem task?_turn (hName : a'.name? = a.name?) (hJob : a'.job? = a.job?) (hCalls : l'.calls = l.calls) :
    task? l' a' = task? l a := by
  funext n
  unfold task?
  rw [hName, hJob, hCalls]

theorem task?_settle (stage : Stage) (hSelf : task? l a name = some job ∨ task? l a name = none)
    (hConcerns : a.Concerns name) (hCalls : l'.calls = l.calls) {job' : Job}
    (hTask : task? l a n = some job') : task? (l'.setCall ⟨name, job, stage⟩) .idle n = some job' := by
  have hIdle : task? (l'.setCall ⟨name, job, stage⟩) .idle n =
      ((l'.setCall ⟨name, job, stage⟩).calls.find? (·.name == n)).map (·.job) := rfl
  rw [hIdle, Lane.find?_setCall, hCalls]
  by_cases hn : n = name
  · subst hn
    rw [if_pos rfl]
    rcases hSelf with hSame | hNone
    · exact hSame.symm.trans hTask
    · rw [hNone] at hTask
      cases hTask
  · rw [if_neg hn]
    unfold task? at hTask
    rwa [if_neg (hConcerns.other hn)] at hTask

theorem task?_take (hSelf : task? l .idle name = some job ∨ task? l .idle name = none)
    (hName : a.name? = some name) (hJob : a.job? = some job) (hCalls : l'.calls = l.calls) {job' : Job}
    (hTask : task? l .idle n = some job') : task? l' a n = some job' := by
  have hConcerns : a.Concerns name := .inr hName
  unfold task?
  by_cases hn : n = name
  · subst hn
    rw [if_pos hName, hJob]
    rcases hSelf with hSame | hNone
    · exact hSame.symm.trans hTask
    · rw [hNone] at hTask
      cases hTask
  · rw [if_neg (hConcerns.other hn), hCalls]
    exact hTask

theorem task?_eq_none_of_unknown (hUnknown : l.stage? name = none) : task? l .idle name = none := by
  have hNone : l.calls.find? (·.name == name) = none := Option.map_eq_none_iff.1 hUnknown
  unfold task?
  rw [if_neg (by simp [Activity.name?]), hNone, Option.map_none]

theorem task?_of_known {call : Call} (hKnown : l.calls.find? (·.name == name) = some call) :
    task? l .idle name = some call.job := by
  unfold task?
  rw [if_neg (by simp [Activity.name?]), hKnown, Option.map_some]

/-- A call that has something to do never gets anything else to do. -/
theorem Move.task? {m m' : Moment} (hMove : Move x m m')
    (hTask : KeySetCache.task? m.work.lane m.activity n = some job) :
    KeySetCache.task? m'.work.lane m'.activity n = some job := by
  have hTurn {l l' : Lane} {a a' : Activity} (hName : a'.name? = a.name?) (hJob : a'.job? = a.job?)
      (hCalls : l'.calls = l.calls) (hTask : KeySetCache.task? l a n = some job) :
      KeySetCache.task? l' a' n = some job := by
    rwa [task?_turn hName hJob hCalls]
  cases hMove with
  | @begin w name inquiry job hUnknown =>
    exact task?_take (.inr (task?_eq_none_of_unknown hUnknown)) rfl rfl rfl hTask
  | @refuse w name token validation e hUnknown =>
    have hCalls : (w.record x [.began name]).lane.calls = w.lane.calls := rfl
    exact task?_settle (.finished (.failure (.keySet e))) (.inr (task?_eq_none_of_unknown hUnknown))
      (Activity.concerns_idle name) hCalls hTask
  | hit => exact hTurn rfl rfl rfl hTask
  | @enter w => exact hTurn rfl rfl w.lane.calls_takeGuard hTask
  | @miss w => exact hTurn rfl rfl w.lane.calls_takeGuard hTask
  | @queue w name job purpose g =>
    have hSelf : KeySetCache.task? w.lane (.inside name job purpose g) name = some job := if_pos rfl
    exact task?_settle (.queued purpose g) (.inl hSelf) (.inr rfl) rfl hTask
  | @find w name job purpose g s =>
    refine hTurn rfl rfl ?_ hTask
    cases purpose <;> simp [Work.leave, Work.find, Work.record, Work.note]
  | unbuilt => exact hTurn rfl rfl (by simp [KeySetCache.fail, Work.leave, Work.record, Work.note]) hTask
  | send => exact hTurn rfl rfl rfl hTask
  | @wait w name job purpose g number =>
    have hSelf : KeySetCache.task? w.lane (.loading name job purpose g number) name = some job := if_pos rfl
    exact task?_settle (.downloading purpose g number) (.inl hSelf) (.inr rfl) rfl hTask
  | fail => exact hTurn rfl rfl (by simp [KeySetCache.fail, Work.leave, Work.record, Work.note]) hTask
  | store => exact hTurn rfl rfl (by simp [KeySetCache.store, Work.leave, Work.record, Work.note]) hTask
  | @finish w name job purpose result answer =>
    have hSelf : KeySetCache.task? w.lane (.done name job purpose result) name = some job := if_pos rfl
    exact task?_settle (.finished answer) (.inl hSelf) (.inr rfl) rfl hTask
  | @wake w name call purpose g hKnown =>
    exact task?_take (.inl (task?_of_known hKnown)) rfl rfl rfl hTask
  | @reread w name call purpose g number hKnown =>
    exact task?_take (.inl (task?_of_known hKnown)) rfl rfl rfl hTask
  | @cancelQueued w name call purpose g hKnown =>
    have hCalls : (w.lane.modifyGuard g (·.forget name)).calls = w.lane.calls := rfl
    exact task?_settle .cancelled (.inl (task?_of_known hKnown)) (Activity.concerns_idle name) hCalls hTask
  | @cancelDownload w name call purpose g number hKnown =>
    have hCalls : ({ w.lane with transport := w.lane.transport.abandon number }.modifyGuard g
        (·.forget name)).calls = w.lane.calls := rfl
    exact task?_settle .cancelled (.inl (task?_of_known hKnown)) (Activity.concerns_idle name) hCalls hTask
  | reply => exact hTurn rfl rfl rfl hTask
  | invalidate => exact hTurn rfl rfl rfl hTask

theorem task?_step {c : KeySetCache} {url : Url} (event : Event)
    (hTask : task? (c.lane url) .idle n = some job) : task? ((c.step event).lane url) .idle n = some job := by
  obtain ⟨ready, w, hChain, hLane⟩ := step_moves c url event
  rw [← hLane]
  exact chain_keeps (P := fun l a => task? l a n = some job) Move.task? hChain hTask

theorem exists_call_of_task (hTask : task? l .idle n = some job) :
    ∃ call ∈ l.calls, call.name = n ∧ call.job = job := by
  obtain ⟨call, hKnown, hJob⟩ := Option.map_eq_some_iff.1 hTask
  have hName := List.find?_some (p := fun c : Call => c.name == n) hKnown
  exact ⟨call, List.mem_of_find?_eq_some hKnown, beq_iff_eq.1 hName, hJob⟩

theorem task?_of_mem (hDistinct : l.Distinct) {call : Call} (hMem : call ∈ l.calls) :
    task? l .idle call.name = some call.job :=
  task?_of_known (find?_of_mem Call.name hDistinct hMem)

/-- A new call that is to verify a token has that token to verify. -/
theorem task?_verify {c : KeySetCache} {url : Url} (hUnknown : (c.lane url).stage? name = none) (token : String)
    (validation : Jwt.Validation) (ready : List Reply) :
    ∃ kid, task? ((c.step (.call url name (.verify token validation) ready)).lane url) .idle name =
      some (.verify kid token validation) := by
  have hLane : (c.step (.call url name (.verify token validation) ready)).lane url =
      (call (c.surroundings url) name (.verify token validation) ⟨c.lane url, [], ready⟩).lane := by
    rw [KeySetCache.step, lane_within, if_pos rfl]
  have hNew : ((c.lane url).stage? name).isSome ≠ true := by simp [hUnknown]
  rw [hLane, call, if_neg hNew]
  dsimp only
  split
  · refine ⟨"", ?_⟩
    unfold task?
    rw [if_neg (by simp [Activity.name?])]
    simp only [Work.finish, Work.setCall, Work.record, Lane.find?_setCall, if_true]
    rfl
  · rename_i kid hKey
    refine ⟨kid, chain_keeps (P := fun l a => task? l a name = some (.verify kid token validation)) Move.task?
      (moves_of_telling (startJob_moves _ name _)) ?_⟩
    exact if_pos rfl

inductive Course (x : Surroundings) (h : History) (n : CallName) (job : Job) : Stage → Prop where
  /-- It has not come to a set, and waits or was given up. -/
  | looking {stage : Stage} (none : ∀ s, ¬ CameTo x.ttl h n .lookup s)
      (unfinished : ∀ a, stage ≠ .finished a) : Course x h n job stage
  | failed {e : Error} (none : ∀ s, ¬ CameTo x.ttl h n .lookup s) (fault : Reads h n .lookup (.error e)) :
      Course x h n job (.finished (.failure e))
  /-- Its key was in the set. -/
  | answered {s : Stored} {a : Answer} (came : CameTo x.ttl h n .lookup s) (hit : answer? x n s job = some a)
      (alone : ∀ stale q, ¬ Happened h (.sent n (.replacement stale) q)) : Course x h n job (.finished a)
  /-- Its key was not in the set, which has not been replaced. -/
  | replacing {s : Stored} {stage : Stage} (came : CameTo x.ttl h n .lookup s) (missed : answer? x n s job = none)
      (unfinished : ∀ a, stage ≠ .finished a) : Course x h n job stage
  | unreplaced {s : Stored} {e : Error} (came : CameTo x.ttl h n .lookup s) (missed : answer? x n s job = none)
      (fault : Reads h n (.replacement s.number) (.error e)) : Course x h n job (.finished (.failure e))
  | replaced {s s' : Stored} (came : CameTo x.ttl h n .lookup s) (missed : answer? x n s job = none)
      (again : CameTo x.ttl h n (.replacement s.number) s') :
      Course x h n job (.finished ((answer? x n s' job).getD (.failure (.keySet (.unknownKey job.kid)))))

theorem Lawful.missed {ttl : Int} (hLawful : Lawful ttl h) {stale : Nat}
    (hReplaces : (progress h n).Replaces stale) (hWarranted : Warranted x h n job (.replacement stale)) :
    ∃ s, CameTo ttl h n .lookup s ∧ s.number = stale ∧ answer? x n s job = none := by
  obtain ⟨s, hs, rfl, hMissed⟩ := hWarranted
  exact ⟨s, hLawful.cameTo (hLawful.reads_of_replaces hReplaces) hs, rfl, hMissed⟩

theorem rank_of_waits {p : Progress} (hWaits : p.Waits .lookup) : p.rank < 3 := by
  rcases hWaits with hSeeks | ⟨q, rfl⟩
  · rcases hSeeks.cases with ⟨rfl, -⟩ | ⟨number, -, hReplacement⟩
    · simp [Progress.rank]
    · cases hReplacement
  · simp [Progress.rank]

theorem course_of_waits (hLawful : Lawful x.ttl past) (hGrown : ∀ s, CameTo x.ttl past n .lookup s →
      CameTo x.ttl h n .lookup s)
    (hReads : ∀ r, Reads h n .lookup r → Reads past n .lookup r) (hWaits : (progress past n).Waits purpose)
    (hWarranted : Warranted x past n job purpose) {stage : Stage} (hUnfinished : ∀ a, stage ≠ .finished a) :
    Course x h n job stage := by
  -- had its lookup come to a set, a call that still waits for it would have fallen back
  cases purpose with
  | lookup =>
    refine .looking (fun s hCame => ?_) hUnfinished
    have hReached := hLawful.rank_le_of_reads (hReads _ hCame.reads)
    have hRead : (Progress.read .lookup (.ok s.number)).rank = 3 := rfl
    have hEarly := rank_of_waits hWaits
    omega
  | replacement stale =>
    obtain ⟨s, hCame, -, hMissed⟩ := hLawful.missed (.inl hWaits) hWarranted
    exact .replacing (hGrown s hCame) hMissed hUnfinished

theorem course_of_read (hLawful : Lawful x.ttl h) {result : Except Error Stored}
    (hRead : progress h n = .read purpose (result.map Stored.number)) (hSet : ∀ s, result = .ok s → s ∈ sets h)
    (hWarranted : Warranted x h n job purpose) {answer : Answer}
    (hConclusion : conclusion? x n job purpose result = some answer) : Course x h n job (.finished answer) := by
  have hReads := reads_of_progress hRead
  cases result with
  | error e =>
    cases hConclusion
    cases purpose with
    | lookup =>
      refine .failed (fun s hCame => ?_) hReads
      obtain ⟨-, hSame⟩ := hLawful.reads_unique hCame.reads hReads rfl
      cases hSame
    | replacement stale =>
      obtain ⟨s, hCame, rfl, hMissed⟩ := hLawful.missed (.inr ⟨_, hRead⟩) hWarranted
      exact .unreplaced hCame hMissed hReads
  | ok s' =>
    have hCame : CameTo x.ttl h n purpose s' := hLawful.cameTo hReads (hSet s' rfl)
    cases purpose with
    | lookup =>
      refine .answered hCame hConclusion ?_
      rintro stale q ⟨t, hMem⟩
      have hRank := hLawful.rank_le_of_mem hMem rfl
      rw [hRead] at hRank
      simp [Progress.rank] at hRank
    | replacement stale =>
      obtain ⟨s, hFirst, rfl, hMissed⟩ := hLawful.missed (.inr ⟨_, hRead⟩) hWarranted
      cases hConclusion
      exact .replaced hFirst hMissed hCame

/-- Nothing that comes after a call has finished changes its course. -/
theorem Course.over (hLawful : Lawful x.ttl (past ++ (t, .finished n) :: later)) {answer : Answer}
    (hCourse : Course x past n job (.finished answer)) :
    Course x (past ++ (t, .finished n) :: later) n job (.finished answer) := by
  cases hCourse with
  | looking _ hUnfinished => exact absurd rfl (hUnfinished answer)
  | failed _ hFault =>
    refine .failed (fun s hCame => ?_) (hFault.append _)
    obtain ⟨-, hSame⟩ := hLawful.reads_unique hCame.reads (hFault.append _) rfl
    cases hSame
  | answered hCame hHit hAlone =>
    refine .answered (hCame.append _) hHit ?_
    rintro stale q ⟨t', hMem⟩
    exact hAlone stale q ⟨t', hLawful.mem_before_over rfl hMem rfl (by simp)⟩
  | replacing _ _ hUnfinished => exact absurd rfl (hUnfinished answer)
  | unreplaced hCame hMissed hFault => exact .unreplaced (hCame.append _) hMissed (hFault.append _)
  | replaced hCame hMissed hAgain => exact .replaced (hCame.append _) hMissed (hAgain.append _)

/-- When a call finished, it had taken the course that its answer follows from. -/
theorem Recorded.finished (hRecorded : Recorded x l .idle) {call : Call} (hMem : call ∈ l.calls)
    (hNamed : call.job.Named) {answer : Answer} (hStage : call.stage = .finished answer) :
    ∃ past t later, l.history = past ++ (t, .finished call.name) :: later ∧
      Course x past call.name call.job (.finished answer) := by
  have hLawful := hRecorded.stocked.lawful
  have hAccounted := hRecorded.placed.accounted call hMem
  rw [hStage] at hAccounted
  obtain ⟨past, t, later, hHistory, hConcludes⟩ := hAccounted
  rw [hHistory] at hLawful
  refine ⟨past, t, later, hHistory, ?_⟩
  rcases hConcludes with ⟨-, token, validation, e, hJob, hFault, -⟩ |
    ⟨-, purpose, result, hRead, hSet, hWarranted, hConclusion⟩
  · have hKey : Jwt.keyId token = .ok "" := by simpa [hJob, Job.Named] using hNamed
    rw [hFault] at hKey
    cases hKey
  · exact course_of_read hLawful.split hRead hSet hWarranted hConclusion

theorem Recorded.course (hRecorded : Recorded x l .idle) (hDistinct : l.Distinct) {call : Call}
    (hMem : call ∈ l.calls) (hNamed : call.job.Named) : Course x l.history call.name call.job call.stage := by
  have hLawful := hRecorded.stocked.lawful
  have hStage : l.stage? call.name = some call.stage :=
    (Lane.stage?_eq_some_iff hDistinct).2 ⟨call, hMem, rfl, rfl⟩
  have hFits := hRecorded.fitsStage call.name
  have hAccounted := hRecorded.placed.accounted call hMem
  rw [hStage] at hFits
  cases hCase : call.stage with
  | queued purpose g =>
    rw [hCase] at hFits hAccounted
    exact course_of_waits hLawful (fun _ hCame => hCame) (fun _ hReads => hReads) (.inl hFits) hAccounted.2 (by simp)
  | downloading purpose g q =>
    rw [hCase] at hFits hAccounted
    exact course_of_waits hLawful (fun _ hCame => hCame) (fun _ hReads => hReads) (.inr ⟨q, hFits⟩) hAccounted.2
      (by simp)
  | finished answer =>
    obtain ⟨past, t, later, hHistory, hCourse⟩ := hRecorded.finished hMem hNamed hCase
    rw [hHistory] at hLawful ⊢
    exact hCourse.over hLawful
  | cancelled =>
    rw [hCase] at hAccounted
    obtain ⟨-, past, t, later, purpose, hHistory, hWaits, hWarranted⟩ := hAccounted
    rw [hHistory] at hLawful ⊢
    exact course_of_waits hLawful.split (fun _ hCame => hCame.append _)
      (fun _ hReads => hLawful.reads_before_over rfl hReads) hWaits hWarranted (by simp)

def verdict (check : Jwt.Check) (key : Key) (token : String) (validation : Jwt.Validation) : Answer :=
  match check key token validation with
  | .ok payload => .claims payload
  | .error e => .failure (.keySet (.verification e))

theorem answer?_verify (s : Stored) (kid token : String) (validation : Jwt.Validation) :
    answer? x n s (.verify kid token validation) =
      (s.set.find? kid).map fun key => verdict (x.check n) key token validation := rfl

theorem verdict_ne_unknownKey (check : Jwt.Check) (key : Key) (token : String) (validation : Jwt.Validation)
    (kid : String) : verdict check key token validation ≠ .failure (.keySet (.unknownKey kid)) := by
  unfold verdict
  split <;> simp

theorem keyId_ne_unknownKey (token kid : String) : Jwt.keyId token ≠ .error (.unknownKey kid) := by
  unfold Jwt.keyId
  split
  · simp
  · split <;> simp

/-- Only the transport itself can call the failure of a download an unknown key. -/
theorem judge_eq_unknownKey {url : Url} {classify : Classifier} {reply : Reply} {kid : String}
    (hJudged : judge url classify reply = .error (.keySet (.unknownKey kid))) :
    ∃ cause, reply = .failure (.network cause) ∧ classify .keySet cause = .keySet (.unknownKey kid) := by
  unfold judge at hJudged
  cases reply with
  | response r =>
    simp only [Reply.result] at hJudged
    split at hJudged
    · cases hParsed : KeySet.parse r.body with
      | ok set =>
        rw [hParsed] at hJudged
        cases hJudged
      | error fault =>
        rw [hParsed] at hJudged
        cases hJudged
    · cases hJudged
  | failure f =>
    cases f with
    | network cause => exact ⟨cause, rfl, Except.error.inj hJudged⟩
    | io cause => cases hJudged
    | other message => cases hJudged
    | request cause => cases hJudged

/-- The transport's own error for a download of the call says that the key is unknown. -/
def Misnamed (c : KeySetCache) (url : Url) (n : CallName) (kid : String) : Prop :=
  ∃ purpose q cause, Happened (c.lane url).history (.failed n purpose (some q) (.keySet (.unknownKey kid))) ∧
    (c.lane url).transport.reply? q = some (.failure (.network cause)) ∧
    c.classify .keySet cause = .keySet (.unknownKey kid)

theorem Recorded.misnamed {c : KeySetCache} {url : Url}
    (hRecorded : Recorded (c.surroundings url) (c.lane url) .idle) {kid : String}
    (hReads : Reads (c.lane url).history n purpose (.error (.keySet (.unknownKey kid)))) : Misnamed c url n kid := by
  obtain ⟨q, t, hMem⟩ := hReads.failed
  have hGrounded := hRecorded.stocked.grounded t _ hMem
  cases q with
  | none =>
    obtain ⟨fault, -, hFault⟩ := hGrounded
    cases hFault
  | some q =>
    obtain ⟨reply, hCome, hJudged⟩ := hGrounded
    obtain ⟨cause, rfl, hNamed⟩ := judge_eq_unknownKey hJudged
    exact ⟨purpose, q, cause, ⟨t, hMem⟩, hCome, hNamed⟩

/-- What is known of a call that verifies a token. -/
structure Verified (c : KeySetCache) (url : Url) (call : Call) (kid token : String)
    (validation : Jwt.Validation) : Prop where
  /-- A token that names no key is refused, and nothing is sent. -/
  refused : ∀ e, Jwt.keyId token = .error e → call.stage = .finished (.failure (.keySet e)) ∧
    ∀ purpose q, ¬ Happened (c.lane url).history (.sent call.name purpose q)
  named : ∀ k, Jwt.keyId token = .ok k → k = kid
  /-- Any other call comes to a set, unless it has not finished or its download has failed. -/
  first : Jwt.keyId token = .ok kid → (∃ s, CameTo c.ttl (c.lane url).history call.name .lookup s) ∨
    (∀ a, call.stage ≠ .finished a) ∨
    ∃ q e, Happened (c.lane url).history (.failed call.name .lookup q e) ∧ call.stage = .finished (.failure e)
  /-- If the key is in that set, it decides, and the set is not replaced. -/
  direct : ∀ s key, CameTo c.ttl (c.lane url).history call.name .lookup s → s.set.find? kid = some key →
    call.stage = .finished (verdict (c.checks url call.name) key token validation) ∧
      ∀ stale q, ¬ Happened (c.lane url).history (.sent call.name (.replacement stale) q)
  /-- If not, a second set decides, unless the call has not finished or its second download has failed. -/
  missed : ∀ s, CameTo c.ttl (c.lane url).history call.name .lookup s → s.set.find? kid = none →
    (∀ a, call.stage ≠ .finished a) ∨
    (∃ q e, Happened (c.lane url).history (.failed call.name (.replacement s.number) q e) ∧
      call.stage = .finished (.failure e)) ∨
    ∃ s', CameTo c.ttl (c.lane url).history call.name (.replacement s.number) s' ∧
      call.stage = .finished (match s'.set.find? kid with
        | some key => verdict (c.checks url call.name) key token validation
        | none => .failure (.keySet (.unknownKey kid)))
  /-- The second set is another than the first, and was stored later. -/
  renewed : ∀ s s' stale, CameTo c.ttl (c.lane url).history call.name .lookup s →
    CameTo c.ttl (c.lane url).history call.name (.replacement stale) s' →
    stale = s.number ∧ s ≠ s' ∧ StoredBefore (c.lane url).history s s'
  /-- A key is unknown only if it is in neither set. -/
  unknown : ∀ k, call.stage = .finished (.failure (.keySet (.unknownKey k))) →
    (k = kid ∧ ∃ s s', CameTo c.ttl (c.lane url).history call.name .lookup s ∧ s.set.find? kid = none ∧
      CameTo c.ttl (c.lane url).history call.name (.replacement s.number) s' ∧ s'.set.find? kid = none) ∨
    Misnamed c url call.name k
  bounded : (c.lane url).history.countP (·.2.sends call.name) ≤ 2

structure Verifications (c : KeySetCache) (url : Url) : Prop where
  /-- A new call has the token to verify that it comes with. -/
  asked : ∀ name token validation ready, (c.lane url).stage? name = none →
    ∃ kid, ∃ call ∈ ((c.step (.call url name (.verify token validation) ready)).lane url).calls,
      call.name = name ∧ call.job = .verify kid token validation
  kept : ∀ event, ∀ call ∈ (c.lane url).calls,
    ∃ call' ∈ ((c.step event).lane url).calls, call'.name = call.name ∧ call'.job = call.job
  verified : ∀ call ∈ (c.lane url).calls, ∀ kid token validation, call.job = .verify kid token validation →
    Verified c url call kid token validation

/-- A call looks up the key that its token names, or was refused as soon as it came. -/
theorem Recorded.named_or_refused (hRecorded : Recorded x l .idle) {call : Call} (hMem : call ∈ l.calls) :
    call.job.Named ∨ ∃ token validation e, call.job = .verify "" token validation ∧ Jwt.keyId token = .error e ∧
      call.stage = .finished (.failure (.keySet e)) ∧
        ∀ t f p, (t, f) ∈ l.history → f.progress? = some (call.name, p) → p ≠ .over → p.rank ≤ 1 := by
  have hAccounted := hRecorded.placed.accounted call hMem
  cases hCase : call.stage with
  | queued purpose g =>
    rw [hCase] at hAccounted
    exact .inl hAccounted.1
  | downloading purpose g q =>
    rw [hCase] at hAccounted
    exact .inl hAccounted.1
  | cancelled =>
    rw [hCase] at hAccounted
    exact .inl hAccounted.1
  | finished answer =>
    rw [hCase] at hAccounted
    obtain ⟨past, t, later, hHistory, ⟨hBegun, token, validation, e, hJob, hFault, rfl⟩ | ⟨hNamed, -⟩⟩ := hAccounted
    · refine .inr ⟨token, validation, e, hJob, hFault, rfl, fun t' f p hFact hf hp => ?_⟩
      have hLawful := hRecorded.stocked.lawful
      rw [hHistory] at hLawful hFact
      have hRank := hLawful.split.rank_le_of_mem (hLawful.mem_before_over rfl hFact hf hp) hf
      rwa [hBegun] at hRank
    · exact .inl hNamed

theorem Recorded.named (hRecorded : Recorded x l .idle) {call : Call} (hMem : call ∈ l.calls)
    {kid token k : String} {validation : Jwt.Validation} (hJob : call.job = .verify kid token validation)
    (hKey : Jwt.keyId token = .ok k) : k = kid := by
  rcases hRecorded.named_or_refused hMem with hNamed | ⟨token', validation', e, hJob', hFault, -⟩
  · rw [hJob] at hNamed
    exact Except.ok.inj (hKey.symm.trans hNamed)
  · cases hJob.symm.trans hJob'
    cases hKey.symm.trans hFault

theorem Recorded.refused (hRecorded : Recorded x l .idle) {call : Call} (hMem : call ∈ l.calls)
    {kid token : String} {validation : Jwt.Validation} (hJob : call.job = .verify kid token validation)
    {e : KeySetError} (hFault : Jwt.keyId token = .error e) :
    call.stage = .finished (.failure (.keySet e)) ∧
      ∀ t f p, (t, f) ∈ l.history → f.progress? = some (call.name, p) → p ≠ .over → p.rank ≤ 1 := by
  rcases hRecorded.named_or_refused hMem with hNamed | ⟨token', validation', e', hJob', hFault', hStage, hEarly⟩
  · rw [hJob] at hNamed
    cases hFault.symm.trans hNamed
  · cases hJob.symm.trans hJob'
    cases hFault.symm.trans hFault'
    exact ⟨hStage, hEarly⟩

theorem Lawful.renewed {ttl : Int} (hLawful : Lawful ttl h) {s s' : Stored} {stale : Nat}
    (hCame : CameTo ttl h n .lookup s) (hAgain : CameTo ttl h n (.replacement stale) s') :
    stale = s.number ∧ s ≠ s' ∧ StoredBefore h s s' := by
  obtain ⟨-, hSame⟩ := hLawful.reads_unique (hLawful.reads_lookup hAgain.reads) hCame.reads rfl
  obtain rfl : stale = s.number := Except.ok.inj hSame
  have hNewer := hLawful.newer hAgain
  refine ⟨rfl, ?_, hLawful.storedBefore hCame.mem_sets hAgain.mem_sets hNewer⟩
  rintro rfl
  exact Nat.lt_irrefl _ hNewer

section Verified

variable {c : KeySetCache} {url : Url} {call : Call} {kid token : String} {validation : Jwt.Validation}

theorem Course.first {stage : Stage} (hCourse : Course x h n job stage) :
    (∃ s, CameTo x.ttl h n .lookup s) ∨ (∀ a, stage ≠ .finished a) ∨
      ∃ q e, Happened h (.failed n .lookup q e) ∧ stage = .finished (.failure e) := by
  cases hCourse with
  | looking _ hUnfinished => exact .inr (.inl hUnfinished)
  | failed _ hFault =>
    obtain ⟨q, hFailed⟩ := hFault.failed
    exact .inr (.inr ⟨q, _, hFailed, rfl⟩)
  | answered hCame => exact .inl ⟨_, hCame⟩
  | replacing hCame => exact .inl ⟨_, hCame⟩
  | unreplaced hCame => exact .inl ⟨_, hCame⟩
  | replaced hCame => exact .inl ⟨_, hCame⟩

theorem Course.direct (hLawful : Lawful c.ttl h) {stage : Stage}
    (hCourse : Course (c.surroundings url) h n (.verify kid token validation) stage) {s : Stored} {key : Key}
    (hCame : CameTo c.ttl h n .lookup s) (hKey : s.set.find? kid = some key) :
    stage = .finished (verdict (c.checks url n) key token validation) ∧
      ∀ stale q, ¬ Happened h (.sent n (.replacement stale) q) := by
  have hHit : answer? (c.surroundings url) n s (.verify kid token validation) =
      some (verdict (c.checks url n) key token validation) := by
    rw [answer?_verify, hKey]
    rfl
  have hMissing {s' : Stored} (hCame' : CameTo c.ttl h n .lookup s')
      (hMissed : answer? (c.surroundings url) n s' (.verify kid token validation) = none) : False := by
    rw [hLawful.cameTo_unique hCame' hCame, hHit] at hMissed
    cases hMissed
  cases hCourse with
  | looking hNone => exact absurd hCame (hNone s)
  | failed hNone => exact absurd hCame (hNone s)
  | answered hCame' hAnswer hAlone =>
    rw [hLawful.cameTo_unique hCame' hCame, hHit] at hAnswer
    cases hAnswer
    exact ⟨rfl, hAlone⟩
  | replacing hCame' hMissed => exact (hMissing hCame' hMissed).elim
  | unreplaced hCame' hMissed => exact (hMissing hCame' hMissed).elim
  | replaced hCame' hMissed => exact (hMissing hCame' hMissed).elim

theorem Course.missed (hLawful : Lawful c.ttl h) {stage : Stage}
    (hCourse : Course (c.surroundings url) h n (.verify kid token validation) stage) {s : Stored}
    (hCame : CameTo c.ttl h n .lookup s) (hNone : s.set.find? kid = none) :
    (∀ a, stage ≠ .finished a) ∨
    (∃ q e, Happened h (.failed n (.replacement s.number) q e) ∧ stage = .finished (.failure e)) ∨
    ∃ s', CameTo c.ttl h n (.replacement s.number) s' ∧
      stage = .finished (match s'.set.find? kid with
        | some key => verdict (c.checks url n) key token validation
        | none => .failure (.keySet (.unknownKey kid))) := by
  cases hCourse with
  | looking _ hUnfinished => exact .inl hUnfinished
  | failed hEarly => exact absurd hCame (hEarly s)
  | answered hCame' hAnswer =>
    rw [hLawful.cameTo_unique hCame' hCame, answer?_verify, hNone] at hAnswer
    cases hAnswer
  | replacing _ _ hUnfinished => exact .inl hUnfinished
  | unreplaced hCame' _ hFault =>
    rw [hLawful.cameTo_unique hCame' hCame] at hFault
    obtain ⟨q, hFailed⟩ := hFault.failed
    exact .inr (.inl ⟨q, _, hFailed, rfl⟩)
  | @replaced _ s' hCame' _ hAgain =>
    rw [hLawful.cameTo_unique hCame' hCame] at hAgain
    refine .inr (.inr ⟨s', hAgain, ?_⟩)
    rw [answer?_verify]
    cases hKey : s'.set.find? kid <;> rfl

theorem Course.unknown {k : String}
    (hCourse : Course (c.surroundings url) h n (.verify kid token validation)
      (.finished (.failure (.keySet (.unknownKey k))))) :
    (k = kid ∧ ∃ s s', CameTo c.ttl h n .lookup s ∧ s.set.find? kid = none ∧
      CameTo c.ttl h n (.replacement s.number) s' ∧ s'.set.find? kid = none) ∨
    ∃ purpose, Reads h n purpose (.error (.keySet (.unknownKey k))) := by
  generalize hAnswer : Answer.failure (.keySet (.unknownKey k)) = answer at hCourse
  have hHit {s : Stored} (hFound : answer? (c.surroundings url) n s (.verify kid token validation) = some answer) :
      False := by
    obtain ⟨key, -, hVerdict⟩ := Option.map_eq_some_iff.1 hFound
    exact verdict_ne_unknownKey _ key token validation k (hVerdict.trans hAnswer.symm)
  cases hCourse with
  | looking _ hUnfinished => exact absurd rfl (hUnfinished answer)
  | failed _ hFault =>
    cases hAnswer
    exact .inr ⟨_, hFault⟩
  | answered _ hFound => exact (hHit hFound).elim
  | replacing _ _ hUnfinished => exact absurd rfl (hUnfinished answer)
  | unreplaced _ _ hFault =>
    cases hAnswer
    exact .inr ⟨_, hFault⟩
  | @replaced s s' hCame hMissed hAgain =>
    cases hSecond : answer? (c.surroundings url) n s' (.verify kid token validation) with
    | some a =>
      exact (hHit (by rw [hSecond]; rfl)).elim
    | none =>
      rw [hSecond] at hAnswer
      cases hAnswer
      exact .inl ⟨rfl, s, s', hCame, Option.map_eq_none_iff.1 hMissed, hAgain, Option.map_eq_none_iff.1 hSecond⟩

theorem Recorded.verified (hRecorded : Recorded (c.surroundings url) (c.lane url) .idle)
    (hDistinct : (c.lane url).Distinct) (hMem : call ∈ (c.lane url).calls)
    (hJob : call.job = .verify kid token validation) : Verified c url call kid token validation := by
  have hLawful : Lawful c.ttl (c.lane url).history := hRecorded.stocked.lawful
  have hCourse (hKey : Jwt.keyId token = .ok kid) :
      Course (c.surroundings url) (c.lane url).history call.name (.verify kid token validation) call.stage := by
    have hNamed : call.job.Named := by simpa [hJob, Job.Named] using hKey
    exact hJob ▸ hRecorded.course hDistinct hMem hNamed
  have hRefused {e : KeySetError} (hFault : Jwt.keyId token = .error e) := hRecorded.refused hMem hJob hFault
  -- a token that names no key is refused, so that its call comes to nothing
  have hKeyed {purpose : Purpose} {r : Except Error Nat} (hReads : Reads (c.lane url).history call.name purpose r) :
      Jwt.keyId token = .ok kid := by
    cases hKey : Jwt.keyId token with
    | ok k => rw [hRecorded.named hMem hJob hKey]
    | error e =>
      obtain ⟨t, f, hFact, hf⟩ := hReads
      have hRank := (hRefused hKey).2 t f _ hFact hf (by simp)
      cases purpose <;> simp [Progress.rank] at hRank
  constructor
  · intro e hFault
    obtain ⟨hStage, hEarly⟩ := hRefused hFault
    refine ⟨hStage, ?_⟩
    rintro purpose q ⟨t, hSent⟩
    have hRank := hEarly t _ _ hSent rfl (by simp)
    cases purpose <;> simp [Progress.rank] at hRank
  · intro k hKey
    exact hRecorded.named hMem hJob hKey
  · intro hKey
    exact (hCourse hKey).first
  · intro s key hCame hFound
    exact (hCourse (hKeyed hCame.reads)).direct hLawful hCame hFound
  · intro s hCame hNone
    exact (hCourse (hKeyed hCame.reads)).missed hLawful hCame hNone
  · intro s s' stale hCame hAgain
    exact hLawful.renewed hCame hAgain
  · intro k hStage
    cases hKey : Jwt.keyId token with
    | error e =>
      rw [(hRefused hKey).1] at hStage
      cases hStage
      exact absurd hKey (keyId_ne_unknownKey token k)
    | ok k' =>
      have hUnknown := hCourse (hRecorded.named hMem hJob hKey ▸ hKey)
      rw [hStage] at hUnknown
      rcases hUnknown.unknown with hTwice | ⟨purpose, hReads⟩
      · exact .inl hTwice
      · exact .inr (hRecorded.misnamed hReads)
  · exact Nat.le_trans (hLawful.countP_sends call.name) (Nat.min_le_right ..)

theorem verifications_of_recorded (hRecorded : Recorded (c.surroundings url) (c.lane url) .idle)
    (hDistinct : (c.lane url).Distinct) : Verifications c url where
  asked name token validation ready hUnknown := by
    obtain ⟨kid, hTask⟩ := task?_verify hUnknown token validation ready
    exact ⟨kid, exists_call_of_task hTask⟩
  kept event call hMem := exists_call_of_task (task?_step event (task?_of_mem hDistinct hMem))
  verified call hMem kid token validation hJob := hRecorded.verified hDistinct hMem hJob

end Verified

/-- In every run, every verification looks in one set, or in two of which the second was stored later. -/
theorem run_verifications (ttl : Int) (classify : Classifier) (clock : Clock) (checks : Checks)
    (events : List Event) (url : Url) : Verifications ((empty ttl classify clock checks).run events) url := by
  have hNew : Excluded ((empty ttl classify clock checks).lane url) .idle := excluded_empty
  exact verifications_of_recorded (recorded_run ttl classify clock checks events url)
    (run_induction Excluded.move hNew events).distinct

end BearerTokens.KeySetCache
