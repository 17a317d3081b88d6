import BearerTokens.Proofs.KeySetCache.Exclusion

/-!
# Calls that wait

A call waits for a guard that another call holds, or holds one and waits for the reply to its request. No guard
lies free while calls wait for it: whoever lets go of it wakes the next. So when no call would get on if it looked
again, the holder of every guard that is waited for has a request out, and nobody waits once that is answered.
-/

set_option autoImplicit false

namespace BearerTokens.KeySetCache

open BearerTokens.Http BearerTokens.Time Relation

variable {l l' : Lane} {a a' : Activity} {transport transport' : Transport} {name : CallName} {job : Job}
  {guards guards' : List Guard} {g : Nat}

/-- Whatever has become of the guards, one call has done it; what is new among them was free. -/
def Handled (name : CallName) (guards guards' : List Guard) : Prop :=
  ∀ (g : Nat) (after : Guard), guards'[g]? = some after →
    ∃ before : Guard, (guards[g]? = some before ∨ before = .free) ∧
      (after = before ∨ after = before.enter name ∨ after = before.look name ∨ after = before.forget name)

theorem Handled.refl (name : CallName) (guards : List Guard) : Handled name guards guards :=
  fun _ after hAfter => ⟨after, .inl hAfter, .inl rfl⟩

theorem handled_modify {f : Guard → Guard}
    (hf : ∀ before : Guard, f before = before.enter name ∨ f before = before.look name ∨
      f before = before.forget name) : Handled name guards (guards.modify g f) := by
  intro g' after hAfter
  obtain ⟨before, hBefore, rfl⟩ := getElem?_modify_eq_some hAfter
  refine ⟨before, .inl hBefore, ?_⟩
  split
  · exact .inr (hf before)
  · exact .inl rfl

theorem handled_enter (w : Work) (name : CallName) :
    Handled name w.lane.guards (w.enter name).lane.guards := by
  intro g after hAfter
  obtain ⟨before, hBefore, rfl⟩ := getElem?_modify_eq_some hAfter
  refine ⟨before, ?_, ?_⟩
  · unfold Lane.takeGuard at hBefore
    split at hBefore
    · exact .inl hBefore
    · rcases getElem?_snoc_eq_some_iff.1 hBefore with hOld | ⟨-, rfl⟩
      · exact .inl hOld
      · exact .inr rfl
  · split
    · exact .inr (.inl rfl)
    · exact .inl rfl

theorem handled_leave (l : Lane) (g : Nat) (name : CallName) :
    Handled name l.guards (l.leaveGuard g name).guards := by
  have hGuards : (l.leaveGuard g name).guards = l.guards.modify g (·.forget name) := by
    unfold Lane.leaveGuard
    dsimp only
    split <;> rfl
  rw [hGuards]
  exact handled_modify fun _ => .inr (.inr rfl)

/-- A request that is out: it waits for its answer, or the answer has not been read. -/
def Out (transport : Transport) (request : Nat) : Prop :=
  ∃ state, transport.state? request = some state ∧ state ≠ .dropped

theorem Out.waiting_or_come {request : Nat} (h : Out transport request) :
    transport.isWaiting request = true ∨ (transport.reply? request).isSome = true := by
  obtain ⟨state, hState, hLive⟩ := h
  cases state with
  | waiting => exact .inl (Transport.isWaiting_eq_true_iff.2 hState)
  | answered reply =>
    rw [Transport.reply?_eq_some_iff.2 hState]
    exact .inr rfl
  | dropped => exact absurd rfl hLive

theorem Out.send {request : Nat} (h : Out transport request) (r : Request) (ready : Option Reply) :
    Out (transport.send r ready) request := by
  obtain ⟨state, hState, hLive⟩ := h
  refine ⟨state, ?_, hLive⟩
  rw [Transport.state?_send, if_neg]
  · exact hState
  · rintro rfl
    simp [Transport.state?, Transport.nextNumber] at hState

theorem out_send (transport : Transport) (r : Request) (ready : Option Reply) :
    Out (transport.send r ready) transport.nextNumber := by
  refine ⟨_, by rw [Transport.state?_send, if_pos rfl], ?_⟩
  cases ready <;> simp

theorem Out.answer {request number : Nat} (h : Out transport request) {reply : Reply}
    (hWaiting : transport.state? number = some .waiting) : Out (transport.answer number reply) request := by
  obtain ⟨state, hState, hLive⟩ := h
  unfold Out
  rw [Transport.state?_answer hWaiting]
  split
  · exact ⟨_, rfl, by simp⟩
  · exact ⟨state, hState, hLive⟩

theorem Out.abandon {request number : Nat} (h : Out transport request) (hOther : request ≠ number) :
    Out (transport.abandon number) request := by
  unfold Out
  rw [Transport.state?_abandon, if_neg hOther]
  exact h

/-- Guards that are waited for are held or have woken somebody; who waits for one does not hold it; who downloads
has a request out. -/
structure Attended (l : Lane) (a : Activity) : Prop where
  alert : ∀ (g : Nat) (guard : Guard), l.guards[g]? = some guard → guard.Alert
  queued : ∀ n purpose (g : Nat) (guard : Guard), a.name? ≠ some n → l.stage? n = some (.queued purpose g) →
    l.guards[g]? = some guard → guard.holder ≠ some n
  loads : ∀ n g q, tie? l a n = some ⟨g, some q⟩ → Out l.transport q

theorem attended_empty : Attended .empty .idle where
  alert := by simp [Lane.empty]
  queued := by simp [Lane.empty]
  loads := by simp [Lane.empty, Lane.stage?]

/-- One call goes on, and only its own part has to be looked at. -/
theorem Attended.step (h : Attended l a) (hBefore : a.Concerns name) (hAfter : a'.Concerns name)
    (hStages : ∀ n, n ≠ name → l'.stage? n = l.stage? n) (hGuards : Handled name l.guards l'.guards)
    (hOthers : ∀ n g q, n ≠ name → tie? l a n = some ⟨g, some q⟩ → Out l.transport q → Out l'.transport q)
    (hQueued : a'.name? ≠ some name → ∀ purpose (g : Nat) (guard : Guard),
      l'.stage? name = some (.queued purpose g) → l'.guards[g]? = some guard → guard.holder ≠ some name)
    (hLoads : ∀ g q, tie? l' a' name = some ⟨g, some q⟩ → Out l'.transport q) : Attended l' a' := by
  constructor
  · intro g after hAfter
    obtain ⟨before, hOld, hDone⟩ := hGuards g after hAfter
    have hAlert : before.Alert := by
      rcases hOld with hOld | rfl
      · exact h.alert g before hOld
      · exact Guard.alert_free
    rcases hDone with rfl | rfl | rfl | rfl
    · exact hAlert
    · exact before.alert_enter name
    · exact before.alert_look name
    · exact hAlert.forget name
  · intro n purpose g after hAway hStage hSlot hHolds
    by_cases hn : n = name
    · subst hn
      exact hQueued hAway purpose g after hStage hSlot hHolds
    · obtain ⟨before, hOld, hDone⟩ := hGuards g after hSlot
      have hHeld : before.holder = some n := by
        rcases hDone with rfl | rfl | rfl | rfl
        · exact hHolds
        · exact (Guard.holder_of_enter hHolds).resolve_right hn
        · exact (Guard.holder_of_look hHolds).resolve_right hn
        · exact Guard.holder_of_forget hHolds
      rcases hOld with hOld | rfl
      · rw [hStages n hn] at hStage
        exact h.queued n purpose g before (hBefore.other hn) hStage hOld hHeld
      · cases hHeld
  · intro n g q hTie
    by_cases hn : n = name
    · subst hn
      exact hLoads g q hTie
    · have hSame : tie? l' a' n = tie? l a n := by
        rw [tie?_of_other (hAfter.other hn), tie?_of_other (hBefore.other hn), hStages n hn]
      rw [hSame] at hTie
      exact hOthers n g q hn hTie (h.loads n g q hTie)

/-- A call goes on at work. -/
theorem Attended.work (h : Attended l a) (hBefore : a.Concerns name) (hAfter : a'.name? = some name)
    (hCalls : l'.calls = l.calls) (hGuards : Handled name l.guards l'.guards)
    (hOthers : ∀ n g q, n ≠ name → tie? l a n = some ⟨g, some q⟩ → Out l.transport q → Out l'.transport q)
    (hLoads : ∀ g q, a'.tie? = some ⟨g, some q⟩ → Out l'.transport q) : Attended l' a' := by
  refine h.step hBefore (.inr hAfter) (fun n _ => ?_) hGuards hOthers (fun hAway => absurd hAfter hAway) ?_
  · unfold Lane.stage?
    rw [hCalls]
  · rw [tie?_of_name hAfter]
    exact hLoads

/-- A call at work comes to rest. -/
theorem Attended.rest (h : Attended l a) (job : Job) (stage : Stage) (hBefore : a.Concerns name)
    (hGuards : Handled name l.guards guards)
    (hOthers : ∀ n g q, n ≠ name → tie? l a n = some ⟨g, some q⟩ → Out l.transport q → Out transport q)
    (hQueued : ∀ purpose (g : Nat) (guard : Guard), stage = .queued purpose g → guards[g]? = some guard →
      guard.holder ≠ some name)
    (hLoads : ∀ g q, stage.tie? = some ⟨g, some q⟩ → Out transport q)
    (hCalls : l'.calls = (l.setCall ⟨name, job, stage⟩).calls) (hNow : l'.guards = guards)
    (hTransport : l'.transport = transport) : Attended l' .idle := by
  have hStage (n : CallName) : l'.stage? n = if n = name then some stage else l.stage? n := by
    unfold Lane.stage?
    rw [hCalls]
    exact l.stage?_setCall ⟨name, job, stage⟩ n
  subst hNow hTransport
  refine h.step hBefore (Activity.concerns_idle name) (fun n hn => ?_) hGuards hOthers ?_ ?_
  · rw [hStage, if_neg hn]
  · intro _ purpose g guard hSelf
    rw [hStage, if_pos rfl] at hSelf
    exact hQueued purpose g guard (Option.some.inj hSelf)
  · intro g q hTie
    rw [tie?_idle, hStage, if_pos rfl, Option.bind_some] at hTie
    exact hLoads g q hTie

theorem Attended.finish {w : Work} (h : Attended w.lane a) (hBefore : a.Concerns name) (x : Surroundings)
    (answer : Answer) : Attended (w.finish x name job answer).lane .idle := by
  refine h.rest job (.finished answer) hBefore (.refl name w.lane.guards)
    (fun _ _ _ _ _ hOut => hOut) (by simp) (by simp [Stage.tie?]) rfl ?_ ?_
  · simp [Work.finish, Work.setCall, Work.record]
  · simp [Work.finish, Work.setCall, Work.record]

theorem Attended.leave (h : Attended l a) (hName : a.name? = some name) (hAfter : a'.name? = some name)
    (hUntied : a'.tie? = none) (e : Option Entry) (k : Nat) (history : List (Instant × Fact)) (g : Nat) :
    Attended ({ l with entry := e, storedCount := k, history := history }.leaveGuard g name) a' := by
  refine h.work (.inr hName) hAfter ?_ (handled_leave _ g name) (fun _ _ _ _ _ hOut => ?_) ?_
  · simp
  · simpa using hOut
  · simp [hUntied]

theorem Attended.giveUp {w : Work} (h : Attended w.lane .idle) (x : Surroundings) (g : Nat)
    (hOthers : ∀ n g q, n ≠ name → tie? w.lane .idle n = some ⟨g, some q⟩ → Out w.lane.transport q →
      Out transport q) :
    Attended ({ w with lane := { w.lane with transport := transport } }.giveUp x name job g).lane .idle := by
  have hGuards : Handled name w.lane.guards (w.lane.guards.modify g (·.forget name)) :=
    handled_modify fun _ => .inr (.inr rfl)
  refine h.rest job .cancelled (Activity.concerns_idle name) hGuards hOthers (by simp)
    (by simp [Stage.tie?]) ?_ ?_ ?_
  · simp only [Work.giveUp, Work.setCall, Work.record, Lane.calls_setCall]
    rfl
  · simp [Work.giveUp, Work.setCall, Work.record, Lane.modifyGuard]
  · simp [Work.giveUp, Work.setCall, Work.record, Lane.modifyGuard]

theorem Attended.move {x : Surroundings} {m m' : Moment} (hMove : Move x m m')
    (hExcluded : Excluded m.work.lane m.activity) (h : Attended m.work.lane m.activity) :
    Attended m'.work.lane m'.activity := by
  have hKept {l : Lane} {a : Activity} {name : CallName} (n : CallName) (g q : Nat) (_ : n ≠ name)
      (_ : tie? l a n = some ⟨g, some q⟩) (hOut : Out l.transport q) : Out l.transport q := hOut
  cases hMove with
  | @begin w name =>
    exact h.work (Activity.concerns_idle name) rfl rfl (.refl name _) hKept (by simp [Activity.tie?])
  | @refuse w name =>
    have hBegun : Attended (w.record x [.began name]).lane .idle := ⟨h.alert, h.queued, h.loads⟩
    exact hBegun.finish (Activity.concerns_idle name) x _
  | @hit w name => exact h.work (.inr rfl) rfl rfl (.refl name _) hKept (by simp [Activity.tie?])
  | @enter w name =>
    exact h.work (.inr rfl) rfl w.lane.calls_takeGuard (handled_enter w name)
      (fun _ _ _ _ _ hOut => w.lane.transport_takeGuard ▸ hOut) (by simp [Activity.tie?])
  | @miss w name =>
    exact h.work (.inr rfl) rfl w.lane.calls_takeGuard (handled_enter w name)
      (fun _ _ _ _ _ hOut => w.lane.transport_takeGuard ▸ hOut) (by simp [Activity.tie?])
  | @queue w name job purpose g hTaken =>
    refine h.rest job (.queued purpose g) (.inr rfl) (.refl name w.lane.guards) hKept ?_
      (by simp [Stage.tie?]) rfl (w.lane.guards_setCall _) (w.lane.transport_setCall _)
    intro purpose' g' guard hStage hSlot hHolds
    cases hStage
    rw [Lane.isHolder_eq_true_iff.2 ⟨guard, hSlot, hHolds⟩] at hTaken
    cases hTaken
  | @find w name job purpose g s =>
    have hLane : ((w.find x name purpose s).leave name g).lane =
        (w.find x name purpose s).lane.leaveGuard g name := rfl
    simp only [hLane, lane_find]
    exact h.leave rfl rfl rfl _ _ _ g
  | @unbuilt w name job purpose g => exact h.leave rfl rfl rfl _ _ _ g
  | @send w name job purpose g r =>
    refine h.work (.inr rfl) rfl rfl (.refl name _) (fun _ _ _ _ _ hOut => hOut.send r _) ?_
    intro g' q hTie
    cases hTie
    exact out_send w.lane.transport r w.ready.head?
  | @wait w name job purpose g number =>
    have hOut : Out w.lane.transport number := h.loads name g number (tie?_of_name rfl)
    refine h.rest job (.downloading purpose g number) (.inr rfl) (.refl name w.lane.guards)
      hKept (by simp) ?_ rfl (w.lane.guards_setCall _) (w.lane.transport_setCall _)
    intro g' q hTie
    cases hTie
    exact hOut
  | @fail w name job purpose g => exact h.leave rfl rfl rfl _ _ _ g
  | @store w name job purpose g => exact h.leave rfl rfl rfl _ _ _ g
  | finish => exact h.finish (.inr rfl) x _
  | @wake w name call purpose g =>
    exact h.work (Activity.concerns_idle name) rfl rfl (handled_modify fun _ => .inr (.inl rfl)) hKept
      (by simp [Activity.tie?])
  | @reread w name call purpose g number hKnown hDownloading =>
    refine h.work (Activity.concerns_idle name) rfl rfl (.refl name _) hKept ?_
    intro g' q hTie
    refine h.loads name g' q ?_
    rw [tie?_idle, Lane.stage?_of_known hKnown, hDownloading]
    exact hTie
  | @cancelQueued w name call purpose g => exact h.giveUp x g hKept
  | @cancelDownload w name call purpose g number hKnown hDownloading =>
    refine h.giveUp x g fun n g' q hn hTie hOut => hOut.abandon ?_
    rintro rfl
    -- only one call downloads
    have hSelf : tie? w.lane .idle name = some ⟨g, some q⟩ := by
      rw [tie?_idle, Lane.stage?_of_known hKnown, hDownloading]
      rfl
    exact hn (hExcluded.guarded.unique hTie hSelf).1
  | @reply w number reply hWaiting =>
    have hState := Transport.isWaiting_eq_true_iff.1 hWaiting
    exact ⟨h.alert, h.queued, fun n g q hTie => (h.loads n g q hTie).answer hState⟩
  | invalidate => exact ⟨h.alert, h.queued, h.loads⟩

theorem attended_run (ttl : Int) (classify : Classifier) (clock : Clock) (checks : Checks) (events : List Event)
    (url : Url) : Excluded (((empty ttl classify clock checks).run events).lane url) .idle ∧
      Attended (((empty ttl classify clock checks).run events).lane url) .idle := by
  have hNew : Excluded ((empty ttl classify clock checks).lane url) .idle ∧
      Attended ((empty ttl classify clock checks).lane url) .idle := ⟨excluded_empty, attended_empty⟩
  exact run_induction (P := fun l a => Excluded l a ∧ Attended l a)
    (fun hMove h => ⟨h.1.move hMove, h.2.move hMove h.1⟩) hNew events

def Lane.Quiet (l : Lane) : Prop :=
  ∀ call ∈ l.calls, l.isRunnable call = false

/-- The call holds the guard, and its request waits for an answer. -/
structure Lane.Loads (l : Lane) (call : Call) (g : Nat) : Prop where
  known : call ∈ l.calls
  holds : l.isHolder g call.name = true
  waits : ∃ purpose q, call.stage = .downloading purpose g q ∧ l.transport.isWaiting q = true

theorem Excluded.tie?_of_mem (h : Excluded l .idle) {call : Call} (hMem : call ∈ l.calls) :
    tie? l .idle call.name = call.stage.tie? := by
  rw [tie?_idle, (Lane.stage?_eq_some_iff h.distinct).2 ⟨call, hMem, rfl, rfl⟩, Option.bind_some]

/-- A call that is tied waits for its guard, or holds it and has a request. -/
theorem Excluded.call_of_tie (h : Excluded l .idle) {t : Tie} (hTie : tie? l .idle name = some t) :
    ∃ call ∈ l.calls, call.name = name ∧ ((∃ purpose, call.stage = .queued purpose t.guard) ∨
      ∃ purpose q, call.stage = .downloading purpose t.guard q) := by
  rw [tie?_idle] at hTie
  obtain ⟨stage, hStage, hTied⟩ := Option.bind_eq_some_iff.1 hTie
  obtain ⟨call, hMem, hName, rfl⟩ := (Lane.stage?_eq_some_iff h.distinct).1 hStage
  refine ⟨call, hMem, hName, ?_⟩
  cases hCase : call.stage with
  | queued purpose g =>
    rw [hCase] at hTied
    cases hTied
    exact .inl ⟨purpose, rfl⟩
  | downloading purpose g q =>
    rw [hCase] at hTied
    cases hTied
    exact .inr ⟨purpose, q, rfl⟩
  | finished a =>
    rw [hCase] at hTied
    cases hTied
  | cancelled =>
    rw [hCase] at hTied
    cases hTied

theorem Attended.not_holder (h : Attended l .idle) (hExcluded : Excluded l .idle) {call : Call}
    (hMem : call ∈ l.calls) {purpose : Purpose} (hStage : call.stage = .queued purpose g) {guard : Guard}
    (hSlot : l.guards[g]? = some guard) : guard.holder ≠ some call.name :=
  h.queued call.name purpose g guard (by simp [Activity.name?])
    ((Lane.stage?_eq_some_iff hExcluded.distinct).2 ⟨call, hMem, rfl, hStage⟩) hSlot

theorem Attended.loads_of_quiet (h : Attended l .idle) (hExcluded : Excluded l .idle) (hQuiet : l.Quiet)
    {call : Call} (hMem : call ∈ l.calls) {purpose : Purpose} {q : Nat}
    (hStage : call.stage = .downloading purpose g q) : l.Loads call g := by
  have hTie : tie? l .idle call.name = some ⟨g, some q⟩ := by
    rw [hExcluded.tie?_of_mem hMem, hStage]
    rfl
  obtain ⟨guard, hSlot, -⟩ := hExcluded.guarded.guard_of_tie hTie
  have hHolds := hExcluded.guarded.loads call.name g q guard hTie hSlot
  refine ⟨hMem, Lane.isHolder_eq_true_iff.2 ⟨guard, hSlot, hHolds⟩, purpose, q, hStage, ?_⟩
  refine (h.loads call.name g q hTie).waiting_or_come.resolve_right fun hCome => ?_
  have hStill := hQuiet call hMem
  simp only [Lane.isRunnable, hStage, hCome] at hStill
  cases hStill

/-- The guard that a call waits for is held by one that downloads, or is free and has woken one that waits. -/
theorem Attended.held_or_woken (h : Attended l .idle) (hExcluded : Excluded l .idle) {call : Call}
    (hMem : call ∈ l.calls) {purpose : Purpose} (hStage : call.stage = .queued purpose g) :
    ∃ guard : Guard, l.guards[g]? = some guard ∧ ∃ other ∈ l.calls,
      (guard.holder = some other.name ∧ ∃ purpose q, other.stage = .downloading purpose g q) ∨
        (guard.holder = none ∧ guard.woken? = some other.name ∧ ∃ purpose, other.stage = .queued purpose g) := by
  have hTie : tie? l .idle call.name = some ⟨g, none⟩ := by
    rw [hExcluded.tie?_of_mem hMem, hStage]
    rfl
  obtain ⟨guard, hSlot, hServes⟩ := hExcluded.guarded.guard_of_tie hTie
  have hWaits : call.name ∈ guard.waiters :=
    hServes.resolve_left (h.not_holder hExcluded hMem hStage hSlot)
  refine ⟨guard, hSlot, ?_⟩
  cases hHolder : guard.holder with
  | some n =>
    obtain ⟨t, hHolds, rfl⟩ := (hExcluded.guarded.serves g guard hSlot n).1 (.inl hHolder)
    obtain ⟨other, hOther, rfl, ⟨purpose', hQueued⟩ | hLoads⟩ := hExcluded.call_of_tie hHolds
    · exact absurd hHolder (h.not_holder hExcluded hOther hQueued hSlot)
    · exact ⟨other, hOther, .inl ⟨rfl, hLoads⟩⟩
  | none =>
    obtain ⟨n, hWoken⟩ := (h.alert g guard hSlot).woken hHolder hWaits
    obtain ⟨t, hTied, rfl⟩ :=
      (hExcluded.guarded.serves g guard hSlot n).1 (.inr (Guard.mem_waiters_of_woken hWoken))
    obtain ⟨other, hOther, rfl, hQueued | ⟨purpose', q, hLoads⟩⟩ := hExcluded.call_of_tie hTied
    · exact ⟨other, hOther, .inr ⟨rfl, hWoken, hQueued⟩⟩
    · -- who downloads would hold the guard
      have hHolds := hExcluded.guarded.loads other.name t.guard q guard
        (by rw [hExcluded.tie?_of_mem hOther, hLoads]; rfl) hSlot
      rw [hHolder] at hHolds
      cases hHolds

/-- The guard that a call waits for is held by one whose request is out. -/
theorem Attended.holder_of_quiet (h : Attended l .idle) (hExcluded : Excluded l .idle) (hQuiet : l.Quiet)
    {call : Call} (hMem : call ∈ l.calls) {purpose : Purpose} (hStage : call.stage = .queued purpose g) :
    ∃ other, l.Loads other g := by
  obtain ⟨guard, hSlot, other, hOther, ⟨-, purpose', q, hLoads⟩ | ⟨-, hWoken, purpose', hQueued⟩⟩ :=
    h.held_or_woken hExcluded hMem hStage
  · exact ⟨other, h.loads_of_quiet hExcluded hQuiet hOther hLoads⟩
  · have hStill := hQuiet other hOther
    simp [Lane.isRunnable, hQueued, Lane.woken?, hSlot, hWoken] at hStill

/-- When no call gets on, every call is over, or waits for a reply, or for the guard of one that does. -/
theorem Attended.over_or_waits (h : Attended l .idle) (hExcluded : Excluded l .idle) (hQuiet : l.Quiet)
    {call : Call} (hMem : call ∈ l.calls) :
    (∃ a, call.stage = .finished a) ∨ call.stage = .cancelled ∨
      ∃ g other, call.stage.guard? = some g ∧ l.Loads other g := by
  cases hStage : call.stage with
  | queued purpose g =>
    obtain ⟨other, hLoads⟩ := h.holder_of_quiet hExcluded hQuiet hMem hStage
    exact .inr (.inr ⟨g, other, rfl, hLoads⟩)
  | downloading purpose g q => exact .inr (.inr ⟨g, call, rfl, h.loads_of_quiet hExcluded hQuiet hMem hStage⟩)
  | finished a => exact .inl ⟨a, rfl⟩
  | cancelled => exact .inr (.inl rfl)

/-- When all requests have been answered as well, every call is over. -/
theorem Attended.over_of_quiet (h : Attended l .idle) (hExcluded : Excluded l .idle) (hQuiet : l.Quiet)
    (hAnswered : ∀ q, l.transport.isWaiting q = false) {call : Call} (hMem : call ∈ l.calls) :
    (∃ a, call.stage = .finished a) ∨ call.stage = .cancelled := by
  rcases h.over_or_waits hExcluded hQuiet hMem with hFinished | hCancelled | ⟨g, other, -, hLoads⟩
  · exact .inl hFinished
  · exact .inr hCancelled
  · obtain ⟨purpose, q, -, hWaiting⟩ := hLoads.waits
    rw [hAnswered] at hWaiting
    cases hWaiting

end BearerTokens.KeySetCache
