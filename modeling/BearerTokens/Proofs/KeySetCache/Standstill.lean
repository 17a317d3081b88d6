import BearerTokens.Proofs.KeySetCache.Calls
import BearerTokens.Proofs.KeySetCache.Lanes
import BearerTokens.Proofs.KeySetCache.Record
import Mathlib.Algebra.Order.BigOperators.Group.Finset
import Mathlib.Data.Prod.Lex

/-!
# Standstill

Calls that would get on if they looked again come to a standstill when they do, since each of them either gets
further in the history or has spent its wake-up. At a standstill every call that is not over waits for the reply to
its own request, or for the guard of the one call that does. When that call is given up, one of those that wait takes
its place.
-/

set_option autoImplicit false

namespace BearerTokens.KeySetCache

open BearerTokens.Http BearerTokens.Time Relation

variable {x : Surroundings} {w : Work} {l l' : Lane} {h : History} {name : CallName} {job : Job} {purpose : Purpose}
  {g : Nat}

def Advances (x : Surroundings) (name : CallName) (h h' : History) : Prop :=
  ∃ f p later, f.progress? = some (name, p) ∧ h' = h ++ (x.now, f) :: later

theorem Advances.adds {kinds : Fact → Prop} {h' h'' : History} (hFirst : Advances x name h h')
    (hRest : Adds x kinds h' h'') : Advances x name h h'' := by
  obtain ⟨f, p, later, hf, rfl⟩ := hFirst
  obtain ⟨more, rfl, -⟩ := hRest
  exact ⟨f, p, later ++ more, hf, by simp⟩

theorem land_advances (x : Surroundings) (name : CallName) (purpose : Purpose) (g number : Nat) (reply : Reply)
    (w : Work) :
    Advances x name w.lane.history (land x name purpose g number reply w).1.lane.history := by
  unfold land
  split
  · rename_i e _
    exact ⟨.failed name purpose (some number) e, _, [], rfl, by simp [leave, fail, Work.record, Work.note]⟩
  · rename_i set _
    exact ⟨.stored name purpose number ⟨⟨w.lane.storedCount, set⟩, x.now⟩, _, [], rfl, by
      simp [leave, store, Work.record, Work.note]⟩

theorem download_advances :
    Advances x name w.lane.history (download x name job purpose g w).1.lane.history := by
  unfold download
  dsimp only
  split
  · rename_i e _
    exact ⟨.failed name purpose none (.config e), _, [], rfl, by simp [leave, fail, Work.record, Work.note]⟩
  · split
    · obtain ⟨f, p, later, -, hLanded⟩ := land_advances x name purpose g _ _ _
      exact ⟨.sent name purpose w.lane.transport.nextNumber, _, (x.now, f) :: later, rfl, by
        rw [hLanded]
        simp [Work.record, Work.note]⟩
    · exact ⟨.sent name purpose w.lane.transport.nextNumber, _, [], rfl, by
        simp [Work.setCall, Work.record, Work.note]⟩

theorem inside_advances (x : Surroundings) (name : CallName) (job : Job) (purpose : Purpose) (g : Nat) (w : Work) :
    Advances x name w.lane.history (inside x name job purpose g w).1.lane.history := by
  unfold inside
  split
  · rename_i s _
    refine ⟨.found name purpose s.number, _, [], rfl, ?_⟩
    cases purpose <;> simp [leave, Work.record, Work.note]
  · exact download_advances

theorem after_adds (purpose : Purpose) (outcome : Work × Option (Except Error Stored)) :
    Adds x Fact.IsOwn outcome.1.lane.history (after x name job purpose outcome).lane.history := by
  have hAdds := adds_of_telling (after_moves (x := x) name job purpose outcome)
  obtain ⟨w, - | r⟩ := outcome <;> exact hAdds

/-- A call that would get on gets further, or comes too late for the guard and has spent its wake-up. -/
theorem resume_advances {call : Call} (hKnown : w.lane.calls.find? (·.name == name) = some call)
    (hRunnable : w.lane.isRunnable call = true) :
    Advances x name w.lane.history (resume x name w).lane.history ∨
      ∃ g, w.lane.woken? g = some name ∧ (resume x name w).lane.history = w.lane.history ∧
        (resume x name w).lane.guards = w.lane.guards.modify g (·.look name) := by
  have hName : call.name = name := beq_iff_eq.1 (List.find?_some (p := fun c : Call => c.name == name) hKnown)
  subst hName
  unfold Lane.isRunnable at hRunnable
  simp only [resume, hKnown]
  cases hStage : call.stage with
  | queued purpose g =>
    rw [hStage] at hRunnable
    have hWoken : w.lane.woken? g = some call.name := of_decide_eq_true hRunnable
    simp only [hWoken, if_true, insideOrWait]
    split
    · have hAdvances := inside_advances x call.name call.job purpose g
        { w with lane := w.lane.modifyGuard g (·.look call.name) }
      exact .inl (hAdvances.adds (after_adds purpose _))
    · exact .inr ⟨g, hWoken, by simp [after, Work.setCall, Lane.modifyGuard],
        by simp [after, Work.setCall, Lane.modifyGuard]⟩
  | downloading purpose g number =>
    rw [hStage] at hRunnable
    obtain ⟨reply, hCome⟩ := Option.isSome_iff_exists.1 hRunnable
    simp only [hCome]
    exact .inl ((land_advances x call.name purpose g number reply w).adds (after_adds purpose
      ((land x call.name purpose g number reply w).1, some (land x call.name purpose g number reply w).2)))
  | finished a =>
    rw [hStage] at hRunnable
    cases hRunnable
  | cancelled =>
    rw [hStage] at hRunnable
    cases hRunnable

def Lane.effort (l : Lane) : Nat :=
  ∑ n ∈ (l.calls.map Call.name).toFinset, (6 - (progress l.history n).rank)

/-- How many guards have woken a call that has not looked yet. -/
def Lane.wakings (l : Lane) : Nat :=
  l.guards.countP (·.isWaking)

theorem Progress.rank_le_six (p : Progress) : p.rank ≤ 6 := by
  unfold Progress.rank
  split <;> omega

theorem effort_le {ttl : Int} {later : History} (hLawful : Lawful ttl (l.history ++ later))
    (hHistory : l'.history = l.history ++ later)
    (hCalls : (l'.calls.map Call.name).toFinset ⊆ (l.calls.map Call.name).toFinset) : l'.effort ≤ l.effort := by
  calc l'.effort
    _ ≤ ∑ n ∈ (l.calls.map Call.name).toFinset, (6 - (progress l'.history n).rank) :=
      Finset.sum_le_sum_of_subset hCalls
    _ ≤ l.effort := Finset.sum_le_sum fun n _ => by
      rw [hHistory]
      exact Nat.sub_le_sub_left (hLawful.rank_le n) 6

theorem effort_lt {ttl : Int} (hLawful : Lawful ttl l'.history) (hAdvances : Advances x name l.history l'.history)
    (hCalls : (l'.calls.map Call.name).toFinset ⊆ (l.calls.map Call.name).toFinset)
    (hKnown : name ∈ l.calls.map Call.name) : l'.effort < l.effort := by
  obtain ⟨f, p, later, hf, hHistory⟩ := hAdvances
  rw [hHistory] at hLawful
  have hMem : (x.now, f) ∈ (x.now, f) :: later := List.mem_cons_self ..
  calc l'.effort
    _ ≤ ∑ n ∈ (l.calls.map Call.name).toFinset, (6 - (progress l'.history n).rank) :=
      Finset.sum_le_sum_of_subset hCalls
    _ < l.effort := by
      rw [hHistory]
      refine Finset.sum_lt_sum (fun n _ => Nat.sub_le_sub_left (hLawful.rank_le n) 6)
        ⟨name, List.mem_toFinset.2 hKnown, ?_⟩
      have hBelow := hLawful.rank_lt_of_later hMem hf
      have hReached := hLawful.rank_le_of_mem (List.mem_append_right l.history hMem) hf
      have hMost := p.rank_le_six
      omega

def LookedAgain (after before : KeySetCache) : Prop :=
  ∃ url name ready, (url, name) ∈ before.runnable ∧ after = before.step (.resume url name ready)

def unrest (c : KeySetCache) : Nat ×ₗ Nat :=
  toLex (c.total Lane.effort, c.total Lane.wakings)

theorem wakings_look (hWoken : l.woken? g = some name) (hGuards : l'.guards = l.guards.modify g (·.look name)) :
    l'.wakings < l.wakings := by
  obtain ⟨guard, hSlot, hFirst⟩ := Option.bind_eq_some_iff.1 hWoken
  have hWaking : guard.isWaking = true := by
    unfold Guard.woken? at hFirst
    split at hFirst
    · assumption
    · cases hFirst
  have hLooked : (guard.look name).isWaking = false := by
    unfold Guard.look Guard.enter
    split <;> rfl
  have hCount := countP_modify (p := fun guard : Guard => guard.isWaking) (f := (·.look name)) hSlot
  simp only [hWaking, hLooked, if_true, Bool.false_eq_true, if_false] at hCount
  unfold Lane.wakings
  rw [hGuards]
  omega

theorem Reached.unrest_lt {c : KeySetCache} (h : Reached c) {url : Url} {ready : List Reply}
    (hRunnable : (url, name) ∈ c.runnable) : unrest (c.step (.resume url name ready)) < unrest c := by
  obtain ⟨call, hMem, hGetsOn, rfl⟩ := (mem_runnable_iff h.lanes).1 hRunnable
  have hKnown := find?_of_mem Call.name (h.excluded url).distinct hMem
  have hEffort := total_within h.lanes Lane.effort rfl url ready fun x => resume x call.name
  have hWakings := total_within h.lanes Lane.wakings rfl url ready fun x => resume x call.name
  have hLane : (c.step (.resume url call.name ready)).lane url =
      (resume (c.surroundings url) call.name ⟨c.lane url, [], ready⟩).lane := by
    rw [KeySetCache.step, lane_within, if_pos rfl]
  have hCalls : (((c.step (.resume url call.name ready)).lane url).calls.map Call.name).toFinset ⊆
      ((c.lane url).calls.map Call.name).toFinset := by
    intro n hn
    obtain ⟨after, hAfter, rfl⟩ := List.mem_map.1 (List.mem_toFinset.1 hn)
    rw [hLane] at hAfter
    obtain ⟨old, hOld, hName, -⟩ := resume_calls after hAfter
    exact List.mem_toFinset.2 (hName ▸ List.mem_map_of_mem hOld)
  have hLawful := ((h.step (.resume url call.name ready)).recorded url).stocked.lawful
  rw [unrest, unrest, Prod.Lex.toLex_lt_toLex]
  rcases resume_advances (x := c.surroundings url) (w := ⟨c.lane url, [], ready⟩) hKnown hGetsOn with
    hAdvances | ⟨g, hWoken, hHistory, hGuards⟩
  · rw [← hLane] at hAdvances
    have hLess := effort_lt hLawful hAdvances hCalls (List.mem_map_of_mem hMem)
    simp only [KeySetCache.step] at hLess ⊢
    omega
  · rw [← hLane] at hHistory hGuards
    have hLess := wakings_look hWoken hGuards
    rw [hHistory, ← List.append_nil (c.lane url).history] at hLawful
    have hSame := effort_le hLawful (hHistory.trans (List.append_nil _).symm) hCalls
    simp only [KeySetCache.step] at hLess hSame ⊢
    omega

/-- In whatever order calls look again that would get on, they come to a standstill. -/
theorem Reached.standstill {c : KeySetCache} (h : Reached c) : Acc LookedAgain c := by
  induction hUnrest : unrest c using WellFoundedLT.induction generalizing c with
  | ind _ ih =>
    subst hUnrest
    refine ⟨c, ?_⟩
    rintro _ ⟨url, name, ready, hRunnable, rfl⟩
    exact ih _ (h.unrest_lt hRunnable) (h.step _) rfl

/-- Nobody but the call holds a guard, and the guard that newcomers get exists. -/
structure Clear (name : CallName) (l : Lane) : Prop where
  unheld : ∀ (g : Nat) (guard : Guard) n, l.guards[g]? = some guard → guard.holder = some n → n = name
  offered : ∀ g, l.guard = some g → g < l.guards.length

theorem Clear.of_handled (h : Clear name l) (hGuards : Handled name l.guards l'.guards)
    (hOffered : ∀ g, l'.guard = some g → g < l'.guards.length) : Clear name l' where
  unheld g after n hAfter hHolds := by
    obtain ⟨before, hBefore, hDone⟩ := hGuards g after hAfter
    have hHeld : before.holder = some n ∨ n = name := by
      rcases hDone with rfl | rfl | rfl | rfl
      · exact .inl hHolds
      · exact Guard.holder_of_enter hHolds
      · exact Guard.holder_of_look hHolds
      · exact .inl (Guard.holder_of_forget hHolds)
    rcases hHeld with hHeld | hSame
    · rcases hBefore with hOld | rfl
      · exact h.unheld g before n hOld hHeld
      · cases hHeld
    · exact hSame
  offered := hOffered

theorem Clear.leave (h : Clear name l) (g : Nat) : Clear name (l.leaveGuard g name) := by
  refine h.of_handled (handled_leave l g name) fun g' hGuard => ?_
  unfold Lane.leaveGuard at hGuard ⊢
  dsimp only at hGuard ⊢
  split at hGuard
  · cases hGuard
  · rename_i hKept
    rw [if_neg hKept]
    simpa [Lane.modifyGuard] using h.offered g' hGuard

/-- A newcomer takes its guard where nobody else holds one. -/
theorem Clear.enter (h : Clear name w.lane) :
    Clear name (w.enter name).lane ∧ (w.enter name).lane.isHolder w.newcomerGuard name = true := by
  have hOffered : w.newcomerGuard < w.lane.takeGuard.1.guards.length := by
    unfold Work.newcomerGuard Lane.takeGuard
    split
    · rename_i g hGuard
      exact h.offered g hGuard
    · simp
  have hNewcomers : w.lane.takeGuard.1.guard = some w.newcomerGuard := by
    unfold Work.newcomerGuard Lane.takeGuard
    split
    · assumption
    · rfl
  have hClear : Clear name (w.enter name).lane := by
    refine h.of_handled (handled_enter w name) fun g hGuard => ?_
    obtain rfl : w.newcomerGuard = g := Option.some.inj (hNewcomers.symm.trans hGuard)
    simpa [Work.enter, Lane.modifyGuard] using hOffered
  refine ⟨hClear, ?_⟩
  obtain ⟨guard, hSlot⟩ : ∃ guard, w.lane.takeGuard.1.guards[w.newcomerGuard]? = some guard :=
    ⟨_, List.getElem?_eq_getElem hOffered⟩
  have hEntered : (w.enter name).lane.guards[w.newcomerGuard]? = some (guard.enter name) := by
    simp [Work.enter, Lane.modifyGuard, hSlot]
  refine Lane.isHolder_eq_true_iff.2 ⟨_, hEntered, ?_⟩
  cases hHolder : guard.holder with
  | none => simp [Guard.enter, hHolder]
  | some n =>
    have hHolds : (guard.enter name).holder = some n := Guard.holder_enter hHolder
    rw [hHolds, hClear.unheld _ _ n hEntered hHolds]

/-- A call is answered, or holds the guard and waits for a reply. -/
def Lane.GotOn (l : Lane) (name : CallName) : Prop :=
  (∃ a, l.stage? name = some (.finished a)) ∨ ∃ purpose g q, l.stage? name = some (.downloading purpose g q)

/-- What has been done under the guard has come to a result, and the guard is free again, or to a request. -/
def Through (name : CallName) {α : Type} (outcome : Work × Option α) : Prop :=
  match outcome.2 with
  | some _ => Clear name outcome.1.lane
  | none => outcome.1.lane.GotOn name

theorem land_clear (h : Clear name w.lane) (number : Nat) (reply : Reply) :
    Clear name (land x name purpose g number reply w).1.lane := by
  have hSame (e : Option Entry) (k : Nat) (history : History) :
      Clear name { w.lane with entry := e, storedCount := k, history := history } := ⟨h.unheld, h.offered⟩
  unfold land
  split <;> exact (hSame _ _ _).leave g

theorem download_through (h : Clear name w.lane) : Through name (download x name job purpose g w) := by
  have hSame (transport : Transport) (history : History) :
      Clear name { w.lane with transport := transport, history := history } := ⟨h.unheld, h.offered⟩
  unfold download
  dsimp only
  split
  · exact (hSame w.lane.transport _).leave g
  · rename_i r _
    have hSent : Clear name ((w.note openingNotes).send x name purpose r).lane := hSame _ _
    split
    · exact land_clear hSent _ _
    · exact .inr ⟨purpose, g, _, Lane.stage?_setCall_self _ _⟩

theorem inside_through (h : Clear name w.lane) : Through name (inside x name job purpose g w) := by
  have hSame (history : History) : Clear name { w.lane with history := history } := ⟨h.unheld, h.offered⟩
  unfold inside
  split
  · cases purpose <;> exact (hSame _).leave g
  · exact download_through h

theorem finish_gotOn (answer : Answer) : (w.finish x name job answer).lane.GotOn name :=
  .inl ⟨answer, w.lane.stage?_setCall_self ⟨name, job, .finished answer⟩⟩

theorem afterReplacement_gotOn (r : Except Error Stored) : (afterReplacement x name job r w).lane.GotOn name := by
  unfold afterReplacement
  split <;> exact finish_gotOn _

theorem after_replacement_gotOn {stale : Nat} {outcome : Work × Option (Except Error Stored)}
    (h : Through name outcome) : (after x name job (.replacement stale) outcome).lane.GotOn name := by
  obtain ⟨w, - | r⟩ := outcome
  · exact h
  · exact afterReplacement_gotOn r

theorem afterLookup_gotOn (h : Clear name w.lane) (r : Except Error Stored) :
    (afterLookup x name job r w).lane.GotOn name := by
  cases r with
  | error e => exact finish_gotOn _
  | ok s =>
    cases hAnswer : answer? x name s job with
    | some a =>
      simp only [afterLookup, hAnswer]
      exact finish_gotOn a
    | none =>
      have hNoted : Clear name (w.note [.decision .keySet .kidMiss]).lane := h
      obtain ⟨hEntered, hHolds⟩ := hNoted.enter
      have hHolds : ((w.note [.decision .keySet .kidMiss]).enter name).lane.isHolder w.newcomerGuard name = true :=
        hHolds
      rw [afterLookup_of_missed hAnswer, insideOrWait, if_pos hHolds]
      exact after_replacement_gotOn (inside_through hEntered)

theorem after_gotOn {outcome : Work × Option (Except Error Stored)} (h : Through name outcome) :
    (after x name job purpose outcome).lane.GotOn name := by
  cases purpose with
  | replacement stale => exact after_replacement_gotOn h
  | lookup =>
    obtain ⟨w, - | r⟩ := outcome
    · exact h
    · exact afterLookup_gotOn h r

/-- Where nobody holds a guard, a call that has been woken gets on. -/
theorem resume_gotOn (hClear : Clear name w.lane) {call : Call}
    (hKnown : w.lane.calls.find? (·.name == name) = some call) (hStage : call.stage = .queued purpose g)
    (hWoken : w.lane.woken? g = some name) {guard : Guard} (hSlot : w.lane.guards[g]? = some guard)
    (hFree : guard.holder = none) : (resume x name w).lane.GotOn name := by
  have hLooked : (w.lane.modifyGuard g (·.look name)).guards[g]? = some (guard.look name) := by
    simp [Lane.modifyGuard, hSlot]
  have hHolds : (w.lane.modifyGuard g (·.look name)).isHolder g name = true :=
    Lane.isHolder_eq_true_iff.2 ⟨_, hLooked, by simp [Guard.look, Guard.enter, hFree]⟩
  have hStill : Clear name (w.lane.modifyGuard g (·.look name)) :=
    hClear.of_handled (handled_modify fun _ => .inr (.inl rfl)) fun g' hGuard => by
      simpa [Lane.modifyGuard] using hClear.offered g' hGuard
  simp only [resume, hKnown, hStage, hWoken, if_true, insideOrWait, hHolds]
  exact after_gotOn (inside_through hStill)

/-- While a guard is free that calls wait for, nobody holds any. -/
theorem Excluded.clear (h : Excluded l .idle) {guard : Guard} (hSlot : l.guards[g]? = some guard)
    (hFree : guard.holder = none) (hGuard : l.guard = some g) : Clear name l where
  unheld g' held n hHeld hHolds := by
    obtain ⟨t, hTie, rfl⟩ := (h.guarded.serves g' held hHeld n).1 (.inl hHolds)
    obtain rfl : t.guard = g := Option.some.inj ((h.guarded.held n t hTie).symm.trans hGuard)
    rw [hSlot] at hHeld
    cases hHeld
    rw [hFree] at hHolds
    cases hHolds
  offered g' hNew := by
    have hNewest := h.guarded.newest g' hNew
    omega

/-- A call that is given up while it holds a guard sets the guard free, and changes no other call. -/
theorem cancel_of_downloading {call : Call} {q : Nat} (hKnown : w.lane.calls.find? (·.name == name) = some call)
    (hStage : call.stage = .downloading purpose g q) :
    (cancel x name w).lane.guards = w.lane.guards.modify g (·.forget name) ∧
      (cancel x name w).lane.stage? name = some .cancelled ∧
        ∀ n, n ≠ name → (cancel x name w).lane.stage? n = w.lane.stage? n := by
  simp only [cancel, hKnown, hStage]
  refine ⟨by simp [Work.setCall, Work.record, Lane.modifyGuard], ?_, fun n hn => ?_⟩
  · exact Lane.stage?_setCall_self _ ⟨name, call.job, .cancelled⟩
  · exact Lane.stage?_setCall_of_other _ hn

/-- A call that holds a guard downloads. -/
theorem Attended.downloading_of_holder (h : Attended l .idle) (hExcluded : Excluded l .idle) {call : Call}
    (hMem : call ∈ l.calls) (hHolds : l.isHolder g call.name = true) :
    ∃ purpose q, call.stage = .downloading purpose g q := by
  obtain ⟨guard, hSlot, hHolder⟩ := Lane.isHolder_eq_true_iff.1 hHolds
  obtain ⟨t, hTie, rfl⟩ := (hExcluded.guarded.serves g guard hSlot call.name).1 (.inl hHolder)
  obtain ⟨other, hOther, hName, ⟨purpose, hQueued⟩ | hLoads⟩ := hExcluded.call_of_tie hTie
  · exact absurd (hName ▸ hHolder) (h.not_holder hExcluded hOther hQueued hSlot)
  · obtain rfl : other = call := List.inj_on_of_nodup_map hExcluded.distinct hOther hMem hName
    exact hLoads

/-- A call that has been woken for a free guard would get on, and does when it looks. -/
theorem Reached.gets_on {c : KeySetCache} (h : Reached c) {url : Url} {call : Call} (hMem : call ∈ (c.lane url).calls)
    (hStage : call.stage = .queued purpose g) {guard : Guard} (hSlot : (c.lane url).guards[g]? = some guard)
    (hFree : guard.holder = none) (hWoken : guard.woken? = some call.name) :
    (url, call.name) ∈ c.runnable ∧
      ∀ ready, ((c.step (.resume url call.name ready)).lane url).GotOn call.name := by
  have hLook : (c.lane url).woken? g = some call.name := by
    rw [Lane.woken?, hSlot, Option.bind_some, hWoken]
  refine ⟨(mem_runnable_iff h.lanes).2 ⟨call, hMem, ?_, rfl⟩, fun ready => ?_⟩
  · simp [Lane.isRunnable, hStage, hLook]
  · have hTie : tie? (c.lane url) .idle call.name = some ⟨g, none⟩ := by
      rw [(h.excluded url).tie?_of_mem hMem, hStage]
      rfl
    have hGuard := (h.excluded url).guarded.held _ _ hTie
    rw [KeySetCache.step, lane_within, if_pos rfl]
    exact resume_gotOn ((h.excluded url).clear hSlot hFree hGuard)
      (find?_of_mem Call.name (h.excluded url).distinct hMem) hStage hLook hSlot hFree

/-- When the call that holds a guard is given up, one that waits for the guard would get on, and does when it looks. -/
theorem Reached.handed_over {c : KeySetCache} (h : Reached c) {url : Url} {holder waiter : Call}
    (hHolder : holder ∈ (c.lane url).calls) (hHolds : (c.lane url).isHolder g holder.name = true)
    (hWaiter : waiter ∈ (c.lane url).calls) (hQueued : waiter.stage = .queued purpose g) :
    ∃ next purpose, (c.lane url).stage? next = some (.queued purpose g) ∧
      (url, next) ∈ (c.step (.cancel url holder.name)).runnable ∧
        ∀ ready, (((c.step (.cancel url holder.name)).step (.resume url next ready)).lane url).GotOn next := by
  obtain ⟨purpose', q, hDownloading⟩ := (h.attended url).downloading_of_holder (h.excluded url) hHolder hHolds
  obtain ⟨held, hHeld, hHolderName⟩ := Lane.isHolder_eq_true_iff.1 hHolds
  have hOther : waiter.name ≠ holder.name := fun hSame =>
    (h.attended url).not_holder (h.excluded url) hWaiter hQueued hHeld (hSame ▸ hHolderName)
  obtain ⟨hGuards, hCancelled, hOthers⟩ := cancel_of_downloading (x := c.surroundings url) (w := ⟨c.lane url, [], []⟩)
    (find?_of_mem Call.name (h.excluded url).distinct hHolder) hDownloading
  have hLane : (c.step (.cancel url holder.name)).lane url =
      (cancel (c.surroundings url) holder.name ⟨c.lane url, [], []⟩).lane := by
    rw [KeySetCache.step, lane_within, if_pos rfl]
  rw [← hLane] at hGuards hCancelled hOthers
  have hAfter := h.step (.cancel url holder.name)
  generalize c.step (.cancel url holder.name) = c' at *
  have hReleased : (c'.lane url).guards[g]? = some held.release := by
    rw [hGuards]
    simp [hHeld, Guard.forget_of_holder hHolderName]
  -- the waiter is where it was, so somebody has been woken
  have hWaits : (c'.lane url).stage? waiter.name = some (.queued purpose g) := by
    rw [hOthers _ hOther]
    exact (Lane.stage?_eq_some_iff (h.excluded url).distinct).2 ⟨waiter, hWaiter, rfl, hQueued⟩
  obtain ⟨left, hLeft, -, hLeftStage⟩ := (Lane.stage?_eq_some_iff (hAfter.excluded url).distinct).1 hWaits
  obtain ⟨guard, hSlot, next, hNext, ⟨hTaken, -⟩ | ⟨hFree, hWoken, purpose'', hNextStage⟩⟩ :=
    (hAfter.attended url).held_or_woken (hAfter.excluded url) hLeft hLeftStage
  · rw [hReleased] at hSlot
    cases hSlot
    cases hTaken
  · have hStage : (c'.lane url).stage? next.name = some (.queued purpose'' g) :=
      (Lane.stage?_eq_some_iff (hAfter.excluded url).distinct).2 ⟨next, hNext, rfl, hNextStage⟩
    have hNotHolder : next.name ≠ holder.name := fun hSame => by
      rw [hSame, hCancelled] at hStage
      cases hStage
    refine ⟨next.name, purpose'', ?_, hAfter.gets_on hNext hNextStage hSlot hFree hWoken⟩
    rw [← hOthers _ hNotHolder, hStage]

def Lane.AwaitsReply (l : Lane) (call : Call) : Prop :=
  ∃ purpose g q, call.stage = .downloading purpose g q ∧ Happened l.history (.sent call.name purpose q) ∧
    l.transport.isWaiting q = true

/-- The call waits for the guard of its URL, which one other call holds that waits for a reply, and no third. -/
def Lane.AwaitsHolder (l : Lane) (call : Call) : Prop :=
  ∃ purpose g, call.stage = .queued purpose g ∧ l.guard = some g ∧
    ∃ holder ∈ l.calls, holder.name ≠ call.name ∧ l.AwaitsReply holder ∧
      ∀ n, l.isHolder g n = true ↔ n = holder.name

/-- No call of a cache is stuck. -/
structure NeverStuck (c : KeySetCache) : Prop where
  /-- In whatever order calls look again that would get on, they come to a standstill. -/
  settles : Acc LookedAgain c
  /-- At a standstill, every call that is not over waits for its own reply, or for the guard of the call that does. -/
  waits : c.runnable = [] → ∀ url, ∀ call ∈ (c.lane url).calls, (∀ a, call.stage ≠ .finished a) →
    call.stage ≠ .cancelled → (c.lane url).AwaitsReply call ∨ (c.lane url).AwaitsHolder call
  /-- At every point, the guard that a call waits for is held by a call that downloads, or a call that waits for the
  guard would get on. -/
  served : ∀ url purpose g, ∀ call ∈ (c.lane url).calls, call.stage = .queued purpose g →
    ∃ other ∈ (c.lane url).calls,
      ((c.lane url).isHolder g other.name = true ∧ ∃ purpose q, other.stage = .downloading purpose g q) ∨
        ((∃ purpose, other.stage = .queued purpose g) ∧ (url, other.name) ∈ c.runnable)
  /-- When the call that holds a guard is given up at any point, one of those that wait for the guard would get on, and
  is answered or downloads when it looks. -/
  replaced : ∀ url purpose g, ∀ holder ∈ (c.lane url).calls, ∀ waiter ∈ (c.lane url).calls,
    (c.lane url).isHolder g holder.name = true → waiter.stage = .queued purpose g →
      ∃ next purpose, (c.lane url).stage? next = some (.queued purpose g) ∧
        (url, next) ∈ (c.step (.cancel url holder.name)).runnable ∧
          ∀ ready, (((c.step (.cancel url holder.name)).step (.resume url next ready)).lane url).GotOn next

theorem Lane.Loads.awaitsReply {call : Call} (hLoads : l.Loads call g) (hRecorded : Recorded x l .idle)
    (hDistinct : l.Distinct) : l.AwaitsReply call := by
  obtain ⟨purpose, q, hStage, hWaiting⟩ := hLoads.waits
  have hFits := hRecorded.fitsStage call.name
  rw [(Lane.stage?_eq_some_iff hDistinct).2 ⟨call, hLoads.known, rfl, hStage⟩] at hFits
  exact ⟨purpose, g, q, hStage, sent_of_loading hFits, hWaiting⟩

theorem Reached.waits {c : KeySetCache} (h : Reached c) (hNone : c.runnable = []) {url : Url} {call : Call}
    (hMem : call ∈ (c.lane url).calls) (hUnfinished : ∀ a, call.stage ≠ .finished a) (hLive : call.stage ≠ .cancelled) :
    (c.lane url).AwaitsReply call ∨ (c.lane url).AwaitsHolder call := by
  have hQuiet := quiet_of_runnable_eq_nil h.lanes hNone url
  have hAttended := h.attended url
  have hExcluded := h.excluded url
  have hAwaits {other : Call} {g : Nat} (hLoads : (c.lane url).Loads other g) : (c.lane url).AwaitsReply other :=
    hLoads.awaitsReply (h.recorded url) hExcluded.distinct
  cases hStage : call.stage with
  | finished a => exact absurd hStage (hUnfinished a)
  | cancelled => exact absurd hStage hLive
  | downloading purpose g q => exact .inl (hAwaits (hAttended.loads_of_quiet hExcluded hQuiet hMem hStage))
  | queued purpose g =>
    obtain ⟨holder, hLoads⟩ := hAttended.holder_of_quiet hExcluded hQuiet hMem hStage
    obtain ⟨guard, hSlot, hHolds⟩ := Lane.isHolder_eq_true_iff.1 hLoads.holds
    have hTie : tie? (c.lane url) .idle call.name = some ⟨g, none⟩ := by
      rw [hExcluded.tie?_of_mem hMem, hStage]
      rfl
    refine .inr ⟨purpose, g, hStage, hExcluded.guarded.held _ _ hTie, holder, hLoads.known, fun hSame => ?_,
      hAwaits hLoads, fun n => ?_⟩
    · exact hAttended.not_holder hExcluded hMem hStage hSlot (hSame ▸ hHolds)
    · rw [Lane.isHolder_eq_true_iff]
      constructor
      · rintro ⟨guard', hSlot', hHolds'⟩
        rw [hSlot] at hSlot'
        cases hSlot'
        exact Option.some.inj (hHolds'.symm.trans hHolds)
      · rintro rfl
        exact ⟨guard, hSlot, hHolds⟩

theorem Reached.served {c : KeySetCache} (h : Reached c) {url : Url} {call : Call} (hMem : call ∈ (c.lane url).calls)
    (hStage : call.stage = .queued purpose g) :
    ∃ other ∈ (c.lane url).calls,
      ((c.lane url).isHolder g other.name = true ∧ ∃ purpose q, other.stage = .downloading purpose g q) ∨
        ((∃ purpose, other.stage = .queued purpose g) ∧ (url, other.name) ∈ c.runnable) := by
  obtain ⟨guard, hSlot, other, hOther, ⟨hHolds, hLoads⟩ | ⟨-, hWoken, purpose', hQueued⟩⟩ :=
    (h.attended url).held_or_woken (h.excluded url) hMem hStage
  · exact ⟨other, hOther, .inl ⟨Lane.isHolder_eq_true_iff.2 ⟨guard, hSlot, hHolds⟩, hLoads⟩⟩
  · refine ⟨other, hOther, .inr ⟨⟨purpose', hQueued⟩, (mem_runnable_iff h.lanes).2 ⟨other, hOther, ?_, rfl⟩⟩⟩
    simp [Lane.isRunnable, hQueued, Lane.woken?, hSlot, hWoken]

/-- In every run, no call is stuck. -/
theorem run_neverStuck (ttl : Int) (classify : Classifier) (clock : Clock) (checks : Checks) (events : List Event) :
    NeverStuck ((empty ttl classify clock checks).run events) := by
  have hReached := (reached_empty ttl classify clock checks).run events
  exact
    { settles := hReached.standstill
      waits := fun hNone _ _ hMem hUnfinished hLive => hReached.waits hNone hMem hUnfinished hLive
      served := fun _ _ _ _ hMem hStage => hReached.served hMem hStage
      replaced := fun _ _ _ _ hHolder _ hWaiter hHolds hQueued =>
        hReached.handed_over hHolder hHolds hWaiter hQueued }

end BearerTokens.KeySetCache
