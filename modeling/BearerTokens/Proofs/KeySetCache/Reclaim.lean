import BearerTokens.Proofs.KeySetCache.Exclusion
import BearerTokens.Proofs.KeySetCache.Record

/-!
# Reclaiming guards

In whatever order calls let go of a guard, the last of them takes it from newcomers. A call that is given up
leaves without doing so: if it was the last, its guard is left behind until a call downloads again.
-/

set_option autoImplicit false

namespace BearerTokens.KeySetCache

open BearerTokens.Http BearerTokens.Time Relation

def Fact.isOfDownload : Fact → Bool
  | .sent .. => true
  | .stored .. => true
  | .failed .. => true
  | _ => false

def Vacant (h : History) : Prop :=
  ∀ n, progress h n = .absent ∨ progress h n = .over

/-- The last call was given up, and nothing has been downloaded since. -/
def LeftBehind (h : History) : Prop :=
  ∃ past t n later, h = past ++ (t, .cancelled n) :: later ∧ Vacant (past ++ [(t, .cancelled n)]) ∧
    ∀ f, Happened later f → f.isOfDownload = false

variable {x : Surroundings} {h later : History} {t : Instant} {f : Fact} {l l' : Lane} {a a' : Activity}
  {name n : CallName} {job : Job} {purpose : Purpose} {g : Nat}

theorem not_leftBehind_nil : ¬ LeftBehind [] := by
  rintro ⟨past, t, n, later, hSplit, -⟩
  simp at hSplit

theorem leftBehind_snoc : LeftBehind (h ++ [(t, f)]) ↔
    (LeftBehind h ∧ f.isOfDownload = false) ∨ ∃ n, f = .cancelled n ∧ Vacant (h ++ [(t, f)]) := by
  constructor
  · rintro ⟨past, t', n, later, hSplit, hVacant, hLater⟩
    rcases List.eq_nil_or_concat later with rfl | ⟨later, last, rfl⟩
    · obtain ⟨rfl, hLast⟩ := List.append_inj' hSplit rfl
      cases hLast
      exact .inr ⟨n, rfl, hVacant⟩
    · have hWhole : h ++ [(t, f)] = (past ++ (t', .cancelled n) :: later) ++ [last] := by
        rw [hSplit]
        simp
      obtain ⟨rfl, hLast⟩ := List.append_inj' hWhole rfl
      cases hLast
      refine .inl ⟨⟨past, t', n, later, rfl, hVacant, fun f hf => hLater f ?_⟩, hLater f ⟨t, by simp⟩⟩
      simpa using hf.append_left [(t, _)]
  · rintro (⟨⟨past, t', n, later, rfl, hVacant, hLater⟩, hQuiet⟩ | ⟨n, rfl, hVacant⟩)
    · refine ⟨past, t', n, later ++ [(t, f)], by simp, hVacant, fun g hg => ?_⟩
      rcases happened_snoc.1 hg with hOld | rfl
      · exact hLater g hOld
      · exact hQuiet
    · exact ⟨h, t, n, [], rfl, hVacant, by simp [Happened]⟩

theorem leftBehind_append (hQuiet : ∀ f, Happened later f → f.isOfDownload = false ∧ ∀ n, f ≠ .cancelled n) :
    LeftBehind (h ++ later) ↔ LeftBehind h := by
  induction later using List.reverseRecOn with
  | nil => simp
  | append_singleton later last ih =>
    obtain ⟨t, f⟩ := last
    obtain ⟨hApart, hKept⟩ := hQuiet f (happened_snoc.2 (.inr rfl))
    rw [← List.append_assoc, leftBehind_snoc, ih fun g hg => hQuiet g (happened_snoc.2 (.inl hg))]
    constructor
    · rintro (⟨hBehind, -⟩ | ⟨n, hCancelled, -⟩)
      · exact hBehind
      · exact absurd hCancelled (hKept n)
    · exact fun hBehind => .inl ⟨hBehind, hApart⟩

theorem not_leftBehind_of_download (hf : f.isOfDownload = true) : ¬ LeftBehind (h ++ [(t, f)]) := by
  rw [leftBehind_snoc]
  rintro (⟨-, hQuiet⟩ | ⟨n, rfl, -⟩)
  · rw [hf] at hQuiet
    cases hQuiet
  · cases hf

def InUse (l : Lane) (a : Activity) : Prop :=
  ∃ n, (tie? l a n).isSome

theorem inUse_of_activity (hTie : a.tie?.isSome) : InUse l a := by
  obtain ⟨n, hName⟩ : ∃ n, a.name? = some n := by
    cases a with
    | inside n job purpose g => exact ⟨n, rfl⟩
    | loading n job purpose g request => exact ⟨n, rfl⟩
    | _ => cases hTie
  refine ⟨n, ?_⟩
  rw [tie?_of_name hName]
  exact hTie

theorem inUse_of_stage {stage : Stage} (hStage : l.stage? n = some stage) (hTie : stage.tie?.isSome) :
    InUse l .idle := by
  refine ⟨n, ?_⟩
  rw [tie?_idle, hStage, Option.bind_some]
  exact hTie

theorem inUse_setCall {stage : Stage} (hTie : stage.tie?.isSome) : InUse (l.setCall ⟨name, job, stage⟩) .idle :=
  inUse_of_stage (by rw [Lane.stage?_setCall, if_pos rfl]) hTie

/-- A call holds its guard and finds nothing that makes a download needless. -/
def AboutToLoad (x : Surroundings) (l : Lane) (a : Activity) (n : CallName) : Prop :=
  ∃ job purpose g, a = .inside n job purpose g ∧ l.isHolder g n = true ∧ l.ready? x.now x.ttl purpose = none

/-- Newcomers have a guard only while one is in use or left behind, and one that is left behind is taken by a
call that downloads at once. -/
structure Reclaimed (x : Surroundings) (l : Lane) (a : Activity) : Prop where
  used : l.guard.isSome → InUse l a ∨ LeftBehind l.history
  offered : LeftBehind l.history → l.guard.isSome
  taken : LeftBehind l.history → ∀ n, (tie? l a n).isSome → AboutToLoad x l a n

theorem reclaimed_empty : Reclaimed x .empty .idle where
  used := by simp [Lane.empty]
  offered hBehind := absurd hBehind not_leftBehind_nil
  taken hBehind := absurd hBehind not_leftBehind_nil

theorem Reclaimed.not_inUse (h : Reclaimed x l a) (hAway : ∀ n job purpose g, a ≠ .inside n job purpose g)
    (hBehind : LeftBehind l.history) : ¬ InUse l a := by
  rintro ⟨n, hTied⟩
  obtain ⟨job, purpose, g, hInside, -⟩ := h.taken hBehind n hTied
  exact hAway n job purpose g hInside

theorem reclaimed_of_not_leftBehind (hNone : ¬ LeftBehind l.history) (hUsed : l.guard.isSome → InUse l a) :
    Reclaimed x l a where
  used hGuard := .inl (hUsed hGuard)
  offered hBehind := absurd hBehind hNone
  taken hBehind := absurd hBehind hNone

/-- Nothing happens to guards, and nothing is downloaded or given up. -/
theorem Reclaimed.frame (h : Reclaimed x l a) (later : History)
    (hAway : ∀ n job purpose g, a ≠ .inside n job purpose g)
    (hGuard : l'.guard = l.guard) (hTie : tie? l' a' = tie? l a) (hHistory : l'.history = l.history ++ later)
    (hQuiet : ∀ f, Happened later f → f.isOfDownload = false ∧ ∀ n, f ≠ .cancelled n) : Reclaimed x l' a' := by
  have hBehind : LeftBehind l'.history ↔ LeftBehind l.history := by
    rw [hHistory]
    exact leftBehind_append hQuiet
  have hUse : InUse l' a' ↔ InUse l a := by
    unfold InUse
    rw [hTie]
  constructor
  · rw [hGuard, hUse, hBehind]
    exact h.used
  · rw [hGuard, hBehind]
    exact h.offered
  · intro hNow n hTied
    exact absurd (hUse.1 ⟨n, hTied⟩) (h.not_inUse hAway (hBehind.1 hNow))

theorem isHolder_of_entered (hGuard : ∃ guard : Guard, l.guards[g]? = some guard ∧ ∀ n, ¬ guard.Serves n) :
    (l.modifyGuard g (·.enter name)).isHolder g name = true := by
  obtain ⟨guard, hSlot, hFree⟩ := hGuard
  refine Lane.isHolder_eq_true_iff.2 ⟨guard.enter name, ?_, ?_⟩
  · simp [Lane.modifyGuard, hSlot]
  · unfold Guard.enter
    cases hHolder : guard.holder with
    | none => rfl
    | some holder => exact absurd (.inl hHolder) (hFree holder)

/-- A newcomer takes a guard that nobody uses. -/
theorem Excluded.isHolder_enter {w : Work} (h : Excluded w.lane a) (hUnused : ¬ InUse w.lane a) :
    (w.enter name).lane.isHolder w.newcomerGuard name = true := by
  have hTaken := h.guarded.takeGuard.1
  have hInside : w.newcomerGuard < w.lane.takeGuard.1.guards.length := by
    have hNewest : w.newcomerGuard + 1 = w.lane.takeGuard.1.guards.length := hTaken.newest _ rfl
    omega
  have hSlot := List.getElem?_eq_getElem hInside
  refine isHolder_of_entered ⟨_, hSlot, fun n hServed => hUnused ⟨n, ?_⟩⟩
  obtain ⟨t, hTie, -⟩ := (hTaken.serves _ _ hSlot n).1 hServed
  rw [hTie]
  rfl

theorem Reclaimed.enter {w : Work} (hReclaimed : Reclaimed x w.lane a) (hExcluded : Excluded w.lane a)
    (hName : a.name? = some name) (hAway : ∀ n job purpose g, a ≠ .inside n job purpose g)
    (hNeeded : w.lane.ready? x.now x.ttl purpose = none) :
    Reclaimed x (w.enter name).lane (.inside name job purpose w.newcomerGuard) := by
  have hHistory : (w.enter name).lane.history = w.lane.history := w.lane.history_takeGuard
  have hGuard : (w.enter name).lane.guard = some w.newcomerGuard := hExcluded.guarded.takeGuard.2
  have hTie : (tie? (w.enter name).lane (.inside name job purpose w.newcomerGuard) name).isSome := by
    rw [tie?_of_name rfl]
    rfl
  constructor
  · exact fun _ => .inl ⟨name, hTie⟩
  · intro _
    rw [hGuard]
    rfl
  · intro hBehind n hTied
    rw [hHistory] at hBehind
    -- the guard that was left behind serves nobody, so no call but the newcomer is tied to it
    have hUnused := hReclaimed.not_inUse hAway hBehind
    obtain rfl : n = name := by
      by_contra hOther
      have hBefore : a.Concerns name := .inr hName
      have hAfter : (Activity.inside name job purpose w.newcomerGuard).Concerns name := .inr rfl
      rw [tie?_of_other (hAfter.other hOther)] at hTied
      refine hUnused ⟨n, ?_⟩
      rw [tie?_of_other (hBefore.other hOther)]
      simpa [Work.enter, Lane.stage?, Lane.modifyGuard] using hTied
    refine ⟨job, purpose, w.newcomerGuard, rfl, hExcluded.isHolder_enter hUnused, ?_⟩
    have hEntry : (w.enter n).lane.entry = w.lane.entry := w.lane.entry_takeGuard
    cases purpose with
    | lookup =>
      have hStale : w.lane.fresh? x.now x.ttl = none := hNeeded
      simpa [Lane.ready?, Lane.fresh?, hEntry] using hStale
    | replacement stale => simpa [Lane.ready?, hEntry] using hNeeded

/-- After a call has let go of its guard, newcomers have one only if another call is tied to it. -/
theorem Reclaimed.leave {request : Option Nat} (hExcluded : Excluded l a)
    (hTie : tie? l a name = some ⟨g, request⟩) (hAfter : a'.name? = some name) (e : Option Entry) (k : Nat)
    (hNone : ¬ LeftBehind (l.history ++ [(t, f)])) :
    Reclaimed x ({ l with entry := e, storedCount := k, history := l.history ++ [(t, f)] }.leaveGuard g name)
      a' := by
  refine reclaimed_of_not_leftBehind (by simpa using hNone) fun hGuard => ?_
  have hHeld : l.guard = some g := hExcluded.guarded.held name _ hTie
  unfold Lane.leaveGuard at hGuard
  dsimp only at hGuard
  split at hGuard
  · cases hGuard
  · rename_i hShared
    have hShared : l.isShared g name = true :=
      Bool.not_eq_false _ ▸ fun hUnshared => hShared ⟨hHeld, hUnshared⟩
    obtain ⟨n, stage, hOther, hStage, hServed⟩ := (Lane.isShared_eq_true_iff hExcluded.distinct).1 hShared
    obtain ⟨tie, hTied, -⟩ := Stage.guard?_eq_some_iff.1 hServed
    refine ⟨n, ?_⟩
    rw [tie?_of_other]
    · have hKept : (l.stage? n).bind Stage.tie? = some tie := by rw [hStage, Option.bind_some, hTied]
      simpa [Lane.stage?, hKept] using congrArg Option.isSome hKept
    · have hConcerns : a'.Concerns name := .inr hAfter
      exact hConcerns.other hOther

theorem Recorded.vacant_iff (h : Recorded x l .idle) : Vacant l.history ↔ ¬ InUse l .idle := by
  constructor
  · rintro hVacant ⟨n, hTied⟩
    have hFits := h.fitsStage n
    rw [tie?_idle] at hTied
    cases hStage : l.stage? n with
    | none =>
      rw [hStage] at hTied
      cases hTied
    | some stage =>
      rw [hStage] at hTied hFits
      cases stage with
      | queued purpose g =>
        rcases hVacant n with hAbsent | hOver
        · simp [Progress.FitsStage, hAbsent, Progress.Seeks] at hFits
        · simp [Progress.FitsStage, hOver, Progress.Seeks] at hFits
      | downloading purpose g request =>
        rcases hVacant n with hAbsent | hOver
        · simp [Progress.FitsStage, hAbsent] at hFits
        · simp [Progress.FitsStage, hOver] at hFits
      | finished answer => cases hTied
      | cancelled => cases hTied
  · intro hUnused n
    have hFits := h.fitsStage n
    have hUntied : (l.stage? n).bind Stage.tie? = none := by
      rw [← Option.not_isSome_iff_eq_none]
      exact fun hTied => hUnused ⟨n, hTied⟩
    cases hStage : l.stage? n with
    | none =>
      rw [hStage] at hFits
      exact .inl hFits
    | some stage =>
      rw [hStage] at hFits hUntied
      cases stage with
      | queued purpose g => cases hUntied
      | downloading purpose g request => cases hUntied
      | finished answer => exact .inr hFits
      | cancelled => exact .inr hFits

theorem Reclaimed.giveUp (hReclaimed : Reclaimed x l .idle) (hExcluded : Excluded l .idle)
    (hTied : (tie? l .idle name).isSome) (hRecorded : Recorded x l' .idle) (hGuard : l'.guard = l.guard)
    (hHistory : l'.history = l.history ++ [(t, .cancelled name)]) : Reclaimed x l' .idle := by
  have hNotBehind : ¬ LeftBehind l.history :=
    fun hBehind => hReclaimed.not_inUse (by simp) hBehind ⟨name, hTied⟩
  -- the call that is given up had its guard in use, so that none was left behind before
  have hBehind : LeftBehind l'.history ↔ Vacant l'.history := by
    rw [hHistory, leftBehind_snoc]
    constructor
    · rintro (⟨hOld, -⟩ | ⟨n, -, hVacant⟩)
      · exact absurd hOld hNotBehind
      · exact hVacant
    · exact fun hVacant => .inr ⟨name, rfl, hVacant⟩
  obtain ⟨tie, hTie⟩ := Option.isSome_iff_exists.1 hTied
  have hHeld : l'.guard.isSome := by
    rw [hGuard, hExcluded.guarded.held name tie hTie]
    rfl
  constructor
  · intro _
    rw [hBehind, hRecorded.vacant_iff]
    exact Classical.em _
  · exact fun _ => hHeld
  · intro hNow n hStill
    rw [hBehind, hRecorded.vacant_iff] at hNow
    exact absurd ⟨n, hStill⟩ hNow

structure Known (x : Surroundings) (l : Lane) (a : Activity) : Prop where
  excluded : Excluded l a
  recorded : Recorded x l a
  reclaimed : Reclaimed x l a

theorem Reclaimed.not_leftBehind_of_inside (h : Reclaimed x l (.inside name job purpose g))
    (hUsed : l.isHolder g name = false ∨ l.ready? x.now x.ttl purpose ≠ none) : ¬ LeftBehind l.history := by
  intro hBehind
  have hTied : (tie? l (.inside name job purpose g) name).isSome := by
    rw [tie?_of_name rfl]
    rfl
  obtain ⟨job', purpose', g', hInside, hHolds, hNeeded⟩ := h.taken hBehind name hTied
  cases hInside
  rcases hUsed with hTaken | hReady
  · rw [hHolds] at hTaken
    cases hTaken
  · exact hReady hNeeded

theorem tie?_finish {w : Work} (hConcerns : a.Concerns name) (hUntied : tie? w.lane a name = none)
    (answer : Answer) : tie? (w.finish x name job answer).lane .idle = tie? w.lane a := by
  refine tie?_eq_of_same name hConcerns (Activity.concerns_idle name) (fun n hn => ?_) ?_
  · have hOther : n ≠ (⟨name, job, .finished answer⟩ : Call).name := hn
    exact w.lane.stage?_setCall_of_other hOther
  · have hStage : (w.lane.setCall ⟨name, job, .finished answer⟩).stage? name = some (.finished answer) := by
      rw [Lane.stage?_setCall, if_pos rfl]
    rw [hUntied, tie?_idle]
    exact congrArg (·.bind Stage.tie?) hStage

theorem Known.reclaimed_move {m m' : Moment} (hMove : Move x m m') (h : Known x m.work.lane m.activity) :
    Reclaimed x m'.work.lane m'.activity := by
  obtain ⟨hExcluded, hRecorded, hReclaimed⟩ := h
  have hRecorded' := Recorded.move hMove hRecorded
  cases hMove with
  | @begin w name inquiry job hUnknown =>
    refine hReclaimed.frame [(x.now, .began name)] (by simp) rfl ?_ rfl
      (by simp [Happened, Fact.isOfDownload])
    refine tie?_eq_of_same name (Activity.concerns_idle name) (.inr rfl) (fun _ _ => rfl) ?_
    rw [tie?_of_name rfl, tie?_idle]
    exact (congrArg (·.bind Stage.tie?) hUnknown).symm
  | @refuse w name token validation e hUnknown =>
    have hUntied : tie? w.lane .idle name = none := by rw [tie?_idle, hUnknown, Option.bind_none]
    exact hReclaimed.frame [(x.now, .began name), (x.now, .finished name)] (by simp)
      (by simp [Work.finish, Work.record, Work.setCall])
      (tie?_finish (w := w.record x [.began name]) (Activity.concerns_idle name) hUntied _)
      (by simp [Work.finish, Work.record, Work.setCall])
      (by simp [Happened, Fact.isOfDownload, or_imp, forall_and])
  | @hit w name job s =>
    refine hReclaimed.frame [(x.now, .found name .lookup s.number)] (by simp) rfl ?_ rfl
      (by simp [Happened, Fact.isOfDownload])
    refine tie?_eq_of_same name (.inr rfl) (.inr rfl) (fun _ _ => rfl) ?_
    rw [tie?_of_name rfl, tie?_of_name rfl]
    rfl
  | @enter w name job hStale => exact hReclaimed.enter hExcluded rfl (by simp) hStale
  | @miss w name job s hMissed =>
    have hStored := (hRecorded.placed.work.2.2 s rfl).2 rfl
    have hNeeded : w.lane.ready? x.now x.ttl (.replacement s.number) = none := by
      simp [Lane.ready?, hStored, Option.filter]
    exact hReclaimed.enter (w := w.note [.decision .keySet .kidMiss]) hExcluded rfl (by simp) hNeeded
  | @queue w name job purpose g hTaken =>
    refine reclaimed_of_not_leftBehind ?_ fun _ => inUse_setCall rfl
    simpa [Work.setCall] using hReclaimed.not_leftBehind_of_inside (.inl hTaken)
  | @find w name job purpose g s hHolds hReady =>
    have hTie : tie? w.lane (.inside name job purpose g) name = some ⟨g, none⟩ := tie?_of_name rfl
    have hLane : ((w.find x name purpose s).leave name g).lane =
        (w.find x name purpose s).lane.leaveGuard g name := rfl
    simp only [hLane, lane_find]
    refine Reclaimed.leave hExcluded hTie rfl _ _ ?_
    rw [leftBehind_append (by simp [Happened, Fact.isOfDownload])]
    exact hReclaimed.not_leftBehind_of_inside (.inr (by simp [hReady]))
  | @unbuilt w name job purpose g e =>
    have hTie : tie? w.lane (.inside name job purpose g) name = some ⟨g, none⟩ := tie?_of_name rfl
    exact Reclaimed.leave hExcluded hTie rfl _ _ (not_leftBehind_of_download rfl)
  | send => exact reclaimed_of_not_leftBehind (not_leftBehind_of_download rfl) fun _ => inUse_of_activity rfl
  | @wait w name job purpose g number =>
    refine reclaimed_of_not_leftBehind ?_ fun _ => inUse_setCall rfl
    have hBusy : InUse w.lane (.loading name job purpose g number) := inUse_of_activity rfl
    simpa [Work.setCall] using fun hBehind => hReclaimed.not_inUse (by simp) hBehind hBusy
  | @fail w name job purpose g number reply e =>
    have hTie : tie? w.lane (.loading name job purpose g number) name = some ⟨g, some number⟩ :=
      tie?_of_name rfl
    exact Reclaimed.leave hExcluded hTie rfl _ _ (not_leftBehind_of_download rfl)
  | @store w name job purpose g number reply set =>
    have hTie : tie? w.lane (.loading name job purpose g number) name = some ⟨g, some number⟩ :=
      tie?_of_name rfl
    exact Reclaimed.leave hExcluded hTie rfl _ _ (not_leftBehind_of_download rfl)
  | @finish w name job purpose result answer =>
    exact hReclaimed.frame [(x.now, .finished name)] (by simp)
      (by simp [Work.finish, Work.record, Work.setCall]) (tie?_finish (.inr rfl) (tie?_of_name rfl) _)
      (by simp [Work.finish, Work.record, Work.setCall]) (by simp [Happened, Fact.isOfDownload])
  | @wake w name call purpose g hKnown hQueued =>
    have hBusy : InUse w.lane .idle := inUse_of_stage (Lane.stage?_of_known hKnown) (by rw [hQueued]; rfl)
    exact reclaimed_of_not_leftBehind (fun hBehind => hReclaimed.not_inUse (by simp) hBehind hBusy)
      fun _ => inUse_of_activity rfl
  | @reread w name call purpose g number hKnown hDownloading =>
    have hBusy : InUse w.lane .idle := inUse_of_stage (Lane.stage?_of_known hKnown) (by rw [hDownloading]; rfl)
    exact reclaimed_of_not_leftBehind (fun hBehind => hReclaimed.not_inUse (by simp) hBehind hBusy)
      fun _ => inUse_of_activity rfl
  | @cancelQueued w name call purpose g hKnown hQueued =>
    have hTied : (tie? w.lane .idle name).isSome := by
      rw [tie?_idle, Lane.stage?_of_known hKnown, hQueued]
      rfl
    refine hReclaimed.giveUp (t := x.now) hExcluded hTied hRecorded' ?_ ?_
    · simp [Work.giveUp, Work.record, Work.setCall, Lane.modifyGuard]
    · simp [Work.giveUp, Work.record, Work.setCall, Lane.modifyGuard]
  | @cancelDownload w name call purpose g number hKnown hDownloading =>
    have hTied : (tie? w.lane .idle name).isSome := by
      rw [tie?_idle, Lane.stage?_of_known hKnown, hDownloading]
      rfl
    refine hReclaimed.giveUp (t := x.now) hExcluded hTied hRecorded' ?_ ?_
    · simp [Work.giveUp, Work.record, Work.setCall, Lane.modifyGuard]
    · simp [Work.giveUp, Work.record, Work.setCall, Lane.modifyGuard]
  | @reply w number reply =>
    exact hReclaimed.frame [(x.now, .replied number)] (by simp) rfl rfl rfl
      (by simp [Happened, Fact.isOfDownload])
  | @invalidate w =>
    exact hReclaimed.frame [(x.now, .invalidated)] (by simp) rfl rfl rfl
      (by simp [Happened, Fact.isOfDownload])

theorem Known.move {m m' : Moment} (hMove : Move x m m') (h : Known x m.work.lane m.activity) :
    Known x m'.work.lane m'.activity :=
  ⟨h.excluded.move hMove, h.recorded.move hMove, h.reclaimed_move hMove⟩

theorem Known.tick (h : Known x l .idle) (now : Instant) : Known { x with now := now } l .idle where
  excluded := h.excluded
  recorded := h.recorded.tick now
  reclaimed :=
    { used := h.reclaimed.used
      offered := h.reclaimed.offered
      taken := fun hBehind n hTied => absurd ⟨n, hTied⟩ (h.reclaimed.not_inUse (by simp) hBehind) }

theorem known_empty : Known x .empty .idle :=
  ⟨excluded_empty, recorded_empty, reclaimed_empty⟩

def Lane.Serves (l : Lane) (n : CallName) : Prop :=
  ∃ g guard, l.guard = some g ∧ l.guards[g]? = some guard ∧ Guard.Serves guard n

theorem Excluded.serves_iff (h : Excluded l .idle) : l.Serves n ↔ (tie? l .idle n).isSome := by
  constructor
  · rintro ⟨g, guard, -, hSlot, hServes⟩
    obtain ⟨t, hTie, -⟩ := (h.guarded.serves g guard hSlot n).1 hServes
    rw [hTie]
    rfl
  · intro hTied
    obtain ⟨t, hTie⟩ := Option.isSome_iff_exists.1 hTied
    obtain ⟨guard, hSlot, hServes⟩ := h.guarded.guard_of_tie hTie
    exact ⟨t.guard, guard, h.guarded.held n t hTie, hSlot, hServes⟩

theorem tie?_isSome_iff : (tie? l .idle n).isSome ↔
    ∃ stage, l.stage? n = some stage ∧ (∀ answer, stage ≠ .finished answer) ∧ stage ≠ .cancelled := by
  rw [tie?_idle]
  cases hStage : l.stage? n with
  | none => simp
  | some stage => cases stage <;> simp [Stage.tie?]

theorem nodup_run {c : KeySetCache} (h : (c.lanes.map Prod.fst).Nodup) (events : List Event) :
    ((c.run events).lanes.map Prod.fst).Nodup := by
  have hWithin {c : KeySetCache} (h : (c.lanes.map Prod.fst).Nodup) (url : Url) (ready : List Reply)
      (act : Surroundings → Work → Work) : ((c.within url ready act).lanes.map Prod.fst).Nodup :=
    nodup_place Prod.fst h (url, _)
  induction events generalizing c with
  | nil => exact h
  | cons event events ih =>
    refine ih (c := c.step event) ?_
    cases event with
    | setClock now => exact h
    | call => exact hWithin h ..
    | resume => exact hWithin h ..
    | cancel => exact hWithin h ..
    | reply => exact hWithin h ..
    | invalidate => exact hWithin h ..

theorem guardCount_eq_zero_iff {c : KeySetCache} (h : (c.lanes.map Prod.fst).Nodup) :
    c.guardCount = 0 ↔ ∀ url, (c.lane url).guard = none := by
  unfold guardCount
  rw [List.countP_eq_zero]
  constructor
  · intro hNone url
    unfold lane
    rw [lookup_eq_find?]
    cases hFound : c.lanes.find? (·.1 == url) with
    | none => rfl
    | some place => simpa using hNone place (List.mem_of_find?_eq_some hFound)
  · rintro hNone ⟨url, l⟩ hMem
    have hLane := hNone url
    unfold lane at hLane
    have hFound := find?_of_mem Prod.fst h hMem
    rw [lookup_eq_find?, hFound] at hLane
    simpa using hLane

/-- What becomes of the guards of a cache. -/
structure Reclamation (c : KeySetCache) : Prop where
  /-- A URL has a guard for newcomers exactly if a call holds or waits for it, or if it was left behind. -/
  used : ∀ url, (c.lane url).guard.isSome ↔
    (∃ n, (c.lane url).Serves n) ∨ LeftBehind (c.lane url).history
  /-- The guard serves the calls that have neither finished nor been cancelled. -/
  live : ∀ url n, (c.lane url).Serves n ↔
    ∃ stage, (c.lane url).stage? n = some stage ∧ (∀ a, stage ≠ .finished a) ∧ stage ≠ .cancelled
  /-- A guard that is left behind serves nobody. -/
  idle : ∀ url n, LeftBehind (c.lane url).history → ¬ (c.lane url).Serves n
  /-- No guard is left exactly if none is in use and none was left behind. -/
  counted : c.guardCount = 0 ↔
    ∀ url, (∀ n, ¬ (c.lane url).Serves n) ∧ ¬ LeftBehind (c.lane url).history
  /-- Where nothing is given up, no guard outlasts the calls that use it. -/
  uncancelled : ∀ url, (∀ n, ¬ Happened (c.lane url).history (.cancelled n)) →
    ((c.lane url).guard.isSome ↔ ∃ n, (c.lane url).Serves n)

theorem LeftBehind.cancelled (h : LeftBehind l.history) : ∃ n, Happened l.history (.cancelled n) := by
  obtain ⟨past, t, n, later, hSplit, -⟩ := h
  exact ⟨n, t, by simp [hSplit]⟩

theorem reclamation_of_known {c : KeySetCache} (hLanes : (c.lanes.map Prod.fst).Nodup)
    (h : ∀ url, Known (c.surroundings url) (c.lane url) .idle) : Reclamation c := by
  have hInUse (url : Url) : InUse (c.lane url) .idle ↔ ∃ n, (c.lane url).Serves n :=
    exists_congr fun n => (h url).excluded.serves_iff.symm
  have hUsed (url : Url) : (c.lane url).guard.isSome ↔
      (∃ n, (c.lane url).Serves n) ∨ LeftBehind (c.lane url).history := by
    constructor
    · intro hGuard
      rw [← hInUse]
      exact (h url).reclaimed.used hGuard
    · rintro (⟨n, g, guard, hGuard, -⟩ | hBehind)
      · rw [hGuard]
        rfl
      · exact (h url).reclaimed.offered hBehind
  refine ⟨hUsed, fun url n => ?_, fun url n hBehind hServes => ?_, ?_, fun url hNone => ?_⟩
  · rw [(h url).excluded.serves_iff, tie?_isSome_iff]
  · exact (h url).reclaimed.not_inUse (by simp) hBehind ((hInUse url).2 ⟨n, hServes⟩)
  · rw [guardCount_eq_zero_iff hLanes]
    refine forall_congr' fun url => ?_
    rw [← Option.not_isSome_iff_eq_none, hUsed, not_or, not_exists]
  · rw [hUsed, or_iff_left]
    intro hBehind
    obtain ⟨n, hCancelled⟩ := hBehind.cancelled
    exact hNone n hCancelled

/-- In every run, guards are reclaimed by the last call that leaves them, unless that call is given up. -/
theorem run_reclamation (ttl : Int) (classify : Classifier) (clock : Clock) (checks : Checks)
    (events : List Event) : Reclamation ((empty ttl classify clock checks).run events) := by
  have hLanes : ((empty ttl classify clock checks).lanes.map Prod.fst).Nodup := List.nodup_nil
  refine reclamation_of_known (nodup_run hLanes events) fun url => ?_
  exact run_keeps (P := Known) Known.move (fun now hRest => hRest.tick now) known_empty events

def sampleUrl : Url :=
  ⟨"https", some ⟨"", none, .domain "idp.example.com", none⟩, .segments [".well-known", "jwks.json"], none, none⟩

/-- A fetch is cancelled while it downloads, and its guard stays. -/
theorem not_every_guard_reclaimed : ¬ ∀ (ttl : Int) (classify : Classifier) (clock : Clock) (seconds : Nat)
    (events : List Event) (c : KeySetCache), c = (new ttl classify clock seconds).run events →
    c.runnable = [] → (∀ place ∈ c.lanes, ∀ call ∈ place.2.calls, call.stage.guard? = none) →
    c.guardCount = 0 := by
  intro hAlways
  have hReclaimed := hAlways defaultTtl asNetworkError ⟨⟨0, by decide, by decide⟩⟩ 0
    [.call sampleUrl "a" .fetch [], .cancel sampleUrl "a"] _ rfl (by decide +kernel) (by decide +kernel)
  revert hReclaimed
  decide +kernel

end BearerTokens.KeySetCache
