import BearerTokens.Proofs.KeySetCache.Download

/-!
# Exclusion of downloads

For one URL at most one download is under way, whatever calls come, wait, give up and go, and however the
entry and the clock are changed meanwhile. All calls that are tied to a guard are tied to one, which its holder
alone uses; it is taken from newcomers only when no other call is tied to it, and no second one is made before.
-/

set_option autoImplicit false

namespace BearerTokens.KeySetCache

open BearerTokens.Http BearerTokens.Time Relation

/-- What holds of a lane at every moment, and what a call is doing in it. -/
structure Excluded (l : Lane) (a : Activity) : Prop where
  distinct : l.Distinct
  guarded : Guarded l.guards l.guard (tie? l a)
  loaded : Loaded l.history l.transport (tie? l a)

variable {l l' : Lane} {a a' : Activity} {transport : Transport} {t : Instant} {f : Fact} {name : CallName}
  {g : Nat}

theorem excluded_empty : Excluded .empty .idle := by
  have hUntied : tie? .empty .idle = fun _ => none := rfl
  refine ⟨List.nodup_nil, ?_, ?_⟩
  · rw [hUntied]
    exact guarded_empty
  · rw [hUntied]
    exact loaded_empty

/-- While a call holds its guard without a request, no other call downloads. -/
theorem Excluded.downloads_eq_nil (h : Excluded l a) (hTie : tie? l a name = some ⟨g, none⟩)
    (hHolds : l.isHolder g name = true) : downloads l.history = [] := by
  refine List.eq_nil_iff_forall_not_mem.2 fun d hMem => ?_
  obtain ⟨n, q⟩ := d
  obtain ⟨g', hOther⟩ := (h.loaded.listed n q).1 hMem
  obtain ⟨guard, hGuard, hHolder⟩ := Lane.isHolder_eq_true_iff.1 hHolds
  -- a call that downloads would hold the same guard
  obtain rfl : g = g' :=
    Option.some.inj ((h.guarded.held name _ hTie).symm.trans (h.guarded.held n _ hOther))
  obtain rfl : name = n := Option.some.inj (hHolder.symm.trans (h.guarded.loads n g q guard hOther hGuard))
  rw [hTie] at hOther
  cases hOther

theorem Excluded.turn (h : Excluded l a) (hTie : tie? l a' = tie? l a) : Excluded l a' where
  distinct := h.distinct
  guarded := by
    rw [hTie]
    exact h.guarded
  loaded := by
    rw [hTie]
    exact h.loaded

theorem Excluded.record (h : Excluded l a) (hFact : ∀ current, f.downloads current = current) :
    Excluded { l with history := l.history ++ [(t, f)] } a where
  distinct := h.distinct
  guarded := h.guarded
  loaded := h.loaded.frame hFact fun _ => id

theorem Excluded.setCall (h : Excluded l a) {call : Call} (hConcerns : a.Concerns call.name)
    (hTie : call.stage.tie? = tie? l a call.name) : Excluded (l.setCall call) .idle := by
  have hSame : tie? (l.setCall call) .idle = tie? l a := by
    rw [tie?_setCall hConcerns, hTie, Function.update_eq_self]
  refine ⟨h.distinct.setCall call, ?_, ?_⟩
  · rw [hSame, Lane.guards_setCall, Lane.guard_setCall]
    exact h.guarded
  · rw [hSame, Lane.history_setCall, Lane.transport_setCall]
    exact h.loaded

theorem Excluded.answer (h : Excluded l a) {number : Nat} {reply : Reply}
    (hWaiting : l.transport.state? number = some .waiting) :
    Excluded { l with transport := l.transport.answer number reply, history := l.history ++ [(t, .replied number)] }
      a where
  distinct := h.distinct
  guarded := h.guarded
  loaded := by
    refine h.loaded.frame (fun _ => rfl) fun q hq => ?_
    rw [Http.Transport.state?_answer hWaiting] at hq
    split at hq
    · cases hq
    · exact hq

theorem Excluded.enter {w : Work} (h : Excluded w.lane a) (hConcerns : a.Concerns name)
    (hNew : tie? w.lane a name = none) (job : Job) (purpose : Purpose) :
    Excluded (w.enter name).lane (.inside name job purpose w.newcomerGuard) := by
  have hInside : (Activity.inside name job purpose w.newcomerGuard).Concerns name := .inr rfl
  have hCalls : (w.enter name).lane.calls = w.lane.calls := w.lane.calls_takeGuard
  have hTie : tie? (w.enter name).lane (.inside name job purpose w.newcomerGuard) =
      Function.update (tie? w.lane a) name (some ⟨w.newcomerGuard, none⟩) := by
    refine tie?_eq_update hConcerns hInside (fun n _ => ?_) (tie?_of_name rfl)
    unfold Lane.stage?
    rw [hCalls]
  obtain ⟨hTaken, hNewcomers⟩ := h.guarded.takeGuard
  refine ⟨?_, ?_, ?_⟩
  · unfold Lane.Distinct
    rw [hCalls]
    exact h.distinct
  · have hGuard : (w.enter name).lane.guard = some w.newcomerGuard := hNewcomers
    rw [hTie, hGuard]
    exact hTaken.enter hNew
  · have hHistory : (w.enter name).lane.history = w.lane.history := w.lane.history_takeGuard
    have hTransport : (w.enter name).lane.transport = w.lane.transport := w.lane.transport_takeGuard
    rw [hTie, hHistory, hTransport]
    exact h.loaded.enter hNew

theorem Excluded.look (h : Excluded l .idle) {call : Call} {purpose : Purpose}
    (hKnown : l.calls.find? (·.name == name) = some call) (hQueued : call.stage = .queued purpose g)
    (hWoken : l.woken? g = some name) :
    Excluded (l.modifyGuard g (·.look name)) (.inside name call.job purpose g) := by
  have hInside : (Activity.inside name call.job purpose g).Concerns name := .inr rfl
  have hTie : tie? (l.modifyGuard g (·.look name)) (.inside name call.job purpose g) = tie? l .idle := by
    refine tie?_eq_of_same name (Activity.concerns_idle name) hInside (fun _ _ => rfl) ?_
    rw [tie?_of_name rfl, tie?_idle, Lane.stage?_of_known hKnown, hQueued]
    rfl
  refine ⟨h.distinct, ?_, ?_⟩
  · rw [hTie]
    refine h.guarded.look fun guard hGuard => Guard.mem_waiters_of_woken ?_
    unfold Lane.woken? at hWoken
    rwa [hGuard, Option.bind_some] at hWoken
  · rw [hTie]
    exact h.loaded

theorem Excluded.send {w : Work} {job : Job} {purpose : Purpose}
    (h : Excluded w.lane (.inside name job purpose g)) (hHolds : w.lane.isHolder g name = true)
    (x : Surroundings) (r : Request) :
    Excluded (w.send x name purpose r).lane (.loading name job purpose g w.lane.transport.nextNumber) := by
  have hBefore : (Activity.inside name job purpose g).Concerns name := .inr rfl
  have hAfter : (Activity.loading name job purpose g w.lane.transport.nextNumber).Concerns name := .inr rfl
  have hOwn : tie? w.lane (.inside name job purpose g) name = some ⟨g, none⟩ := tie?_of_name rfl
  have hTie : tie? (w.send x name purpose r).lane (.loading name job purpose g w.lane.transport.nextNumber) =
      Function.update (tie? w.lane (.inside name job purpose g)) name
        (some ⟨g, some w.lane.transport.nextNumber⟩) :=
    tie?_eq_update hBefore hAfter (fun _ _ => rfl) (tie?_of_name rfl)
  refine ⟨h.distinct, ?_, ?_⟩
  · rw [hTie]
    refine h.guarded.load hOwn fun guard hGuard => ?_
    obtain ⟨guard', hGuard', hHolder⟩ := Lane.isHolder_eq_true_iff.1 hHolds
    rw [hGuard] at hGuard'
    cases hGuard'
    exact hHolder
  · rw [hTie]
    refine h.loaded.send (h.downloads_eq_nil hOwn hHolds) fun q hq => ?_
    by_cases hSent : q = w.lane.transport.nextNumber
    · exact .inl hSent
    · refine .inr ?_
      have hState : (w.lane.transport.send r w.ready.head?).state? q = some .waiting := hq
      rwa [Http.Transport.state?_send, if_neg hSent] at hState

theorem Excluded.giveUp {w : Work} (h : Excluded w.lane .idle) {call : Call} {request : Option Nat}
    (hKnown : w.lane.calls.find? (·.name == name) = some call)
    (hStage : call.stage.tie? = some ⟨g, request⟩)
    (hWaiting : ∀ q, transport.state? q = some .waiting →
      w.lane.transport.state? q = some .waiting ∧ request ≠ some q) (x : Surroundings) :
    Excluded ({ w with lane := { w.lane with transport := transport } }.giveUp x name call.job g).lane .idle := by
  have hTie : tie? w.lane .idle name = some ⟨g, request⟩ := by
    rw [tie?_idle, Lane.stage?_of_known hKnown, Option.bind_some, hStage]
  have hBase : ({ w.lane with transport := transport }.modifyGuard g (·.forget name)).Distinct := h.distinct
  have hNow : tie? (({ w.lane with transport := transport }.modifyGuard g (·.forget name)).setCall
      ⟨name, call.job, .cancelled⟩) .idle = Function.update (tie? w.lane .idle) name none :=
    tie?_setCall (Activity.concerns_idle name)
  refine ⟨hBase.setCall ⟨name, call.job, .cancelled⟩, ?_, ?_⟩
  · refine hNow ▸ ?_
    simp only [Work.giveUp, Work.setCall, Work.record, Lane.guards_setCall, Lane.guard_setCall]
    exact h.guarded.forget hTie rfl
  · refine hNow ▸ ?_
    simp only [Work.giveUp, Work.setCall, Work.record, Lane.history_setCall, Lane.transport_setCall]
    refine h.loaded.cancel fun q hq => ?_
    obtain ⟨hOld, hOther⟩ := hWaiting q hq
    refine ⟨hOld, fun g' hTie' => hOther ?_⟩
    rw [hTie] at hTie'
    cases hTie'
    rfl

theorem isShared_of_tie (hDistinct : l.Distinct) (hName : a.name? = some name) {n : CallName}
    (hOther : n ≠ name) {t : Tie} (hTie : tie? l a n = some t) : l.isShared t.guard name = true := by
  have hAway : a.name? ≠ some n := by
    rw [hName]
    exact fun hSame => hOther (Option.some.inj hSame).symm
  rw [tie?_of_other hAway] at hTie
  obtain ⟨stage, hStage, hStageTie⟩ := Option.bind_eq_some_iff.1 hTie
  exact (Lane.isShared_eq_true_iff hDistinct).2
    ⟨n, stage, hOther, hStage, Stage.guard?_eq_some_iff.2 ⟨t, hStageTie, rfl⟩⟩

/-- A call lets go of its guard with what it has done under it. The guard is taken from newcomers only if no
other call is tied to it. -/
theorem Guarded.leaveGuard (h : Guarded l.guards l.guard (tie? l a)) (hDistinct : l.Distinct)
    (hName : a.name? = some name) {t : Tie} (hTie : tie? l a name = some t) (hGuard : t.guard = g) :
    Guarded (l.leaveGuard g name).guards (l.leaveGuard g name).guard
      (Function.update (tie? l a) name none) := by
  have hForgot := h.forget hTie hGuard
  unfold Lane.leaveGuard
  dsimp only
  split
  · rename_i hLast
    obtain ⟨hNewcomers, hUnshared⟩ := hLast
    refine hForgot.retire fun n => ?_
    by_cases hn : n = name
    · subst hn
      exact Function.update_self ..
    · rw [Function.update_of_ne hn]
      cases hTie' : tie? l a n with
      | none => rfl
      | some t' =>
        obtain rfl : g = t'.guard := Option.some.inj (hNewcomers.symm.trans (h.held n t' hTie'))
        have hShared := isShared_of_tie hDistinct hName hn hTie'
        rw [hUnshared] at hShared
        cases hShared
  · exact hForgot

theorem tie?_leaveGuard (hBefore : a.name? = some name) (hAfter : a'.name? = some name)
    (hUntied : a'.tie? = none) : tie? (l.leaveGuard g name) a' = Function.update (tie? l a) name none := by
  refine tie?_eq_update (.inr hBefore) (.inr hAfter) (fun n _ => ?_) ?_
  · unfold Lane.stage?
    rw [Lane.calls_leaveGuard]
  · rw [tie?_of_name hAfter, hUntied]

/-- A call goes from its guard, with one fact of what it has done and perhaps another entry. -/
theorem Excluded.leave (h : Excluded l a) (hName : a.name? = some name) {request : Option Nat}
    (hTie : tie? l a name = some ⟨g, request⟩)
    (hFact : ∀ current, f.downloads current = without name request current)
    (hAnswered : ∀ q, request = some q → l.transport.state? q ≠ some .waiting)
    (hAfter : a'.name? = some name) (hUntied : a'.tie? = none) (e : Option Entry) (k : Nat) :
    Excluded ({ l with entry := e, storedCount := k, history := l.history ++ [(t, f)] }.leaveGuard g name)
      a' := by
  have hNow : tie?
      ({ l with entry := e, storedCount := k, history := l.history ++ [(t, f)] }.leaveGuard g name) a' =
      Function.update (tie? l a) name none := tie?_leaveGuard hName hAfter hUntied
  refine ⟨?_, ?_, ?_⟩
  · unfold Lane.Distinct
    rw [Lane.calls_leaveGuard]
    exact h.distinct
  · rw [hNow]
    exact Guarded.leaveGuard (l := { l with entry := e, storedCount := k, history := l.history ++ [(t, f)] })
      h.guarded h.distinct hName hTie rfl
  · rw [hNow, Lane.history_leaveGuard, Lane.transport_leaveGuard]
    exact h.loaded.leave hTie hFact hAnswered

theorem not_waiting_of_come {number : Nat} {reply : Reply} (hCome : transport.reply? number = some reply)
    (q : Nat) (hq : some number = some q) : transport.state? q ≠ some .waiting := by
  cases hq
  rw [Http.Transport.reply?_eq_some_iff.1 hCome]
  simp

theorem Excluded.finish {w : Work} (h : Excluded w.lane a) (hConcerns : a.Concerns name)
    (hUntied : tie? w.lane a name = none) (x : Surroundings) (job : Job) (answer : Answer) :
    Excluded (w.finish x name job answer).lane .idle := by
  have hSet : Excluded (w.lane.setCall ⟨name, job, .finished answer⟩) .idle :=
    h.setCall hConcerns hUntied.symm
  exact hSet.record (fun _ => rfl)

theorem lane_find (w : Work) (x : Surroundings) (purpose : Purpose) (s : Stored) :
    (w.find x name purpose s).lane =
      { w.lane with history := w.lane.history ++ [(x.now, .found name purpose s.number)] } := by
  cases purpose <;> rfl

theorem Excluded.move {x : Surroundings} {m m' : Moment} (hMove : Move x m m')
    (h : Excluded m.work.lane m.activity) : Excluded m'.work.lane m'.activity := by
  cases hMove with
  | @begin w name inquiry job hUnknown =>
    refine (h.record (fun _ => rfl)).turn ?_
    refine tie?_eq_of_same name (Activity.concerns_idle name) (.inr rfl) (fun _ _ => rfl) ?_
    rw [tie?_of_name rfl, tie?_idle]
    exact (congrArg (·.bind Stage.tie?) hUnknown).symm
  | @refuse w name token validation e hUnknown =>
    have hUntied : tie? w.lane .idle name = none := by rw [tie?_idle, hUnknown, Option.bind_none]
    exact (h.record (fun _ => rfl)).finish (w := w.record x [.began name])
      (Activity.concerns_idle name) hUntied x _ _
  | @hit w name job s =>
    refine (h.record (fun _ => rfl)).turn ?_
    refine tie?_eq_of_same name (.inr rfl) (.inr rfl) (fun _ _ => rfl) ?_
    rw [tie?_of_name rfl, tie?_of_name rfl]
    rfl
  | enter => exact h.enter (.inr rfl) (tie?_of_name rfl) _ _
  | miss => exact h.enter (w := Work.note _ _) (.inr rfl) (tie?_of_name rfl) _ _
  | @queue w name job purpose g =>
    have hTie : tie? w.lane (.inside name job purpose g) name = some ⟨g, none⟩ := tie?_of_name rfl
    exact h.setCall (.inr rfl) hTie.symm
  | @find w name job purpose g s =>
    have hTie : tie? w.lane (.inside name job purpose g) name = some ⟨g, none⟩ := tie?_of_name rfl
    have hLane : ((w.find x name purpose s).leave name g).lane =
        (w.find x name purpose s).lane.leaveGuard g name := rfl
    simp only [hLane, lane_find]
    exact h.leave rfl hTie (f := .found name purpose s.number) (fun _ => rfl) (by simp) rfl rfl _ _
  | @unbuilt w name job purpose g e =>
    have hTie : tie? w.lane (.inside name job purpose g) name = some ⟨g, none⟩ := tie?_of_name rfl
    exact h.leave rfl hTie (f := .failed name purpose none (.config e)) (fun _ => rfl) (by simp) rfl rfl _ _
  | send hHolds => exact h.send hHolds x _
  | @wait w name job purpose g number =>
    have hTie : tie? w.lane (.loading name job purpose g number) name = some ⟨g, some number⟩ :=
      tie?_of_name rfl
    exact h.setCall (.inr rfl) hTie.symm
  | @fail w name job purpose g number reply e hCome =>
    have hTie : tie? w.lane (.loading name job purpose g number) name = some ⟨g, some number⟩ :=
      tie?_of_name rfl
    exact h.leave rfl hTie (f := .failed name purpose (some number) e) (fun _ => rfl)
      (not_waiting_of_come hCome) rfl rfl _ _
  | @store w name job purpose g number reply set hCome =>
    have hTie : tie? w.lane (.loading name job purpose g number) name = some ⟨g, some number⟩ :=
      tie?_of_name rfl
    exact h.leave rfl hTie (f := .stored name purpose number ⟨⟨w.lane.storedCount, set⟩, x.now⟩)
      (fun _ => rfl) (not_waiting_of_come hCome) rfl rfl _ _
  | finish => exact h.finish (.inr rfl) (tie?_of_name rfl) x _ _
  | wake hKnown hQueued hWoken => exact h.look hKnown hQueued hWoken
  | @reread w name call purpose g number hKnown hDownloading =>
    refine h.turn ?_
    refine tie?_eq_of_same name (Activity.concerns_idle name) (.inr rfl) (fun _ _ => rfl) ?_
    rw [tie?_of_name rfl, tie?_idle, Lane.stage?_of_known hKnown, hDownloading]
    rfl
  | @cancelQueued w name call purpose g hKnown hQueued =>
    exact h.giveUp hKnown (by rw [hQueued]; rfl) (fun q hq => ⟨hq, by simp⟩) x
  | @cancelDownload w name call purpose g number hKnown hDownloading =>
    refine h.giveUp hKnown (by rw [hDownloading]; rfl) (fun q hq => ?_) x
    rw [Http.Transport.state?_abandon] at hq
    split at hq
    · simp at hq
    · rename_i hOther
      exact ⟨hq, fun hSame => hOther (Option.some.inj hSame).symm⟩
  | reply hWaiting => exact h.answer (Http.Transport.isWaiting_eq_true_iff.1 hWaiting)
  | invalidate =>
    have hRecorded := h.record (t := x.now) (f := .invalidated) fun _ => rfl
    exact ⟨hRecorded.distinct, hRecorded.guarded, hRecorded.loaded⟩

theorem excluded_run (ttl : Int) (classify : Classifier) (clock : Clock) (checks : Checks) (events : List Event)
    (url : Url) : Excluded (((empty ttl classify clock checks).run events).lane url) .idle := by
  have hNew : Excluded ((empty ttl classify clock checks).lane url) .idle := excluded_empty
  exact run_induction Excluded.move hNew events

/-- All calls in a lane that have to do with a guard have to do with one. -/
structure OneGuard (m : Moment) : Prop where
  /-- The guard that a call holds or waits for is the one for newcomers, and none was made after it. -/
  held : ∀ n t, m.tie? n = some t →
    m.work.lane.guard = some t.guard ∧ t.guard + 1 = m.work.lane.guards.length
  /-- As long as a call is tied to a guard, newcomers get that one. -/
  handed : ∀ n t, m.tie? n = some t → m.work.lane.takeGuard = (m.work.lane, t.guard)
  /-- When the call at work lets go of a guard, newcomers still get the one that another call is tied to. -/
  kept : ∀ n t, m.tie? n = some t → ∀ name, m.activity.name? = some name → n ≠ name →
    ∀ g, (m.work.lane.leaveGuard g name).guard = some t.guard
  /-- A call whose request is under way holds its guard. -/
  holder : ∀ n g q, m.tie? n = some ⟨g, some q⟩ → m.work.lane.isHolder g n = true
  /-- There is only one such call. -/
  alone : ∀ n n' g g' q q', m.tie? n = some ⟨g, some q⟩ → m.tie? n' = some ⟨g', some q'⟩ → n = n' ∧ q = q'

/-- What exclusion means for one URL of a cache. -/
structure Exclusion (c : KeySetCache) (url : Url) : Prop where
  /-- At no instant were two downloads under way. -/
  single : ∀ past, past <+: (c.lane url).history → (downloads past).length ≤ 1
  /-- The downloads on record are those that calls wait for. -/
  listed : ∀ n q, (n, q) ∈ downloads (c.lane url).history ↔
    ∃ purpose g, (c.lane url).stage? n = some (.downloading purpose g q)
  /-- No request waits for an answer but those of downloads under way. -/
  requests : ∀ q, (c.lane url).transport.isWaiting q = true → ∃ n, (n, q) ∈ downloads (c.lane url).history
  /-- Every call that has neither finished nor been cancelled has to do with the guard for newcomers. -/
  live : ∀ n stage, (c.lane url).stage? n = some stage → (∀ a, stage ≠ .finished a) → stage ≠ .cancelled →
    ∃ g, stage.guard? = some g ∧ (c.lane url).guard = some g
  /-- Whatever happens next, the lane goes from rest to rest by moves. -/
  moves : ∀ event, ∃ ready w,
    ReflTransGen (Move (c.surroundings url)) (.rest (c.lane url) ready) ⟨w, .idle⟩ ∧
      w.lane = (c.step event).lane url
  /-- At every moment that moves lead to there is one guard for all. -/
  guarded : ∀ x ready m, ReflTransGen (Move x) (.rest (c.lane url) ready) m → OneGuard m

theorem Excluded.oneGuard {m : Moment} (h : Excluded m.work.lane m.activity) : OneGuard m where
  held n t hTie := ⟨h.guarded.held n t hTie, h.guarded.newest t.guard (h.guarded.held n t hTie)⟩
  handed n t hTie := by
    unfold Lane.takeGuard
    rw [h.guarded.held n t hTie]
  kept n t hTie name hName hOther g := by
    have hNewcomers : m.work.lane.guard = some t.guard := h.guarded.held n t hTie
    unfold Lane.leaveGuard
    dsimp only
    rw [if_neg]
    · exact hNewcomers
    · rintro ⟨hSame, hUnshared⟩
      obtain rfl : t.guard = g := Option.some.inj (hNewcomers.symm.trans hSame)
      have hShared := isShared_of_tie h.distinct hName hOther hTie
      rw [hUnshared] at hShared
      cases hShared
  holder n g q hTie := by
    obtain ⟨guard, hGuard, -⟩ := h.guarded.guard_of_tie hTie
    exact Lane.isHolder_eq_true_iff.2 ⟨guard, hGuard, h.guarded.loads n g q guard hTie hGuard⟩
  alone _ _ _ _ _ _ hFirst hSecond := h.guarded.unique hFirst hSecond

theorem tie?_idle_eq_some_iff {n : CallName} {q : Nat} :
    tie? l .idle n = some ⟨g, some q⟩ ↔ ∃ purpose, l.stage? n = some (.downloading purpose g q) := by
  rw [tie?_idle, Option.bind_eq_some_iff]
  constructor
  · rintro ⟨stage, hStage, hTie⟩
    cases stage with
    | downloading purpose g' q' =>
      cases hTie
      exact ⟨purpose, hStage⟩
    | queued purpose g' => cases hTie
    | finished a => cases hTie
    | cancelled => cases hTie
  · rintro ⟨purpose, hStage⟩
    exact ⟨_, hStage, rfl⟩

theorem Excluded.exclusion {c : KeySetCache} {url : Url} (h : Excluded (c.lane url) .idle) :
    Exclusion c url where
  single := h.loaded.single
  listed n q := by
    rw [h.loaded.listed]
    simp only [tie?_idle_eq_some_iff]
    exact exists_comm
  requests q hq := by
    obtain ⟨n, g, hTie⟩ := h.loaded.waiting q (Http.Transport.isWaiting_eq_true_iff.1 hq)
    exact ⟨n, (h.loaded.listed n q).2 ⟨g, hTie⟩⟩
  live n stage hStage hUnfinished hLive := by
    have hHeld (t : Tie) (hTie : stage.tie? = some t) : (c.lane url).guard = some t.guard := by
      refine h.guarded.held n t ?_
      rw [tie?_idle, hStage, Option.bind_some, hTie]
    cases stage with
    | queued purpose g => exact ⟨g, rfl, hHeld ⟨g, none⟩ rfl⟩
    | downloading purpose g q => exact ⟨g, rfl, hHeld ⟨g, some q⟩ rfl⟩
    | finished a => exact absurd rfl (hUnfinished a)
    | cancelled => exact absurd rfl hLive
  moves := step_moves c url
  guarded x ready m hChain := (chain_induction Excluded.move hChain h).oneGuard

/-- In every run, for every URL, one download is under way at a time. -/
theorem run_exclusion (ttl : Int) (classify : Classifier) (clock : Clock) (checks : Checks)
    (events : List Event) (url : Url) : Exclusion ((empty ttl classify clock checks).run events) url := by
  have hNew : Excluded ((empty ttl classify clock checks).lane url) .idle := excluded_empty
  exact (run_induction Excluded.move hNew events).exclusion

end BearerTokens.KeySetCache
