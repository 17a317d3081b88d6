import BearerTokens.Proofs.TokenCache.Forgetting
import BearerTokens.Proofs.TokenCache.Receipt

/-!
# Cancellation of callers

A caller may be cancelled without any other noticing, be it the one that started the exchange: as long as somebody
else waits for the exchange too, the cache goes on as it would have done with that caller. To compare the two runs,
the caller is forgotten in both.
-/

set_option autoImplicit false

namespace BearerTokens.TokenCache

open BearerTokens.Http BearerTokens.Time

variable {a b c : TokenCache} {k e : Nat}

/-- While the exchange waits for its reply, somebody besides the caller waits for it too. -/
def Accompanied (c : TokenCache) (caller exchange : Nat) : Prop :=
  (∃ q, c.exchanges[exchange]? = some (.waiting q)) → ∃ w, w ≠ caller ∧ c.awaited? w = some exchange

def KeptCompany (caller exchange : Nat) : TokenCache → List Event → Prop
  | c, [] => c.Accompanied caller exchange
  | c, event :: events =>
    c.Accompanied caller exchange ∧ KeptCompany caller exchange (c.resumeAll.step event) events

instance decidableAccompanied (c : TokenCache) (caller exchange : Nat) :
    Decidable (c.Accompanied caller exchange) :=
  have : Decidable (∃ q, c.exchanges[exchange]? = some (.waiting q)) :=
    match c.exchanges[exchange]? with
    | some (.waiting q) => .isTrue ⟨q, rfl⟩
    | none | some (.settled _) | some .broken | some .dropped => .isFalse fun ⟨_, hWaiting⟩ => nomatch hWaiting
  have : Decidable (∃ w, w ≠ caller ∧ c.awaited? w = some exchange) :=
    decidable_of_iff (∃ w ∈ List.range c.callers.length, w ≠ caller ∧ c.awaited? w = some exchange)
      ⟨fun ⟨w, _, hw⟩ => ⟨w, hw⟩, fun ⟨w, hNe, hw⟩ => ⟨w, c.attended_range w exchange hw, hNe, hw⟩⟩
  inferInstanceAs (Decidable (_ → _))

instance decidableKeptCompany (caller exchange : Nat) :
    (c : TokenCache) → (events : List Event) → Decidable (KeptCompany caller exchange c events)
  | c, [] => inferInstanceAs (Decidable (c.Accompanied caller exchange))
  | c, event :: events =>
    have : Decidable (KeptCompany caller exchange (c.resumeAll.step event) events) := decidableKeptCompany ..
    inferInstanceAs (Decidable (c.Accompanied caller exchange ∧
      KeptCompany caller exchange (c.resumeAll.step event) events))

theorem KeptCompany.first {events : List Event} (h : KeptCompany k e c events) : c.Accompanied k e := by
  cases events with
  | nil => exact h
  | cons event events => exact h.1

theorem Consistent.awaited_of_entered (h : Consistent c) (hEntered : Entered c.history k (some e)) {e' : Nat}
    (hAwaited : c.awaited? k = some e') : e' = e := by
  obtain ⟨state, hCaller⟩ := (h.callers.entered k (some e)).2 hEntered
  rw [awaited?_eq_some_iff.1 hAwaited] at hCaller
  cases hCaller
  rfl

theorem Consistent.not_waiting_of_cancelled (h : Consistent c) (hCancelled : Happened c.history (.cancelled k))
    (x : Option Nat) : c.callers[k]? ≠ some ⟨x, .waiting⟩ := by
  intro hCaller
  obtain ⟨x', hGone⟩ := (h.callers.cancelled k).2 hCancelled
  rw [hCaller] at hGone
  cases hGone

theorem Consistent.spare_of_cancelled (h : Consistent c) (hCancelled : Happened c.history (.cancelled k)) :
    Spare c k :=
  fun x hCaller => absurd hCaller (h.not_waiting_of_cancelled hCancelled x)

theorem Consistent.unawaited_of_cancelled (h : Consistent c) (hCancelled : Happened c.history (.cancelled k)) :
    c.awaited? k = none := by
  rw [Option.eq_none_iff_forall_ne_some]
  exact fun e hAwaited => h.not_waiting_of_cancelled hCancelled _ (awaited?_eq_some_iff.1 hAwaited)

/-- Whoever waits has waited ever since it came. -/
theorem Consistent.awaited_of_step (h : Consistent c) (hEntered : Entered c.history k (some e)) {event : Event}
    (hAwaited : (c.step event).awaited? k = some e) : c.awaited? k = some e := by
  obtain ⟨state, hCaller⟩ := (h.callers.entered k (some e)).2 hEntered
  cases state with
  | waiting => exact awaited?_eq_some_iff.2 hCaller
  | answered a =>
    have hAnswer : (c.run [event]).answer? k = some a :=
      run_answer_lasts (answer?_eq_some_iff.2 ⟨_, hCaller⟩) [event]
    exact absurd hAwaited (not_awaited_of_answer hAnswer e)
  | cancelled =>
    have hCancelled : Happened (c.step event).history (.cancelled k) :=
      ((h.callers.cancelled k).1 ⟨_, hCaller⟩).mono (step_history_grows c event)
    rw [(h.step event).unawaited_of_cancelled hCancelled] at hAwaited
    cases hAwaited

/-- A caller that is blocked waits on when others look. -/
theorem Consistent.awaited_run (h : Consistent c) (hBlocked : Blocked c k) (looks : List Nat) :
    (c.run (looks.map .resume)).awaited? k = c.awaited? k := by
  induction looks generalizing c with
  | nil => rfl
  | cons j looks ih =>
    rw [List.map_cons, run_cons]
    by_cases hSame : k = j
    · subst hSame
      rw [hBlocked.step]
      exact ih h hBlocked
    · rw [ih (h.step _) (h.blocked_other hSame hBlocked), step_resume_awaited? hSame]

theorem Consistent.spare_of_company (h : Consistent c) (hEntered : Entered c.history k (some e))
    (hWaiting : c.awaited? k = some e → ∃ q, c.exchanges[e]? = some (.waiting q))
    (hCompany : c.Accompanied k e) : Spare c k := by
  intro x hCaller
  obtain ⟨e', -, hAwaited⟩ := h.exchange_of_waiting hCaller rfl
  obtain rfl := h.awaited_of_entered hEntered hAwaited
  obtain ⟨w, hNe, hw⟩ := hCompany (hWaiting hAwaited)
  exact .inr ⟨w, e', hNe, hw⟩

/-- A round of looking leaves a caller waiting only if it leaves all of that exchange waiting. -/
theorem Consistent.spare_run (h : Consistent c) (hEntered : Entered c.history k (some e))
    (hCompany : c.Accompanied k e) {looks : List Nat} (hLooks : c.Attended looks) :
    Spare (c.run (looks.map .resume)) k := by
  intro x hCaller
  obtain ⟨e', -, hAwaited⟩ := (h.run _).exchange_of_waiting hCaller rfl
  obtain rfl := (h.run _).awaited_of_entered (hEntered.mono (run_history_grows c _)) hAwaited
  have hBlocked : Blocked c k := by
    refine (h.blocked_or_answered k).resolve_right ?_
    rintro ⟨a, hAnswer⟩
    have hFirst : c.Attended (k :: looks) := fun j e' hj => List.mem_cons_of_mem k (hLooks j e' hj)
    rw [h.run_attended hLooks hFirst] at hAwaited
    exact not_awaited_of_answer (run_answer_lasts hAnswer _) e' hAwaited
  rw [h.awaited_run hBlocked] at hAwaited
  obtain ⟨q, hWaiting, hUnanswered⟩ := hBlocked e' hAwaited
  obtain ⟨w, hNe, hw⟩ := hCompany ⟨q, hWaiting⟩
  refine .inr ⟨w, e', hNe, ?_⟩
  rw [h.awaited_run ?_, hw]
  intro e'' hw'
  rw [hw] at hw'
  cases hw'
  exact ⟨q, hWaiting, hUnanswered⟩

/-- Either nothing is left to read for the caller, or somebody else can read it first. -/
theorem Recorded.exists_reader (h : Recorded c) (hOnly : ∀ e', c.awaited? k = some e' → e' = e)
    (hCompany : c.Accompanied k e) :
    ∃ first : List Nat, k ∉ first ∧ ∀ e', (first.foldl resume c).awaited? k = some e' →
      (first.foldl resume c).look e' = first.foldl resume c := by
  by_cases hWaiting : ∃ q, c.exchanges[e]? = some (.waiting q)
  · obtain ⟨w, hNe, hw⟩ := hCompany hWaiting
    refine ⟨[w], by simp [Ne.symm hNe], fun e' hAwaited => ?_⟩
    have hLooked : (c.look e).awaited? w = some e := by
      rwa [awaited?_eq_some_iff, look_callers, ← awaited?_eq_some_iff]
    obtain rfl := hOnly e' (by rwa [← resume_awaited? hNe])
    show (c.resume w).look e' = c.resume w
    rw [resume_of_awaited hw, collect_look hLooked (h.look_look_phase e' e'), h.look_look]
  · refine ⟨[], List.not_mem_nil, fun e' hAwaited => ?_⟩
    obtain rfl := hOnly e' hAwaited
    exact look_of_not_waiting fun q hq => hWaiting ⟨q, hq⟩

/-- An exchange whose reply has not come waits on, whatever happens next. -/
theorem apply_phase (h : Recorded c) {q : Nat} (hWaiting : c.exchanges[e]? = some (.waiting q))
    (hUnanswered : c.transport.reply? q = none) (event : Event) :
    (c.apply event).exchanges[e]? = some (.waiting q) := by
  have hFlying := h.inFlight_of_waiting hWaiting
  cases event with
  | call ready =>
    unfold apply call
    dsimp only
    split
    · exact hWaiting
    · simp only [hFlying]
      rw [resume_of_awaited (awaited?_join c e), look_of_unanswered (c := c.join e) hWaiting hUnanswered,
        collect_exchanges]
      exact hWaiting
  | resume j =>
    unfold apply resume
    dsimp only
    split
    · exact hWaiting
    · rw [h.look_of_unanswered hWaiting hUnanswered, collect_exchanges]
      exact hWaiting
  | cancel j =>
    unfold apply cancel
    dsimp only
    split <;> exact hWaiting
  | reply q' r =>
    unfold apply reply
    dsimp only
    split <;> exact hWaiting
  | _ => exact hWaiting

theorem Consistent.spare_step (h : Consistent c) (hEntered : Entered c.history k (some e)) (hQuiet : Quiet c)
    {event : Event} (hCompany : (c.step event).Accompanied k e) : Spare (c.step event) k := by
  refine (h.step event).spare_of_company (hEntered.mono (step_history_grows c event)) ?_ hCompany
  intro hAwaited
  have hBefore := h.awaited_of_step hEntered hAwaited
  obtain ⟨q, hWaiting, hUnanswered⟩ := h.quiet_iff.1 hQuiet k e hBefore
  rw [step_of_owned (isOwned_of_awaited hBefore) (isOwned_of_awaited hAwaited)]
  exact ⟨q, apply_phase h.recorded hWaiting hUnanswered event⟩

/-- A run in which a caller has been cancelled, and another in which it came to share the exchange. -/
structure Twins (caller exchange : Nat) (a b : TokenCache) : Prop where
  left : Consistent a
  right : Consistent b
  cancelled : Happened a.history (.cancelled caller)
  entered : Entered b.history caller (some exchange)

theorem Twins.run (h : Twins k e a b) (events events' : List Event) :
    Twins k e (a.run events) (b.run events') where
  left := h.left.run events
  right := h.right.run events'
  cancelled := h.cancelled.mono (run_history_grows a events)
  entered := h.entered.mono (run_history_grows b events')

theorem Twins.step (h : Twins k e a b) (event : Event) : Twins k e (a.step event) (b.step event) :=
  h.run [event] [event]

theorem Twins.isOwned (h : Twins k e a b) (hSame : a.forget k = b.forget k) (hSpare : Spare b k) :
    a.isOwned = b.isOwned := by
  rw [← forget_isOwned (h.left.spare_of_cancelled h.cancelled), hSame, forget_isOwned hSpare]

theorem Twins.forget_step (h : Twins k e a b) (hSame : a.forget k = b.forget k) (hSpare : Spare b k)
    {event : Event} (hStill : Spare (b.step event) k)
    (hRead : event = .resume k → ∀ e', b.awaited? k = some e' → b.look e' = b) :
    (a.step event).forget k = (b.step event).forget k := by
  have hLength {d : TokenCache} {caller : Caller} (hCaller : d.callers[k]? = some caller) :
      k < d.callers.length :=
    (List.getElem?_eq_some_iff.1 hCaller).1
  obtain ⟨x, hGone⟩ := (h.left.callers.cancelled k).2 h.cancelled
  obtain ⟨state, hCaller⟩ := (h.right.callers.entered k (some e)).2 h.entered
  have hUnread (e' : Nat) (hAwaited : a.awaited? k = some e') : a.look e' = a := by
    rw [h.left.unawaited_of_cancelled h.cancelled] at hAwaited
    cases hAwaited
  calc (a.step event).forget k
    _ = (a.forget k).step event :=
      TokenCache.forget_step (hLength hGone) (h.left.spare_of_cancelled h.cancelled)
        ((h.step event).left.spare_of_cancelled (h.step event).cancelled) fun _ => hUnread
    _ = (b.forget k).step event := by rw [hSame]
    _ = (b.step event).forget k := (TokenCache.forget_step (hLength hCaller) hSpare hStill hRead).symm

/-- Whoever looks first in either of them, they come to the same but for the caller. -/
def LookAlike (caller : Nat) (a b : TokenCache) : Prop :=
  ∀ looks looks', a.Attended looks → b.Attended looks' →
    (a.run (looks.map .resume)).forget caller = (b.run (looks'.map .resume)).forget caller

/-- It is enough that the two are the same but for the caller before the first is given up, in case the caller was
the last to hold it. -/
theorem Twins.lookAlike_of_owned (h : Twins k e a.releaseUnowned b) (hSame : a.forget k = b.forget k)
    (hOwned : b.isOwned = true) (hCompany : b.Accompanied k e) : LookAlike k a.releaseUnowned b := by
  intro looks looks' hLooks hLooks'
  obtain ⟨first, hFirst, hRead⟩ :=
    h.right.recorded.exists_reader (fun _ => h.right.awaited_of_entered h.entered) hCompany
  -- all look whom either round names, the caller itself only when nothing is left to read
  let rest := (looks ++ looks').filter (· ≠ k)
  have hRest : k ∉ rest := by simp [rest]
  have hMem {j : Nat} (hj : j ∈ looks ∨ j ∈ looks') : j ∈ first ++ k :: rest := by
    by_cases hjk : j = k
    · simp [hjk]
    · simp [rest, hj, hjk]
  have hAll : a.releaseUnowned.Attended (first ++ k :: rest) := fun j e' hj => hMem (.inl (hLooks j e' hj))
  have hAll' : b.Attended (first ++ k :: rest) := fun j e' hj => hMem (.inr (hLooks' j e' hj))
  have hFold : ((first ++ k :: rest).foldl resume a).forget k =
      ((first ++ k :: rest).foldl resume b).forget k := by
    have hGone : (first.foldl resume a).awaited? k = none := by
      rw [foldl_resume_awaited? hFirst, ← h.left.unawaited_of_cancelled h.cancelled]
      simp only [awaited?, releaseUnowned_callers]
    have hUnread (e' : Nat) (hAwaited : (first.foldl resume a).awaited? k = some e') :
        (first.foldl resume a).look e' = first.foldl resume a := by
      rw [hGone] at hAwaited
      cases hAwaited
    rw [forget_looks hFirst hRest hUnread, hSame, ← forget_looks hFirst hRest hRead]
  have hRun := h.run ((first ++ k :: rest).map .resume) []
  have hSpare := hRun.left.spare_of_cancelled hRun.cancelled
  have hSpare' := h.right.spare_run h.entered hCompany hAll'
  have hKept : b.releaseUnowned = b := by simp only [releaseUnowned, hOwned, if_true]
  rw [h.left.run_attended hLooks hAll, h.right.run_attended hLooks' hAll']
  rw [← hKept] at hSpare' ⊢
  rw [releaseUnowned_run] at hSpare hSpare' ⊢
  rw [spare_releaseUnowned] at hSpare hSpare'
  rw [releaseUnowned_run, forget_releaseUnowned hSpare, forget_releaseUnowned hSpare', hFold]

theorem Twins.lookAlike (h : Twins k e a b) (hSame : a.forget k = b.forget k) (hSpare : Spare b k)
    (hCompany : b.Accompanied k e) : LookAlike k a b := by
  have hOwned := h.isOwned hSame hSpare
  cases hHeld : b.isOwned with
  | true =>
    have hKept : a.releaseUnowned = a := by simp only [releaseUnowned, hOwned, hHeld, if_true]
    rw [← hKept] at h ⊢
    exact h.lookAlike_of_owned hSame hHeld hCompany
  | false =>
    intro looks looks' _ _
    rw [run_of_unowned hHeld, run_of_unowned (hOwned.trans hHeld)]
    exact hSame

theorem Consistent.step_cancel (h : Consistent c) (hAwaited : c.awaited? k = some e) :
    Twins k e (c.step (.cancel k)) c ∧ c.step (.cancel k) = (c.cancel k).releaseUnowned := by
  have hStep : c.step (.cancel k) = (c.cancel k).releaseUnowned := by
    simp only [TokenCache.step, apply, isOwned_of_awaited hAwaited, if_true]
  refine ⟨⟨h.step _, h, ?_, (h.callers.entered k (some e)).1 ⟨_, awaited?_eq_some_iff.1 hAwaited⟩⟩, hStep⟩
  rw [hStep]
  refine Happened.mono (releaseUnowned_history_grows _) ?_
  unfold cancel
  rw [hAwaited]
  exact happened_append.2 (.inr ⟨_, List.mem_singleton_self _⟩)

/-- Cancelled before a round of looking, a caller is not missed in it. -/
theorem Consistent.lookAlike_cancel (h : Consistent c) (hAwaited : c.awaited? k = some e)
    (hCompany : c.Accompanied k e) : LookAlike k (c.step (.cancel k)) c := by
  obtain ⟨hTwins, hStep⟩ := h.step_cancel hAwaited
  rw [hStep] at hTwins ⊢
  exact hTwins.lookAlike_of_owned (forget_cancel_self c k) (isOwned_of_awaited hAwaited) hCompany

/-- An event after a round of looking leaves the two alike, at once and after the next round. -/
theorem Twins.lookAlike_step (h : Twins k e a b) (hAlike : LookAlike k a b) (hCompany : b.Accompanied k e)
    {looks looks' : List Nat} (hLooks : a.Attended looks) (hLooks' : b.Attended looks') {event : Event}
    (hStill : ((b.run (looks'.map .resume)).step event).Accompanied k e) :
    ((a.run (looks.map .resume)).step event).forget k = ((b.run (looks'.map .resume)).step event).forget k ∧
      LookAlike k ((a.run (looks.map .resume)).step event) ((b.run (looks'.map .resume)).step event) := by
  have hLooked := h.run (looks.map .resume) (looks'.map .resume)
  have hQuiet := h.right.quiet_run hLooks'
  have hSpare := hLooked.right.spare_step hLooked.entered hQuiet hStill
  have hSame := hLooked.forget_step (hAlike looks looks' hLooks hLooks')
    (h.right.spare_run h.entered hCompany hLooks') hSpare fun _ => (hLooked.right.quiet_iff.1 hQuiet k).look
  exact ⟨hSame, (hLooked.step event).lookAlike hSame hSpare hStill⟩

theorem Twins.rounds (h : Twins k e a b) (hAlike : LookAlike k a b) {earlier later : List Event}
    (hCompany : KeptCompany k e b (earlier ++ later)) {a' b' : TokenCache} (hLeft : Rounds a earlier a')
    (hRight : Rounds b earlier b') :
    a'.forget k = b'.forget k ∧
      ∀ event ∈ later.head?, (a'.step event).forget k = (b'.step event).forget k := by
  induction earlier generalizing a b with
  | nil =>
    cases hLeft with | last hLooks =>
    cases hRight with | last hLooks' =>
    refine ⟨hAlike _ _ hLooks hLooks', fun event hHead => ?_⟩
    obtain ⟨rest, rfl⟩ := List.head?_eq_some_iff.1 hHead
    refine (h.lookAlike_step hAlike hCompany.first hLooks hLooks' ?_).1
    rw [h.right.run_eq_resumeAll hLooks']
    exact hCompany.2.first
  | cons event earlier ih =>
    cases hLeft with | event hLooks hLeft =>
    cases hRight with | event hLooks' hRight =>
    have hStill := hCompany.2
    rw [← h.right.run_eq_resumeAll hLooks'] at hStill
    exact ih ((h.run _ _).step event)
      (h.lookAlike_step hAlike hCompany.first hLooks hLooks' hStill.first).2 hStill hLeft hRight

/-- At every step somebody else holds the cache too, and the caller never is the first to look at a reply. -/
def StandsAside (caller : Nat) : TokenCache → List Event → Prop
  | c, [] => Spare c caller
  | c, event :: events =>
    Spare c caller ∧ (event = .resume caller → ∀ e, c.awaited? caller = some e → c.look e = c) ∧
      StandsAside caller (c.step event) events

theorem StandsAside.spare {events : List Event} (h : StandsAside k c events) : Spare c k := by
  cases events with
  | nil => exact h
  | cons event events => exact h.1

theorem Twins.forget_run (h : Twins k e a b) (hSame : a.forget k = b.forget k) {earlier later : List Event}
    (hAside : StandsAside k b (earlier ++ later)) : (a.run earlier).forget k = (b.run earlier).forget k := by
  induction earlier generalizing a b with
  | nil => exact hSame
  | cons event earlier ih =>
    obtain ⟨hSpare, hRead, hRest⟩ := hAside
    exact ih (h.step event) (h.forget_step hSame hSpare hRest.spare hRead) hRest

theorem Consistent.forget_step_cancel (h : Consistent c) (hAwaited : c.awaited? k = some e) (hSpare : Spare c k) :
    (c.step (.cancel k)).forget k = c.forget k := by
  obtain ⟨hTwins, hStep⟩ := h.step_cancel hAwaited
  have hStill : Spare (c.cancel k) k := by
    rw [← spare_releaseUnowned, ← hStep]
    exact hTwins.left.spare_of_cancelled hTwins.cancelled
  have hOwned : (c.forget k).isOwned = true := by rw [forget_isOwned hSpare, isOwned_of_awaited hAwaited]
  rw [hStep, forget_releaseUnowned hStill, forget_cancel_self]
  simp only [releaseUnowned, hOwned, if_true]

structure Alike (caller : Nat) (a b : TokenCache) : Prop where
  /-- The same requests were sent in the same order, and the same of them answered or dropped. -/
  requests : a.transport = b.transport
  state : a.state = b.state
  expiresAt? : a.expiresAt? = b.expiresAt?
  /-- The decision trace and the counters are views of the notes. -/
  notes : a.notes = b.notes
  /-- Every other caller waits for the same exchange, has the same result, or was cancelled too. -/
  others : ∀ j, j ≠ caller → a.callers[j]? = b.callers[j]?
  content : a.cached = b.cached
  inFlight : a.inFlight = b.inFlight
  exchanges : a.exchanges = b.exchanges
  handles : a.handles = b.handles
  clock : a.clock = b.clock
  /-- All else happened in the same order and at the same instants. -/
  history : (a.history.filter fun x => !x.2.isCancellationOf caller) =
    b.history.filter fun x => !x.2.isCancellationOf caller

theorem alike_of_forget (h : a.forget k = b.forget k) : Alike k a b := by
  have hEqual {α : Type} (f : TokenCache → α) : f (a.forget k) = f (b.forget k) := congrArg f h
  exact
    { requests := hEqual transport
      state := hEqual TokenCache.state
      expiresAt? := hEqual TokenCache.expiresAt?
      notes := hEqual notes
      others := fun j hj => by
        have hCallers : (a.setState k .cancelled).callers[j]? = (b.setState k .cancelled).callers[j]? :=
          hEqual fun d => d.callers[j]?
        rw [setState_getElem?, setState_getElem?] at hCallers
        simpa [Ne.symm hj] using hCallers
      content := hEqual cached
      inFlight := hEqual TokenCache.inFlight
      exchanges := hEqual TokenCache.exchanges
      handles := hEqual TokenCache.handles
      clock := hEqual TokenCache.clock
      history := hEqual TokenCache.history }

/-- It makes no difference to anybody else whether the caller is cancelled before these events. -/
structure Unnoticed (c : TokenCache) (caller : Nat) (events : List Event) : Prop where
  outcome : ∃ a b, Rounds (c.step (.cancel caller)) events a ∧ Rounds c events b
  /-- The two runs agree after each event, both before and after all callers have looked, whoever looks first in
  either of them. -/
  alike : ∀ earlier later a b, events = earlier ++ later → Rounds (c.step (.cancel caller)) earlier a →
    Rounds c earlier b → Alike caller a b ∧ ∀ event ∈ later.head?, Alike caller (a.step event) (b.step event)
  /-- Whenever callers look, and whatever happens before all have, the two runs agree after every single step if
  the caller stands aside. -/
  stepwise : ∀ earlier later, StandsAside caller c (earlier ++ later) →
    Alike caller ((c.step (.cancel caller)).run earlier) (c.run earlier)

/-- Cancelling a caller goes unnoticed, in any run, if somebody else waits for its exchange until that has
ended. -/
theorem run_cancellable (grant : Grant) (classify : Classifier) (clock : Clock) (before events : List Event)
    (hAwaited : ((new grant classify clock).run before).awaited? k = some e)
    (hCompany : KeptCompany k e ((new grant classify clock).run before) events) :
    Unnoticed ((new grant classify clock).run before) k events := by
  have hConsistent := consistent_run grant classify clock before
  generalize (new grant classify clock).run before = c at *
  obtain ⟨hTwins, -⟩ := hConsistent.step_cancel hAwaited
  have hAlike := hConsistent.lookAlike_cancel hAwaited hCompany.first
  refine ⟨?_, ?_, ?_⟩
  · obtain ⟨a, hLeft⟩ := exists_rounds (c.step (.cancel k)) events
    obtain ⟨b, hRight⟩ := exists_rounds c events
    exact ⟨a, b, hLeft, hRight⟩
  · rintro earlier later a b rfl hLeft hRight
    obtain ⟨hSame, hNext⟩ := hTwins.rounds hAlike hCompany hLeft hRight
    exact ⟨alike_of_forget hSame, fun event hHead => alike_of_forget (hNext event hHead)⟩
  · intro earlier later hAside
    refine alike_of_forget (hTwins.forget_run ?_ hAside)
    exact hConsistent.forget_step_cancel hAwaited hAside.spare

def shared : TokenCache :=
  (new sampleGrant asNetworkError ⟨epoch⟩).run [.call none, .call none]

def afterwards : List Event :=
  [.reply 0 (.response sampleResponse), .call none, .clear, .call none]

/-- Nobody notices when the caller that started the exchange is cancelled. -/
theorem starter_unnoticed : shared.awaited? 0 = some 0 ∧ KeptCompany 0 0 shared afterwards ∧
    Unnoticed shared 0 afterwards :=
  ⟨by decide +kernel, by decide +kernel,
    run_cancellable (e := 0) sampleGrant asNetworkError ⟨epoch⟩ [.call none, .call none] afterwards
      (by decide +kernel) (by decide +kernel)⟩

end BearerTokens.TokenCache
