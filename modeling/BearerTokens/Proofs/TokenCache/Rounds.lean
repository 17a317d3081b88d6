import BearerTokens.Proofs.TokenCache.Waiting

/-!
# Rounds of looking

A reply wakes all callers that wait for it, and these look one after the other. They may do so in any order: two
looks in a row can be exchanged. So a round in which every caller looks that waits comes to the same as any other
such round.
-/

set_option autoImplicit false

namespace BearerTokens.TokenCache

variable {c d : TokenCache}

theorem look_cases (c : TokenCache) (e : Nat) :
    c.look e = c ∨ ∃ q reply, c.exchanges[e]? = some (.waiting q) ∧ c.transport.reply? q = some reply ∧
      c.look e = c.judge e reply := by
  unfold look
  split
  · rename_i q hWaiting
    split
    · exact .inl rfl
    · rename_i reply hCome
      exact .inr ⟨q, reply, hWaiting, hCome, rfl⟩
  · exact .inl rfl

theorem look_phase_of_ne {e e' : Nat} (hNe : e ≠ e') : (c.look e').exchanges[e]? = c.exchanges[e]? := by
  rcases c.look_cases e' with hSame | ⟨q, reply, -, -, hJudge⟩
  · rw [hSame]
  · rw [hJudge]
    unfold judge
    split <;> simp [settle, breakOff, note, record, List.getElem?_set_ne (Ne.symm hNe)]

theorem Recorded.look_look (h : Recorded c) (e : Nat) : (c.look e).look e = c.look e := by
  rcases c.look_cases e with hSame | ⟨q, reply, hWaiting, -, hJudge⟩
  · rw [hSame, hSame]
  · rw [hJudge]
    exact look_of_not_waiting (h.judge_not_waiting hWaiting reply e)

theorem Recorded.look_look_phase (h : Recorded c) (e e' : Nat) :
    ((c.look e).look e').exchanges[e]? = (c.look e).exchanges[e]? := by
  by_cases hSame : e = e'
  · subst hSame
    rw [h.look_look]
  · exact look_phase_of_ne hSame

/-- Only one exchange waits at a time, so of two looks at different exchanges one finds nothing. -/
theorem Recorded.look_comm (h : Recorded c) (e e' : Nat) : (c.look e).look e' = (c.look e').look e := by
  by_cases hSame : e = e'
  · rw [hSame]
  · have hIdle {d : TokenCache} {i : Nat} (hPhase : d.exchanges[i]? = c.exchanges[i]?)
        (hNone : ∀ q, c.exchanges[i]? ≠ some (.waiting q)) : d.look i = d :=
      look_of_not_waiting fun q => hPhase ▸ hNone q
    by_cases hWaiting : ∃ q, c.exchanges[e]? = some (.waiting q)
    · obtain ⟨q, hWaiting⟩ := hWaiting
      have hNone : ∀ q', c.exchanges[e']? ≠ some (.waiting q') := fun q' hWaiting' =>
        hSame (h.waiting_unique hWaiting' hWaiting)
      rw [hIdle (look_phase_of_ne (Ne.symm hSame)) hNone, hIdle rfl hNone]
    · have hNone : ∀ q, c.exchanges[e]? ≠ some (.waiting q) := fun q hq => hWaiting ⟨q, hq⟩
      rw [hIdle rfl hNone, hIdle (look_phase_of_ne hSame) hNone]

theorem setState_comm {i j : Nat} (hNe : i ≠ j) (s t : CallerState) :
    (c.setState i s).setState j t = (c.setState j t).setState i s := by
  simp only [setState, List.modify_modify_ne _ _ _ hNe]

theorem setState_awaited? {i j : Nat} (hNe : i ≠ j) (s : CallerState) :
    (c.setState i s).awaited? j = c.awaited? j := by
  simp only [awaited?, setState_getElem?, hNe, if_false, Option.map_id']

theorem setState_look (k e : Nat) (s : CallerState) :
    (c.setState k s).look e = (c.look e).setState k s := by
  unfold look
  dsimp only [setState]
  split
  · split
    · rfl
    · unfold judge
      dsimp only
      split <;> rfl
  · rfl

theorem collect_of_unawaited {k : Nat} (h : c.awaited? k = none) : c.collect k = c := by
  unfold collect
  rw [h]

theorem collect_of_awaited {k e : Nat} (h : c.awaited? k = some e) :
    c.collect k = (c.exchanges[e]?.bind Phase.answer?).elim c fun a => c.setState k (.answered a) := by
  unfold collect
  rw [h]
  dsimp only
  split <;> simp only [*, Option.elim]

theorem collect_exchanges (c : TokenCache) (k : Nat) : (c.collect k).exchanges = c.exchanges := by
  rcases c.collect_eq_or k with hSame | ⟨a, hSet⟩
  · rw [hSame]
  · rw [hSet]
    rfl

theorem collect_awaited? {i j : Nat} (hNe : i ≠ j) : (c.collect i).awaited? j = c.awaited? j := by
  rcases c.collect_eq_or i with hSame | ⟨a, hSet⟩
  · rw [hSame]
  · rw [hSet, setState_awaited? hNe]

theorem setState_collect {i j : Nat} (hNe : i ≠ j) (s : CallerState) :
    (c.setState i s).collect j = (c.collect j).setState i s := by
  cases hAwaited : c.awaited? j with
  | none => rw [collect_of_unawaited hAwaited, collect_of_unawaited (by rwa [setState_awaited? hNe])]
  | some e =>
    rw [collect_of_awaited hAwaited, collect_of_awaited (e := e) (by rwa [setState_awaited? hNe])]
    dsimp only [setState]
    cases c.exchanges[e]?.bind Phase.answer? with
    | none => rfl
    | some a => exact setState_comm hNe s _

theorem collect_comm {i j : Nat} (hNe : i ≠ j) : (c.collect i).collect j = (c.collect j).collect i := by
  have hAwaited : (c.collect j).awaited? i = c.awaited? i := collect_awaited? (Ne.symm hNe)
  cases hi : c.awaited? i with
  | none => rw [collect_of_unawaited hi, collect_of_unawaited (hAwaited.trans hi)]
  | some e =>
    rw [collect_of_awaited hi, collect_of_awaited (hAwaited.trans hi), collect_exchanges]
    cases c.exchanges[e]?.bind Phase.answer? with
    | none => rfl
    | some a => exact setState_collect hNe _

/-- A caller may collect before another exchange is looked at. -/
theorem collect_look {k e e' : Nat} (hAwaited : c.awaited? k = some e)
    (hPhase : (c.look e').exchanges[e]? = c.exchanges[e]?) : (c.collect k).look e' = (c.look e').collect k := by
  have hStill : (c.look e').awaited? k = some e := by
    rw [awaited?_eq_some_iff, look_callers]
    exact awaited?_eq_some_iff.1 hAwaited
  rw [collect_of_awaited hAwaited, collect_of_awaited hStill, hPhase]
  cases c.exchanges[e]?.bind Phase.answer? with
  | none => rfl
  | some a => exact setState_look k e' _

theorem resume_awaited? {i j : Nat} (hNe : i ≠ j) : (c.resume i).awaited? j = c.awaited? j := by
  unfold awaited?
  rw [resume_callers (Ne.symm hNe)]

theorem foldl_resume_awaited? {looks : List Nat} {k : Nat} (hk : k ∉ looks) :
    (looks.foldl resume c).awaited? k = c.awaited? k := by
  induction looks generalizing c with
  | nil => rfl
  | cons j looks ih =>
    rw [List.mem_cons, not_or] at hk
    rw [List.foldl_cons, ih hk.2, resume_awaited? (Ne.symm hk.1)]

theorem Recorded.resume_resume (h : Recorded c) {i j e e' : Nat} (hNe : i ≠ j)
    (hi : c.awaited? i = some e) (hj : c.awaited? j = some e') :
    (c.resume i).resume j = (((c.look e).look e').collect i).collect j := by
  have hi' : (c.look e).awaited? i = some e := by rwa [awaited?_eq_some_iff, look_callers, ← awaited?_eq_some_iff]
  have hj' : (c.resume i).awaited? j = some e' := by rwa [resume_awaited? hNe]
  rw [resume_of_awaited hj', resume_of_awaited hi, collect_look hi' (h.look_look_phase e e')]

theorem Recorded.resume_comm (h : Recorded c) (i j : Nat) :
    (c.resume i).resume j = (c.resume j).resume i := by
  by_cases hSame : i = j
  · rw [hSame]
  · have hi' : (c.resume j).awaited? i = c.awaited? i := resume_awaited? (Ne.symm hSame)
    have hj' : (c.resume i).awaited? j = c.awaited? j := resume_awaited? hSame
    cases hi : c.awaited? i with
    | none => rw [resume_of_unawaited hi, resume_of_unawaited (hi'.trans hi)]
    | some e =>
      cases hj : c.awaited? j with
      | none => rw [resume_of_unawaited hj, resume_of_unawaited (hj'.trans hj)]
      | some e' =>
        rw [h.resume_resume hSame hi hj, h.resume_resume (Ne.symm hSame) hj hi, h.look_comm,
          collect_comm hSame]

/-- Giving up a cache that nobody holds makes no difference to a look. -/
theorem releaseUnowned_step_resume (c : TokenCache) (k : Nat) :
    c.releaseUnowned.step (.resume k) = (c.resume k).releaseUnowned := by
  cases hOwned : c.isOwned with
  | true => simp only [releaseUnowned, step, apply, hOwned, if_true]
  | false =>
    have hUnawaited : c.awaited? k = none := by
      rw [Option.eq_none_iff_forall_ne_some]
      intro e hAwaited
      rw [isOwned_of_awaited hAwaited] at hOwned
      cases hOwned
    rw [resume_of_unawaited hUnawaited]
    simp [releaseUnowned, step, hOwned, release_isOwned]

theorem releaseUnowned_run (c : TokenCache) (looks : List Nat) :
    c.releaseUnowned.run (looks.map .resume) = (looks.foldl resume c).releaseUnowned := by
  induction looks generalizing c with
  | nil => rfl
  | cons k looks ih => rw [List.map_cons, run_cons, releaseUnowned_step_resume, ih, List.foldl_cons]

theorem Recorded.step_resume_comm (h : Recorded c) (i j : Nat) :
    (c.step (.resume i)).step (.resume j) = (c.step (.resume j)).step (.resume i) := by
  cases hOwned : c.isOwned with
  | true =>
    have hStep (k : Nat) : c.step (.resume k) = (c.resume k).releaseUnowned := by
      simp only [step, apply, hOwned, if_true]
    rw [hStep, hStep, releaseUnowned_step_resume, releaseUnowned_step_resume, h.resume_comm]
  | false => simp [step, hOwned]

theorem run_append (c : TokenCache) (earlier later : List Event) :
    c.run (earlier ++ later) = (c.run earlier).run later :=
  List.foldl_append

theorem Consistent.run_perm (h : Consistent c) {looks looks' : List Nat} (hPerm : looks.Perm looks') :
    c.run (looks.map .resume) = c.run (looks'.map .resume) := by
  induction hPerm generalizing c with
  | nil => rfl
  | cons k _ ih => exact ih (h.step (.resume k))
  | swap i j looks =>
    simp only [List.map_cons, run_cons, h.recorded.step_resume_comm]
  | trans _ _ ih ih' => exact (ih h).trans (ih' h)

theorem Quiet.run (h : Quiet c) (looks : List Nat) : c.run (looks.map .resume) = c := by
  induction looks with
  | nil => rfl
  | cons k looks ih => rw [List.map_cons, run_cons, h k, ih]

theorem run_of_unowned (hUnowned : c.isOwned = false) (looks : List Nat) :
    c.run (looks.map .resume) = c := by
  have hQuiet : Quiet c := fun k => by simp [step, hUnowned]
  exact hQuiet.run looks

/-- In whatever order all callers look that wait, it comes to the same. -/
theorem Consistent.run_attended (h : Consistent c) {looks looks' : List Nat} (hLooks : c.Attended looks)
    (hLooks' : c.Attended looks') : c.run (looks.map .resume) = c.run (looks'.map .resume) :=
  calc c.run (looks.map .resume)
    _ = c.run ((looks ++ looks').map .resume) := by
      rw [List.map_append, run_append, (h.quiet_run hLooks).run]
    _ = c.run ((looks' ++ looks).map .resume) := h.run_perm List.perm_append_comm
    _ = c.run (looks'.map .resume) := by
      rw [List.map_append, run_append, (h.quiet_run hLooks').run]

theorem Consistent.run_eq_resumeAll (h : Consistent c) {looks : List Nat} (hLooks : c.Attended looks) :
    c.run (looks.map .resume) = c.resumeAll :=
  h.run_attended hLooks c.attended_range

/-- The cache comes to another by some events, if before each of them and after the last all callers look that
wait, in any order. -/
inductive Rounds : TokenCache → List Event → TokenCache → Prop where
  | last {c : TokenCache} {looks : List Nat} (all : c.Attended looks) :
      Rounds c [] (c.run (looks.map .resume))
  | event {c d : TokenCache} {looks : List Nat} {event : Event} {events : List Event} (all : c.Attended looks)
      (rest : Rounds ((c.run (looks.map .resume)).step event) events d) : Rounds c (event :: events) d

theorem exists_rounds (c : TokenCache) (events : List Event) : ∃ d, Rounds c events d := by
  induction events generalizing c with
  | nil => exact ⟨_, .last c.attended_range⟩
  | cons event events ih =>
    obtain ⟨d, hRounds⟩ := ih (c.resumeAll.step event)
    exact ⟨d, .event c.attended_range hRounds⟩

end BearerTokens.TokenCache
