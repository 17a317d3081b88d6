import BearerTokens.Proofs.TokenCache.Rounds

/-!
# Forgetting a caller

What a cache does never depends on the callers it has already, except that a caller which waits holds the cache
and may read a reply. So if somebody else holds it, and what the caller could read is read already, then the
cache goes on in just the same way as if that caller had been cancelled without a trace.
-/

set_option autoImplicit false

namespace BearerTokens.TokenCache

open BearerTokens.Http BearerTokens.Time

variable {c : TokenCache} {k : Nat}

def Fact.isCancellationOf (caller : Nat) : Fact → Bool
  | .cancelled k => k == caller
  | _ => false

/-- A cache as it would be if the caller had been cancelled and nothing of that were on record. -/
def forget (c : TokenCache) (caller : Nat) : TokenCache :=
  { c.setState caller .cancelled with
    history := c.history.filter fun x => !x.2.isCancellationOf caller }

theorem forget_awaited?_self (c : TokenCache) (k : Nat) : (c.forget k).awaited? k = none := by
  rw [Option.eq_none_iff_forall_ne_some]
  intro e hAwaited
  have hCaller : (c.setState k .cancelled).callers[k]? = some ⟨some e, .waiting⟩ :=
    awaited?_eq_some_iff.1 hAwaited
  rw [setState_getElem?, Option.map_eq_some_iff] at hCaller
  obtain ⟨caller, -, hState⟩ := hCaller
  simp at hState

theorem forget_awaited? {j : Nat} (hNe : k ≠ j) : (c.forget k).awaited? j = c.awaited? j :=
  setState_awaited? hNe .cancelled

theorem forget_setState_self (c : TokenCache) (k : Nat) (s : CallerState) :
    (c.setState k s).forget k = c.forget k := by
  simp only [forget, setState, List.modify_modify_eq]
  rfl

theorem forget_cancel_self (c : TokenCache) (k : Nat) : (c.cancel k).forget k = c.forget k := by
  unfold cancel
  split
  · rfl
  · rw [← forget_setState_self c k .cancelled]
    simp [forget, record, Fact.isCancellationOf, setState]

theorem forget_collect_self (c : TokenCache) (k : Nat) : (c.collect k).forget k = c.forget k := by
  rcases c.collect_eq_or k with hSame | ⟨a, hSet⟩
  · rw [hSame]
  · rw [hSet, forget_setState_self]

theorem forget_resume_self (hRead : ∀ e, c.awaited? k = some e → c.look e = c) :
    (c.resume k).forget k = c.forget k := by
  cases hAwaited : c.awaited? k with
  | none => rw [resume_of_unawaited hAwaited]
  | some e => rw [resume_of_awaited hAwaited, hRead e hAwaited, forget_collect_self]

theorem forget_setState {j : Nat} (hNe : k ≠ j) (s : CallerState) :
    (c.setState j s).forget k = (c.forget k).setState j s := by
  simp only [forget, setState, List.modify_modify_ne _ _ _ hNe]

theorem forget_record (c : TokenCache) (k : Nat) {facts : List Fact}
    (hOther : ∀ f ∈ facts, f.isCancellationOf k = false) :
    (c.record facts).forget k = (c.forget k).record facts := by
  have hKept : (facts.map (c.clock.now, ·)).filter (fun x => !x.2.isCancellationOf k) =
      facts.map (c.clock.now, ·) := by
    rw [List.filter_eq_self]
    intro x hx
    obtain ⟨f, hf, rfl⟩ := List.mem_map.1 hx
    rw [hOther f hf]
    rfl
  simp only [forget, record, setState, List.filter_append, hKept]

theorem forget_judge (c : TokenCache) (k e : Nat) (reply : Reply) :
    (c.judge e reply).forget k = (c.forget k).judge e reply := by
  unfold judge
  dsimp only [forget, setState]
  split <;> simp [settle, breakOff, note, record, Fact.isCancellationOf]

theorem forget_look (c : TokenCache) (k e : Nat) : (c.look e).forget k = (c.forget k).look e := by
  unfold look
  dsimp only [forget, setState]
  split
  · split
    · rfl
    · exact forget_judge c k e _
  · rfl

theorem forget_collect {j : Nat} (hNe : k ≠ j) : (c.collect j).forget k = (c.forget k).collect j := by
  cases hAwaited : c.awaited? j with
  | none => rw [collect_of_unawaited hAwaited, collect_of_unawaited ((forget_awaited? hNe).trans hAwaited)]
  | some e =>
    rw [collect_of_awaited hAwaited, collect_of_awaited ((forget_awaited? hNe).trans hAwaited)]
    dsimp only [forget, setState]
    cases c.exchanges[e]?.bind Phase.answer? with
    | none => rfl
    | some a => exact forget_setState hNe _

theorem forget_resume {j : Nat} (hNe : k ≠ j) : (c.resume j).forget k = (c.forget k).resume j := by
  cases hAwaited : c.awaited? j with
  | none => rw [resume_of_unawaited hAwaited, resume_of_unawaited ((forget_awaited? hNe).trans hAwaited)]
  | some e =>
    rw [resume_of_awaited hAwaited, resume_of_awaited ((forget_awaited? hNe).trans hAwaited),
      forget_collect hNe, forget_look]

theorem forget_cancel {j : Nat} (hNe : k ≠ j) : (c.cancel j).forget k = (c.forget k).cancel j := by
  unfold cancel
  rw [forget_awaited? hNe]
  split
  · rfl
  · rw [forget_record _ _ (by simp [Fact.isCancellationOf, Ne.symm hNe]), forget_setState hNe]

theorem modify_snoc {callers : List Caller} (hk : k < callers.length) (f : Caller → Caller) (caller : Caller) :
    (callers ++ [caller]).modify k f = callers.modify k f ++ [caller] := by
  apply List.ext_getElem?
  intro i
  rw [List.getElem?_modify, List.getElem?_append, List.getElem?_append, List.length_modify,
    List.getElem?_modify]
  by_cases hi : i < callers.length
  · simp only [hi, if_true]
  · have hNe : k ≠ i := by omega
    simp [hi, hNe]

theorem forget_serve (hk : k < c.callers.length) (token : HeldToken) :
    (c.serve token).forget k = (c.forget k).serve token := by
  simp [serve, addCaller, note, record, forget, setState, modify_snoc hk, Fact.isCancellationOf]

theorem forget_join (hk : k < c.callers.length) (e : Nat) : (c.join e).forget k = (c.forget k).join e := by
  simp [join, addCaller, note, record, forget, setState, modify_snoc hk, Fact.isCancellationOf]

theorem forget_start (hk : k < c.callers.length) (hIdle : c.inFlight = none) (ready : Option Reply) :
    (c.start ready).forget k = (c.forget k).start ready := by
  cases hRequest : c.grant.request with
  | error err =>
    rw [start_of_error hRequest hIdle, start_of_error (c := c.forget k) hRequest hIdle]
    simp [forget, setState, modify_snoc hk, Fact.isCancellationOf]
  | ok r =>
    rw [start_of_ok hRequest, start_of_ok (c := c.forget k) hRequest]
    cases ready <;> simp [forget, setState, modify_snoc hk, Fact.isCancellationOf]

theorem forget_call (hk : k < c.callers.length) (ready : Option Reply) :
    (c.call ready).forget k = (c.forget k).call ready := by
  have hCount : (c.forget k).callers.length = c.callers.length := List.length_modify ..
  have hNe : k ≠ c.callers.length := Nat.ne_of_lt hk
  have hUsable : (c.forget k).usable? = c.usable? := rfl
  have hFlight : (c.forget k).inFlight = c.inFlight := rfl
  unfold call
  rw [hUsable, hFlight, hCount]
  split
  · exact forget_serve hk _
  · split
    · rw [forget_resume hNe, forget_join hk]
    · rename_i hIdle
      rw [forget_resume hNe, forget_start hk hIdle]

theorem forget_reply (c : TokenCache) (k q : Nat) (r : Reply) :
    (c.reply q r).forget k = (c.forget k).reply q r := by
  have hTransport : (c.forget k).transport = c.transport := rfl
  unfold reply
  rw [hTransport]
  split
  · exact forget_record _ k (by simp [Fact.isCancellationOf])
  · rfl

theorem forget_release (c : TokenCache) (k : Nat) : c.release.forget k = (c.forget k).release := by
  have hDropped : c.dropPending.forget k = (c.forget k).dropPending := by
    have hFlight : (c.forget k).inFlight = c.inFlight := rfl
    have hPending : (c.forget k).pendingRequest? = c.pendingRequest? := rfl
    unfold dropPending
    rw [hFlight, hPending]
    split <;> rfl
  unfold release
  rw [← hDropped]
  exact forget_record _ k (by simp [Fact.isCancellationOf])

/-- Whatever happens, a caller makes no difference to it unless it reads a reply for the others. -/
theorem forget_apply {event : Event} (hk : k < c.callers.length)
    (hRead : event = .resume k → ∀ e, c.awaited? k = some e → c.look e = c) :
    (c.apply event).forget k = (c.forget k).apply event := by
  have hUnawaited := forget_awaited?_self c k
  cases event with
  | call ready => exact forget_call hk ready
  | resume j =>
    by_cases hSame : k = j
    · subst hSame
      exact (forget_resume_self (hRead rfl)).trans (resume_of_unawaited hUnawaited).symm
    · exact forget_resume hSame
  | cancel j =>
    by_cases hSame : k = j
    · subst hSame
      exact (forget_cancel_self c k).trans (cancel_of_unawaited hUnawaited).symm
    · exact forget_cancel hSame
  | reply q r => exact forget_reply c k q r
  | clear => exact forget_record _ k (by simp [Fact.isCancellationOf])
  | setClock now => rfl
  | share => rfl
  | giveBack => rfl

/-- If the caller holds the cache, somebody else holds it too. -/
def Spare (c : TokenCache) (caller : Nat) : Prop :=
  ∀ x, c.callers[caller]? = some ⟨x, .waiting⟩ → 0 < c.handles ∨ ∃ w e, w ≠ caller ∧ c.awaited? w = some e

theorem forget_isOwned (hSpare : Spare c k) : (c.forget k).isOwned = c.isOwned := by
  cases hOwned : c.isOwned with
  | false => exact isOwned_setState (by simp) hOwned
  | true =>
    by_contra hUnowned
    obtain ⟨hHandles, hCallers⟩ := isOwned_eq_false_iff.1 (Bool.eq_false_iff.2 hUnowned)
    refine absurd hOwned (Bool.eq_false_iff.1 (isOwned_eq_false_iff.2 ⟨hHandles, ?_⟩))
    intro caller hMem hWaits
    obtain ⟨i, hCaller⟩ := List.mem_iff_getElem?.1 hMem
    by_cases hSame : k = i
    · subst hSame
      obtain ⟨x, state⟩ := caller
      obtain rfl : state = .waiting := hWaits
      rcases hSpare x hCaller with hHeld | ⟨w, e, hNe, hAwaited⟩
      · exact Nat.ne_of_gt hHeld hHandles
      · exact hUnowned (isOwned_of_awaited ((forget_awaited? (Ne.symm hNe)).trans hAwaited))
    · refine hCallers caller (List.mem_of_getElem? (i := i) ?_) hWaits
      rw [show (c.forget k).callers = (c.setState k .cancelled).callers from rfl, setState_getElem?, hCaller]
      simp [hSame]

theorem forget_releaseUnowned (hSpare : Spare c k) : c.releaseUnowned.forget k = (c.forget k).releaseUnowned := by
  unfold releaseUnowned
  rw [forget_isOwned hSpare]
  split
  · rfl
  · exact forget_release c k

theorem spare_congr {d : TokenCache} (hHandles : d.handles = c.handles) (hCallers : d.callers = c.callers) :
    Spare d k ↔ Spare c k := by
  simp only [Spare, awaited?, hHandles, hCallers]

theorem spare_releaseUnowned : Spare c.releaseUnowned k ↔ Spare c k := by
  refine spare_congr ?_ (releaseUnowned_callers c)
  unfold releaseUnowned release dropPending
  split
  · rfl
  · split <;> rfl

/-- An event has the same effect with and without a caller that is to spare and leaves the reply to others. -/
theorem forget_step {event : Event} (hk : k < c.callers.length) (hSpare : Spare c k)
    (hStill : Spare (c.step event) k)
    (hRead : event = .resume k → ∀ e, c.awaited? k = some e → c.look e = c) :
    (c.step event).forget k = (c.forget k).step event := by
  cases hOwned : c.isOwned with
  | true =>
    simp only [step, forget_isOwned hSpare, hOwned, if_true] at hStill ⊢
    rw [spare_releaseUnowned] at hStill
    rw [forget_releaseUnowned hStill, forget_apply hk hRead]
  | false =>
    simp only [step, forget_isOwned hSpare, hOwned, Bool.false_eq_true, if_false]
    split
    · exact forget_apply hk hRead
    · exact forget_apply hk hRead
    · rfl

theorem forget_foldl {looks : List Nat} (hk : k ∉ looks) :
    (looks.foldl resume c).forget k = looks.foldl resume (c.forget k) := by
  induction looks generalizing c with
  | nil => rfl
  | cons j looks ih =>
    rw [List.mem_cons, not_or] at hk
    rw [List.foldl_cons, ih hk.2, forget_resume hk.1, List.foldl_cons]

/-- A round of looking has the same effect with and without a caller that finds nothing left to read. -/
theorem forget_looks {first rest : List Nat} (hFirst : k ∉ first) (hRest : k ∉ rest)
    (hRead : ∀ e, (first.foldl resume c).awaited? k = some e →
      (first.foldl resume c).look e = first.foldl resume c) :
    ((first ++ k :: rest).foldl resume c).forget k = (first ++ rest).foldl resume (c.forget k) := by
  rw [List.foldl_append, List.foldl_cons, forget_foldl hRest, forget_resume_self hRead, forget_foldl hFirst,
    List.foldl_append]

end BearerTokens.TokenCache
