import BearerTokens.Proofs.TokenCache.Attendance
import BearerTokens.Proofs.TokenCache.Settlement

/-!
# Where failures come from

A reply that a cache has on record was brought by an event. Whoever is answered with a failure therefore owes it to such a
reply, unless the request could not be built at all.
-/

set_option autoImplicit false

namespace BearerTokens.TokenCache

open BearerTokens.Http BearerTokens.Time

variable {c : TokenCache} {q : Nat} {r : Reply}

def Event.reply? : Event → Option Reply
  | .call ready => ready
  | .reply _ r => some r
  | _ => none

theorem look_replied {exchange : Nat} (h : Happened (c.look exchange).history (.replied q r)) :
    Happened c.history (.replied q r) := by
  unfold look at h
  split at h
  · split at h
    · exact h
    · rename_i reply _
      rw [judge_history, happened_append] at h
      refine h.resolve_right ?_
      cases Exchange.conclude c.classify c.clock.now reply <;> simp
  · exact h

theorem resume_replied {caller : Nat} (h : Happened (c.resume caller).history (.replied q r)) :
    Happened c.history (.replied q r) := by
  unfold resume at h
  split at h
  · exact h
  · rw [collect_history] at h
    exact look_replied h

theorem start_replied {ready : Option Reply} (h : Happened (c.start ready).history (.replied q r)) :
    Happened c.history (.replied q r) ∨ ready = some r := by
  rw [start_history, happened_append] at h
  refine h.imp_right fun hNew => ?_
  cases hRequest : c.grant.request with
  | error e => simp [hRequest] at hNew
  | ok request =>
    cases ready with
    | none => simp [hRequest] at hNew
    | some reply =>
      simp [hRequest] at hNew
      rw [hNew.2]

theorem call_replied {ready : Option Reply} (h : Happened (c.call ready).history (.replied q r)) :
    Happened c.history (.replied q r) ∨ ready = some r := by
  unfold call at h
  split at h
  · exact .inl (by simpa [serve, record, note, addCaller] using h)
  · split at h
    · have hJoined := resume_replied h
      exact .inl (by simpa [join, record, note, addCaller] using hJoined)
    · exact start_replied (resume_replied h)

theorem apply_replied {event : Event} (h : Happened (c.apply event).history (.replied q r)) :
    Happened c.history (.replied q r) ∨ event.reply? = some r := by
  cases event with
  | call ready => exact call_replied h
  | resume caller => exact .inl (resume_replied h)
  | cancel caller =>
    rw [apply, cancel] at h
    split at h
    · exact .inl h
    · exact .inl (by simpa [setState, record] using h)
  | reply request reply =>
    rw [apply, TokenCache.reply] at h
    split at h
    · obtain hOld | hNew := happened_append.1 h
      · exact .inl hOld
      · simp at hNew
        exact .inr (by rw [Event.reply?, hNew.2])
    · exact .inl h
  | setClock | share | giveBack => exact .inl h
  | clear => exact .inl (by simpa [apply, clear, record, note] using h)

theorem step_replied {event : Event} (h : Happened (c.step event).history (.replied q r)) :
    Happened c.history (.replied q r) ∨ event.reply? = some r := by
  unfold step at h
  split at h
  · refine apply_replied ?_
    unfold releaseUnowned at h
    split at h
    · exact h
    · simpa [release_history] using h
  · split at h
    · exact apply_replied h
    · exact apply_replied h
    · exact .inl h

/-- A reply on record has been brought. -/
theorem run_replied {events : List Event} (h : Happened (c.run events).history (.replied q r)) :
    Happened c.history (.replied q r) ∨ ∃ event ∈ events, event.reply? = some r := by
  induction events generalizing c with
  | nil => exact .inl h
  | cons event events ih =>
    obtain hPast | ⟨later, hLater, hReply⟩ := ih h
    · exact (step_replied hPast).imp_right fun hReply => ⟨event, List.mem_cons_self, hReply⟩
    · exact .inr ⟨later, List.mem_cons_of_mem _ hLater, hReply⟩

theorem settled_of_failure (hRecorded : CallersRecorded c) {k : Nat} {e : Error}
    (hAnswer : c.answer? k = some (.failure e)) : ∃ x t, (t, .settled x (.error e)) ∈ c.history := by
  obtain ⟨x, hCaller⟩ := answer?_eq_some_iff.1 hAnswer
  cases x with
  | none =>
    obtain ⟨token, hServed⟩ := (hRecorded.entered k none).1 ⟨_, hCaller⟩
    rw [hRecorded.served k token hServed] at hCaller
    cases hCaller
  | some x =>
    obtain ⟨result, ⟨t, hSettled⟩, hResult⟩ | ⟨-, hBroken⟩ := hRecorded.answered k x _ hCaller
    · cases result with
      | ok held => cases hResult
      | error e' =>
        cases hResult
        exact ⟨x, t, hSettled⟩
    · cases hBroken

/-- A failure is that of the request, or what a reply amounts to that was brought. -/
theorem run_failure {grant : Grant} {classify : Classifier} {clock : Clock} {events : List Event} {k : Nat} {e : Error}
    (hAnswer : ((new grant classify clock).run events).answer? k = some (.failure e)) :
    (∃ e', grant.request = .error e' ∧ e = .config e') ∨
      ∃ event ∈ events, ∃ reply, event.reply? = some reply ∧
        ∃ now, Exchange.conclude classify now reply = some (.error e) := by
  obtain ⟨x, t, hSettled⟩ := settled_of_failure (callersRecorded_run grant classify clock events) hAnswer
  obtain ⟨reply, hJudged, hConclude⟩ | ⟨e', hRequest, hResult⟩ :=
    (settlementsRecorded_run grant classify clock events).settled t x _ hSettled
  · obtain ⟨past, later, q, hHistory, -, hReplied⟩ :=
      (recorded_run grant classify clock events).lawful.replied_of_judged hJudged
    have hHappened : Happened ((new grant classify clock).run events).history (.replied q reply) := by
      rw [hHistory]
      exact happened_append.2 (.inl hReplied)
    obtain hNever | ⟨event, hEvent, hReply⟩ := run_replied hHappened
    · simp [new] at hNever
    · exact .inr ⟨event, hEvent, reply, hReply, t, hConclude⟩
  · cases hResult
    exact .inl ⟨e', hRequest, rfl⟩

end BearerTokens.TokenCache
