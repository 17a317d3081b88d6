import BearerTokens.Proofs.Token.Lifetime
import BearerTokens.Proofs.TokenCache.Receipt

/-!
# What an exchange comes to

An exchange ends with a token exactly where its request could be built and was answered with a success status and a
readable body. Every other end is told apart by its error: a request that could not be built, a transport that had no
response, a status that tells no success, and a body that is no token response.
-/

set_option autoImplicit false

namespace BearerTokens.Exchange

open BearerTokens.Http BearerTokens.Text BearerTokens.Time

variable {grant : Grant} {classify : Classifier} {now : Instant} {reply : Reply}

def Sent (grant : Grant) : Prop :=
  ∃ request, grant.request = .ok request

inductive Unbuilt (grant : Grant) (reply : Reply) (cause : TargetError) : Prop where
  | grant (hRequest : grant.request = .error (.request cause))
  | transport (hSent : Sent grant) (hReply : reply = .failure (.request cause))

def Succeeds (reply : Reply) (status : Nat) (body : Json.Bytes) : Prop :=
  reply = .response ⟨status, body⟩ ∧ 200 ≤ status ∧ status ≤ 299

inductive Fails (grant : Grant) (classify : Classifier) (reply : Reply) : Error → Prop where
  | unbuilt {cause : TargetError} (hUnbuilt : Unbuilt grant reply cause) :
      Fails grant classify reply (.config (.request cause))
  | network {cause : String} (hSent : Sent grant) (hReply : reply = .failure (.network cause)) :
      Fails grant classify reply (classify .token cause)
  | io {cause : String} (hSent : Sent grant) (hReply : reply = .failure (.io cause)) :
      Fails grant classify reply (.transport (.io "token endpoint" cause))
  | other {message : String} (hSent : Sent grant) (hReply : reply = .failure (.other message)) :
      Fails grant classify reply (.transport (.other "token endpoint" message))
  | status {status : Nat} {body : Json.Bytes} (hSent : Sent grant) (hReply : reply = .response ⟨status, body⟩)
      (hStatus : ¬ (200 ≤ status ∧ status ≤ 299)) :
      Fails grant classify reply (.endpoint (.status status (Utf8.toStringLossy body)))
  | body {status : Nat} {body : Json.Bytes} {e : EndpointError} (hSent : Sent grant)
      (hReply : Succeeds reply status body) (hParse : TokenResponse.parse status body = .error e) :
      Fails grant classify reply (.endpoint e)

/-- How an exchange with `reply` at `now` ends. -/
structure Classified (grant : Grant) (classify : Classifier) (now : Instant) (reply : Reply) : Prop where
  request_iff {request : Request} :
    (run grant classify now reply).request = some request ↔ grant.request = .ok request
  ends : (run grant classify now reply).result ≠ none
  ok_iff : (∃ token, (run grant classify now reply).result = some (.ok token)) ↔
    Sent grant ∧ ∃ status body r, Succeeds reply status body ∧ TokenResponse.parse status body = .ok r
  error_iff {e : Error} : (run grant classify now reply).result = some (.error e) ↔ Fails grant classify reply e
  retryable_iff {e : Error} (hDefault : classify = asNetworkError)
    (hError : (run grant classify now reply).result = some (.error e)) :
    e.isRetryable = true ↔ ¬ ∃ cause, Unbuilt grant reply cause

theorem isSuccess_iff {status : Nat} : isSuccess status = true ↔ 200 ≤ status ∧ status ≤ 299 := by
  rw [isSuccess, decide_eq_true_iff]

/-- The only thing that can be wrong with the request of a grant is its target. -/
theorem request_cases (grant : Grant) : Sent grant ∨ ∃ cause, grant.request = .error (.request cause) := by
  unfold Sent Grant.request
  cases Target.parse grant.tokenUrl.text with
  | error cause => exact .inr ⟨cause, rfl⟩
  | ok target => exact .inl ⟨_, rfl⟩

theorem run_of_error {e : ConfigError} (hRequest : grant.request = .error e) (classify : Classifier) (now : Instant)
    (reply : Reply) :
    (run grant classify now reply).request = none ∧
      (run grant classify now reply).result = some (.error (.config e)) := by
  simp [run, hRequest]

theorem run_of_sent {request : Request} (hRequest : grant.request = .ok request) (classify : Classifier)
    (now : Instant) (reply : Reply) :
    (run grant classify now reply).request = some request ∧
      (run grant classify now reply).result = conclude classify now reply := by
  simp [run, hRequest]

theorem conclude_ok_iff (hFits : ¬ reply.RunsOut now) :
    (∃ token, conclude classify now reply = some (.ok token)) ↔
      ∃ status body r, Succeeds reply status body ∧ TokenResponse.parse status body = .ok r := by
  have hEnds : conclude classify now reply ≠ none := mt conclude_eq_none_iff.1 hFits
  constructor
  · rintro ⟨token, hToken⟩
    unfold conclude at hToken
    cases reply with
    | failure f => cases hToken
    | response http =>
      simp only [Reply.result] at hToken
      split at hToken
      · rename_i hSuccess
        cases hParse : TokenResponse.parse http.status http.body with
        | error e => simp [hParse] at hToken
        | ok r => exact ⟨http.status, http.body, r, ⟨rfl, isSuccess_iff.1 hSuccess⟩, hParse⟩
      · cases hToken
  · rintro ⟨status, body, r, ⟨rfl, hStatus⟩, hParse⟩
    simp only [conclude, Reply.result, isSuccess_iff.2 hStatus, if_true, hParse] at hEnds ⊢
    obtain ⟨result, hResult⟩ := Option.ne_none_iff_exists'.1 hEnds
    obtain ⟨token, hToken, -⟩ := Option.map_eq_some_iff.1 hResult
    exact ⟨token, by rw [hToken]; rfl⟩

theorem fails_of_conclude {e : Error} (hSent : Sent grant) (hConclude : conclude classify now reply = some (.error e)) :
    Fails grant classify reply e := by
  unfold conclude at hConclude
  cases reply with
  | failure f =>
    cases f with
    | network cause =>
      cases hConclude
      exact .network hSent rfl
    | io cause =>
      cases hConclude
      exact .io hSent rfl
    | other message =>
      cases hConclude
      exact .other hSent rfl
    | request cause =>
      cases hConclude
      exact .unbuilt (.transport hSent rfl)
  | response http =>
    simp only [Reply.result] at hConclude
    split at hConclude
    · rename_i hSuccess
      cases hParse : TokenResponse.parse http.status http.body with
      | error e =>
        simp only [hParse] at hConclude
        cases hConclude
        exact .body hSent ⟨rfl, isSuccess_iff.1 hSuccess⟩ hParse
      | ok r => simp [hParse] at hConclude
    · rename_i hSuccess
      cases hConclude
      exact .status hSent rfl (mt isSuccess_iff.2 hSuccess)

theorem Fails.result_eq {e : Error} (h : Fails grant classify reply e) :
    (run grant classify now reply).result = some (.error e) := by
  cases h with
  | unbuilt hUnbuilt =>
    cases hUnbuilt with
    | grant hRequest => exact (run_of_error hRequest _ _ _).2
    | transport hSent hReply =>
      obtain ⟨request, hRequest⟩ := hSent
      rw [(run_of_sent hRequest _ _ _).2, hReply]
      rfl
  | network hSent hReply | io hSent hReply | other hSent hReply =>
    obtain ⟨request, hRequest⟩ := hSent
    rw [(run_of_sent hRequest _ _ _).2, hReply]
    rfl
  | status hSent hReply hStatus =>
    obtain ⟨request, hRequest⟩ := hSent
    rw [(run_of_sent hRequest _ _ _).2, hReply]
    simp only [conclude, Reply.result, mt isSuccess_iff.1 hStatus, if_false, Bool.false_eq_true]
  | body hSent hReply hParse =>
    obtain ⟨request, hRequest⟩ := hSent
    rw [(run_of_sent hRequest _ _ _).2, hReply.1]
    simp only [conclude, Reply.result, isSuccess_iff.2 hReply.2, if_true, hParse]

/-- A request that comes about leaves no other cause of an error than the network or the endpoint. -/
theorem Fails.isRetryable_iff {e : Error} (h : Fails grant asNetworkError reply e) :
    e.isRetryable = true ↔ ¬ ∃ cause, Unbuilt grant reply cause := by
  have hOther (hSent : Sent grant) (hReply : ∀ cause, reply ≠ .failure (.request cause)) :
      ¬ ∃ cause, Unbuilt grant reply cause := by
    obtain ⟨request, hRequest⟩ := hSent
    rintro ⟨cause, ⟨hRefused⟩ | ⟨-, hFailure⟩⟩
    · rw [hRequest] at hRefused
      cases hRefused
    · exact hReply cause hFailure
  cases h with
  | unbuilt hUnbuilt => simpa [Error.isRetryable] using ⟨_, hUnbuilt⟩
  | network hSent hReply | io hSent hReply | other hSent hReply | status hSent hReply =>
    exact iff_of_true rfl (hOther hSent fun cause => by simp [hReply])
  | body hSent hReply => exact iff_of_true rfl (hOther hSent fun cause => by simp [hReply.1])

/-- Every exchange that does not lead out of the calendar ends in one of these ways. -/
theorem run_classified (hFits : ¬ reply.RunsOut now) : Classified grant classify now reply := by
  have hError {e : Error} :
      (run grant classify now reply).result = some (.error e) ↔ Fails grant classify reply e := by
    refine ⟨fun hResult => ?_, Fails.result_eq⟩
    obtain hSent | ⟨cause, hRequest⟩ := request_cases grant
    · obtain ⟨request, hRequest⟩ := hSent
      rw [(run_of_sent hRequest _ _ _).2] at hResult
      exact fails_of_conclude ⟨request, hRequest⟩ hResult
    · rw [(run_of_error hRequest _ _ _).2] at hResult
      cases hResult
      exact .unbuilt (.grant hRequest)
  have hRetryable {e : Error} (hDefault : classify = asNetworkError)
      (hResult : (run grant classify now reply).result = some (.error e)) :
      e.isRetryable = true ↔ ¬ ∃ cause, Unbuilt grant reply cause := by
    subst hDefault
    exact (hError.1 hResult).isRetryable_iff
  cases hRequest : grant.request with
  | error cause =>
    obtain ⟨hNone, hResult⟩ := run_of_error hRequest classify now reply
    have hUnsent : ¬ Sent grant := by
      rintro ⟨request, hSent⟩
      rw [hRequest] at hSent
      cases hSent
    refine ⟨?_, ?_, ?_, hError, hRetryable⟩
    · simp [hNone, hRequest]
    · simp [hResult]
    · simp [hResult, hUnsent]
  | ok request =>
    obtain ⟨hSome, hResult⟩ := run_of_sent hRequest classify now reply
    refine ⟨?_, ?_, ?_, hError, hRetryable⟩
    · simp [hSome, hRequest]
    · rw [hResult]
      exact mt conclude_eq_none_iff.1 hFits
    · rw [hResult, conclude_ok_iff hFits]
      exact (and_iff_right ⟨request, hRequest⟩).symm

open TokenCache in
/-- An endpoint that is down for a while. -/
theorem unavailable_classified : ¬ Reply.RunsOut (.response ⟨503, Utf8.ofString "busy"⟩) epoch ∧
    (run sampleGrant asNetworkError epoch (.response ⟨503, Utf8.ofString "busy"⟩)).result =
      some (.error (.endpoint (.status 503 "busy"))) := by
  have hFits : ¬ Reply.RunsOut (.response ⟨503, Utf8.ofString "busy"⟩) epoch := Reply.not_runsOut (by decide) _
  have hSent : Sent sampleGrant := ⟨_, rfl⟩
  refine ⟨hFits, (run_classified hFits).error_iff.2 ?_⟩
  exact .status hSent rfl (by decide)

end BearerTokens.Exchange
