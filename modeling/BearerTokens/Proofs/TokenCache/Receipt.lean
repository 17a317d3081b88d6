import BearerTokens.Proofs.TokenCache.Settlement
import BearerTokens.Proofs.TokenCache.SingleFlight

/-!
# Receipt of tokens

The span that an endpoint tells for a token is counted from the instant at which the reply is read, not from
that at which the transport delivered it. A reply that lies unread while the clock goes on makes the token
last longer by just that time.
-/

set_option autoImplicit false

namespace BearerTokens.TokenCache

open BearerTokens.Http BearerTokens.Time

variable {grant : Grant} {classify : Classifier} {c c' : TokenCache}

def Event.clockAfter (now : Instant) : Event → Instant
  | .setClock t => t
  | _ => now

def NeverBack (now : Instant) : List Event → Prop
  | [] => True
  | event :: events => now ≤ event.clockAfter now ∧ NeverBack (event.clockAfter now) events

instance decidableNeverBack : (now : Instant) → (events : List Event) → Decidable (NeverBack now events)
  | _, [] => .isTrue trivial
  | now, event :: events =>
    have : Decidable (NeverBack (event.clockAfter now) events) := decidableNeverBack _ events
    inferInstanceAs (Decidable (now ≤ event.clockAfter now ∧ NeverBack (event.clockAfter now) events))

theorem step_clock (c : TokenCache) (event : Event) :
    (c.step event).clock.now = event.clockAfter c.clock.now := by
  by_cases hEvent : ∃ now, event = .setClock now
  · obtain ⟨now, rfl⟩ := hEvent
    rw [step_setClock]
    rfl
  · have hSame : (c.step event).clock = c.clock :=
      chain_induction (P := fun d => d.clock = c.clock) (step_still c fun now h => hEvent ⟨now, h⟩)
        (fun hMove h => hMove.2.trans h) rfl
    rw [hSame]
    cases event with
    | setClock now => exact absurd ⟨now, rfl⟩ hEvent
    | _ => rfl

/-- A history that is told in the order of the clock. -/
structure Timely (c : TokenCache) : Prop where
  ordered : c.history.Pairwise fun earlier later => earlier.1 ≤ later.1
  past : ∀ x ∈ c.history, x.1 ≤ c.clock.now

theorem Timely.still (h : Timely c) (hMove : Still c c') : Timely c' := by
  obtain ⟨later, hHistory, hNow⟩ := hMove.1.history_append
  constructor
  · rw [hHistory, List.pairwise_append]
    refine ⟨h.ordered, ?_, ?_⟩
    · rw [List.pairwise_iff_forall_sublist]
      intro x y hSublist
      have hx := hNow x (hSublist.subset (by simp))
      have hy := hNow y (hSublist.subset (by simp))
      rw [hx, hy]
      exact Int.le_refl _
    · intro x hx y hy
      rw [hNow y hy]
      exact h.past x hx
  · intro x hx
    rw [hMove.2]
    rw [hHistory, List.mem_append] at hx
    rcases hx with hOld | hNew
    · exact h.past x hOld
    · rw [hNow x hNew]
      exact Int.le_refl _

theorem Timely.step (h : Timely c) {event : Event} (hForward : c.clock.now ≤ event.clockAfter c.clock.now) :
    Timely (c.step event) := by
  by_cases hEvent : ∃ now, event = .setClock now
  · obtain ⟨now, rfl⟩ := hEvent
    rw [step_setClock]
    exact ⟨h.ordered, fun x hx => Int.le_trans (h.past x hx) hForward⟩
  · exact chain_induction (step_still c fun now h => hEvent ⟨now, h⟩) (fun hMove h => Timely.still h hMove) h

theorem Timely.run (h : Timely c) {events : List Event} (hForward : NeverBack c.clock.now events) :
    Timely (c.run events) := by
  induction events generalizing c with
  | nil => exact h
  | cons event events ih =>
    rw [run_cons]
    refine ih (h.step hForward.1) ?_
    rw [step_clock]
    exact hForward.2

theorem conclude_eq_ok {now : Instant} {reply : Reply} {token : HeldToken}
    (h : Exchange.conclude classify now reply = some (.ok token)) :
    ∃ http r, reply = .response http ∧ TokenResponse.parse http.status http.body = .ok r ∧
      HeldToken.ofResponse? r now = some token := by
  unfold Exchange.conclude at h
  cases reply with
  | failure f => cases h
  | response http =>
    simp only [Reply.result] at h
    split at h
    · cases hParse : TokenResponse.parse http.status http.body with
      | error e => simp [hParse] at h
      | ok r =>
        refine ⟨http, r, rfl, hParse, ?_⟩
        simpa [hParse] using h
    · cases h

/-- A token without a claim that tells its end lasts for the span told, from the given instant on. -/
theorem expiresAt_of_expiresIn {now : Instant} {r : TokenResponse} {token : HeldToken}
    (h : HeldToken.ofResponse? r now = some token) (hSource : token.source = .expiresIn) :
    token.expiresAt.nanos = now.nanos + Expiry.spanNanos r.expiresIn := by
  obtain ⟨⟨t, source⟩, hDerive, rfl⟩ := Option.map_eq_some_iff.1 h
  obtain rfl : source = .expiresIn := hSource
  unfold Expiry.derive at hDerive
  split at hDerive
  · cases hDerive
  · obtain ⟨t', hAdd, hPair⟩ := Option.map_eq_some_iff.1 hDerive
    cases hPair
    exact Instant.ofNanos?_eq_some_iff.1 hAdd

def Delivered (h : History) (exchange : Nat) (delivered : Instant) (r : TokenResponse) : Prop :=
  ∃ q http, Happened h (.sent exchange q) ∧ (delivered, .replied q (.response http)) ∈ h ∧
    TokenResponse.parse http.status http.body = .ok r

theorem Delivered.unique {h : History} (hLawful : Lawful h) {e : Nat} {s t : Instant} {r r' : TokenResponse}
    (hFirst : Delivered h e s r) (hSecond : Delivered h e t r') : s = t ∧ r = r' := by
  obtain ⟨q, http, ⟨t₁, hSent⟩, hReplied, hParse⟩ := hFirst
  obtain ⟨q', http', ⟨t₂, hSent'⟩, hReplied', hParse'⟩ := hSecond
  cases hLawful.eq_of_kind hSent hSent' rfl rfl
  cases hLawful.eq_of_kind hReplied hReplied' rfl rfl
  rw [hParse] at hParse'
  cases hParse'
  exact ⟨rfl, rfl⟩

theorem SettlementsRecorded.delivered (h : SettlementsRecorded grant classify c) (hLawful : Lawful c.history)
    (hTimely : Timely c) {read : Instant} {e : Nat} {token : HeldToken}
    (hSettled : (read, .settled e (.ok token)) ∈ c.history) :
    ∃ delivered r, Delivered c.history e delivered r ∧ delivered ≤ read ∧
      HeldToken.ofResponse? r read = some token := by
  rcases h.settled read e _ hSettled with ⟨reply, hJudged, hConclude⟩ | ⟨err, -, hUnbuilt⟩
  · obtain ⟨http, r, rfl, hParse, hToken⟩ := conclude_eq_ok hConclude
    obtain ⟨past, later, q, hHistory, ⟨t, hSent⟩, ⟨delivered, hReplied⟩⟩ := hLawful.replied_of_judged hJudged
    have hOrdered := hTimely.ordered
    rw [hHistory, List.pairwise_append] at hOrdered
    refine ⟨delivered, r, ⟨q, http, ⟨t, ?_⟩, ?_, hParse⟩, ?_, hToken⟩
    · rw [hHistory]
      exact List.mem_append_left _ hSent
    · rw [hHistory]
      exact List.mem_append_left _ hReplied
    · exact hOrdered.2.2 _ hReplied _ List.mem_cons_self
  · cases hUnbuilt

/-- From when on the tokens last that a cache is given. -/
structure CountsFromReading (c : TokenCache) : Prop where
  held : ∀ token, c.cached = some token → ∃ read e, (read, .settled e (.ok token)) ∈ c.history
  /-- The one response to the exchange is delivered first. The token lasts longer than the span told from then
  on by the time until it is read, so no longer only if it is read at the same instant. -/
  lasts : ∀ read e token, (read, .settled e (.ok token)) ∈ c.history → token.source = .expiresIn →
    ∃ delivered r, Delivered c.history e delivered r ∧ delivered ≤ read ∧
      (∀ t r', Delivered c.history e t r' → t = delivered ∧ r' = r) ∧
      token.expiresAt.nanos = delivered.nanos + Expiry.spanNanos r.expiresIn + read.since delivered ∧
      (token.expiresAt.nanos ≤ delivered.nanos + Expiry.spanNanos r.expiresIn ↔ read = delivered)

/-- Under a clock that never goes back, a token lasts from the reading of the reply on. -/
theorem run_countsFromReading (grant : Grant) (classify : Classifier) (clock : Clock) (events : List Event)
    (hForward : NeverBack clock.now events) :
    CountsFromReading ((new grant classify clock).run events) := by
  have hRecorded := recorded_run grant classify clock events
  have hTimely : Timely ((new grant classify clock).run events) :=
    Timely.run ⟨by simp [new], by simp [new]⟩ hForward
  constructor
  · intro token hCached
    rw [hRecorded.cached, held_eq_some_iff] at hCached
    obtain ⟨past, t, e, later, hHistory, -⟩ := hCached
    exact ⟨t, e, by simp [hHistory]⟩
  · intro read e token hSettled hSource
    obtain ⟨delivered, r, hDelivered, hBefore, hToken⟩ :=
      (settlementsRecorded_run grant classify clock events).delivered hRecorded.lawful hTimely hSettled
    have hExpires := expiresAt_of_expiresIn hToken hSource
    refine ⟨delivered, r, hDelivered, hBefore, fun t r' hOther => hOther.unique hRecorded.lawful hDelivered,
      ?_, ?_⟩
    · rw [hExpires, Instant.since]
      omega
    · have hOrder : delivered.nanos ≤ read.nanos := hBefore
      rw [hExpires, Instant.ext_iff]
      omega

deriving instance DecidableEq for Fact

def epoch : Instant := ⟨0, by decide, by decide⟩

def sampleGrant : Grant where
  clientId := "svc"
  clientSecret := ⟨"secret"⟩
  tokenUrl := ⟨"https", some ⟨"", none, .domain "idp.example.com", none⟩, .segments ["token"], none, none⟩
  scopes := .empty

def sampleResponse : Response :=
  ⟨200, "\x7b\"access_token\":\"opaque\",\"expires_in\":3600\x7d".toUTF8.toList⟩

def lateReading : List Event :=
  [.call none, .cancel 0, .reply 0 (.response sampleResponse),
    .setClock ⟨1000 * second, by decide, by decide⟩, .call none]

/-- The token lasts until 4600 s, a thousand more than it was told to from its delivery on. -/
theorem lateReading_counts : NeverBack epoch lateReading ∧
    ((new sampleGrant asNetworkError ⟨epoch⟩).run lateReading).cached =
      some ⟨⟨"opaque"⟩, ⟨4600 * second, by decide, by decide⟩, .expiresIn⟩ ∧
    CountsFromReading ((new sampleGrant asNetworkError ⟨epoch⟩).run lateReading) :=
  ⟨by decide, by decide +kernel,
    run_countsFromReading sampleGrant asNetworkError ⟨epoch⟩ lateReading (by decide)⟩

/-- Tokens do not end within the span told from the delivery of their response on. -/
theorem not_counts_from_delivery : ¬ ∀ (grant : Grant) (classify : Classifier) (clock : Clock)
    (events : List Event), NeverBack clock.now events →
    ∀ read e token delivered r,
      (read, .settled e (.ok token)) ∈ ((new grant classify clock).run events).history →
      token.source = .expiresIn → Delivered ((new grant classify clock).run events).history e delivered r →
      token.expiresAt.nanos ≤ delivered.nanos + Expiry.spanNanos r.expiresIn := by
  intro hAlways
  have hBound := hAlways sampleGrant asNetworkError ⟨epoch⟩ lateReading (by decide)
    ⟨1000 * second, by decide, by decide⟩ 0
    ⟨⟨"opaque"⟩, ⟨4600 * second, by decide, by decide⟩, .expiresIn⟩ epoch
    ⟨⟨"opaque"⟩, none, some (.ofNat 3600), none⟩ (by decide +kernel) rfl
    ⟨0, sampleResponse, ⟨epoch, by decide +kernel⟩, by decide +kernel, by decide +kernel⟩
  revert hBound
  decide +kernel

end BearerTokens.TokenCache
