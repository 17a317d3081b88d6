import BearerTokens.Proofs.Number.Binary64
import BearerTokens.Token.Exchange

/-!
# Lifetimes of tokens

When a held token may be handed out, said in whole numbers without an end of the calendar, and when the end
of a token cannot be told at all: the span of its response leads past the last instant there is.
-/

set_option autoImplicit false

namespace BearerTokens

open BearerTokens.Http BearerTokens.Number BearerTokens.Time

/-- The guard at the beginning of the calendar refuses nothing that the comparison would let through. -/
theorem HeldToken.isUsableAt_iff {t : HeldToken} {now : Instant} :
    t.isUsableAt now = true ↔ now.nanos + Expiry.buffer < t.expiresAt.nanos := by
  unfold HeldToken.isUsableAt
  cases hLimit : t.expiresAt.sub? Expiry.buffer with
  | some limit =>
    have hNanos : limit.nanos = t.expiresAt.nanos - Expiry.buffer := Instant.ofNanos?_eq_some_iff.1 hLimit
    have hBefore : now < limit ↔ now.nanos < limit.nanos := Iff.rfl
    rw [decide_eq_true_iff, hBefore, hNanos]
    omega
  | none =>
    -- no instant lies a buffer before the expiry, so the expiry is within a buffer of the earliest
    have hOutside : ¬ (earliest ≤ t.expiresAt.nanos - Expiry.buffer ∧
        t.expiresAt.nanos - Expiry.buffer ≤ latest) := by
      intro hInside
      simp [Instant.sub?, Instant.ofNanos?, hInside] at hLimit
    have hStart := now.earliest_le
    have hEnd := t.expiresAt.le_latest
    simp only [Expiry.buffer, second] at hOutside ⊢
    simp only [Bool.false_eq_true, false_iff]
    omega

namespace Expiry

/-- The longest span that is believed, in nanoseconds: ten years. -/
def longest : Int := maxSeconds * second

theorem spanNanos_le (expiresIn : Option Binary64) : (spanNanos expiresIn : Int) ≤ longest := by
  suffices hNat : spanNanos expiresIn ≤ maxSeconds * 1000000000 by
    simp only [longest, second, maxSeconds] at hNat ⊢
    omega
  unfold spanNanos
  split
  · exact Nat.zero_le _
  · split
    · rename_i m e _
      dsimp only
      split
      · exact Nat.le_refl _
      · rename_i hBelow
        apply Number.divHalfEven_le (Binary64.ratio_pos m e)
        rw [Nat.mul_right_comm]
        exact Nat.mul_le_mul_right _ (Nat.le_of_not_le hBelow)
    · exact Nat.zero_le _

theorem derive_eq_none_iff {token : String} {expiresIn : Option Binary64} {now : Instant} :
    derive token expiresIn now = none ↔
      ofClaim? token = none ∧ latest < now.nanos + spanNanos expiresIn := by
  unfold derive
  cases ofClaim? token with
  | some t => simp
  | none =>
    have hStart := now.earliest_le
    simp only [Option.map_eq_none_iff, Instant.add?, Instant.ofNanos?, true_and]
    split
    · rename_i hInside
      simp only [reduceCtorEq, false_iff]
      omega
    · rename_i hOutside
      simp only [true_iff]
      omega

end Expiry

/-- The reply is a token without a readable claim, and the span told for it leads from `now` past the last
instant of the calendar. -/
def Http.Reply.RunsOut (reply : Reply) (now : Instant) : Prop :=
  ∃ http r, reply = .response http ∧ isSuccess http.status = true ∧
    TokenResponse.parse http.status http.body = .ok r ∧ Expiry.ofClaim? r.accessToken.expose = none ∧
    latest < now.nanos + Expiry.spanNanos r.expiresIn

theorem HeldToken.ofResponse?_eq_none_iff {r : TokenResponse} {now : Instant} :
    HeldToken.ofResponse? r now = none ↔ Expiry.ofClaim? r.accessToken.expose = none ∧
      latest < now.nanos + Expiry.spanNanos r.expiresIn := by
  simp only [HeldToken.ofResponse?, Option.map_eq_none_iff, Expiry.derive_eq_none_iff]

/-- A reply comes to a result unless it leads out of the calendar. -/
theorem Exchange.conclude_eq_none_iff {classify : Classifier} {now : Instant} {reply : Reply} :
    Exchange.conclude classify now reply = none ↔ reply.RunsOut now := by
  unfold Exchange.conclude Reply.RunsOut
  cases reply with
  | failure f => simp [Reply.result]
  | response http =>
    cases hSuccess : isSuccess http.status with
    | false => simp [Reply.result, hSuccess]
    | true =>
      cases hParse : TokenResponse.parse http.status http.body with
      | error e => simp [Reply.result, hSuccess, hParse]
      | ok r => simp [Reply.result, hSuccess, hParse, HeldToken.ofResponse?_eq_none_iff]

/-- Ten years before the end of the calendar no reply leads out of it. -/
theorem Http.Reply.not_runsOut {now : Instant} (hEarly : now.nanos + Expiry.longest ≤ latest)
    (reply : Reply) : ¬ reply.RunsOut now := by
  rintro ⟨-, r, -, -, -, -, hLate⟩
  have hSpan := Expiry.spanNanos_le r.expiresIn
  omega

end BearerTokens
