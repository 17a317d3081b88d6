import BearerTokens.Proofs.Token.Lifetime
import Mathlib.Order.MinMax

/-!
# Spans told by the endpoint

A span is the number of seconds that was told, cut down to ten years and rounded to whole nanoseconds; it is zero
where no number was told, or none that is finite and positive. A token without a claim of its own ends this span
after it came, unless that is past the end of the calendar.
-/

set_option autoImplicit false

namespace BearerTokens.Expiry

open BearerTokens.Number BearerTokens.Time

variable {x y : Binary64} {q r : ℚ} {told : Option Binary64}

def believed (q : ℚ) : ℚ :=
  min (max q 0) maxSeconds

theorem believed_mono (h : q ≤ r) : believed q ≤ believed r :=
  min_le_min_right _ (max_le_max_right _ h)

theorem believed_of_pos (h : 0 < q) : believed q = min q maxSeconds := by
  rw [believed, max_eq_left h.le]

theorem believed_of_nonpos (h : q ≤ 0) : believed q = 0 := by
  rw [believed, max_eq_right h]
  exact min_eq_left (Nat.cast_nonneg maxSeconds)

theorem spanNanos_of_parts {m num den : Nat} {e : Int} (hParts : x.parts = .finite false m e)
    (hShape : Binary64.ratio m e = (num, den)) :
    spanNanos (some x) =
      if maxSeconds * den ≤ num then maxSeconds * 1000000000 else divHalfEven (num * 1000000000) den := by
  unfold spanNanos
  dsimp only
  rw [hParts]
  dsimp only
  rw [hShape]

/-- Every finite number, whatever its sign and size, is rounded in the same way. -/
theorem spanNanos_eq_divHalfEven (hValue : x.value? = some q) :
    ∃ num den : Nat, 0 < den ∧ (num / den : ℚ) = believed q ∧
      spanNanos (some x) = divHalfEven (num * 1000000000) den := by
  unfold Binary64.value? at hValue
  split at hValue
  · rename_i negative m e hParts
    cases hValue
    have hPower : (0 : ℚ) < 2 ^ e := zpow_pos two_pos e
    have hMagnitude : (0 : ℚ) ≤ m * 2 ^ e := by positivity
    cases negative with
    | true =>
      refine ⟨0, 1, Nat.one_pos, ?_, ?_⟩
      · rw [believed_of_nonpos (by simpa using hMagnitude)]
        simp
      · unfold spanNanos
        dsimp only
        rw [hParts]
        rfl
    | false =>
      have hDen := Binary64.ratio_pos m e
      have hRatio := Binary64.ratio_value m e
      rcases hShape : Binary64.ratio m e with ⟨num, den⟩
      rw [hShape] at hDen hRatio
      dsimp only at hDen hRatio
      have hDenPos : (0 : ℚ) < den := by exact_mod_cast hDen
      have hCut : maxSeconds * den ≤ num ↔ (maxSeconds : ℚ) ≤ num / den := by
        rw [le_div_iff₀ hDenPos]
        exact_mod_cast Iff.rfl
      rw [if_neg Bool.false_ne_true, one_mul, ← hRatio, believed, max_eq_left (by positivity),
        spanNanos_of_parts hParts hShape]
      split
      · rename_i hLong
        refine ⟨maxSeconds, 1, Nat.one_pos, ?_, ?_⟩
        · rw [min_eq_right (hCut.1 hLong), Nat.cast_one, div_one]
        · exact (divHalfEven_one _).symm
      · rename_i hShort
        refine ⟨num, den, hDen, ?_, rfl⟩
        rw [min_eq_left (le_of_not_ge (mt hCut.2 hShort))]
  · cases hValue

structure IsRounded (span : Option Binary64 → Nat) : Prop where
  missing {told : Option Binary64} : told.bind Binary64.value? = none → span told = 0
  nonpos {x : Binary64} {q : ℚ} : x.value? = some q → q ≤ 0 → span (some x) = 0
  near {x : Binary64} {q : ℚ} : x.value? = some q → 0 < q →
    |(span (some x) : ℚ) - min q maxSeconds * 1000000000| < 1
  whole {x : Binary64} {q : ℚ} {k : Nat} : x.value? = some q → 0 < q → min q maxSeconds = k →
    span (some x) = k * 1000000000
  mono {x y : Binary64} {q r : ℚ} : x.value? = some q → y.value? = some r → q ≤ r → span (some x) ≤ span (some y)
  most (told : Option Binary64) : (span told : Int) ≤ longest

theorem spanNanos_eq_zero (hMissing : told.bind Binary64.value? = none) : spanNanos told = 0 := by
  cases told with
  | none => rfl
  | some x =>
    simp only [Option.bind_some, Binary64.value?] at hMissing
    unfold spanNanos
    dsimp only
    split
    · rename_i m e hParts
      rw [hParts] at hMissing
      cases hMissing
    · rfl

theorem spanNanos_of_nonpos (hValue : x.value? = some q) (hNonpos : q ≤ 0) : spanNanos (some x) = 0 := by
  obtain ⟨num, den, hDen, hQuotient, hSpan⟩ := spanNanos_eq_divHalfEven hValue
  have hDenPos : (den : ℚ) ≠ 0 := by exact_mod_cast hDen.ne'
  rw [believed_of_nonpos hNonpos, div_eq_zero_iff, or_iff_left hDenPos, Nat.cast_eq_zero] at hQuotient
  subst hQuotient
  rw [hSpan, Nat.zero_mul, divHalfEven_of_dvd hDen (dvd_zero den), Nat.zero_div]

theorem spanNanos_near (hValue : x.value? = some q) :
    |(spanNanos (some x) : ℚ) - believed q * 1000000000| ≤ 1 / 2 := by
  obtain ⟨num, den, hDen, hQuotient, hSpan⟩ := spanNanos_eq_divHalfEven hValue
  have hNear := divHalfEven_near (num * 1000000000) hDen
  rw [← hSpan] at hNear
  push_cast at hNear
  rwa [← hQuotient, div_mul_eq_mul_div]

/-- Half a nanosecond is less than the distance of two whole numbers. -/
theorem spanNanos_of_whole {k : Nat} (hValue : x.value? = some q) (hWhole : believed q = k) :
    spanNanos (some x) = k * 1000000000 := by
  have hNear := spanNanos_near hValue
  rw [hWhole, abs_le] at hNear
  have hBelow : (spanNanos (some x) : ℚ) < (k * 1000000000 + 1 : Nat) := by
    push_cast
    linarith
  have hAbove : ((k * 1000000000 : Nat) : ℚ) < (spanNanos (some x) + 1 : Nat) := by
    push_cast
    linarith
  rw [Nat.cast_lt] at hBelow hAbove
  omega

theorem spanNanos_mono (hValue : x.value? = some q) (hValue' : y.value? = some r) (h : q ≤ r) :
    spanNanos (some x) ≤ spanNanos (some y) := by
  obtain ⟨num, den, hDen, hQuotient, hSpan⟩ := spanNanos_eq_divHalfEven hValue
  obtain ⟨num', den', hDen', hQuotient', hSpan'⟩ := spanNanos_eq_divHalfEven hValue'
  have hDenPos : (0 : ℚ) < den := by exact_mod_cast hDen
  have hDenPos' : (0 : ℚ) < den' := by exact_mod_cast hDen'
  have hCross := believed_mono h
  rw [← hQuotient, ← hQuotient', div_le_div_iff₀ hDenPos hDenPos'] at hCross
  rw [hSpan, hSpan']
  apply divHalfEven_mono hDen hDen'
  rw [Nat.mul_right_comm, Nat.mul_right_comm num']
  exact Nat.mul_le_mul_right _ (by exact_mod_cast hCross)

theorem spanNanos_isRounded : IsRounded spanNanos where
  missing := spanNanos_eq_zero
  nonpos := spanNanos_of_nonpos
  near hValue hPos := by
    have hNear := spanNanos_near hValue
    rw [believed_of_pos hPos] at hNear
    exact hNear.trans_lt (by norm_num)
  whole hValue hPos hWhole := spanNanos_of_whole hValue (by rwa [believed_of_pos hPos])
  mono := spanNanos_mono
  most := spanNanos_le

/-- How the end of a token is derived at `now` from a span alone. -/
structure EndsAfter (token : String) (told : Option Binary64) (now : Instant) (span : Nat) : Prop where
  some_iff {t : Instant} {source : ExpirySource} :
    derive token told now = some (t, source) ↔ source = .expiresIn ∧ t.nanos = now.nanos + span
  none_iff : derive token told now = none ↔ latest < now.nanos + span
  between {t : Instant} {source : ExpirySource} :
    derive token told now = some (t, source) → now ≤ t ∧ t.nanos ≤ now.nanos + longest

theorem derive_endsAfter {token : String} (hClaim : ofClaim? token = none) (told : Option Binary64) (now : Instant) :
    EndsAfter token told now (spanNanos told) := by
  have hSome {t : Instant} {source : ExpirySource} :
      derive token told now = some (t, source) ↔ source = .expiresIn ∧ t.nanos = now.nanos + spanNanos told := by
    simp only [derive, hClaim, Option.map_eq_some_iff, Instant.add?, Instant.ofNanos?_eq_some_iff, Prod.mk.injEq]
    constructor
    · rintro ⟨_, hNanos, rfl, rfl⟩
      exact ⟨rfl, hNanos⟩
    · rintro ⟨rfl, hNanos⟩
      exact ⟨t, hNanos, rfl, rfl⟩
  refine ⟨hSome, ?_, ?_⟩
  · rw [derive_eq_none_iff, and_iff_right hClaim]
  · intro t source hDerive
    have hNanos := (hSome.1 hDerive).2
    have hMost := spanNanos_le told
    constructor
    · change now.nanos ≤ t.nanos
      omega
    · omega

/-- The end of a token without a claim of its own lies the rounded span after now, and it is missing only where that
is past the end of the calendar. -/
theorem derive_fallsBack {token : String} (hClaim : ofClaim? token = none) :
    ∃ span, IsRounded span ∧ ∀ told now, EndsAfter token told now (span told) :=
  ⟨spanNanos, spanNanos_isRounded, derive_endsAfter hClaim⟩

/-- An hour that is told as a float for a token that is no claim set. -/
theorem opaque_fallsBack : ofClaim? "opaque" = none ∧
    derive "opaque" (some ⟨0x40AC200000000000⟩) ⟨0, by decide, by decide⟩ =
      some (⟨3600 * second, by decide, by decide⟩, .expiresIn) := by
  have hClaim : ofClaim? "opaque" = none := by decide
  have hHour : Binary64.value? ⟨0x40AC200000000000⟩ = some 3600 := by decide +kernel
  obtain ⟨span, hRounded, hEnds⟩ := derive_fallsBack hClaim
  refine ⟨hClaim, (hEnds _ _).some_iff.2 ⟨rfl, ?_⟩⟩
  rw [hRounded.whole (k := 3600) hHour (by norm_num) (by norm_num [maxSeconds])]
  rfl

end BearerTokens.Expiry
