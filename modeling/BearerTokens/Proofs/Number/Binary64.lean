import BearerTokens.Number.Binary64
import BearerTokens.Proofs.Number.Rounding
import Mathlib.Data.Int.Log
import Mathlib.Data.Rat.Floor
import Mathlib.Tactic.FieldSimp
import Mathlib.Tactic.GCongr
import Mathlib.Tactic.NormNum
import Mathlib.Tactic.Positivity

/-!
# The values of floats

Every finite word stands for a rational number. A rounded quotient, and with it a rounded product, stands for one
that is within half a place of the last of 53 bits of the exact number.
-/

set_option autoImplicit false

namespace BearerTokens.Number

namespace Binary64

variable {x : Binary64} {num den m : Nat} {q : ℚ}

/-- The number that a word stands for, if it is finite. -/
def value? (x : Binary64) : Option ℚ :=
  match x.parts with
  | .finite negative m e => some ((if negative then -1 else 1) * (m * 2 ^ e))
  | _ => none

theorem isFinite_iff : x.isFinite = true ↔ ∃ q, x.value? = some q := by
  unfold isFinite value?
  split <;> simp_all

theorem ratio_pos (m : Nat) (e : Int) : 0 < (ratio m e).2 := by
  unfold ratio
  split
  · exact Nat.one_pos
  · exact Nat.pow_pos Nat.two_pos

theorem zpow_of_neg {e : Int} (h : ¬ 0 ≤ e) : (2 : ℚ) ^ e = 1 / 2 ^ (-e).toNat := by
  rw [one_div, ← zpow_natCast, ← zpow_neg]
  congr 1
  omega

theorem zpow_of_nonneg {e : Int} (h : 0 ≤ e) : (2 : ℚ) ^ e = 2 ^ e.toNat := by
  rw [← zpow_natCast]
  congr 1
  omega

theorem ratio_value (m : Nat) (e : Int) : ((ratio m e).1 : ℚ) / (ratio m e).2 = m * 2 ^ e := by
  unfold ratio
  split
  · rename_i h
    rw [zpow_of_nonneg h]
    simp
  · rename_i h
    rw [zpow_of_neg h]
    simp [div_eq_mul_inv]

def sign (x : Binary64) : ℚ :=
  if x.isNegative then -1 else 1

theorem negative_of_parts {negative : Bool} {e : Int} (h : x.parts = .finite negative m e) :
    x.isNegative = negative := by
  unfold parts at h
  dsimp only at h
  split_ifs at h
  · exact (Parts.finite.inj h).1
  · exact (Parts.finite.inj h).1

theorem value?_eq_some_iff :
    x.value? = some q ↔ ∃ num den, x.magnitude? = some (num, den) ∧ 0 < den ∧ q = x.sign * (num / den) := by
  unfold value? magnitude? sign
  cases hParts : x.parts with
  | finite negative m e =>
    rw [negative_of_parts hParts]
    dsimp only
    rw [← ratio_value]
    constructor
    · intro h
      exact ⟨_, _, rfl, ratio_pos m e, (Option.some.inj h).symm⟩
    · rintro ⟨num, den, hRatio, -, rfl⟩
      rw [Option.some.inj hRatio]
  | nan => simp
  | infinite negative => simp

theorem parts_word {biased fraction : Nat} (hBiased : biased < 2047) (hFraction : fraction < 2 ^ 52) :
    parts ⟨UInt64.ofNat (biased * 2 ^ 52 + fraction)⟩ =
      if biased = 0 then .finite false fraction (-1074) else .finite false (2 ^ 52 + fraction) (biased - 1075) := by
  have hWord : (UInt64.ofNat (biased * 2 ^ 52 + fraction)).toNat = biased * 2 ^ 52 + fraction := by
    rw [UInt64.toNat_ofNat']
    omega
  have hSign : ¬ 2 ^ 63 ≤ biased * 2 ^ 52 + fraction := by omega
  have hHigh : (biased * 2 ^ 52 + fraction) / 2 ^ 52 % 2048 = biased := by omega
  have hLow : (biased * 2 ^ 52 + fraction) % 2 ^ 52 = fraction := by omega
  unfold parts
  simp only [hWord, Nat.pow_eq, hSign, hHigh, hLow, decide_false, if_neg hBiased.ne]

/-- The word of an exponent and a mantissa of 53 bits; a mantissa that is rounded up to the next power of two carries
into the exponent. -/
theorem value?_word {E : Nat} (hMost : m ≤ 2 ^ 53) (hLeast : E = 0 ∨ 2 ^ 52 ≤ m)
    (hFits : E * 2 ^ 52 + m < 2047 * 2 ^ 52) :
    value? ⟨UInt64.ofNat (E * 2 ^ 52 + m)⟩ = some ((m : ℚ) * 2 ^ ((E : Int) - 1074)) := by
  rcases Nat.lt_or_ge m (2 ^ 52) with hTiny | hUsual
  · obtain rfl : E = 0 := by omega
    rw [value?, parts_word (by omega) hTiny]
    simp
  · rcases Nat.lt_or_eq_of_le hMost with hLess | rfl
    · obtain ⟨f, rfl⟩ := Nat.exists_eq_add_of_le hUsual
      have hWord : E * 2 ^ 52 + (2 ^ 52 + f) = (E + 1) * 2 ^ 52 + f := by ring
      have hExponent : ((E + 1 : Nat) : Int) - 1075 = E - 1074 := by omega
      rw [hWord, value?, parts_word (by omega) (by omega), if_neg (Nat.succ_ne_zero E), hExponent]
      simp
    · have hWord : E * 2 ^ 52 + 2 ^ 53 = (E + 2) * 2 ^ 52 + 0 := by ring
      have hExponent : ((E + 2 : Nat) : Int) - 1075 = E - 1074 + 1 := by omega
      rw [hWord, value?, parts_word (by omega) (by omega), if_neg (Nat.succ_ne_zero _), hExponent]
      simp only [Bool.false_eq_true, if_false, one_mul, Option.some.injEq, zpow_add₀ (two_ne_zero' ℚ)]
      push_cast
      ring

theorem value?_infinite : value? ⟨UInt64.ofNat (2047 * 2 ^ 52)⟩ = none := by
  decide +kernel

/-- The comparison with a power of two, of either sign, by which the last place is found. -/
theorem scaled_le_iff (num : Nat) (hDen : 0 < den) (k : Int) :
    (if 0 ≤ k then (num, den * Nat.pow 2 k.toNat) else (num * Nat.pow 2 (-k).toNat, den)).2 ≤
      (if 0 ≤ k then (num, den * Nat.pow 2 k.toNat) else (num * Nat.pow 2 (-k).toNat, den)).1 ↔
        (2 : ℚ) ^ k ≤ num / den := by
  have hPos : (0 : ℚ) < den := by exact_mod_cast hDen
  rw [le_div_iff₀ hPos]
  simp only [Nat.pow_eq]
  split
  · rename_i hk
    rw [zpow_of_nonneg hk, mul_comm]
    exact_mod_cast Iff.rfl
  · rename_i hk
    rw [zpow_of_neg hk, one_div, ← div_eq_inv_mul, div_le_iff₀ (by positivity)]
    exact_mod_cast Iff.rfl

/-- The lengths of the two numbers tell the logarithm of their quotient, or one more. -/
theorem log2_sub_bounds (hNum : 0 < num) (hDen : 0 < den) :
    (2 : ℚ) ^ ((num.log2 : Int) - den.log2 - 1) < num / den ∧
      (num / den : ℚ) < 2 ^ ((num.log2 : Int) - den.log2 + 1) := by
  have hPos : (0 : ℚ) < den := by exact_mod_cast hDen
  have hNumLow : (2 : ℚ) ^ num.log2 ≤ num := by exact_mod_cast Nat.log2_self_le hNum.ne'
  have hNumHigh : (num : ℚ) < 2 ^ (num.log2 + 1) := by exact_mod_cast Nat.lt_log2_self
  have hDenLow : (2 : ℚ) ^ den.log2 ≤ den := by exact_mod_cast Nat.log2_self_le hDen.ne'
  have hDenHigh : (den : ℚ) < 2 ^ (den.log2 + 1) := by exact_mod_cast Nat.lt_log2_self
  rw [← zpow_natCast] at hNumLow hNumHigh hDenLow hDenHigh
  rw [Nat.cast_succ] at hNumHigh hDenHigh
  have hPower (e : Int) : (0 : ℚ) < 2 ^ e := zpow_pos two_pos e
  constructor
  · rw [lt_div_iff₀ hPos]
    calc
      (2 : ℚ) ^ ((num.log2 : Int) - den.log2 - 1) * den
          < 2 ^ ((num.log2 : Int) - den.log2 - 1) * 2 ^ ((den.log2 : Int) + 1) :=
        mul_lt_mul_of_pos_left hDenHigh (hPower _)
      _ = 2 ^ (num.log2 : Int) := by
        rw [← zpow_add₀ two_ne_zero]
        congr 1
        omega
      _ ≤ num := hNumLow
  · rw [div_lt_iff₀ hPos]
    calc
      (num : ℚ) < 2 ^ ((num.log2 : Int) + 1) := hNumHigh
      _ = 2 ^ ((num.log2 : Int) - den.log2 + 1) * 2 ^ (den.log2 : Int) := by
        rw [← zpow_add₀ two_ne_zero]
        congr 1
        omega
      _ ≤ 2 ^ ((num.log2 : Int) - den.log2 + 1) * den := mul_le_mul_of_nonneg_left hDenLow (hPower _).le

theorem lastPlace_eq (hNum : 0 < num) (hDen : 0 < den) :
    lastPlace num den = max (Int.log 2 (num / den : ℚ) - 52) (-1074) := by
  have hPos : (0 : ℚ) < (num : ℚ) / den := by positivity
  obtain ⟨hLow, hHigh⟩ := log2_sub_bounds hNum hDen
  have hCompare := scaled_le_iff num hDen (num.log2 - den.log2)
  rw [show (2 : ℚ) = (2 : ℕ) from rfl] at hLow hHigh hCompare
  rw [Int.zpow_le_iff_le_log Nat.one_lt_two hPos] at hCompare
  have hLeast := (Int.zpow_le_iff_le_log Nat.one_lt_two hPos).1 hLow.le
  have hMost := (Int.lt_zpow_iff_log_lt Nat.one_lt_two hPos).1 hHigh
  unfold lastPlace
  dsimp only
  congr 1
  split at hCompare
  all_goals
    rename_i hk
    simp only [hk, if_true, if_false]
    split
    · rename_i hFits
      have hLog := hCompare.1 hFits
      omega
    · rename_i hOver
      have hLog := mt hCompare.2 hOver
      omega

/-- The quotient of which the mantissa is the rounding. -/
theorem exists_scaled (num : Nat) (hDen : 0 < den) (e : Int) :
    ∃ n d : Nat, 0 < d ∧ (n / d : ℚ) * 2 ^ e = num / den ∧
      (if 0 ≤ e then divHalfEven num (den * Nat.pow 2 e.toNat)
        else divHalfEven (num * Nat.pow 2 (-e).toNat) den) = divHalfEven n d := by
  simp only [Nat.pow_eq]
  split
  · rename_i he
    refine ⟨num, den * 2 ^ e.toNat, by positivity, ?_, rfl⟩
    rw [zpow_of_nonneg he]
    push_cast
    field_simp
  · rename_i he
    refine ⟨num * 2 ^ (-e).toNat, den, hDen, ?_, rfl⟩
    rw [zpow_of_neg he]
    push_cast
    field_simp

/-- The rounded quotient, if it is finite, is the mantissa at the last place. -/
theorem exists_mantissa (hNum : 0 < num) (hDen : 0 < den) (hValue : (ofRatio num den).value? = some q) :
    ∃ n d : Nat, 0 < d ∧ (n / d : ℚ) * 2 ^ lastPlace num den = num / den ∧
      q = (divHalfEven n d : ℚ) * 2 ^ lastPlace num den := by
  have hPos : (0 : ℚ) < (num : ℚ) / den := by positivity
  have hLow := Int.zpow_log_le_self Nat.one_lt_two hPos
  have hHigh := Int.lt_zpow_succ_log_self Nat.one_lt_two (num / den : ℚ)
  have hPlace := lastPlace_eq hNum hDen
  obtain ⟨n, d, hd, hScaled, hMantissa⟩ := exists_scaled num hDen (lastPlace num den)
  refine ⟨n, d, hd, hScaled, ?_⟩
  have hdPos : (0 : ℚ) < d := by exact_mod_cast hd
  have hPlacePos : (0 : ℚ) < 2 ^ lastPlace num den := zpow_pos two_pos _
  unfold ofRatio at hValue
  rw [if_neg hNum.ne'] at hValue
  dsimp only at hValue
  rw [hMantissa] at hValue
  generalize lastPlace num den = e at *
  have hMost : divHalfEven n d ≤ 2 ^ 53 := by
    apply divHalfEven_le hd
    have hBound : (n / d : ℚ) < 2 ^ 53 := by
      apply lt_of_mul_lt_mul_right _ hPlacePos.le
      calc
        (n / d : ℚ) * 2 ^ e = num / den := hScaled
        _ < (2 : ℕ) ^ (Int.log 2 (num / den : ℚ) + 1) := hHigh
        _ ≤ 2 ^ (53 + e) := zpow_le_zpow_right₀ one_le_two (by omega)
        _ = 2 ^ 53 * 2 ^ e := zpow_add₀ two_ne_zero 53 e
    rw [div_lt_iff₀ hdPos] at hBound
    exact_mod_cast hBound.le
  have hLeast : (e + 1074).toNat = 0 ∨ 2 ^ 52 ≤ divHalfEven n d := by
    by_cases hTiny : e = -1074
    · left
      omega
    · right
      apply le_divHalfEven hd
      have hBound : (2 : ℚ) ^ 52 ≤ n / d := by
        apply le_of_mul_le_mul_right _ hPlacePos
        calc
          (2 : ℚ) ^ 52 * 2 ^ e = 2 ^ (52 + e) := (zpow_add₀ two_ne_zero 52 e).symm
          _ = (2 : ℕ) ^ Int.log 2 (num / den : ℚ) := by
            congr 1
            omega
          _ ≤ num / den := hLow
          _ = n / d * 2 ^ e := hScaled.symm
      rw [le_div_iff₀ hdPos] at hBound
      exact_mod_cast hBound
  have hExponent : (((e + 1074).toNat : Nat) : Int) - 1074 = e := by omega
  simp only [Nat.pow_eq] at hValue
  rcases Nat.lt_or_ge ((e + 1074).toNat * 2 ^ 52 + divHalfEven n d) (2047 * 2 ^ 52) with hFits | hOver
  · rw [Nat.min_eq_left hFits.le, value?_word hMost hLeast hFits, hExponent] at hValue
    exact (Option.some.inj hValue).symm
  · rw [Nat.min_eq_right hOver, value?_infinite] at hValue
    cases hValue

def least : ℚ :=
  2 ^ (-1074 : Int)

theorem least_pos : 0 < least :=
  zpow_pos two_pos _

theorem least_le : least ≤ 1 / 2 ^ 60 := by
  rw [one_div, ← zpow_natCast, ← zpow_neg]
  exact zpow_le_zpow_right₀ one_le_two (by decide)

theorem lastPlace_le (hNum : 0 < num) (hDen : 0 < den) :
    (2 : ℚ) ^ lastPlace num den ≤ num / den / 2 ^ 52 + least := by
  have hPos : (0 : ℚ) < (num : ℚ) / den := by positivity
  have hLow := Int.zpow_log_le_self Nat.one_lt_two hPos
  rw [lastPlace_eq hNum hDen]
  rcases max_choice (Int.log 2 (num / den : ℚ) - 52) (-1074) with hChoice | hChoice
  · rw [hChoice, zpow_sub₀ two_ne_zero]
    calc
      (2 : ℚ) ^ Int.log 2 (num / den : ℚ) / 2 ^ (52 : Int) ≤ num / den / 2 ^ 52 :=
        div_le_div_of_nonneg_right hLow (by positivity)
      _ ≤ num / den / 2 ^ 52 + least := le_add_of_nonneg_right least_pos.le
  · rw [hChoice]
    exact le_add_of_nonneg_left (by positivity)

/-- A quotient is rounded by at most half a unit in the last of 53 places, or half of the least float. -/
theorem ofRatio_near (hDen : 0 < den) (hValue : (ofRatio num den).value? = some q) :
    |q - num / den| ≤ num / den / 2 ^ 53 + least / 2 := by
  rcases Nat.eq_zero_or_pos num with rfl | hNum
  · have hZero : value? ⟨0⟩ = some 0 := by decide +kernel
    rw [ofRatio, if_pos rfl, hZero] at hValue
    cases hValue
    simpa using (half_pos least_pos).le
  · obtain ⟨n, d, hd, hScaled, rfl⟩ := exists_mantissa hNum hDen hValue
    have hPlacePos : (0 : ℚ) < 2 ^ lastPlace num den := zpow_pos two_pos _
    calc
      |(divHalfEven n d : ℚ) * 2 ^ lastPlace num den - num / den|
          = |(divHalfEven n d : ℚ) - n / d| * 2 ^ lastPlace num den := by
        rw [← hScaled, ← sub_mul, abs_mul, abs_of_pos hPlacePos]
      _ ≤ 1 / 2 * 2 ^ lastPlace num den := mul_le_mul_of_nonneg_right (divHalfEven_near n hd) hPlacePos.le
      _ ≤ 1 / 2 * (num / den / 2 ^ 52 + least) := mul_le_mul_of_nonneg_left (lastPlace_le hNum hDen) (by norm_num)
      _ = num / den / 2 ^ 53 + least / 2 := by ring

/-- No rounding loses half of a number that is not small. -/
theorem half_le_ofRatio (hDen : 0 < den) (hOne : (1 : ℚ) ≤ num / den) (hValue : (ofRatio num den).value? = some q) :
    (num / den : ℚ) / 2 ≤ q := by
  have hNear := ofRatio_near hDen hValue
  have hLeast := least_le
  rw [abs_le] at hNear
  linarith

theorem neg_toNat (x : Binary64) :
    x.neg.bits.toNat / 2 ^ 63 = 1 - x.bits.toNat / 2 ^ 63 ∧ x.neg.bits.toNat % 2 ^ 63 = x.bits.toNat % 2 ^ 63 := by
  have hWord : x.neg.bits.toNat = x.bits.toNat ^^^ 2 ^ 63 := rfl
  have hSign : x.bits.toNat / 2 ^ 63 = 0 ∨ x.bits.toNat / 2 ^ 63 = 1 := by
    have hLess := x.bits.toNat_lt
    omega
  rw [hWord, Nat.xor_div_two_pow, Nat.xor_mod_two_pow, Nat.div_self (by decide), Nat.mod_self, Nat.xor_zero]
  refine ⟨?_, rfl⟩
  obtain h | h := hSign <;> rw [h] <;> rfl

theorem parts_neg (x : Binary64) :
    x.neg.parts = match x.parts with
      | .nan => .nan
      | .infinite negative => .infinite (!negative)
      | .finite negative m e => .finite (!negative) m e := by
  obtain ⟨hSign, hRest⟩ := neg_toNat x
  have hLess := x.bits.toNat_lt
  have hBiased : x.neg.bits.toNat / 2 ^ 52 % 2048 = x.bits.toNat / 2 ^ 52 % 2048 := by omega
  have hFraction : x.neg.bits.toNat % 2 ^ 52 = x.bits.toNat % 2 ^ 52 := by omega
  have hNegative : decide (2 ^ 63 ≤ x.neg.bits.toNat) = !decide (2 ^ 63 ≤ x.bits.toNat) := by
    rw [← decide_not, decide_eq_decide]
    omega
  unfold parts
  simp only [Nat.pow_eq, hBiased, hFraction, hNegative]
  split_ifs <;> rfl

theorem value?_neg (x : Binary64) : x.neg.value? = x.value?.map (-·) := by
  unfold value?
  rw [parts_neg]
  cases x.parts with
  | finite negative m e => cases negative <;> simp
  | nan => rfl
  | infinite negative => rfl

theorem value?_signed (negative : Bool) (x : Binary64) :
    (signed negative x).value? = x.value?.map ((if negative then -1 else 1) * ·) := by
  cases negative with
  | false => simp [signed]
  | true => simp [signed, value?_neg]

theorem abs_sign (x : Binary64) : |x.sign| = 1 := by
  unfold sign
  split <;> simp

theorem sign_ofRatio (num den : Nat) : (ofRatio num den).sign = 1 := by
  suffices hWord : (ofRatio num den).bits.toNat < 2 ^ 63 by
    simp only [sign, isNegative, Nat.pow_eq, Nat.not_le.2 hWord, decide_false, Bool.false_eq_true, if_false]
  unfold ofRatio
  split
  · decide
  · dsimp only
    rw [UInt64.toNat_ofNat', Nat.pow_eq]
    omega

/-- A product of two floats is rounded once. -/
theorem mulNat_near {n : Nat} {r p : ℚ} (hValue : x.value? = some q) (hFactor : (ofNat n).value? = some r)
    (hProduct : (x.mulNat n).value? = some p) : |p - q * r| ≤ |q * r| / 2 ^ 53 + least / 2 := by
  obtain ⟨a, b, hMagnitude, hb, rfl⟩ := value?_eq_some_iff.1 hValue
  obtain ⟨c, d, hMagnitude', hd, rfl⟩ := value?_eq_some_iff.1 hFactor
  have hSign : (ofNat n).sign = 1 := sign_ofRatio n 1
  have hShape : (x.sign * (a / b) * (1 * (c / d)) : ℚ) = x.sign * ((a * c : Nat) / (b * d : Nat)) := by
    push_cast
    field_simp
  have hPos : (0 : ℚ) ≤ (a * c : Nat) / (b * d : Nat) := by positivity
  simp only [mulNat, hMagnitude, hMagnitude', value?_signed, Option.map_eq_some_iff] at hProduct
  obtain ⟨v, hRounded, rfl⟩ := hProduct
  have hNear := ofRatio_near (Nat.mul_pos hb hd) hRounded
  rw [hSign, hShape, show ((if x.isNegative = true then -1 else 1) : ℚ) = x.sign from rfl, ← mul_sub, abs_mul,
    abs_mul, abs_sign, one_mul, one_mul, abs_of_nonneg hPos]
  exact hNear

theorem value?_eq_none_iff : x.value? = none ↔ x.magnitude? = none := by
  unfold value? magnitude?
  cases x.parts with
  | finite negative m e => simp
  | nan => simp
  | infinite negative => simp

/-- Multiplying by a whole number never makes a number small. -/
theorem le_abs_mulNat {n : Nat} {p : ℚ} (hValue : x.value? = some q) (hLarge : 1 ≤ |q|) (hn : 0 < n)
    (hProduct : (x.mulNat n).value? = some p) : |q| / 4 ≤ |p| := by
  cases hFactor : (ofNat n).value? with
  | none =>
    -- a factor that is too large leaves the number as it is
    obtain ⟨a, b, hMagnitude, -, -⟩ := value?_eq_some_iff.1 hValue
    have hSame : x.mulNat n = x := by
      simp [mulNat, hMagnitude, value?_eq_none_iff.1 hFactor]
    rw [hSame, hValue] at hProduct
    cases hProduct
    linarith
  | some r =>
    have hOne : (1 : ℚ) ≤ n / (1 : Nat) := by
      rw [Nat.cast_one, div_one]
      exact_mod_cast hn
    have hHalf := half_le_ofRatio Nat.one_pos hOne hFactor
    have hr : (1 : ℚ) / 2 ≤ r := by linarith
    have hNear := mulNat_near hValue hFactor hProduct
    have hExact : |q| / 2 ≤ |q * r| := by
      rw [abs_mul, abs_of_pos (by linarith : (0 : ℚ) < r)]
      nlinarith
    have hLeast := least_le
    have hTriangle := abs_sub_abs_le_abs_sub (q * r) p
    rw [abs_sub_comm] at hTriangle
    linarith

theorem round?_near {k : Int} (hRound : x.round? = some k) : ∃ q, x.value? = some q ∧ |(k : ℚ) - q| ≤ 1 / 2 := by
  obtain ⟨⟨num, den⟩, hMagnitude, rfl⟩ := Option.map_eq_some_iff.1 hRound
  have hDen : 0 < den := by
    unfold magnitude? at hMagnitude
    split at hMagnitude
    · rename_i m e _
      have hPos := ratio_pos m e
      rwa [Option.some.inj hMagnitude] at hPos
    · cases hMagnitude
  refine ⟨_, value?_eq_some_iff.2 ⟨num, den, hMagnitude, hDen, rfl⟩, ?_⟩
  have hNear := divHalfUp_near num hDen
  unfold sign
  dsimp only
  cases x.isNegative with
  | false => simpa using hNear
  | true =>
    rw [if_pos rfl, if_pos rfl, abs_sub_comm]
    push_cast
    rwa [neg_one_mul, sub_neg_eq_add, neg_add_eq_sub]

end Binary64

end BearerTokens.Number
