import BearerTokens.Number.Rounding
import Mathlib.Data.Rat.Cast.Order
import Mathlib.Tactic.Linarith
import Mathlib.Tactic.Ring

/-!
# How far rounding goes

A rounded quotient is within half a unit of the exact one, and a larger quotient is never rounded to a smaller
number.
-/

set_option autoImplicit false

namespace BearerTokens.Number

variable {num den num' den' k : Nat}

theorem near_of_bounds (hDen : 0 < den) (hAbove : 2 * num ≤ 2 * (k * den) + den)
    (hBelow : 2 * (k * den) ≤ 2 * num + den) : |(k : ℚ) - num / den| ≤ 1 / 2 := by
  have hPos : (0 : ℚ) < den := by exact_mod_cast hDen
  have hUp : (2 : ℚ) * num ≤ 2 * (k * den) + den := by exact_mod_cast hAbove
  have hDown : (2 : ℚ) * (k * den) ≤ 2 * num + den := by exact_mod_cast hBelow
  have hMost : (num : ℚ) / den ≤ k + 1 / 2 := by
    rw [div_le_iff₀ hPos]
    linarith
  have hLeast : (k : ℚ) - 1 / 2 ≤ num / den := by
    rw [le_div_iff₀ hPos]
    linarith
  rw [abs_le]
  constructor
  · linarith
  · linarith

/-- What decides is the middle between two whole numbers, which itself goes to the even one. -/
theorem divHalfEven_le_iff (hDen : 0 < den) :
    divHalfEven num den ≤ k ↔
      2 * num < (2 * k + 1) * den ∨ 2 * num = (2 * k + 1) * den ∧ k % 2 = 0 := by
  have hNum : num = num / den * den + num % den := (Nat.div_add_mod' num den).symm
  have hRest : num % den < den := Nat.mod_lt num hDen
  have hMiddle : (2 * k + 1) * den = 2 * (k * den) + den := by ring
  unfold divHalfEven
  generalize num / den = q at *
  generalize num % den = r at *
  dsimp only
  rcases Nat.lt_trichotomy q k with hLess | rfl | hMore
  · have hNext : (q + 1) * den ≤ k * den := Nat.mul_le_mul_right den hLess
    rw [Nat.succ_mul] at hNext
    split_ifs <;> omega
  · split_ifs <;> omega
  · have hNext : (k + 1) * den ≤ q * den := Nat.mul_le_mul_right den hMore
    rw [Nat.succ_mul] at hNext
    split_ifs <;> omega

theorem divHalfEven_mono (hDen : 0 < den) (hDen' : 0 < den') (h : num * den' ≤ num' * den) :
    divHalfEven num den ≤ divHalfEven num' den' := by
  have hBelow := (divHalfEven_le_iff hDen').1 (Nat.le_refl (divHalfEven num' den'))
  generalize divHalfEven num' den' = k at hBelow ⊢
  have hLeft : 2 * num * den' ≤ 2 * num' * den := by
    rw [Nat.mul_assoc, Nat.mul_assoc]
    exact Nat.mul_le_mul_left 2 h
  have hSwap : (2 * k + 1) * den' * den = (2 * k + 1) * den * den' := Nat.mul_right_comm _ _ _
  rw [divHalfEven_le_iff hDen]
  rcases hBelow with hBelow | ⟨hMiddle, hEven⟩
  · left
    apply Nat.lt_of_mul_lt_mul_right (a := den')
    calc
      2 * num * den' ≤ 2 * num' * den := hLeft
      _ < (2 * k + 1) * den' * den := Nat.mul_lt_mul_of_pos_right hBelow hDen
      _ = (2 * k + 1) * den * den' := hSwap
  · rw [hMiddle, hSwap] at hLeft
    have hAtMost : 2 * num ≤ (2 * k + 1) * den := Nat.le_of_mul_le_mul_right hLeft hDen'
    rcases Nat.lt_or_eq_of_le hAtMost with hLess | hEqual
    · exact .inl hLess
    · exact .inr ⟨hEqual, hEven⟩

theorem divHalfEven_one (k : Nat) : divHalfEven k 1 = k := by
  rw [divHalfEven_of_dvd Nat.one_pos (one_dvd k), Nat.div_one]

/-- A quotient that is at most a whole number stays so when it is rounded. -/
theorem divHalfEven_le (hDen : 0 < den) (h : num ≤ k * den) : divHalfEven num den ≤ k := by
  have hMono : divHalfEven num den ≤ divHalfEven k 1 := divHalfEven_mono hDen Nat.one_pos (by omega)
  rwa [divHalfEven_one] at hMono

theorem le_divHalfEven (hDen : 0 < den) (h : k * den ≤ num) : k ≤ divHalfEven num den := by
  have hMono : divHalfEven k 1 ≤ divHalfEven num den := divHalfEven_mono Nat.one_pos hDen (by omega)
  rwa [divHalfEven_one] at hMono

theorem divHalfEven_near (num : Nat) (hDen : 0 < den) :
    |(divHalfEven num den : ℚ) - num / den| ≤ 1 / 2 := by
  have hAbove := (divHalfEven_le_iff hDen).1 (Nat.le_refl (divHalfEven num den))
  cases hValue : divHalfEven num den with
  | zero =>
    rw [hValue] at hAbove
    apply near_of_bounds hDen <;> omega
  | succ k =>
    -- the number below is too small, so the quotient is not below the middle between the two
    have hNot : ¬ divHalfEven num den ≤ k := by omega
    rw [divHalfEven_le_iff hDen] at hNot
    rw [hValue] at hAbove
    have hMiddle : (2 * k + 1) * den = 2 * (k * den) + den := by ring
    have hMiddle' : (2 * (k + 1) + 1) * den = 2 * (k * den) + 3 * den := by ring
    have hNext : (k + 1) * den = k * den + den := Nat.succ_mul k den
    apply near_of_bounds hDen <;> omega

theorem divHalfUp_near (num : Nat) (hDen : 0 < den) :
    |(divHalfUp num den : ℚ) - num / den| ≤ 1 / 2 := by
  have hSum := Nat.div_add_mod' (2 * num + den) (2 * den)
  have hRest := Nat.mod_lt (2 * num + den) (Nat.mul_pos Nat.two_pos hDen)
  unfold divHalfUp
  generalize (2 * num + den) / (2 * den) = k at *
  have hTwice : k * (2 * den) = 2 * (k * den) := by ring
  apply near_of_bounds hDen <;> omega

end BearerTokens.Number
