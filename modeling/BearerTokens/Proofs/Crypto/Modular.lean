import BearerTokens.Crypto.Modular
import Mathlib.FieldTheory.Finite.Basic

/-!
# Powers and quotients modulo a number

Repeated squaring comes to the power, and division modulo a prime to the quotient in its field.
-/

set_option autoImplicit false

namespace BearerTokens.Crypto

theorem powerMod_eq_pow_mod (n base exponent : Nat) : powerMod n base exponent = base ^ exponent % n := by
  unfold powerMod
  induction exponent using Nat.strongRecOn generalizing base with
  | ind e ih =>
    rw [repeated]
    by_cases hZero : e = 0
    · rw [dif_pos hZero, hZero, pow_zero]
    · rw [dif_neg hZero, ih (e / 2) (by omega)]
      have hHalf : (base * base % n) ^ (e / 2) % n = base ^ (2 * (e / 2)) % n := by
        rw [← Nat.pow_mod, ← pow_two, ← pow_mul]
      dsimp only
      rw [hHalf]
      by_cases hOdd : e % 2 = 1
      · rw [if_pos hOdd, Nat.mod_mul_mod, ← pow_succ]
        congr 2
        omega
      · rw [if_neg hOdd]
        congr 2
        omega

theorem coe_reduce {n : Nat} (hPos : 0 < n) (a : Int) : ((reduce n a : Nat) : Int) = a % n :=
  Int.toNat_of_nonneg (Int.emod_nonneg a (Int.natCast_ne_zero.2 hPos.ne'))

theorem reduce_lt {n : Nat} (hPos : 0 < n) (a : Int) : reduce n a < n := by
  have hLess := Int.emod_lt_of_pos a (Int.natCast_pos.2 hPos)
  rw [← coe_reduce hPos] at hLess
  exact Int.ofNat_lt.1 hLess

theorem cast_reduce {n : Nat} (hPos : 0 < n) (a : Int) : ((reduce n a : Nat) : ZMod n) = a := by
  rw [← Int.cast_natCast, coe_reduce hPos, ZMod.intCast_mod]

/-- By Fermat's little theorem. -/
theorem divideMod_eq_div {p : Nat} [Fact p.Prime] (a : Int) {b : Int} (h : (b : ZMod p) ≠ 0) :
    ((divideMod p a b : Nat) : ZMod p) = a / b := by
  have hPos := (Fact.out : p.Prime).pos
  have hTwo := (Fact.out : p.Prime).two_le
  have hInverse : (b : ZMod p) ^ (p - 2) * b = 1 := by
    rw [← pow_succ, ← ZMod.pow_card_sub_one_eq_one h]
    congr 1
    omega
  rw [divideMod, cast_reduce hPos, powerMod_eq_pow_mod, Int.cast_mul, Int.cast_natCast, ZMod.natCast_mod,
    Nat.cast_pow, cast_reduce hPos, eq_div_iff h, mul_assoc, hInverse, mul_one]

theorem divideMod_lt {p : Nat} (hPos : 0 < p) (a b : Int) : divideMod p a b < p :=
  reduce_lt hPos _

end BearerTokens.Crypto
