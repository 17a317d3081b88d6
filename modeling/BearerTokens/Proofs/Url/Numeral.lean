import BearerTokens.Url.Host
import Mathlib.Algebra.GroupWithZero.Nat
import Mathlib.Data.List.Induction

/-!
# Numerals in hosts

A number that is written in a base reads back, and a numeral of few digits is a small number.
-/

set_option autoImplicit false

namespace BearerTokens.Host

open BearerTokens.Text

variable {base n : Nat}

theorem numeral?_snoc (base : Nat) (ds : List Char) (c : Char) : numeral? base (ds ++ [c]) =
    match numeral? base ds, digitIn? base c with
    | some n, some d => some (n * base + d)
    | _, _ => none := by
  rw [numeral?, List.foldl_append]
  rfl

theorem hexValue?_digitChar : ∀ d < 16, Percent.hexValue? d.digitChar = some d := by
  decide

theorem digitIn?_digitChar {d : Nat} (hDigit : d < base) (hBase : base ≤ 16) :
    digitIn? base d.digitChar = some d := by
  rw [digitIn?, hexValue?_digitChar d (by omega), Option.bind_some, if_pos hDigit]

/-- The digits of a number, the last one apart. -/
theorem toDigits_cases (hBase : 1 < base) (n : Nat) :
    n < base ∧ Nat.toDigits base n = [n.digitChar] ∨
      n / base < n ∧ Nat.toDigits base n = Nat.toDigits base (n / base) ++ [(n % base).digitChar] := by
  rcases Nat.lt_or_ge n base with hLess | hMore
  · exact .inl ⟨hLess, Nat.toDigits_of_lt_base hLess⟩
  · exact .inr ⟨Nat.div_lt_self (by omega) hBase, Nat.toDigits_of_base_le hBase hMore⟩

theorem numeral?_toDigits (hBase : 1 < base) (hMost : base ≤ 16) (n : Nat) :
    numeral? base (Nat.toDigits base n) = some n := by
  induction n using Nat.strongRecOn with
  | ind n ih =>
    obtain ⟨hLess, hDigits⟩ | ⟨hShorter, hDigits⟩ := toDigits_cases hBase n
    · rw [hDigits, ← List.nil_append [n.digitChar], numeral?_snoc, digitIn?_digitChar hLess hMost]
      simp [numeral?]
    · have hLast : n % base < base := Nat.mod_lt n (by omega)
      rw [hDigits, numeral?_snoc, ih _ hShorter, digitIn?_digitChar hLast hMost]
      dsimp only
      rw [Nat.div_add_mod']

theorem mem_toDigits (hBase : 1 < base) {c : Char} (hc : c ∈ Nat.toDigits base n) : ∃ d < base, c = d.digitChar := by
  induction n using Nat.strongRecOn with
  | ind n ih =>
    obtain ⟨hLess, hDigits⟩ | ⟨hShorter, hDigits⟩ := toDigits_cases hBase n
    · rw [hDigits, List.mem_singleton] at hc
      exact ⟨n, hLess, hc⟩
    · rw [hDigits, List.mem_append, List.mem_singleton] at hc
      obtain hc | hc := hc
      · exact ih _ hShorter hc
      · exact ⟨n % base, Nat.mod_lt n (by omega), hc⟩

/-- A numeral of `k` digits is less than the `k`-th power of the base. -/
theorem numeral?_lt {ds : List Char} (h : numeral? base ds = some n) : n < base ^ ds.length := by
  induction ds using List.reverseRecOn generalizing n with
  | nil =>
    cases h
    exact Nat.one_pos
  | append_singleton ds c ih =>
    rw [numeral?_snoc] at h
    split at h
    · rename_i m d hFront hLast
      cases h
      have hm := ih hFront
      have hd : d < base := by
        obtain ⟨v, -, hv⟩ := Option.bind_eq_some_iff.1 hLast
        split at hv
        · rename_i hLess
          cases hv
          exact hLess
        · cases hv
      rw [List.length_append, List.length_singleton, Nat.pow_succ]
      calc m * base + d
        _ < m * base + base := Nat.add_lt_add_left hd _
        _ = (m + 1) * base := (Nat.succ_mul m base).symm
        _ ≤ base ^ ds.length * base := Nat.mul_le_mul_right base hm
    · cases h

end BearerTokens.Host
