import BearerTokens.Proofs.Json.Number
import BearerTokens.Proofs.Number.Binary64

/-!
# Integers of JSON

A number that is written as an integer keeps its value when it is read, unless it does not fit 64 bits with its sign.
Then it becomes a float, and one that is still large.
-/

set_option autoImplicit false

namespace BearerTokens.Json

open BearerTokens.Number

structure IsWhole (ds : Bytes) : Prop where
  digits : IsDigits ds
  unpadded : ds.head? = some 0x30 → ds = [0x30]

inductive IsInteger : Bytes → Int → Prop where
  | plain {ds : Bytes} (h : IsWhole ds) : IsInteger ds (digitsValue ds)
  | minus {ds : Bytes} (h : IsWhole ds) : IsInteger (0x2D :: ds) (-digitsValue ds)

theorem IsInteger.starts {v : Bytes} {n : Int} (h : IsInteger v n) :
    ∃ b t, v = b :: t ∧ (b = 0x2D ∨ isDigit b = true) := by
  cases h with
  | plain h =>
    obtain ⟨b, t, rfl, hFirst, -⟩ := h.digits.exists_cons
    exact ⟨b, t, rfl, .inr hFirst⟩
  | minus h => exact ⟨_, _, rfl, .inl rfl⟩

theorem le_foldl_digits (n : Nat) (ds : Bytes) : n ≤ ds.foldl (fun n d => n * 10 + digitValue d) n := by
  induction ds generalizing n with
  | nil => exact Nat.le_refl n
  | cons d ds ih =>
    have hMore := ih (n * 10 + digitValue d)
    rw [List.foldl_cons]
    omega

theorem digitValue_le {b : UInt8} (hb : isDigit b = true) : digitValue b ≤ 9 := by
  have hMost : b ≤ 0x39 := (of_decide_eq_true hb).2
  have hNat : b.toNat ≤ 57 := hMost
  unfold digitValue
  omega

/-- Either all digits are taken in, or the number needs more than 64 bits and what was taken in nearly fills them. -/
theorem absorb_cases {ds : Bytes} (hDigits : ∀ b ∈ ds, isDigit b = true) (n used : Nat) :
    absorb n used ds = (ds.foldl (fun n d => n * 10 + digitValue d) n, used + ds.length) ∧
        (ds = [] ∨ ds.foldl (fun n d => n * 10 + digitValue d) n < 2 ^ 64) ∨
      (absorb n used ds).2 < used + ds.length ∧ 2 ^ 60 ≤ (absorb n used ds).1 ∧
        2 ^ 64 ≤ ds.foldl (fun n d => n * 10 + digitValue d) n := by
  induction ds generalizing n used with
  | nil => exact .inl ⟨rfl, .inl rfl⟩
  | cons d ds ih =>
    obtain ⟨hd, hMore⟩ := List.forall_mem_cons.1 hDigits
    have hDigit := digitValue_le hd
    simp only [absorb, Nat.pow_eq, List.foldl_cons, List.length_cons]
    split
    · rename_i hFits
      obtain ⟨hAll, hSmall⟩ | ⟨hUsed, hLarge, hOver⟩ := ih hMore (n * 10 + digitValue d) (used + 1)
      · refine .inl ⟨by rw [hAll, Nat.add_right_comm, Nat.add_assoc], .inr ?_⟩
        obtain rfl | hSmall := hSmall
        · exact hFits
        · exact hSmall
      · exact .inr ⟨by omega, hLarge, hOver⟩
    · rename_i hOver
      have hRest := le_foldl_digits (n * 10 + digitValue d) ds
      exact .inr ⟨by omega, by omega, by omega⟩

def IsLarge (x : Binary64) : Prop :=
  ∀ q, x.value? = some q → 2 ^ 57 ≤ |q|

theorem IsLarge.signed {x : Binary64} (h : IsLarge x) (negative : Bool) : IsLarge (Binary64.signed negative x) := by
  intro q hValue
  rw [Binary64.value?_signed, Option.map_eq_some_iff] at hValue
  obtain ⟨r, hr, rfl⟩ := hValue
  have hAbs : |(if negative then -1 else 1 : ℚ)| = 1 := by cases negative <;> simp
  rw [abs_mul, hAbs, one_mul]
  exact h r hr

theorem le_of_ofNat {n : Nat} (hn : 2 ^ 60 ≤ n) {q : ℚ} (hValue : (Binary64.ofNat n).value? = some q) :
    2 ^ 59 ≤ |q| := by
  have hLarge : (2 : ℚ) ^ 60 ≤ n / (1 : Nat) := by
    rw [Nat.cast_one, div_one]
    exact_mod_cast hn
  have hHalf := Binary64.half_le_ofRatio Nat.one_pos (by linarith) hValue
  have hPos := le_abs_self q
  linarith

theorem isLarge_ofNat {n : Nat} (hn : 2 ^ 60 ≤ n) : IsLarge (Binary64.ofNat n) := by
  intro q hValue
  have hLarge := le_of_ofNat hn hValue
  linarith

theorem isLarge_of_scaled? {significand dropped : Nat} (hLarge : 2 ^ 60 ≤ significand) {x : Binary64}
    (hScaled : scaled? significand dropped = some x) : IsLarge x := by
  intro q hValue
  have hNonneg : (0 : Int) ≤ dropped := Int.natCast_nonneg dropped
  have hZero : significand ≠ 0 := by omega
  simp only [scaled?, if_pos hNonneg, if_neg hZero] at hScaled
  split_ifs at hScaled
  cases hScaled
  cases hFirst : (Binary64.ofNat significand).value? with
  | none =>
    have hSame (n : Nat) : (Binary64.ofNat significand).mulNat n = Binary64.ofNat significand := by
      simp [Binary64.mulNat, Binary64.value?_eq_none_iff.1 hFirst]
    rw [hSame, hFirst] at hValue
    cases hValue
  | some r =>
    have hr := le_of_ofNat hLarge hFirst
    have hProduct := Binary64.le_abs_mulNat hFirst (by linarith) (Nat.pow_pos (by decide)) hValue
    linarith

theorem unsigned_whole {negative : Bool} {ds : Bytes} (h : IsWhole ds) {n : Number}
    (hRead : unsigned negative ds = .ok (n, [])) :
    digitsValue ds < 2 ^ 64 ∧ n = whole negative (digitsValue ds) ∨
      2 ^ 64 ≤ digitsValue ds ∧ ∃ x, n = .real x ∧ IsLarge x := by
  obtain ⟨b, t, rfl⟩ := List.exists_cons_of_ne_nil h.digits.some
  obtain ⟨hFirst, hMore⟩ := List.forall_mem_cons.1 h.digits.all
  by_cases hZero : b = 0x30
  · obtain ⟨rfl, rfl⟩ := List.cons.inj (h.unpadded (by rw [hZero]; rfl))
    cases hRead
    exact .inl ⟨by decide, rfl⟩
  · have hTake : t.takeWhile isDigit = t := by simpa using takeWhile_digits hMore EndsNumber.nil.endsDigits
    have hDrop : t.dropWhile isDigit = [] := by simpa using dropWhile_digits hMore EndsNumber.nil.endsDigits
    simp only [unsigned, if_neg hZero, if_pos hFirst, hTake, hDrop] at hRead
    obtain ⟨hAll, hSmall⟩ | ⟨hUsed, hLarge, hOver⟩ := absorb_cases h.digits.all 0 0
    · rw [hAll] at hRead
      simp only [Nat.zero_add, Nat.sub_self, afterWhole] at hRead
      cases hRead
      exact .inl ⟨hSmall.resolve_left (List.cons_ne_nil _ _), rfl⟩
    · refine .inr ⟨hOver, ?_⟩
      have hDropped : (b :: t).length - (absorb 0 0 (b :: t)).2 ≠ 0 := by omega
      simp only [afterWhole, if_neg hDropped, real] at hRead
      split at hRead
      · rename_i x hScaled
        cases hRead
        exact ⟨_, rfl, (isLarge_of_scaled? hLarge hScaled).signed negative⟩
      · cases hRead

/-- What an integer is read as. -/
inductive ReadsAs (n : Int) : Number → Prop where
  | natural {m : Nat} (hValue : n = m) (hFits : m < 2 ^ 63) : ReadsAs n (.natural m)
  | negative {m : Nat} (hValue : n = -m) (hFits : m ≤ 2 ^ 63) : ReadsAs n (.negative m)
  | zero (hValue : n = 0) : ReadsAs n (.real (Binary64.ofNat 0).neg)
  | longer {m : Nat} (hValue : n = m) (hLarge : 2 ^ 63 ≤ m) : ReadsAs n (.natural m)
  | large {x : Binary64} (hValue : 2 ^ 63 ≤ |n|) (hLarge : IsLarge x) : ReadsAs n (.real x)

theorem IsInteger.readsAs {v : Bytes} {n : Int} {x : Number} (h : IsInteger v n) (hNumeral : IsNumeral v x) :
    ReadsAs n x := by
  unfold IsNumeral at hNumeral
  cases h with
  | @plain ds h =>
    obtain ⟨b, t, rfl, hFirst, -, hMinus⟩ := h.digits.exists_cons
    have hNot : ∀ more, b :: t ≠ 0x2D :: more := fun more hEq => hMinus (List.cons.inj hEq).1
    rw [number.eq_2 _ hNot] at hNumeral
    obtain ⟨hSmall, rfl⟩ | ⟨hOver, y, rfl, hLarge⟩ := unsigned_whole h hNumeral
    · rcases Nat.lt_or_ge (digitsValue (b :: t)) (2 ^ 63) with hFits | hLonger
      · exact .natural rfl hFits
      · exact .longer rfl hLonger
    · exact .large (by rw [abs_of_nonneg (Int.natCast_nonneg _)]; omega) hLarge
  | @minus ds h =>
    rw [number] at hNumeral
    obtain ⟨hSmall, rfl⟩ | ⟨hOver, y, rfl, hLarge⟩ := unsigned_whole h hNumeral
    · unfold whole
      rw [if_neg (by decide)]
      split_ifs with hSpecial
      · rcases Nat.eq_zero_or_pos (digitsValue ds) with hZero | hPos
        · rw [hZero]
          exact .zero rfl
        · have hOver : Nat.pow 2 63 < digitsValue ds := hSpecial.resolve_left hPos.ne'
          rw [Nat.pow_eq] at hOver
          refine .large ?_ ((isLarge_ofNat (by omega)).signed true)
          rw [abs_neg, abs_of_nonneg (Int.natCast_nonneg _)]
          omega
      · rw [not_or, Nat.pow_eq, Nat.not_lt] at hSpecial
        exact .negative rfl hSpecial.2
    · refine .large ?_ hLarge
      rw [abs_neg, abs_of_nonneg (Int.natCast_nonneg _)]
      omega

end BearerTokens.Json
