import BearerTokens.Text.Base64Url
import Mathlib.Data.List.Basic

/-!
# Base64 texts

The only text that is decoded to some bytes is the one that they are encoded as.
-/

set_option autoImplicit false

namespace BearerTokens.Text.Base64Url

theorem sextet?_letter {n : Nat} (hn : n < 64) : sextet? (letter n) = some n := by
  revert n
  decide

/-- The letters contain neither the sign of padding nor the separator of the parts of a token. -/
theorem letter_ne {n : Nat} (hn : n < 64) : letter n ≠ '=' ∧ letter n ≠ '.' := by
  revert n
  decide

theorem sextet?_eq_some_iff {c : Char} {n : Nat} : sextet? c = some n ↔ n < 64 ∧ c = letter n := by
  constructor
  · intro h
    have hRange {a b : Char} (hc : a ≤ c ∧ c ≤ b) : a.toNat ≤ c.toNat ∧ c.toNat ≤ b.toNat := hc
    unfold sextet? at h
    split_ifs at h with hUpper hLower hDigit hDash hUnder
    · cases h
      have hBounds : 65 ≤ c.toNat ∧ c.toNat ≤ 90 := hRange hUpper
      refine ⟨by omega, ?_⟩
      rw [letter, if_pos (by omega), Nat.sub_add_cancel hBounds.1, Char.ofNat_toNat]
    · cases h
      have hBounds : 97 ≤ c.toNat ∧ c.toNat ≤ 122 := hRange hLower
      refine ⟨by omega, ?_⟩
      rw [letter, if_neg (by omega), if_pos (by omega), Nat.sub_add_cancel (by omega), Char.ofNat_toNat]
    · cases h
      have hBounds : 48 ≤ c.toNat ∧ c.toNat ≤ 57 := hRange hDigit
      refine ⟨by omega, ?_⟩
      rw [letter, if_neg (by omega), if_neg (by omega), if_pos (by omega), Nat.add_sub_cancel, Char.ofNat_toNat]
    · cases h
      exact ⟨by decide, hDash⟩
    · cases h
      exact ⟨by decide, hUnder⟩
  · rintro ⟨hn, rfl⟩
    exact sextet?_letter hn

theorem sextets?_eq_some_iff {s : List Char} {ns : List Nat} :
    sextets? s = some ns ↔ (∀ n ∈ ns, n < 64) ∧ s = ns.map letter := by
  unfold sextets?
  induction s generalizing ns with
  | nil =>
    constructor
    · rintro ⟨⟩
      simp
    · rintro ⟨-, hShape⟩
      rw [List.map_eq_nil_iff.1 hShape.symm]
      rfl
  | cons c s ih =>
    simp only [List.mapM_cons, Option.bind_eq_bind, Option.bind_eq_some_iff, sextet?_eq_some_iff, ih, Option.pure_def,
      Option.some.injEq]
    constructor
    · rintro ⟨n, ⟨hn, rfl⟩, ms, ⟨hms, rfl⟩, rfl⟩
      exact ⟨List.forall_mem_cons.2 ⟨hn, hms⟩, rfl⟩
    · rintro ⟨hAll, hShape⟩
      cases ns with
      | nil => cases hShape
      | cons n ms =>
        obtain ⟨hn, hms⟩ := List.forall_mem_cons.1 hAll
        cases hShape
        exact ⟨n, ⟨hn, rfl⟩, ms, ⟨hms, rfl⟩, rfl⟩

def sextets : List UInt8 → List Nat
  | [] => []
  | [a] => [a.toNat / 4, a.toNat % 4 * 16]
  | [a, b] => [a.toNat / 4, a.toNat % 4 * 16 + b.toNat / 16, b.toNat % 16 * 4]
  | a :: b :: c :: rest =>
    a.toNat / 4 :: (a.toNat % 4 * 16 + b.toNat / 16) :: (b.toNat % 16 * 4 + c.toNat / 64) :: c.toNat % 64 :: sextets rest

theorem encode_eq (bytes : List UInt8) : encode bytes = (sextets bytes).map letter := by
  induction bytes using sextets.induct with
  | case1 => rfl
  | case2 a => rfl
  | case3 a b => rfl
  | case4 a b c rest ih => rw [encode, sextets, ih]; rfl

theorem sextets_lt (bytes : List UInt8) : ∀ n ∈ sextets bytes, n < 64 := by
  induction bytes using sextets.induct with
  | case1 => simp [sextets]
  | case2 a =>
    have ha := a.toNat_lt
    simp only [sextets, List.forall_mem_cons]
    refine ⟨by omega, by omega, by simp⟩
  | case3 a b =>
    have ha := a.toNat_lt
    have hb := b.toNat_lt
    simp only [sextets, List.forall_mem_cons]
    refine ⟨by omega, by omega, by omega, by simp⟩
  | case4 a b c rest ih =>
    have ha := a.toNat_lt
    have hb := b.toNat_lt
    have hc := c.toNat_lt
    simp only [sextets, List.forall_mem_cons]
    exact ⟨by omega, by omega, by omega, by omega, ih⟩

theorem ofNat_eq {a : UInt8} {n : Nat} (h : n = a.toNat) : UInt8.ofNat n = a := by
  rw [h, UInt8.ofNat_toNat]

theorem join?_sextets (bytes : List UInt8) : join? (sextets bytes) = some bytes := by
  induction bytes using sextets.induct with
  | case1 => rfl
  | case2 a =>
    rw [sextets, join?, if_pos (by omega), ofNat_eq (a := a) (by omega)]
  | case3 a b =>
    have hb := b.toNat_lt
    rw [sextets, join?, if_pos (by omega), ofNat_eq (a := a) (by omega), ofNat_eq (a := b) (by omega)]
  | case4 a b c rest ih =>
    have hb := b.toNat_lt
    have hc := c.toNat_lt
    rw [sextets, join?, ih, ofNat_eq (a := a) (by omega), ofNat_eq (a := b) (by omega), ofNat_eq (a := c) (by omega)]
    rfl

theorem toNat_eq {n : Nat} (h : n < 256) : (UInt8.ofNat n).toNat = n := by
  rw [UInt8.toNat_ofNat']
  exact Nat.mod_eq_of_lt h

theorem sextets_of_join? {ns : List Nat} {bytes : List UInt8} (hAll : ∀ n ∈ ns, n < 64)
    (hJoin : join? ns = some bytes) : sextets bytes = ns := by
  induction ns using join?.induct generalizing bytes with
  | case1 =>
    cases hJoin
    rfl
  | case2 a => cases hJoin
  | case3 a b hUnused =>
    rw [join?, if_pos hUnused] at hJoin
    cases hJoin
    simp only [List.forall_mem_cons] at hAll
    obtain ⟨ha, hb, -⟩ := hAll
    rw [sextets, toNat_eq (by omega)]
    simp only [List.cons.injEq, and_true]
    exact ⟨by omega, by omega⟩
  | case4 a b hUnused =>
    rw [join?, if_neg hUnused] at hJoin
    cases hJoin
  | case5 a b c hUnused =>
    rw [join?, if_pos hUnused] at hJoin
    cases hJoin
    simp only [List.forall_mem_cons] at hAll
    obtain ⟨ha, hb, hc, -⟩ := hAll
    rw [sextets, toNat_eq (by omega), toNat_eq (by omega)]
    simp only [List.cons.injEq, and_true]
    exact ⟨by omega, by omega, by omega⟩
  | case6 a b c hUnused =>
    rw [join?, if_neg hUnused] at hJoin
    cases hJoin
  | case7 a b c d rest ih =>
    rw [join?, Option.map_eq_some_iff] at hJoin
    obtain ⟨tail, hTail, rfl⟩ := hJoin
    simp only [List.forall_mem_cons] at hAll
    obtain ⟨ha, hb, hc, hd, hRest⟩ := hAll
    rw [sextets, toNat_eq (by omega), toNat_eq (by omega), toNat_eq (by omega), ih hRest hTail]
    simp only [List.cons.injEq, and_true]
    exact ⟨by omega, by omega, by omega, by omega⟩

theorem decode_eq_some_iff {s : List Char} {bytes : List UInt8} : decode s = some bytes ↔ s = encode bytes := by
  unfold decode
  rw [Option.bind_eq_some_iff, encode_eq]
  constructor
  · rintro ⟨ns, hSextets, hJoin⟩
    obtain ⟨hAll, rfl⟩ := sextets?_eq_some_iff.1 hSextets
    rw [sextets_of_join? hAll hJoin]
  · rintro rfl
    exact ⟨sextets bytes, sextets?_eq_some_iff.2 ⟨sextets_lt bytes, rfl⟩, join?_sextets bytes⟩

theorem not_mem_encode (bytes : List UInt8) : '=' ∉ encode bytes ∧ '.' ∉ encode bytes := by
  rw [encode_eq]
  constructor
  · intro hMem
    obtain ⟨n, hn, hLetter⟩ := List.mem_map.1 hMem
    exact (letter_ne (sextets_lt bytes n hn)).1 hLetter
  · intro hMem
    obtain ⟨n, hn, hLetter⟩ := List.mem_map.1 hMem
    exact (letter_ne (sextets_lt bytes n hn)).2 hLetter

end BearerTokens.Text.Base64Url
