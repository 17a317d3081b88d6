import BearerTokens.Proofs.Text.Form

/-!
# Percent-encoded texts

What has been encoded once is left as it is by encoding it again, for it holds nothing but characters that stay. A text
without percent signs is its own decoding.
-/

set_option autoImplicit false

namespace BearerTokens.Text

/-- To hold of all ASCII characters is to hold of their code points. -/
theorem of_ascii {p : Char → Bool} (h : ∀ n < 0x80, p (Char.ofNat n) = true) {c : Char} (hc : c.toNat < 0x80) :
    p c = true := by
  have hAt := h c.toNat hc
  rwa [Char.ofNat_toNat] at hAt

theorem ascii_of_isAlphanum {c : Char} (hc : c.isAlphanum = true) : c.toNat < 0x80 := by
  have hRanges : (decide (c.val ≥ 'A'.val ∧ c.val ≤ 'Z'.val) || decide (c.val ≥ 'a'.val) && decide (c.val ≤ 'z'.val) ||
      decide (c.val ≥ '0'.val) && decide (c.val ≤ '9'.val)) = true := hc
  simp only [Bool.or_eq_true, Bool.and_eq_true, decide_eq_true_eq, UInt32.le_iff_toNat_le] at hRanges
  simp only [Char.toNat]
  have hz : 'z'.val.toNat = 122 := rfl
  have hZ : 'Z'.val.toNat = 90 := rfl
  have h9 : '9'.val.toNat = 57 := rfl
  omega

def isShown (c : Char) : Bool :=
  decide (0x20 < c.toNat) && decide (c.toNat < 0x7F)

theorem isShown_iff {c : Char} : isShown c = true ↔ 0x20 < c.toNat ∧ c.toNat < 0x7F := by
  rw [isShown, Bool.and_eq_true, decide_eq_true_iff, decide_eq_true_iff]

/-- What holds of one kind of ASCII characters is found out by looking at all of them. -/
theorem of_kind {k p : Char → Bool} (h : ∀ n < 0x80, (!k (Char.ofNat n) || p (Char.ofNat n)) = true) {c : Char}
    (hLess : c.toNat < 0x80) (hKind : k c = true) : p c = true := by
  have hAt := of_ascii (p := fun c => !k c || p c) h hLess
  rwa [hKind, Bool.not_true, Bool.false_or] at hAt

theorem toLower_toLower (c : Char) : c.toLower.toLower = c.toLower := by
  rcases Nat.lt_or_ge c.toNat 0x80 with hLess | hMore
  · exact beq_iff_eq.1 (of_ascii (p := fun c => c.toLower.toLower == c.toLower) (by decide) hLess)
  · have hSame : c.toLower = c := by
      refine dif_neg ?_
      have hz : 'Z'.val.toNat = 90 := rfl
      simp only [Char.toNat] at hMore
      simp only [UInt32.le_iff_toNat_le, ge_iff_le, hz]
      omega
    rw [hSame, hSame]

namespace Percent

variable {keep : Char → Bool} {s : List Char}

def Kept (keep : Char → Bool) (s : List Char) : Prop :=
  ∀ c ∈ s, c.toNat < 0x80 ∧ keep c = true

theorem encode_cons (keep : Char → Bool) (c : Char) (s : List Char) :
    encode keep (c :: s) = encode keep [c] ++ encode keep s := by
  rw [encode, encode, List.flatMap_cons, List.flatMap_singleton, encode]

theorem encode_singleton_of_kept {c : Char} (hLess : c.toNat < 0x80) (hKeep : keep c = true) :
    encode keep [c] = [c] := by
  rw [encode, List.flatMap_singleton, if_pos ⟨hLess, hKeep⟩]

theorem encode_eq_self (h : Kept keep s) : encode keep s = s := by
  induction s with
  | nil => rfl
  | cons c s ih =>
    obtain ⟨hc, hs⟩ := List.forall_mem_cons.1 h
    rw [encode_cons, encode_singleton_of_kept hc.1 hc.2, ih hs, List.singleton_append]

/-- A percent sign and what may follow it stay themselves. -/
structure Stable (keep : Char → Bool) : Prop where
  percent : keep '%' = true
  alphanum : ∀ c : Char, c.isAlphanum = true → keep c = true

theorem Stable.of_ascii (hPercent : keep '%' = true)
    (h : ∀ n < 0x80, (!(Char.ofNat n).isAlphanum || keep (Char.ofNat n)) = true) : Stable keep := by
  exact ⟨hPercent, fun c hc => of_kind h (ascii_of_isAlphanum hc) hc⟩

/-- A character of an encoded text has stayed, or is one that other characters are written with. -/
theorem mem_encode {c : Char} (hc : c ∈ encode keep s) :
    c ∈ s ∧ c.toNat < 0x80 ∧ keep c = true ∨ c = '%' ∨ c.isAlphanum = true := by
  rw [encode, List.mem_flatMap] at hc
  obtain ⟨d, hd, hc⟩ := hc
  split at hc
  · rename_i hKept
    rw [List.mem_singleton.1 hc]
    exact .inl ⟨hd, hKept⟩
  · obtain ⟨b, -, hc⟩ := List.mem_flatMap.1 hc
    exact .inr (mem_encodeByte hc)

theorem kept_encode (hStable : Stable keep) (s : List Char) : Kept keep (encode keep s) := by
  intro c hc
  obtain ⟨-, hKept⟩ | rfl | hAlphanum := mem_encode hc
  · exact hKept
  · exact ⟨by decide, hStable.percent⟩
  · exact ⟨ascii_of_isAlphanum hAlphanum, hStable.alphanum c hAlphanum⟩

theorem encode_ne_nil (h : s ≠ []) : encode keep s ≠ [] := by
  obtain ⟨c, rest, rfl⟩ := List.exists_cons_of_ne_nil h
  rw [encode_cons]
  refine List.append_ne_nil_of_left_ne_nil ?_ _
  rw [encode, List.flatMap_singleton]
  split
  · exact List.cons_ne_nil c []
  · obtain ⟨b, bytes, hBytes⟩ := List.exists_cons_of_ne_nil (String.utf8EncodeChar_ne_nil (c := c))
    rw [hBytes]
    exact List.cons_ne_nil _ _

theorem decodeFrom_of_plain (h : ∀ c ∈ s, c.toNat < 0x80 ∧ c ≠ '%') (done : List UInt8) :
    decodeFrom done (Utf8.encode s) = done.reverse ++ Utf8.encode s := by
  induction s generalizing done with
  | nil => rw [Utf8.encode, List.flatMap_nil, decodeFrom, List.append_nil]
  | cons c s ih =>
    obtain ⟨⟨hLess, hPercent⟩, hs⟩ := List.forall_mem_cons.1 h
    obtain ⟨b, hPlain, hByte⟩ := encodeChar_plain hLess hPercent
    rw [Utf8.encode_cons, hByte, List.singleton_append, decodeFrom_plain hPlain, ih hs, List.reverse_cons,
      List.append_assoc, List.singleton_append]

theorem decode_of_plain (h : ∀ c ∈ s, c.toNat < 0x80 ∧ c ≠ '%') : decode (Utf8.encode s) = Utf8.encode s :=
  decodeFrom_of_plain h []

end Percent

end BearerTokens.Text
