import BearerTokens.Text.Utf8
import Mathlib.Data.List.Basic

/-!
# Reading back UTF-8

The reader yields the characters of an encoded text, and the encoded text of some characters is all that it
accepts without an ill-formed stretch.
-/

set_option autoImplicit false

namespace BearerTokens.Text.Utf8

def itemsFrom : State → List UInt8 → List (Option Char)
  | .idle, [] => []
  | .within .., [] => [none]
  | s, b :: rest => (step s b).1 ++ itemsFrom (step s b).2 rest

theorem itemsFrom_cons (s : State) (b : UInt8) (rest : List UInt8) :
    itemsFrom s (b :: rest) = (step s b).1 ++ itemsFrom (step s b).2 rest := by
  cases s <;> rfl

theorem run_eq (done : List (Option Char)) (s : State) (bytes : List UInt8) :
    run done s bytes = (itemsFrom s bytes).reverse ++ done := by
  induction bytes generalizing done s with
  | nil => cases s <;> rfl
  | cons b rest ih =>
    rw [itemsFrom_cons, List.reverse_append, List.append_assoc, ← ih]
    cases s <;> rfl

theorem items_eq (bytes : List UInt8) : items bytes = itemsFrom .idle bytes := by
  rw [items, run_eq, List.append_nil, List.reverse_reverse]

def secondOfThree (k : Nat) : UInt8 × UInt8 :=
  (if k = 0 then 0xA0 else 0x80, if k = 13 then 0x9F else 0xBF)

def secondOfFour (k : Nat) : UInt8 × UInt8 :=
  (if k = 0 then 0x90 else 0x80, if k = 4 then 0x8F else 0xBF)

theorem first_two : ∀ k < 32, 2 ≤ k → first (.ofNat (k + 192)) = ([], .within 1 0x80 0xBF k) := by
  decide

theorem first_three : ∀ k < 16,
    first (.ofNat (k + 224)) = ([], .within 2 (secondOfThree k).1 (secondOfThree k).2 k) := by
  decide

theorem first_four : ∀ k < 5,
    first (.ofNat (k + 240)) = ([], .within 3 (secondOfFour k).1 (secondOfFour k).2 k) := by
  decide

theorem second_three : ∀ k < 16, ∀ j < 64, (k = 0 → 32 ≤ j) → (k = 13 → j < 32) →
    (secondOfThree k).1 ≤ .ofNat (j + 128) ∧ UInt8.ofNat (j + 128) ≤ (secondOfThree k).2 := by
  decide

theorem second_four : ∀ k < 5, ∀ j < 64, (k = 0 → 16 ≤ j) → (k = 4 → j < 16) →
    (secondOfFour k).1 ≤ .ofNat (j + 128) ∧ UInt8.ofNat (j + 128) ≤ (secondOfFour k).2 := by
  decide

theorem tail_range : ∀ j < 64, 0x80 ≤ UInt8.ofNat (j + 128) ∧ UInt8.ofNat (j + 128) ≤ 0xBF := by
  decide

theorem toNat_tail {j : Nat} (hj : j < 64) : (UInt8.ofNat (j + 128)).toNat - 0x80 = j := by
  rw [UInt8.toNat_ofNat']
  omega

variable {low high : UInt8} {bits j : Nat}

theorem step_more {left : Nat} (hj : j < 64) (hRange : low ≤ .ofNat (j + 128) ∧ UInt8.ofNat (j + 128) ≤ high) :
    step (.within (left + 2) low high bits) (.ofNat (j + 128)) =
      ([], .within (left + 1) 0x80 0xBF (bits * 64 + j)) := by
  simp only [step, if_pos hRange, toNat_tail hj]
  rfl

theorem step_last (hj : j < 64) (hRange : low ≤ .ofNat (j + 128) ∧ UInt8.ofNat (j + 128) ≤ high) :
    step (.within 1 low high bits) (.ofNat (j + 128)) = ([some (Char.ofNat (bits * 64 + j))], .idle) := by
  simp only [step, if_pos hRange, toNat_tail hj]
  rfl

theorem encode_cons (c : Char) (s : List Char) : encode (c :: s) = String.utf8EncodeChar c ++ encode s :=
  List.flatMap_cons

theorem encode_append (s t : List Char) : encode (s ++ t) = encode s ++ encode t :=
  List.flatMap_append

theorem toNat_valid (c : Char) : c.val.toNat < 0xD800 ∨ 0xDFFF < c.val.toNat ∧ c.val.toNat < 0x110000 :=
  c.valid

theorem itemsFrom_encodeChar (c : Char) (rest : List UInt8) :
    itemsFrom .idle (String.utf8EncodeChar c ++ rest) = some c :: itemsFrom .idle rest := by
  have hValid := toNat_valid c
  have hChar {n : Nat} (hn : n = c.val.toNat) : Char.ofNat n = c := by
    subst hn
    exact Char.ofNat_toNat c
  generalize hv : c.val.toNat = v at hValid hChar
  unfold String.utf8EncodeChar
  simp only [hv]
  split
  · rename_i hOne
    have hFirst : first (.ofNat v) = ([some c], .idle) := by
      unfold first
      rw [if_pos, UInt8.toNat_ofNat', hChar (by omega)]
      rw [UInt8.lt_iff_toNat_lt, UInt8.toNat_ofNat']
      simp
      omega
    simp only [List.cons_append, List.nil_append, itemsFrom_cons, step, hFirst]
  · split
    · have hk : v / 64 % 32 < 32 := Nat.mod_lt _ (by decide)
      have hj : v % 64 < 64 := Nat.mod_lt _ (by decide)
      simp only [List.cons_append, List.nil_append, itemsFrom_cons, step.eq_1,
        first_two _ hk (by omega), step_last hj (tail_range _ hj)]
      rw [hChar (by omega)]
    · split
      · have hk : v / 4096 % 16 < 16 := Nat.mod_lt _ (by decide)
        have hj : v / 64 % 64 < 64 := Nat.mod_lt _ (by decide)
        have hi : v % 64 < 64 := Nat.mod_lt _ (by decide)
        have hSecond := second_three _ hk _ hj (by omega) (by omega)
        simp only [List.cons_append, List.nil_append, itemsFrom_cons, step.eq_1, first_three _ hk,
          step_more hj hSecond, step_last hi (tail_range _ hi)]
        rw [hChar (by omega)]
      · have hk : v / 262144 % 8 < 5 := by omega
        have hj : v / 4096 % 64 < 64 := Nat.mod_lt _ (by decide)
        have hi : v / 64 % 64 < 64 := Nat.mod_lt _ (by decide)
        have hh : v % 64 < 64 := Nat.mod_lt _ (by decide)
        have hSecond := second_four _ hk _ hj (by omega) (by omega)
        simp only [List.cons_append, List.nil_append, itemsFrom_cons, step.eq_1, first_four _ hk,
          step_more hj hSecond, step_more hi (tail_range _ hi), step_last hh (tail_range _ hh)]
        rw [hChar (by omega)]

theorem items_encode (s : List Char) : items (encode s) = s.map some := by
  rw [items_eq]
  induction s with
  | nil => rfl
  | cons c s ih => rw [encode_cons, itemsFrom_encodeChar, ih, List.map_cons]

theorem toStringLossy_encode (s : List Char) : toStringLossy (encode s) = String.ofList s := by
  rw [toStringLossy, decodeLossy, items_encode, List.map_map]
  simp [Function.comp_def]

/-- The bytes of a character that have been read when the reader stands in a state. -/
inductive Begun : List UInt8 → State → Prop where
  | idle : Begun [] .idle
  | two {k : Nat} (least : 2 ≤ k) (most : k < 32) : Begun [.ofNat (k + 192)] (.within 1 0x80 0xBF k)
  | three {k : Nat} (most : k < 16) :
      Begun [.ofNat (k + 224)] (.within 2 (secondOfThree k).1 (secondOfThree k).2 k)
  | threeTwo {k j : Nat} (most : k < 16) (tail : j < 64) (long : k = 0 → 32 ≤ j) (whole : k = 13 → j < 32) :
      Begun [.ofNat (k + 224), .ofNat (j + 128)] (.within 1 0x80 0xBF (k * 64 + j))
  | four {k : Nat} (most : k < 5) :
      Begun [.ofNat (k + 240)] (.within 3 (secondOfFour k).1 (secondOfFour k).2 k)
  | fourTwo {k j : Nat} (most : k < 5) (tail : j < 64) (long : k = 0 → 16 ≤ j) (last : k = 4 → j < 16) :
      Begun [.ofNat (k + 240), .ofNat (j + 128)] (.within 2 0x80 0xBF (k * 64 + j))
  | fourThree {k j i : Nat} (most : k < 5) (tail : j < 64) (tail' : i < 64) (long : k = 0 → 16 ≤ j)
      (last : k = 4 → j < 16) :
      Begun [.ofNat (k + 240), .ofNat (j + 128), .ofNat (i + 128)]
        (.within 1 0x80 0xBF ((k * 64 + j) * 64 + i))

theorem exists_tail {b : UInt8} (hLeast : 128 ≤ low.toNat) (hMost : high.toNat ≤ 191)
    (hIn : low ≤ b ∧ b ≤ high) : ∃ j < 64, b = .ofNat (j + 128) ∧ low.toNat ≤ j + 128 ∧ j + 128 ≤ high.toNat := by
  obtain ⟨hLow, hHigh⟩ := hIn
  rw [UInt8.le_iff_toNat_le] at hLow hHigh
  refine ⟨b.toNat - 128, by omega, ?_, by omega, by omega⟩
  rw [Nat.sub_add_cancel (by omega), UInt8.ofNat_toNat]

theorem bounds_three (k : Nat) :
    128 ≤ (secondOfThree k).1.toNat ∧ (secondOfThree k).2.toNat ≤ 191 ∧
      (k = 0 → (secondOfThree k).1.toNat = 160) ∧ (k = 13 → (secondOfThree k).2.toNat = 159) := by
  unfold secondOfThree
  split <;> split <;> simp_all

theorem bounds_four (k : Nat) :
    128 ≤ (secondOfFour k).1.toNat ∧ (secondOfFour k).2.toNat ≤ 191 ∧
      (k = 0 → (secondOfFour k).1.toNat = 144) ∧ (k = 4 → (secondOfFour k).2.toNat = 143) := by
  unfold secondOfFour
  split <;> split <;> simp_all

theorem first_ill : ∀ n < 256, 128 ≤ n ∧ n < 194 ∨ 245 ≤ n → first (.ofNat n) = ([none], .idle) := by
  decide +kernel

theorem first_ascii {b : UInt8} (hb : b < 0x80) : first b = ([some (Char.ofNat b.toNat)], .idle) := by
  unfold first
  rw [if_pos hb]

theorem val_ofNat {n : Nat} (hn : n < 0xD800 ∨ 0xDFFF < n ∧ n < 0x110000) : (Char.ofNat n).val.toNat = n := by
  have hValid : n.isValidChar := hn
  unfold Char.ofNat
  rw [dif_pos hValid]
  rfl

theorem encodeChar_low {c : Char} (hLow : c.toNat < 0x80) : String.utf8EncodeChar c = [.ofNat c.toNat] := by
  change c.val.toNat < 0x80 at hLow
  unfold String.utf8EncodeChar
  dsimp only
  rw [if_pos (by omega)]
  rfl

theorem encodeChar_ascii {b : UInt8} (hb : b < 0x80) : String.utf8EncodeChar (Char.ofNat b.toNat) = [b] := by
  have hLess : b.toNat < 128 := UInt8.lt_iff_toNat_lt.1 hb
  have hChar : (Char.ofNat b.toNat).toNat = b.toNat := val_ofNat (by omega)
  rw [encodeChar_low (by omega), hChar, UInt8.ofNat_toNat]

theorem encodeChar_two {k j : Nat} (hLeast : 2 ≤ k) (hMost : k < 32) (hj : j < 64) :
    String.utf8EncodeChar (Char.ofNat (k * 64 + j)) = [.ofNat (k + 192), .ofNat (j + 128)] := by
  have hHead : (k * 64 + j) / 64 % 32 = k := by omega
  have hTail : (k * 64 + j) % 64 = j := by omega
  unfold String.utf8EncodeChar
  rw [val_ofNat (by omega)]
  dsimp only
  rw [if_neg (by omega), if_pos (by omega), hHead, hTail]

theorem encodeChar_three {k j i : Nat} (hk : k < 16) (hj : j < 64) (hi : i < 64) (hLong : k = 0 → 32 ≤ j)
    (hWhole : k = 13 → j < 32) :
    String.utf8EncodeChar (Char.ofNat ((k * 64 + j) * 64 + i)) =
      [.ofNat (k + 224), .ofNat (j + 128), .ofNat (i + 128)] := by
  have hHead : ((k * 64 + j) * 64 + i) / 4096 % 16 = k := by omega
  have hMiddle : ((k * 64 + j) * 64 + i) / 64 % 64 = j := by omega
  have hTail : ((k * 64 + j) * 64 + i) % 64 = i := by omega
  unfold String.utf8EncodeChar
  rw [val_ofNat (by omega)]
  dsimp only
  rw [if_neg (by omega), if_neg (by omega), if_pos (by omega), hHead, hMiddle, hTail]

theorem encodeChar_four {k j i h : Nat} (hk : k < 5) (hj : j < 64) (hi : i < 64) (hh : h < 64)
    (hLong : k = 0 → 16 ≤ j) (hLast : k = 4 → j < 16) :
    String.utf8EncodeChar (Char.ofNat (((k * 64 + j) * 64 + i) * 64 + h)) =
      [.ofNat (k + 240), .ofNat (j + 128), .ofNat (i + 128), .ofNat (h + 128)] := by
  have hHead : (((k * 64 + j) * 64 + i) * 64 + h) / 262144 % 8 = k := by omega
  have hSecond : (((k * 64 + j) * 64 + i) * 64 + h) / 4096 % 64 = j := by omega
  have hThird : (((k * 64 + j) * 64 + i) * 64 + h) / 64 % 64 = i := by omega
  have hTail : (((k * 64 + j) * 64 + i) * 64 + h) % 64 = h := by omega
  unfold String.utf8EncodeChar
  rw [val_ofNat (by omega)]
  dsimp only
  rw [if_neg (by omega), if_neg (by omega), if_neg (by omega), hHead, hSecond, hThird, hTail]

inductive Outcome (read : List UInt8) : List (Option Char) × State → Prop where
  | more {s : State} (begun : Begun read s) : Outcome read ([], s)
  | ended {c : Char} (whole : read = String.utf8EncodeChar c) : Outcome read ([some c], .idle)
  | ill {items : List (Option Char)} {s : State} (fault : none ∈ items) : Outcome read (items, s)

theorem outcome_first (b : UInt8) : Outcome [b] (first b) := by
  have hByte : b = .ofNat b.toNat := UInt8.ofNat_toNat.symm
  have hLess : b.toNat < 256 := b.toNat_lt
  by_cases hAscii : b < 0x80
  · rw [first_ascii hAscii]
    exact .ended (encodeChar_ascii hAscii).symm
  · have hLeast : 128 ≤ b.toNat := by
      rw [UInt8.lt_iff_toNat_lt] at hAscii
      exact Nat.not_lt.1 hAscii
    generalize hn : b.toNat = n at hByte hLess hLeast
    subst hByte
    by_cases hIll : n < 194 ∨ 245 ≤ n
    · rw [first_ill n hLess (hIll.imp_left fun h => ⟨hLeast, h⟩)]
      exact .ill (by simp)
    · by_cases hTwo : n < 224
      · obtain ⟨k, rfl⟩ : ∃ k, n = k + 192 := ⟨n - 192, by omega⟩
        rw [first_two k (by omega) (by omega)]
        exact .more (.two (by omega) (by omega))
      · by_cases hThree : n < 240
        · obtain ⟨k, rfl⟩ : ∃ k, n = k + 224 := ⟨n - 224, by omega⟩
          rw [first_three k (by omega)]
          exact .more (.three (by omega))
        · obtain ⟨k, rfl⟩ : ∃ k, n = k + 240 := ⟨n - 240, by omega⟩
          rw [first_four k (by omega)]
          exact .more (.four (by omega))

theorem Begun.outcome {p : List UInt8} {s : State} (h : Begun p s) (b : UInt8) :
    Outcome (p ++ [b]) (step s b) := by
  have hStray {read : List UInt8} {left bits : Nat} {low high : UInt8} (hOut : ¬ (low ≤ b ∧ b ≤ high)) :
      Outcome read (step (.within left low high bits) b) := by
    simp only [step, if_neg hOut]
    exact .ill List.mem_cons_self
  cases h with
  | idle => exact outcome_first b
  | @two k hLeast hMost =>
    by_cases hIn : 0x80 ≤ b ∧ b ≤ 0xBF
    · obtain ⟨j, hj, rfl, -⟩ := exists_tail (by decide) (by decide) hIn
      rw [step_last hj hIn]
      exact .ended (encodeChar_two hLeast hMost hj).symm
    · exact hStray hIn
  | @three k hMost =>
    by_cases hIn : (secondOfThree k).1 ≤ b ∧ b ≤ (secondOfThree k).2
    · obtain ⟨hLeast, hGreatest, hLong, hWhole⟩ := bounds_three k
      obtain ⟨j, hj, rfl, hLow, hHigh⟩ := exists_tail hLeast hGreatest hIn
      rw [step_more hj hIn]
      refine .more (.threeTwo hMost hj (fun hk => ?_) fun hk => ?_)
      · rw [hLong hk] at hLow
        omega
      · rw [hWhole hk] at hHigh
        omega
    · exact hStray hIn
  | @threeTwo k j hMost hj hLong hWhole =>
    by_cases hIn : 0x80 ≤ b ∧ b ≤ 0xBF
    · obtain ⟨i, hi, rfl, -⟩ := exists_tail (by decide) (by decide) hIn
      rw [step_last hi hIn]
      exact .ended (encodeChar_three hMost hj hi hLong hWhole).symm
    · exact hStray hIn
  | @four k hMost =>
    by_cases hIn : (secondOfFour k).1 ≤ b ∧ b ≤ (secondOfFour k).2
    · obtain ⟨hLeast, hGreatest, hLong, hLast⟩ := bounds_four k
      obtain ⟨j, hj, rfl, hLow, hHigh⟩ := exists_tail hLeast hGreatest hIn
      rw [step_more hj hIn]
      refine .more (.fourTwo hMost hj (fun hk => ?_) fun hk => ?_)
      · rw [hLong hk] at hLow
        omega
      · rw [hLast hk] at hHigh
        omega
    · exact hStray hIn
  | @fourTwo k j hMost hj hLong hLast =>
    by_cases hIn : 0x80 ≤ b ∧ b ≤ 0xBF
    · obtain ⟨i, hi, rfl, -⟩ := exists_tail (by decide) (by decide) hIn
      rw [step_more hi hIn]
      exact .more (.fourThree hMost hj hi hLong hLast)
    · exact hStray hIn
  | @fourThree k j i hMost hj hi hLong hLast =>
    by_cases hIn : 0x80 ≤ b ∧ b ≤ 0xBF
    · obtain ⟨h, hh, rfl, -⟩ := exists_tail (by decide) (by decide) hIn
      rw [step_last hh hIn]
      exact .ended (encodeChar_four hMost hj hi hh hLong hLast).symm
    · exact hStray hIn

/-- Bytes that are read as characters only are the encoding of those characters. -/
theorem Begun.encode_of_itemsFrom {p : List UInt8} {s : State} (h : Begun p s) {bytes : List UInt8}
    {cs : List Char} (hItems : itemsFrom s bytes = cs.map some) : p ++ bytes = encode cs := by
  induction bytes generalizing p s cs with
  | nil =>
    cases h with
    | idle =>
      have hNil : cs = [] := List.map_eq_nil_iff.1 hItems.symm
      rw [hNil]
      rfl
    | _ =>
      have hNone : none ∈ cs.map some := by
        rw [← hItems]
        exact List.mem_singleton_self _
      simp at hNone
  | cons b rest ih =>
    have hOutcome := h.outcome b
    rw [itemsFrom_cons] at hItems
    rw [List.append_cons]
    generalize step s b = result at hOutcome hItems
    cases hOutcome with
    | more hBegun => exact ih hBegun hItems
    | @ended c hWhole =>
      cases cs with
      | nil => cases hItems
      | cons c' cs' =>
        obtain ⟨hChar, hRest⟩ := List.cons.inj hItems
        cases hChar
        rw [hWhole, encode_cons, ← ih .idle hRest]
        rfl
    | ill hFault =>
      have hNone : none ∈ cs.map some := by
        rw [← hItems]
        exact List.mem_append_left _ hFault
      simp at hNone

theorem decode?_eq_some_iff {bytes : List UInt8} {cs : List Char} :
    decode? bytes = some cs ↔ bytes = encode cs := by
  have hAll (items : List (Option Char)) : items.mapM id = some cs ↔ items = cs.map some := by
    induction items generalizing cs with
    | nil => cases cs <;> simp
    | cons item items ih =>
      rw [List.mapM_cons]
      cases item with
      | none => cases cs <;> simp
      | some c => cases cs <;> simp [Option.bind_eq_some_iff, ih, and_comm]
  rw [decode?, hAll, items_eq]
  constructor
  · intro hItems
    exact Begun.idle.encode_of_itemsFrom hItems
  · rintro rfl
    rw [← items_eq, items_encode]

/-- Only the encoding of a text is read as that text. -/
theorem toString?_eq_some_iff {bytes : List UInt8} {s : String} :
    toString? bytes = some s ↔ bytes = ofString s := by
  rw [toString?, Option.map_eq_some_iff]
  constructor
  · rintro ⟨cs, hDecode, rfl⟩
    rw [decode?_eq_some_iff.1 hDecode, ofString, String.toList_ofList]
  · rintro rfl
    exact ⟨s.toList, decode?_eq_some_iff.2 rfl, String.ofList_toList⟩

end BearerTokens.Text.Utf8
