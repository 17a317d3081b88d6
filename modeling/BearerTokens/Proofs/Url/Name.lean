import BearerTokens.Proofs.Text.Percent
import BearerTokens.Proofs.Url.Numeral

/-!
# Readings of names

What is asked of a reading of names is a few laws, which hold whether or not it knows letters outside ASCII. The
reading that knows none obeys them, and goes on obeying them when it learns names that have such letters.
-/

set_option autoImplicit false

namespace BearerTokens

open BearerTokens.Text

structure ToAscii.Lawful (toAscii : ToAscii) : Prop where
  /-- A name is in ASCII, and holds nothing that is denied to names. -/
  allowed : ∀ bytes name, toAscii bytes = some name → ∀ c ∈ name, Host.forbiddenInDomain c = false
  /-- A name stands for itself. -/
  stable : ∀ bytes name, toAscii bytes = some name → toAscii (Utf8.encode name) = some name
  /-- What is in ASCII and in lower case stands for itself, unless it spells a label of another script. -/
  keeps : ∀ name : List Char, (∀ c ∈ name, c.toLower = c ∧ Host.forbiddenInDomain c = false) →
    (∀ label ∈ splitWhere (· == '.') name, ¬ ['x', 'n', '-', '-'] <+: label) → toAscii (Utf8.encode name) = some name

/-- What a name or a number is made of. -/
theorem Host.bounds_of_allowed {c : Char} (h : forbiddenInDomain c = false) :
    0x20 < c.toNat ∧ c.toNat < 0x7F ∧ c ∉ "#/:<>?@[\\]^|%".toList := by
  rw [forbiddenInDomain, Bool.or_eq_false_iff, Bool.or_eq_false_iff] at h
  obtain ⟨⟨hLow, hHigh⟩, hOther⟩ := h
  refine ⟨Nat.lt_of_not_le (of_decide_eq_false hLow), Nat.lt_of_not_le (of_decide_eq_false hHigh), ?_⟩
  rw [← List.contains_iff_mem, hOther]
  exact Bool.false_ne_true

namespace Label

theorem meaning?_of_unmarked {label : List Char} (h : ¬ ['x', 'n', '-', '-'] <+: label) :
    meaning? label = some label := by
  unfold meaning?
  split
  · exact absurd (List.prefix_append ['x', 'n', '-', '-'] _) h
  · rfl

theorem mapM_meaning? {labels : List (List Char)} (h : ∀ label ∈ labels, ¬ ['x', 'n', '-', '-'] <+: label) :
    labels.mapM meaning? = some labels := by
  induction labels with
  | nil => rfl
  | cons label labels ih =>
    obtain ⟨hFirst, hRest⟩ := List.forall_mem_cons.1 h
    rw [List.mapM_cons, meaning?_of_unmarked hFirst, ih hRest]
    rfl

/-- No letter of ASCII is written from right to left, and the rules for such names are not called for. -/
theorem areOrderly_of_ascii {labels : List (List Char)} (h : ∀ label ∈ labels, ∀ c ∈ label, c.toNat < 0x80) :
    areOrderly labels = true := by
  have hLeft {c : Char} (hc : c.toNat < 0x80) : (Direction.of c).isRightward = false := by
    unfold Direction.of
    rw [if_pos hc]
    split
    · rfl
    · split <;> rfl
  have hNone : (labels.map (·.map Direction.of)).any (·.any Direction.isRightward) = false := by
    simp only [List.any_map, List.any_eq_false, Function.comp_apply]
    intro label hLabel hAny
    obtain ⟨c, hc, hRight⟩ := List.any_eq_true.1 hAny
    rw [Function.comp_apply, hLeft (h label hLabel c hc)] at hRight
    cases hRight
  unfold areOrderly
  dsimp only
  rw [hNone]
  rfl

end Label

namespace ToAscii

theorem plain_eq_some_iff {bytes : List UInt8} {name : List Char} : plain bytes = some name ↔
    (∃ decoded, Utf8.decode? bytes = some decoded ∧ decoded.map Char.toLower = name) ∧
      (∀ c ∈ name, Host.forbiddenInDomain c = false) ∧ Label.areProper (splitWhere (· == '.') name) = true := by
  unfold plain
  cases Utf8.decode? bytes with
  | none => simp
  | some decoded =>
    simp only [Option.some.injEq, exists_eq_left', Bool.or_eq_true, Bool.not_eq_true', List.any_eq_true]
    split
    · rename_i hBad
      refine ⟨nofun, ?_⟩
      rintro ⟨rfl, hAllowed, hProper⟩
      rcases hBad with ⟨c, hc, hForbidden⟩ | hImproper
      · rw [hAllowed c hc] at hForbidden
        cases hForbidden
      · rw [hProper] at hImproper
        cases hImproper
    · rename_i hGood
      rw [not_or, not_exists] at hGood
      constructor
      · intro hName
        cases hName
        exact ⟨rfl, fun c hc => Bool.eq_false_iff.2 fun hForbidden => hGood.1 c ⟨hc, hForbidden⟩,
          eq_true_of_ne_false hGood.2⟩
      · rintro ⟨rfl, -⟩
        rfl

theorem plain_lawful : plain.Lawful where
  allowed bytes name h := (plain_eq_some_iff.1 h).2.1
  stable bytes name h := by
    obtain ⟨⟨decoded, -, rfl⟩, hAllowed, hProper⟩ := plain_eq_some_iff.1 h
    refine plain_eq_some_iff.2 ⟨⟨_, Utf8.decode?_eq_some_iff.2 rfl, ?_⟩, hAllowed, hProper⟩
    rw [List.map_map]
    exact List.map_congr_left fun c _ => toLower_toLower c
  keeps name hChars hLabels := by
    refine plain_eq_some_iff.2 ⟨⟨name, Utf8.decode?_eq_some_iff.2 rfl, ?_⟩, fun c hc => (hChars c hc).2, ?_⟩
    · exact (List.map_congr_left fun c hc => (hChars c hc).1).trans (List.map_id _)
    · have hAscii : ∀ label ∈ splitWhere (· == '.') name, ∀ c ∈ label, c.toNat < 0x80 := by
        intro label hLabel c hc
        obtain ⟨-, hHigh, -⟩ := Host.bounds_of_allowed (hChars c (mem_of_mem_splitWhere hLabel hc).1).2
        omega
      rw [Label.areProper, Label.mapM_meaning? hLabels, Option.any_some]
      exact Label.areOrderly_of_ascii hAscii

/-- The reading that knows one more name. -/
def knowing (toAscii : ToAscii) (bytes : List UInt8) (name : List Char) : ToAscii :=
  fun b => if b = bytes then some name else toAscii b

theorem Lawful.knowing {toAscii : ToAscii} (hLaws : toAscii.Lawful) {bytes : List UInt8} {name : List Char}
    (hForeign : ∃ b ∈ bytes, 0x80 ≤ b) (hName : toAscii (Utf8.encode name) = some name) :
    (toAscii.knowing bytes name).Lawful := by
  have hKnown {b : List UInt8} {s : List Char} (h : toAscii.knowing bytes name b = some s) :
      ∃ b', toAscii b' = some s := by
    rw [ToAscii.knowing] at h
    split at h
    · cases h
      exact ⟨_, hName⟩
    · exact ⟨b, h⟩
  -- A name that has been read is in ASCII, and so is never taken for the new one.
  have hOther {s : List Char} (hs : ∀ c ∈ s, Host.forbiddenInDomain c = false) :
      toAscii.knowing bytes name (Utf8.encode s) = toAscii (Utf8.encode s) := by
    refine if_neg ?_
    rintro rfl
    obtain ⟨b, hb, hHigh⟩ := hForeign
    obtain ⟨c, hc, hByte⟩ := List.mem_flatMap.1 hb
    have hLow := (Host.bounds_of_allowed (hs c hc)).2.1
    rw [Utf8.encodeChar_low (by omega), List.mem_singleton] at hByte
    rw [hByte, UInt8.le_iff_toNat_le, UInt8.toNat_ofNat', Nat.mod_eq_of_lt (by omega)] at hHigh
    exact Nat.not_le.2 (Nat.lt_trans hLow (by decide)) hHigh
  refine ⟨?_, ?_, ?_⟩
  · intro b s h
    obtain ⟨b', h⟩ := hKnown h
    exact hLaws.allowed b' s h
  · intro b s h
    obtain ⟨b', h⟩ := hKnown h
    rw [hOther (hLaws.allowed b' s h)]
    exact hLaws.stable b' s h
  · intro s hChars hLabels
    rw [hOther fun c hc => (hChars c hc).2]
    exact hLaws.keeps s hChars hLabels

/-- One name with a letter outside ASCII is known. -/
def sample : ToAscii :=
  plain.knowing (Utf8.encode "B\u00FCcher.Example".toList) "xn--bcher-kva.example".toList

theorem sample_lawful : sample.Lawful :=
  plain_lawful.knowing ⟨0xC3, by decide +kernel, by decide⟩ (by decide +kernel)

end ToAscii

end BearerTokens
