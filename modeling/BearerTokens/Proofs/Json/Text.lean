import BearerTokens.Json.Skip
import BearerTokens.Proofs.Text.Utf8
import Mathlib.Data.List.TakeWhile

/-!
# Blanks, words and strings of JSON

What stands between the quotes of a string and the text that it spells, in the form of a grammar, and the
readers that take exactly this.
-/

set_option autoImplicit false

namespace BearerTokens.Json

open BearerTokens.Text

def Blanks (s : Bytes) : Prop :=
  ∀ b ∈ s, isBlankByte b = true

theorem Blanks.nil : Blanks [] := by
  simp [Blanks]

theorem Blanks.append {w w' : Bytes} (h : Blanks w) (h' : Blanks w') : Blanks (w ++ w') :=
  fun b hb => (List.mem_append.1 hb).elim (h b) (h' b)

theorem skipBlanks_append {w : Bytes} (hBlanks : Blanks w) (s : Bytes) : skipBlanks (w ++ s) = skipBlanks s :=
  List.dropWhile_append_of_pos hBlanks

theorem skipBlanks_cons {b : UInt8} (hb : isBlankByte b = false) (s : Bytes) : skipBlanks (b :: s) = b :: s :=
  List.dropWhile_cons_of_neg (by simp [hb])

/-- Blanks and what stands after them. -/
theorem exists_blanks (s : Bytes) :
    ∃ w, Blanks w ∧ s = w ++ skipBlanks s ∧ ∀ b ∈ (skipBlanks s).head?, isBlankByte b = false := by
  refine ⟨s.takeWhile isBlankByte, fun b hb => List.mem_takeWhile_imp hb,
    (List.takeWhile_append_dropWhile).symm, ?_⟩
  intro b hb
  have hHead := List.head?_dropWhile_not isBlankByte s
  rw [show s.dropWhile isBlankByte = skipBlanks s from rfl, Option.mem_def.1 hb] at hHead
  simpa using hHead

theorem word_eq_ok {w s rest : Bytes} : word w s = .ok rest ↔ s = w ++ rest := by
  induction w generalizing s with
  | nil => simp [word]
  | cons a w ih =>
    cases s with
    | nil => simp [word]
    | cons b s =>
      by_cases hEq : b = a
      · simp [word, hEq, ih]
      · simp [word, hEq]

def ofPair (high low : Nat) : Nat :=
  (high - 0xD800) * 0x400 + (low - 0xDC00) + 0x10000

/-- What stands between the quotes of a string, and the bytes of the text it spells. -/
inductive Spells : Bytes → Bytes → Prop where
  | nil : Spells [] []
  | plain {b : UInt8} {s t : Bytes} (hQuote : b ≠ 0x22) (hEscape : b ≠ 0x5C) (hControl : ¬ b < 0x20)
      (h : Spells s t) : Spells (b :: s) (b :: t)
  | escape {b x : UInt8} {s t : Bytes} (hEscape : escape? b = some x) (h : Spells s t) :
      Spells (0x5C :: b :: s) (x :: t)
  | unit {a b c d : UInt8} {n : Nat} {s t : Bytes} (hUnit : unit? a b c d = some n) (hHigh : isHigh n = false)
      (hLow : isLow n = false) (h : Spells s t) :
      Spells (0x5C :: 0x75 :: a :: b :: c :: d :: s) (String.utf8EncodeChar (Char.ofNat n) ++ t)
  | pair {a b c d a' b' c' d' : UInt8} {n n' : Nat} {s t : Bytes} (hUnit : unit? a b c d = some n)
      (hHigh : isHigh n = true) (hUnit' : unit? a' b' c' d' = some n') (hLow : isLow n' = true) (h : Spells s t) :
      Spells (0x5C :: 0x75 :: a :: b :: c :: d :: 0x5C :: 0x75 :: a' :: b' :: c' :: d' :: s)
        (String.utf8EncodeChar (Char.ofNat (ofPair n n')) ++ t)

theorem reverse_pushScalar (n : Nat) (done : Bytes) :
    (pushScalar n done).reverse = done.reverse ++ String.utf8EncodeChar (Char.ofNat n) := by
  rw [pushScalar, List.reverse_append, List.reverse_reverse]

theorem isLow_of_isHigh {n : Nat} (hHigh : isHigh n = true) : isLow n = false := by
  simp only [isHigh, isLow, decide_eq_true_eq, decide_eq_false_iff_not] at *
  omega

theorem ne_unit_of_escape {b x : UInt8} (hEscape : escape? b = some x) : b ≠ 0x75 := by
  rintro rfl
  cases hEscape

theorem stringFrom_of_spells {inner t : Bytes} (h : Spells inner t) (done rest : Bytes) :
    stringFrom done none (inner ++ 0x22 :: rest) = .ok (done.reverse ++ t, rest) := by
  induction h generalizing done with
  | nil => simp [stringFrom]
  | plain hQuote hEscape hControl _ ih =>
    simp [stringFrom, hQuote, hEscape, hControl, ih]
  | escape hEscape _ ih =>
    simp [stringFrom, hEscape, ne_unit_of_escape hEscape, ih]
  | unit hUnit hHigh hLow _ ih =>
    simp [stringFrom, hUnit, hHigh, hLow, pushScalar, ih]
  | pair hUnit hHigh hUnit' hLow _ ih =>
    simp [stringFrom, hUnit, hHigh, isLow_of_isHigh hHigh, hUnit', hLow, pushScalar, ofPair, ih]

/-- At least the closing quote is there. -/
theorem exists_cons_quote (inner rest : Bytes) : ∃ b s, inner ++ 0x22 :: rest = b :: s := by
  cases inner with
  | nil => exact ⟨_, _, rfl⟩
  | cons b inner => exact ⟨_, _, rfl⟩

/-- What may stand up to the closing quote when the first unit of a pair may have been read. -/
def SpellsAfter : Option Nat → Bytes → Bytes → Prop
  | none, s, t => Spells s t
  | some n, s, t => ∃ a b c d n' s' t', s = 0x5C :: 0x75 :: a :: b :: c :: d :: s' ∧ unit? a b c d = some n' ∧
      isLow n' = true ∧ Spells s' t' ∧ t = String.utf8EncodeChar (Char.ofNat (ofPair n n')) ++ t'

theorem spells_of_stringFrom {done : Bytes} {high : Option Nat} {s bytes rest : Bytes}
    (hRead : stringFrom done high s = .ok (bytes, rest)) (hHigh : ∀ n ∈ high, isHigh n = true) :
    ∃ inner t, s = inner ++ 0x22 :: rest ∧ SpellsAfter high inner t ∧ bytes = done.reverse ++ t := by
  fun_induction stringFrom done high s with
  | case4 done a b c d s n h hUnit hLow ih =>
    obtain ⟨inner, t, rfl, hSpells, hBytes⟩ := ih hRead (by simp)
    rw [reverse_pushScalar, List.append_assoc] at hBytes
    exact ⟨_, _, rfl, ⟨a, b, c, d, n, inner, t, rfl, hUnit, hLow, hSpells, rfl⟩, hBytes⟩
  | case7 done a b c d s n hUnit hLow hFirst ih =>
    have hOnly : ∀ m ∈ some n, isHigh m = true := by
      rintro m ⟨⟩
      exact hFirst
    obtain ⟨inner, t, rfl, ⟨a', b', c', d', n', inner', t', rfl, hUnit', hLow', hSpells, hText⟩, hBytes⟩ :=
      ih hRead hOnly
    rw [hText] at hBytes
    exact ⟨_, _, rfl, .pair hUnit hFirst hUnit' hLow' hSpells, hBytes⟩
  | case8 done a b c d s n hUnit hLow hFirst ih =>
    obtain ⟨inner, t, rfl, hSpells, rfl⟩ := ih hRead (by simp)
    refine ⟨_, _, rfl, .unit hUnit (Bool.eq_false_iff.2 hFirst) (Bool.eq_false_iff.2 hLow) hSpells, ?_⟩
    rw [reverse_pushScalar, List.append_assoc]
  | case10 done b s _ _ x hEscape ih =>
    obtain ⟨inner, t, rfl, hSpells, rfl⟩ := ih hRead (by simp)
    exact ⟨_, _, rfl, .escape hEscape hSpells, by simp⟩
  | case13 done high s hNone =>
    cases hRead
    cases Option.not_isSome_iff_eq_none.1 hNone
    exact ⟨[], [], rfl, .nil, by simp⟩
  | case15 done high b s hEnd _ _ hEscape hNone hQuote hControl ih =>
    cases Option.not_isSome_iff_eq_none.1 hNone
    obtain ⟨inner, t, rfl, hSpells, rfl⟩ := ih hRead (by simp)
    obtain ⟨_, _, hShape⟩ := exists_cons_quote inner rest
    have hPlain : b ≠ 0x5C := fun hb => hEscape _ _ hb hShape
    exact ⟨_, _, rfl, .plain hQuote hPlain hControl hSpells, by simp⟩
  | _ => cases hRead

theorem string_eq_ok {s rest : Bytes} {text : String} :
    string s = .ok (text, rest) ↔ ∃ inner, s = inner ++ 0x22 :: rest ∧ Spells inner (Utf8.ofString text) := by
  constructor
  · intro hRead
    unfold string at hRead
    split at hRead
    · cases hRead
    · rename_i bytes rest' hFrom
      split at hRead
      · rename_i text' hText
        cases hRead
        obtain ⟨inner, t, hShape, hSpells, hBytes⟩ := spells_of_stringFrom hFrom (by simp)
        rw [List.reverse_nil, List.nil_append] at hBytes
        rw [← hBytes, Utf8.toString?_eq_some_iff.1 hText] at hSpells
        exact ⟨inner, hShape, hSpells⟩
      · cases hRead
  · rintro ⟨inner, rfl, hSpells⟩
    have hText : Utf8.toString? (Utf8.ofString text) = some text := Utf8.toString?_eq_some_iff.2 rfl
    simp [string, stringFrom_of_spells hSpells, hText]

inductive Scans : Bytes → Prop where
  | nil : Scans []
  | plain {b : UInt8} {s : Bytes} (hQuote : b ≠ 0x22) (hEscape : b ≠ 0x5C) (hControl : ¬ b < 0x20) (h : Scans s) :
      Scans (b :: s)
  | escape {b : UInt8} {s : Bytes} (hEscape : (escape? b).isSome = true) (h : Scans s) : Scans (0x5C :: b :: s)
  | unit {a b c d : UInt8} {s : Bytes} (hUnit : (unit? a b c d).isSome = true) (h : Scans s) :
      Scans (0x5C :: 0x75 :: a :: b :: c :: d :: s)

theorem Spells.scans {s t : Bytes} (h : Spells s t) : Scans s := by
  induction h with
  | nil => exact .nil
  | plain hQuote hEscape hControl _ ih => exact .plain hQuote hEscape hControl ih
  | escape hEscape _ ih => exact .escape (by rw [hEscape]; rfl) ih
  | unit hUnit _ _ _ ih => exact .unit (by rw [hUnit]; rfl) ih
  | pair hUnit _ hUnit' _ _ ih => exact .unit (by rw [hUnit]; rfl) (.unit (by rw [hUnit']; rfl) ih)

theorem skipString_eq_ok {s rest : Bytes} :
    skipString s = .ok rest ↔ ∃ inner, s = inner ++ 0x22 :: rest ∧ Scans inner := by
  constructor
  · intro hSkip
    fun_induction skipString s with
    | case3 a b c d s hUnit ih =>
      obtain ⟨inner, rfl, hScans⟩ := ih hSkip
      exact ⟨_, rfl, .unit hUnit hScans⟩
    | case6 b s _ _ hEscape ih =>
      obtain ⟨inner, rfl, hScans⟩ := ih hSkip
      exact ⟨_, rfl, .escape hEscape hScans⟩
    | case8 s =>
      cases hSkip
      exact ⟨[], rfl, .nil⟩
    | case10 b s hEnd _ _ hEscape hQuote hControl ih =>
      obtain ⟨inner, rfl, hScans⟩ := ih hSkip
      obtain ⟨_, _, hShape⟩ := exists_cons_quote inner rest
      have hPlain : b ≠ 0x5C := fun hb => hEscape _ _ hb hShape
      exact ⟨_, rfl, .plain hQuote hPlain hControl hScans⟩
    | _ => cases hSkip
  · rintro ⟨inner, rfl, hScans⟩
    induction hScans with
    | nil => simp [skipString]
    | plain hQuote hEscape hControl _ ih => simp [skipString, hQuote, hEscape, hControl, ih]
    | @escape b s hEscape _ ih =>
      have hUnit : b ≠ 0x75 := by
        rintro rfl
        cases hEscape
      simp [skipString, hEscape, hUnit, ih]
    | unit hUnit _ ih => simp [skipString, hUnit, ih]

end BearerTokens.Json
