import BearerTokens.Json.Writer
import BearerTokens.Proofs.Json.Members

/-!
# Written strings

A string is written so that what stands between its quotes spells it: what has to be escaped by its escape, and every
other character by its own bytes. A list of strings is written as an array of these.
-/

set_option autoImplicit false

namespace BearerTokens.Json

open BearerTokens.Text

def IsPlain (b : UInt8) : Prop :=
  b ≠ 0x22 ∧ b ≠ 0x5C ∧ ¬ b < 0x20

theorem Spells.plains {p s t : Bytes} (hPlain : ∀ b ∈ p, IsPlain b) (h : Spells s t) : Spells (p ++ s) (p ++ t) := by
  induction p with
  | nil => exact h
  | cons b p ih =>
    obtain ⟨⟨hQuote, hEscape, hControl⟩, hMore⟩ := List.forall_mem_cons.1 hPlain
    exact .plain hQuote hEscape hControl (ih hMore)

theorem isPlain_iff {b : UInt8} : IsPlain b ↔ b.toNat ≠ 0x22 ∧ b.toNat ≠ 0x5C ∧ 0x20 ≤ b.toNat := by
  rw [IsPlain, ne_eq, ne_eq, ← UInt8.toNat_inj, ← UInt8.toNat_inj, UInt8.not_lt, UInt8.le_iff_toNat_le]
  exact Iff.rfl

/-- The bytes of a character beyond ASCII are beyond ASCII. -/
theorem high_encodeChar {c : Char} (hHigh : 0x80 ≤ c.toNat) : ∀ b ∈ String.utf8EncodeChar c, 0x80 ≤ b.toNat := by
  intro b hb
  change 0x80 ≤ c.val.toNat at hHigh
  unfold String.utf8EncodeChar at hb
  dsimp only at hb
  split_ifs at hb
  · omega
  all_goals
    simp only [List.mem_cons, List.not_mem_nil, or_false] at hb
    rcases hb with rfl | rfl | rfl | rfl <;>
    · rw [UInt8.toNat_ofNat']
      omega

theorem isPlain_encodeChar {c : Char} (hControl : ¬ c.toNat < 0x20) (hQuote : c ≠ '"') (hEscape : c ≠ '\\') :
    ∀ b ∈ String.utf8EncodeChar c, IsPlain b := by
  intro b hb
  rw [isPlain_iff]
  by_cases hLow : c.toNat < 0x80
  · rw [Utf8.encodeChar_low hLow, List.mem_singleton] at hb
    have hByte : b.toNat = c.toNat := by
      rw [hb, UInt8.toNat_ofNat']
      omega
    have hQuote' : c.toNat ≠ 0x22 := fun h => hQuote (Char.toNat_inj.1 h)
    have hEscape' : c.toNat ≠ 0x5C := fun h => hEscape (Char.toNat_inj.1 h)
    omega
  · have hHigh := high_encodeChar (by omega) b hb
    omega

/-- The digits that a control character is escaped with are read as such. -/
theorem read_lowerHexDigit : ∀ n < 16, String.utf8EncodeChar (lowerHexDigit n) = [.ofNat (lowerHexDigit n).toNat] ∧
    hexDigit? (.ofNat (lowerHexDigit n).toNat) = some n := by
  decide

theorem unit?_control {n : Nat} (hn : n < 0x20) : unit? 0x30 0x30 (.ofNat (lowerHexDigit (n / 16)).toNat)
    (.ofNat (lowerHexDigit (n % 16)).toNat) = some n := by
  have hZero : hexDigit? 0x30 = some 0 := rfl
  simp only [unit?, hZero, (read_lowerHexDigit (n / 16) (by omega)).2, (read_lowerHexDigit (n % 16) (by omega)).2,
    Option.some.injEq]
  omega

theorem encode_control {n : Nat} (hn : n < 0x20) :
    Utf8.encode ['\\', 'u', '0', '0', lowerHexDigit (n / 16), lowerHexDigit (n % 16)] =
      [0x5C, 0x75, 0x30, 0x30, .ofNat (lowerHexDigit (n / 16)).toNat, .ofNat (lowerHexDigit (n % 16)).toNat] := by
  have hDigits : Utf8.encode [lowerHexDigit (n / 16), lowerHexDigit (n % 16)] =
      [.ofNat (lowerHexDigit (n / 16)).toNat, .ofNat (lowerHexDigit (n % 16)).toNat] := by
    rw [Utf8.encode_cons, Utf8.encode_cons, (read_lowerHexDigit (n / 16) (by omega)).1,
      (read_lowerHexDigit (n % 16) (by omega)).1]
    rfl
  exact congrArg ([0x5C, 0x75, 0x30, 0x30] ++ ·) hDigits

theorem Spells.control {c : Char} {s t : Bytes} (hControl : c.toNat < 0x20) (h : Spells s t) :
    Spells (Utf8.encode ['\\', 'u', '0', '0', lowerHexDigit (c.toNat / 16), lowerHexDigit (c.toNat % 16)] ++ s)
      (String.utf8EncodeChar c ++ t) := by
  have hHigh : isHigh c.toNat = false := by
    rw [isHigh, decide_eq_false_iff_not]
    omega
  have hLow : isLow c.toNat = false := by
    rw [isLow, decide_eq_false_iff_not]
    omega
  have hUnit := Spells.unit (unit?_control hControl) hHigh hLow h
  rw [Char.ofNat_toNat] at hUnit
  rw [encode_control hControl]
  exact hUnit

theorem Spells.written {c : Char} {s t : Bytes} (h : Spells s t) :
    Spells (Utf8.encode (writeChar c) ++ s) (String.utf8EncodeChar c ++ t) := by
  -- an escape of one letter stands for its byte; the others are told by their number
  have hLetter {x : Char} {b : UInt8} (hc : c = x) (hb : escape? b = some (.ofNat x.toNat)) (hx : x.toNat < 0x80) :
      Spells (0x5C :: b :: s) (String.utf8EncodeChar c ++ t) := by
    rw [hc, Utf8.encodeChar_low hx]
    exact .escape hb h
  unfold writeChar
  split_ifs with hQuote hEscape hBack hTab hLine hFeed hReturn hControl
  · exact hLetter hQuote rfl (by decide)
  · exact hLetter hEscape rfl (by decide)
  · exact hLetter hBack rfl (by decide)
  · exact hLetter hTab rfl (by decide)
  · exact hLetter hLine rfl (by decide)
  · exact hLetter hFeed rfl (by decide)
  · exact hLetter hReturn rfl (by decide)
  · exact .control hControl h
  · rw [Utf8.encode_cons, Utf8.encode, List.flatMap_nil, List.append_nil]
    exact .plains (isPlain_encodeChar hControl hQuote hEscape) h

theorem spells_written (s : List Char) : Spells (Utf8.encode (s.flatMap writeChar)) (Utf8.encode s) := by
  induction s with
  | nil => exact .nil
  | cons c s ih =>
    rw [List.flatMap_cons, Utf8.encode_append, Utf8.encode_cons]
    exact ih.written

theorem isText_writeString (s : String) : IsText (Utf8.encode (writeString s)) s := by
  refine ⟨Utf8.encode (s.toList.flatMap writeChar), ?_, spells_written s.toList⟩
  rw [writeString, Utf8.encode_append, Utf8.encode_cons]
  rfl

/-- The elements of an array, and an array, without blanks. -/
theorem areFurther_flatMap {vs : List Bytes} (hValues : ∀ v ∈ vs, IsValue v) :
    AreFurther (vs.flatMap (0x2C :: ·)) vs := by
  induction vs with
  | nil => exact .none .nil
  | cons v vs ih =>
    obtain ⟨hValue, hMore⟩ := List.forall_mem_cons.1 hValues
    exact .some .nil .nil hValue (ih hMore)

theorem encode_intercalate (w : List Char) (ws : List (List Char)) :
    Utf8.encode ([','].intercalate (w :: ws)) = Utf8.encode w ++ (ws.map Utf8.encode).flatMap (0x2C :: ·) := by
  induction ws generalizing w with
  | nil => simp
  | cons w' ws ih =>
    rw [List.intercalate_cons_cons, Utf8.encode_append, Utf8.encode_append, ih, List.map_cons, List.flatMap_cons,
      List.append_assoc]
    rfl

theorem isArray_writeStrings (items : List String) :
    IsArray (Utf8.encode (writeStrings items)) (items.map fun s => Utf8.encode (writeString s)) := by
  have hValue (s : String) : IsValue (Utf8.encode (writeString s)) := text_reads.value (isText_writeString s)
  cases items with
  | nil => exact .empty .nil
  | cons s items =>
    have hShape : Utf8.encode (writeStrings (s :: items)) = 0x5B :: ([] ++ (Utf8.encode (writeString s) ++
        ((items.map fun s => Utf8.encode (writeString s)).flatMap (0x2C :: ·) ++ [0x5D]))) := by
      rw [writeStrings, Utf8.encode_append, Utf8.encode_cons, List.map_cons, encode_intercalate, List.map_map,
        List.append_assoc, List.append_assoc]
      rfl
    rw [hShape]
    refine .elements .nil (hValue s) (areFurther_flatMap ?_)
    simp [hValue]

end BearerTokens.Json
