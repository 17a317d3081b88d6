import BearerTokens.Proofs.Text.Utf8
import BearerTokens.Text.Form

/-!
# Reading back form bodies

Pieces without a separating character come back when the joined text is split, percent-encoded bytes come back
when they are decoded, and so a form body gives back the pairs that it was written from.
-/

set_option autoImplicit false

namespace BearerTokens.Text

/-- What is taken ends where the first character stands that does not belong to it. -/
theorem span_append {p : Char → Bool} {body : List Char} (hBody : ∀ c ∈ body, p c = true) (rest : List Char)
    (hRest : ∀ c, rest.head? = some c → p c = false) :
    (body ++ rest).takeWhile p = body ∧ (body ++ rest).dropWhile p = rest := by
  rw [List.takeWhile_append_of_pos hBody, List.dropWhile_append_of_pos hBody]
  cases rest with
  | nil => exact ⟨List.append_nil body, rfl⟩
  | cons c rest =>
    have hc := Bool.eq_false_iff.1 (hRest c rfl)
    rw [List.takeWhile_cons_of_neg hc, List.dropWhile_cons_of_neg hc, List.append_nil]
    exact ⟨rfl, rfl⟩

section Split

variable {separates : Char → Bool} {piece : List Char}

theorem splitWhere_piece (hPiece : ∀ c ∈ piece, separates c = false) : splitWhere separates piece = [piece] := by
  induction piece with
  | nil => rfl
  | cons c piece ih =>
    have hTail := ih fun d hd => hPiece d (List.mem_cons_of_mem _ hd)
    have hHead : separates c = false := hPiece c List.mem_cons_self
    rw [splitWhere] at hTail ⊢
    rw [List.foldr_cons, hTail, hHead]
    rfl

theorem splitWhere_piece_append {c : Char} (hPiece : ∀ c ∈ piece, separates c = false) (hc : separates c = true)
    (rest : List Char) : splitWhere separates (piece ++ c :: rest) = piece :: splitWhere separates rest := by
  induction piece with
  | nil => simp [splitWhere, hc]
  | cons d piece ih =>
    have hTail := ih fun e he => hPiece e (List.mem_cons_of_mem _ he)
    have hHead : separates d = false := hPiece d List.mem_cons_self
    rw [splitWhere] at hTail ⊢
    rw [List.cons_append, List.foldr_cons, hTail, hHead]
    rfl

/-- Splitting undoes joining, as no piece holds a separating character. -/
theorem splitWhere_intercalate {c : Char} (hc : separates c = true) {pieces : List (List Char)}
    (hSome : pieces ≠ []) (hPieces : ∀ piece ∈ pieces, ∀ d ∈ piece, separates d = false) :
    splitWhere separates ([c].intercalate pieces) = pieces := by
  induction pieces with
  | nil => exact absurd rfl hSome
  | cons piece pieces ih =>
    have hPiece := hPieces piece List.mem_cons_self
    cases pieces with
    | nil => rw [List.intercalate_singleton, splitWhere_piece hPiece]
    | cons next pieces =>
      have hRest := ih (List.cons_ne_nil _ _) fun p hp => hPieces p (List.mem_cons_of_mem _ hp)
      rw [List.intercalate_cons_cons, List.append_assoc, List.singleton_append,
        splitWhere_piece_append hPiece hc, hRest]

/-- The pieces hold all characters of a text but those that separate them. -/
theorem mem_of_mem_splitWhere {s : List Char} (h : piece ∈ splitWhere separates s) {c : Char} (hc : c ∈ piece) :
    c ∈ s ∧ separates c = false := by
  induction s generalizing piece with
  | nil =>
    rw [splitWhere, List.foldr_nil, List.mem_singleton] at h
    rw [h] at hc
    cases hc
  | cons d s ih =>
    have hLater {piece : List Char} (h : piece ∈ splitWhere separates s) (hc : c ∈ piece) :
        c ∈ d :: s ∧ separates c = false :=
      (ih h hc).imp_left (List.mem_cons_of_mem d)
    rw [splitWhere] at hLater h
    rw [List.foldr_cons] at h
    split at h
    · obtain rfl | h := List.mem_cons.1 h
      · cases hc
      · exact hLater h hc
    · rename_i hd
      split at h
      · rw [List.mem_singleton.1 h, List.mem_singleton] at hc
        rw [hc]
        exact ⟨List.mem_cons_self, Bool.eq_false_iff.2 hd⟩
      · rename_i first more hMore
        rw [hMore] at hLater
        obtain rfl | h := List.mem_cons.1 h
        · obtain rfl | hc := List.mem_cons.1 hc
          · exact ⟨List.mem_cons_self, Bool.eq_false_iff.2 hd⟩
          · exact hLater List.mem_cons_self hc
        · exact hLater (List.mem_cons_of_mem _ h) hc

theorem splitWhere_ne_nil (separates : Char → Bool) (s : List Char) : splitWhere separates s ≠ [] := by
  cases s with
  | nil => exact List.cons_ne_nil _ _
  | cons c s =>
    rw [splitWhere, List.foldr_cons]
    split
    · exact List.cons_ne_nil _ _
    · split
      · exact List.cons_ne_nil _ _
      · exact List.cons_ne_nil _ _

/-- A character of a joined text is one of a piece, or joins them. -/
theorem mem_intercalate {c d : Char} {pieces : List (List Char)} (h : d ∈ [c].intercalate pieces) :
    d = c ∨ ∃ piece ∈ pieces, d ∈ piece := by
  induction pieces with
  | nil => cases h
  | cons piece pieces ih =>
    cases pieces with
    | nil =>
      rw [List.intercalate_singleton] at h
      exact .inr ⟨piece, List.mem_singleton_self piece, h⟩
    | cons next pieces =>
      rw [List.intercalate_cons_cons, List.append_assoc, List.mem_append, List.singleton_append, List.mem_cons] at h
      obtain h | h | h := h
      · exact .inr ⟨piece, List.mem_cons_self, h⟩
      · exact .inl h
      · exact (ih h).imp_right fun ⟨p, hp, hd⟩ => ⟨p, List.mem_cons_of_mem _ hp, hd⟩

end Split

namespace Percent

theorem decodeFrom_plain {b : UInt8} (hb : b ≠ 0x25) (done rest : List UInt8) :
    decodeFrom done (b :: rest) = decodeFrom (b :: done) rest := by
  match rest with
  | [] => simp [decodeFrom]
  | [_] => simp [decodeFrom]
  | _ :: _ :: _ => simp [decodeFrom, hb]

theorem encode_hexDigit : ∀ n < 16, String.utf8EncodeChar (hexDigit n) = [.ofNat (hexDigit n).toNat] := by
  decide

theorem hexValue?_hexDigit :
    ∀ n < 16, hexValue? (Char.ofNat (UInt8.ofNat (hexDigit n).toNat).toNat) = some n := by
  decide

theorem hexDigit_isAlphanum : ∀ n < 16, (hexDigit n).isAlphanum = true := by
  decide

theorem decodeFrom_encodeByte (b : UInt8) (done rest : List UInt8) :
    decodeFrom done (Utf8.encode (encodeByte b) ++ rest) = decodeFrom (b :: done) rest := by
  have hLess : b.toNat < 256 := b.toNat_lt
  have hHigh : b.toNat / 16 < 16 := by omega
  have hLow : b.toNat % 16 < 16 := by omega
  have hBytes : Utf8.encode (encodeByte b) =
      [0x25, .ofNat (hexDigit (b.toNat / 16)).toNat, .ofNat (hexDigit (b.toNat % 16)).toNat] := by
    simp only [Utf8.encode, encodeByte, List.flatMap_cons, List.flatMap_nil, encode_hexDigit _ hHigh,
      encode_hexDigit _ hLow]
    rfl
  have hByte : UInt8.ofNat (b.toNat / 16 * 16 + b.toNat % 16) = b := by
    rw [Nat.div_add_mod', UInt8.ofNat_toNat]
  rw [hBytes]
  simp only [List.cons_append, List.nil_append, decodeFrom, hexValue?_hexDigit _ hHigh, hexValue?_hexDigit _ hLow,
    hByte]

theorem decodeFrom_encodeBytes (bytes done rest : List UInt8) :
    decodeFrom done (Utf8.encode (bytes.flatMap encodeByte) ++ rest) = decodeFrom (bytes.reverse ++ done) rest := by
  induction bytes generalizing done with
  | nil => rfl
  | cons b bytes ih =>
    rw [List.flatMap_cons, Utf8.encode_append, List.append_assoc, decodeFrom_encodeByte, ih, List.reverse_cons,
      List.append_assoc, List.singleton_append]

/-- An ASCII character is written as one byte, which is the percent sign's only if the character is. -/
theorem encodeChar_plain {c : Char} (hLess : c.toNat < 0x80) (hc : c ≠ '%') :
    ∃ b ≠ 0x25, String.utf8EncodeChar c = [b] := by
  refine ⟨_, ?_, Utf8.encodeChar_low hLess⟩
  intro hEq
  have hByte := congrArg UInt8.toNat hEq
  rw [UInt8.toNat_ofNat', Nat.mod_eq_of_lt (by omega)] at hByte
  exact hc (Char.toNat_inj.1 hByte)

/-- A byte is written with letters and digits after a percent sign. -/
theorem mem_encodeByte {b : UInt8} {c : Char} (hc : c ∈ encodeByte b) : c = '%' ∨ c.isAlphanum = true := by
  have hLess : b.toNat < 256 := b.toNat_lt
  rw [encodeByte, List.mem_cons, List.mem_cons, List.mem_singleton] at hc
  obtain rfl | rfl | rfl := hc
  · exact .inl rfl
  · exact .inr (hexDigit_isAlphanum _ (by omega))
  · exact .inr (hexDigit_isAlphanum _ (by omega))

end Percent

namespace Form

/-- How a character of an encoded part is read before the percent signs are. -/
def readPlus (c : Char) : Char :=
  if c = '+' then ' ' else c

theorem readPlus_other {c : Char} (hc : c ≠ '+') : readPlus c = c :=
  if_neg hc

/-- What tells two characters apart. -/
theorem ne_of_told {told : Char → Bool} {c d : Char} (hc : told c = true) (hd : told d = false) : c ≠ d := by
  rintro rfl
  rw [hc] at hd
  cases hd

/-- A character of an encoded part is one that stays, a plus or a percent sign. -/
theorem mem_encodePart {s : List Char} {c : Char} (hc : c ∈ encodePart s) :
    stays c = true ∨ c = '+' ∨ c = '%' := by
  rw [encodePart, List.mem_flatMap] at hc
  obtain ⟨d, -, hc⟩ := hc
  split at hc
  · exact .inr (.inl (List.mem_singleton.1 hc))
  · rw [Percent.encode, List.flatMap_singleton] at hc
    split at hc
    · rename_i hKept
      rw [List.mem_singleton.1 hc]
      exact .inl hKept.2
    · obtain ⟨b, -, hc⟩ := List.mem_flatMap.1 hc
      obtain rfl | hAlphanum := Percent.mem_encodeByte hc
      · exact .inr (.inr rfl)
      · exact .inl (by rw [stays, hAlphanum]; rfl)

theorem not_mem_encodePart {c : Char} (hStays : stays c = false) (hPlus : c ≠ '+') (hPercent : c ≠ '%')
    (s : List Char) : c ∉ encodePart s := by
  intro hc
  obtain hc | hc | hc := mem_encodePart hc
  · exact ne_of_told hc hStays rfl
  · exact hPlus hc
  · exact hPercent hc

theorem decodeFrom_encodeChar (c : Char) (done rest : List UInt8) :
    Percent.decodeFrom done
        (Utf8.encode ((if c = ' ' then ['+'] else Percent.encode stays [c]).map readPlus) ++ rest) =
      Percent.decodeFrom ((String.utf8EncodeChar c).reverse ++ done) rest := by
  split
  · rename_i hBlank
    subst hBlank
    exact Percent.decodeFrom_plain (by decide) done rest
  · rw [Percent.encode, List.flatMap_singleton]
    split
    · rename_i hKept
      obtain ⟨b, hPlain, hByte⟩ := Percent.encodeChar_plain hKept.1 (ne_of_told hKept.2 rfl)
      rw [List.map_singleton, readPlus_other (ne_of_told hKept.2 rfl), Utf8.encode, List.flatMap_singleton, hByte]
      exact Percent.decodeFrom_plain hPlain done rest
    · have hSame : ((String.utf8EncodeChar c).flatMap Percent.encodeByte).map readPlus =
          (String.utf8EncodeChar c).flatMap Percent.encodeByte := by
        refine (List.map_congr_left fun d hd => readPlus_other ?_).trans (List.map_id _)
        obtain ⟨b, -, hd⟩ := List.mem_flatMap.1 hd
        obtain rfl | hAlphanum := Percent.mem_encodeByte hd
        · decide
        · exact ne_of_told hAlphanum rfl
      rw [hSame, Percent.decodeFrom_encodeBytes]

theorem decodeFrom_encodePart (s : List Char) (done rest : List UInt8) :
    Percent.decodeFrom done (Utf8.encode ((encodePart s).map readPlus) ++ rest) =
      Percent.decodeFrom ((Utf8.encode s).reverse ++ done) rest := by
  induction s generalizing done with
  | nil => rfl
  | cons c s ih =>
    rw [encodePart] at ih
    rw [encodePart, List.flatMap_cons, List.map_append, Utf8.encode_append, List.append_assoc, decodeFrom_encodeChar,
      ih, Utf8.encode_cons, List.reverse_append, List.append_assoc]

theorem decodePart_encodePart (s : String) : decodePart (encodePart s.toList) = s := by
  have hBytes : Percent.decode (Utf8.encode ((encodePart s.toList).map readPlus)) = Utf8.encode s.toList := by
    have hFrom := decodeFrom_encodePart s.toList [] []
    rwa [List.append_nil, List.append_nil, Percent.decodeFrom, List.reverse_reverse] at hFrom
  calc decodePart (encodePart s.toList)
    _ = Utf8.toStringLossy (Percent.decode (Utf8.encode ((encodePart s.toList).map readPlus))) := rfl
    _ = s := by rw [hBytes, Utf8.toStringLossy_encode, String.ofList_toList]

theorem decodePair_encodePair (p : String × String) : decodePair (encodePair p) = p := by
  have hName : ∀ c ∈ encodePart p.1.toList, decide (c ≠ '=') = true := by
    intro c hc
    refine decide_eq_true ?_
    rintro rfl
    exact not_mem_encodePart rfl (by decide) (by decide) _ hc
  rw [decodePair, encodePair, List.takeWhile_append_of_pos hName, List.dropWhile_append_of_pos hName]
  simp [decodePart_encodePart]

/-- A form body gives back its pairs. -/
theorem decode_encode (pairs : List (String × String)) : decode (encode pairs) = pairs := by
  cases pairs with
  | nil => rfl
  | cons p pairs =>
    generalize hAll : p :: pairs = all
    have hSome : all.map encodePair ≠ [] := by
      rw [← hAll]
      exact List.cons_ne_nil _ _
    have hPieces : ∀ piece ∈ all.map encodePair, ∀ c ∈ piece, (c == '&') = false := by
      intro piece hPiece c hc
      obtain ⟨q, -, rfl⟩ := List.mem_map.1 hPiece
      refine beq_false_of_ne ?_
      rintro rfl
      rw [encodePair, List.mem_append, List.mem_cons] at hc
      obtain hc | hc | hc := hc
      · exact not_mem_encodePart rfl (by decide) (by decide) _ hc
      · cases hc
      · exact not_mem_encodePart rfl (by decide) (by decide) _ hc
    have hFull : ∀ piece ∈ all.map encodePair, (!piece.isEmpty) = true := by
      intro piece hPiece
      obtain ⟨q, -, rfl⟩ := List.mem_map.1 hPiece
      simp [encodePair]
    have hSplit : splitWhere (· == '&') (encode all).toList = all.map encodePair := by
      rw [encode, String.toList_ofList]
      exact splitWhere_intercalate rfl hSome hPieces
    rw [decode, hSplit, List.filter_eq_self.2 hFull, List.map_map]
    refine (List.map_congr_left fun q _ => ?_).trans (List.map_id _)
    exact decodePair_encodePair q

end Form

end BearerTokens.Text
