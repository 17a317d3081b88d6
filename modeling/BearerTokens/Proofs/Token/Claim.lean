import BearerTokens.Proofs.Json.Integer
import BearerTokens.Proofs.Json.Value
import BearerTokens.Proofs.Text.Base64Url
import BearerTokens.Token.Held

/-!
# The claim in a token

Which tokens tell their own end: three parts between dots, of which the middle one is the encoding of an object, and
the last member named `exp` of this object is a number of seconds. An integer is taken exactly and any other number to
the millisecond. Where a token tells its end, nothing else is asked.
-/

set_option autoImplicit false

namespace BearerTokens.Expiry

open BearerTokens.Json BearerTokens.Number BearerTokens.Text BearerTokens.Time

theorem ne_dot_of_not_mem {s : List Char} (h : '.' ∉ s) : ∀ c ∈ s, decide (c ≠ '.') = true := by
  intro c hc
  rw [decide_eq_true_iff]
  rintro rfl
  exact h hc

theorem takeWhile_dot {s : List Char} (h : '.' ∉ s) (rest : List Char) :
    (s ++ '.' :: rest).takeWhile (· ≠ '.') = s := by
  rw [List.takeWhile_append_of_pos (ne_dot_of_not_mem h)]
  simp

theorem dropWhile_dot {s : List Char} (h : '.' ∉ s) (rest : List Char) :
    (s ++ '.' :: rest).dropWhile (· ≠ '.') = '.' :: rest := by
  rw [List.dropWhile_append_of_pos (ne_dot_of_not_mem h)]
  simp

theorem exists_dot {s rest : List Char} {c : Char} (h : s.dropWhile (· ≠ '.') = c :: rest) :
    s = s.takeWhile (· ≠ '.') ++ '.' :: rest ∧ '.' ∉ s.takeWhile (· ≠ '.') := by
  constructor
  · have hHead := List.head?_dropWhile_not (· ≠ '.') s
    rw [h] at hHead
    obtain rfl : c = '.' := by simpa using hHead
    rw [← h, List.takeWhile_append_dropWhile]
  · intro hMem
    simpa using List.mem_takeWhile_imp hMem

theorem payload?_eq_some_iff {token payload : List Char} :
    payload? token = some payload ↔ ∃ header signature, token = header ++ '.' :: (payload ++ '.' :: signature) ∧
      '.' ∉ header ∧ '.' ∉ payload ∧ '.' ∉ signature := by
  constructor
  · intro hPayload
    unfold payload? at hPayload
    split at hPayload
    · cases hPayload
    · rename_i c rest hFirst
      split at hPayload
      · cases hPayload
      · rename_i c' signature hSecond
        split_ifs at hPayload with hDot
        cases hPayload
        obtain ⟨hToken, hHeader⟩ := exists_dot hFirst
        obtain ⟨hRest, hMiddle⟩ := exists_dot hSecond
        rw [List.contains_iff_mem] at hDot
        exact ⟨_, signature, by rw [← hRest, ← hToken], hHeader, hMiddle, hDot⟩
  · rintro ⟨header, signature, rfl, hHeader, hPayload, hSignature⟩
    have hNone : signature.contains '.' = false := by simpa using hSignature
    simp only [payload?, dropWhile_dot hHeader, dropWhile_dot hPayload, takeWhile_dot hPayload, hNone]
    rfl

theorem exists_padding (s : List Char) : ∃ k, s = withoutPadding s ++ List.replicate k '=' := by
  have hSplit := List.takeWhile_append_dropWhile (p := fun c => decide (c = '=')) (l := s.reverse)
  have hPadding : s.reverse.takeWhile (· = '=') = List.replicate (s.reverse.takeWhile (· = '=')).length '=' := by
    rw [List.eq_replicate_iff]
    exact ⟨rfl, fun c hc => by simpa using List.mem_takeWhile_imp hc⟩
  refine ⟨(s.reverse.takeWhile (· = '=')).length, ?_⟩
  rw [← List.reverse_inj, List.reverse_append, List.reverse_replicate, withoutPadding, List.reverse_reverse,
    ← hPadding, hSplit]

theorem withoutPadding_append {s : List Char} (h : '=' ∉ s) (k : Nat) :
    withoutPadding (s ++ List.replicate k '=') = s := by
  have hPadding : ∀ c ∈ List.replicate k '=', decide (c = '=') = true := by
    intro c hc
    simpa using List.eq_of_mem_replicate hc
  have hEnd : s.reverse.dropWhile (· = '=') = s.reverse := by
    cases hReverse : s.reverse with
    | nil => rfl
    | cons c t =>
      have hMem : c ∈ s := by
        rw [← List.mem_reverse, hReverse]
        exact List.mem_cons_self
      have hc : c ≠ '=' := by
        rintro rfl
        exact h hMem
      simp [hc]
  rw [withoutPadding, List.reverse_append, List.reverse_replicate, List.dropWhile_append_of_pos hPadding, hEnd,
    List.reverse_reverse]

/-- Padding is accepted in any amount, and otherwise only the encoding itself. -/
theorem decode_withoutPadding_iff {s : List Char} {bytes : List UInt8} :
    Base64Url.decode (withoutPadding s) = some bytes ↔ ∃ k, s = Base64Url.encode bytes ++ List.replicate k '=' := by
  rw [Base64Url.decode_eq_some_iff]
  constructor
  · intro hDecode
    obtain ⟨k, hShape⟩ := exists_padding s
    exact ⟨k, by rw [← hDecode, ← hShape]⟩
  · rintro ⟨k, rfl⟩
    exact withoutPadding_append (Base64Url.not_mem_encode bytes).1 k

/-- The middle one of three parts of the token is the encoding of an object with these members. Nothing is asked of
the other two. -/
inductive HasClaims (token : String) (ms : List (String × Bytes)) : Prop where
  | intro {header signature : List Char} {padding : Nat} {w doc w' : Bytes}
      (hToken : token.toList = header ++ '.' :: (Base64Url.encode (w ++ (doc ++ w')) ++ List.replicate padding '=' ++
        '.' :: signature))
      (hHeader : '.' ∉ header) (hSignature : '.' ∉ signature) (hBefore : Blanks w) (hAfter : Blanks w')
      (hDoc : IsObject doc ms) (hValues : ∀ m ∈ ms, ∃ x, Denotes (depthLimit - 1) m.2 x)

theorem not_mem_padded (bytes : List UInt8) (k : Nat) :
    '.' ∉ Base64Url.encode bytes ++ List.replicate k '=' := by
  rw [List.mem_append, not_or]
  refine ⟨(Base64Url.not_mem_encode bytes).2, fun hMem => ?_⟩
  cases List.eq_of_mem_replicate hMem

theorem claims?_eq_some_iff {token : String} {members : Members} :
    claims? token = some members ↔ ∃ payload bytes, payload? token.toList = some payload ∧
      Base64Url.decode (withoutPadding payload) = some bytes ∧
      document (value depthLimit) bytes = .ok (.object members) := by
  unfold claims?
  constructor
  · intro hClaims
    split at hClaims
    · cases hClaims
    · rename_i payload hPayload
      split at hClaims
      · cases hClaims
      · rename_i bytes hBytes
        split at hClaims
        · rename_i members' hDocument
          cases hClaims
          exact ⟨payload, bytes, hPayload, hBytes, hDocument⟩
        · cases hClaims
  · rintro ⟨payload, bytes, hPayload, hBytes, hDocument⟩
    simp only [hPayload, hBytes, hDocument]

theorem hasClaims_of_claims? {token : String} {members : Members} (hClaims : claims? token = some members) :
    ∃ ms, HasClaims token ms ∧ HoldsMembers (Denotes (depthLimit - 1)) ms members := by
  obtain ⟨payload, bytes, hPayload, hBytes, hDocument⟩ := claims?_eq_some_iff.1 hClaims
  obtain ⟨header, signature, hToken, hHeader, -, hSignature⟩ := payload?_eq_some_iff.1 hPayload
  obtain ⟨padding, rfl⟩ := decode_withoutPadding_iff.1 hBytes
  obtain ⟨w, doc, w', ms, rfl, hBefore, hAfter, hDoc, hHolds⟩ := objectDocument_eq_ok.1 hDocument
  exact ⟨ms, .intro hToken hHeader hSignature hBefore hAfter hDoc hHolds.exists_value, hHolds⟩

theorem HasClaims.exists_claims {token : String} {ms : List (String × Bytes)} (h : HasClaims token ms) :
    ∃ members, claims? token = some members ∧ HoldsMembers (Denotes (depthLimit - 1)) ms members := by
  cases h with
  | @intro header signature padding w doc w' hToken hHeader hSignature hBefore hAfter hDoc hValues =>
    obtain ⟨members, hHolds⟩ := exists_holdsMembers hValues
    have hPayload := payload?_eq_some_iff.2 ⟨header, signature, hToken, hHeader, not_mem_padded _ padding, hSignature⟩
    have hBytes : Base64Url.decode (withoutPadding (Base64Url.encode (w ++ (doc ++ w')) ++ List.replicate padding '=')) =
        some (w ++ (doc ++ w')) := decode_withoutPadding_iff.2 ⟨padding, rfl⟩
    have hDocument := objectDocument_eq_ok.2 ⟨w, doc, w', ms, rfl, hBefore, hAfter, hDoc, hHolds⟩
    exact ⟨members, claims?_eq_some_iff.2 ⟨_, _, hPayload, hBytes, hDocument⟩, hHolds⟩

/-- A number that is no integer is taken to the millisecond. -/
theorem fromFloat_near {x : Binary64} {t : Instant} (h : instantOf?.fromFloat x = some t) :
    ∃ q, x.value? = some q ∧ 1000000 ∣ t.nanos ∧ |(t.nanos : ℚ) - q * 1000000000| < 1000000 := by
  unfold instantOf?.fromFloat at h
  split_ifs at h with hFinite
  obtain ⟨q, hValue⟩ := Binary64.isFinite_iff.1 hFinite
  obtain ⟨nanos, hNanos, hInstant⟩ := Option.bind_eq_some_iff.1 h
  obtain ⟨k, hMillis, hNanos⟩ := Option.bind_eq_some_iff.1 hNanos
  have hk : t.nanos = k * 1000000 := by
    unfold nanosOfMillis? at hNanos
    dsimp only at hNanos
    split_ifs at hNanos
    cases hNanos
    exact Instant.ofNanos?_eq_some_iff.1 hInstant
  have hThousand : (Binary64.ofNat 1000).value? = some 1000 := by decide +kernel
  obtain ⟨p, hProduct, hRounded⟩ := Binary64.round?_near hMillis
  have hNear := Binary64.mulNat_near hValue hThousand hProduct
  refine ⟨q, hValue, ⟨k, by rw [hk, mul_comm]⟩, ?_⟩
  -- the calendar bounds the product, and so the error of rounding it
  have hStart := t.earliest_le
  have hEnd := t.le_latest
  simp only [earliest, latest, second] at hStart hEnd
  have hBound : |(k : ℚ)| ≤ 400000000000000 := by
    rw [abs_le]
    constructor
    · exact_mod_cast (by omega : (-400000000000000 : Int) ≤ k)
    · exact_mod_cast (by omega : k ≤ 400000000000000)
  have hLeast := Binary64.least_le
  have hSmall : |q * 1000| ≤ 500000000000000 := by
    have hTriangle := abs_sub_abs_le_abs_sub (q * 1000) p
    have hTriangle' := abs_sub_abs_le_abs_sub p k
    rw [abs_sub_comm] at hTriangle hTriangle'
    linarith
  have hError : |(k : ℚ) - q * 1000| < 1 := by
    have hTriangle := abs_sub_le (k : ℚ) p (q * 1000)
    linarith
  calc
    |(t.nanos : ℚ) - q * 1000000000| = |((k : ℚ) - q * 1000) * 1000000| := by
      rw [hk]
      congr 1
      push_cast
      ring
    _ = |(k : ℚ) - q * 1000| * 1000000 := by rw [abs_mul, abs_of_pos (by norm_num : (0 : ℚ) < 1000000)]
    _ < 1000000 := by linarith

theorem fromFloat_of_isLarge {x : Binary64} (h : IsLarge x) : instantOf?.fromFloat x = none := by
  cases hInstant : instantOf?.fromFloat x with
  | none => rfl
  | some t =>
    obtain ⟨q, hValue, -, hNear⟩ := fromFloat_near hInstant
    have hStart := t.earliest_le
    have hEnd := t.le_latest
    simp only [earliest, latest, second] at hStart hEnd
    have hBound : |(t.nanos : ℚ)| ≤ 400000000000000000000 := by
      rw [abs_le]
      constructor
      · exact_mod_cast (by omega : (-400000000000000000000 : Int) ≤ t.nanos)
      · exact_mod_cast (by omega : t.nanos ≤ 400000000000000000000)
    have hLarge := h q hValue
    have hTriangle := abs_sub_abs_le_abs_sub (q * 1000000000) t.nanos
    rw [abs_sub_comm, abs_mul, abs_of_pos (by norm_num : (0 : ℚ) < 1000000000)] at hTriangle
    linarith

/-- An integer number of seconds is taken exactly, or it is out of the calendar. -/
theorem instantOf?_of_readsAs {n : Int} {x : Number} {t : Instant} (h : ReadsAs n x) :
    instantOf? x = some t ↔ t.nanos = n * second := by
  have hOutside (hFar : 2 ^ 63 ≤ |n|) : t.nanos ≠ n * second := by
    have hStart := t.earliest_le
    have hEnd := t.le_latest
    simp only [earliest, latest, second] at hStart hEnd ⊢
    rcases le_abs.1 hFar with hFar | hFar <;> omega
  cases h with
  | @natural m hValue hFits =>
    rw [instantOf?, Nat.pow_eq, if_pos hFits, Instant.ofSeconds?, Instant.ofNanos?_eq_some_iff, hValue]
  | @negative m hValue hFits =>
    rw [instantOf?, Instant.ofSeconds?, Instant.ofNanos?_eq_some_iff, hValue]
  | zero hValue =>
    have hZero : instantOf?.fromFloat (Binary64.ofNat 0).neg = Instant.ofNanos? 0 := by decide +kernel
    rw [instantOf?, hZero, Instant.ofNanos?_eq_some_iff, hValue, Int.zero_mul]
  | @longer m hValue hLarge =>
    rw [instantOf?, Nat.pow_eq, if_neg (Nat.not_lt.2 hLarge), fromFloat_of_isLarge (isLarge_ofNat (by omega))]
    have hFar : 2 ^ 63 ≤ |n| := by
      rw [hValue, abs_of_nonneg (Int.natCast_nonneg m)]
      exact_mod_cast hLarge
    exact iff_of_false (by simp) (hOutside hFar)
  | large hFar hLarge =>
    rw [instantOf?, fromFloat_of_isLarge hLarge]
    exact iff_of_false (by simp) (hOutside hFar)

variable {token : String} {ms : List (String × Bytes)} {v : Bytes} {t : Instant}

theorem readClaim?_of_hasClaims {n : Number} (h : HasClaims token ms) (hLast : IsLast "exp" ms v)
    (hNumeral : IsNumeral v n) : readClaim? token = instantOf? n := by
  obtain ⟨members, hClaims, hHolds⟩ := h.exists_claims
  obtain ⟨x, hMember, hDenotes⟩ := hLast.transport hHolds
  rw [hDenotes.unique (.number hNumeral _)] at hMember
  simp only [readClaim?, hClaims, Option.bind_some, Members.last?_eq_some_iff.2 hMember]

theorem readClaim?_eq_some_iff :
    readClaim? token = some t ↔
      ∃ ms v n, HasClaims token ms ∧ IsLast "exp" ms v ∧ IsNumeral v n ∧ instantOf? n = some t := by
  constructor
  · intro hRead
    unfold readClaim? at hRead
    split at hRead
    · rename_i n hExp
      obtain ⟨members, hClaims, hMember⟩ := Option.bind_eq_some_iff.1 hExp
      obtain ⟨ms, hHas, hHolds⟩ := hasClaims_of_claims? hClaims
      have hTurned : List.Forall₂ (fun x m => x.1 = m.1 ∧ Denotes (depthLimit - 1) m.2 x.2) members ms :=
        (hHolds.imp fun _ _ h => ⟨h.1.symm, h.2⟩).flip
      obtain ⟨v, hLast, hDenotes⟩ :=
        IsLast.transport (R := fun x v => Denotes (depthLimit - 1) v x) hTurned (Members.last?_eq_some_iff.1 hMember)
      exact ⟨ms, v, n, hHas, hLast, hDenotes.numeral, hRead⟩
    · cases hRead
  · rintro ⟨ms, v, n, hHas, hLast, hNumeral, hInstant⟩
    rw [readClaim?_of_hasClaims hHas hLast hNumeral, hInstant]

theorem ofClaim?_eq_some_iff :
    ofClaim? token = some t ↔ readClaim? token = some t ∧ earliest ≤ t.nanos - buffer := by
  have hBuffer : (t.sub? buffer).isSome = true ↔ earliest ≤ t.nanos - buffer := by
    rw [Option.isSome_iff_exists]
    constructor
    · rintro ⟨limit, hLimit⟩
      rw [← Instant.ofNanos?_eq_some_iff.1 hLimit]
      exact limit.earliest_le
    · intro hStart
      have hEnd : t.nanos - buffer ≤ latest := by
        have hLatest := t.le_latest
        simp only [buffer, second]
        omega
      exact ⟨_, Instant.ofNanos?_nanos ⟨t.nanos - buffer, hStart, hEnd⟩⟩
  simp only [ofClaim?, Option.filter_eq_some_iff, hBuffer]

/-- A member that is written as an integer is a number of seconds. -/
theorem ofClaim?_of_integer {n : Int} (h : HasClaims token ms) (hLast : IsLast "exp" ms v) (hInteger : IsInteger v n) :
    ofClaim? token = some t ↔ t.nanos = n * second ∧ earliest ≤ t.nanos - buffer := by
  obtain ⟨b, more, rfl, hFirst⟩ := hInteger.starts
  have hValues : ∀ m ∈ ms, ∃ x, Denotes (depthLimit - 1) m.2 x := by
    cases h with
    | intro _ _ _ _ _ _ hValues => exact hValues
  obtain ⟨x, hDenotes⟩ := hValues _ hLast.mem
  obtain ⟨y, hNumeral⟩ := hDenotes.exists_numeral hFirst
  rw [ofClaim?_eq_some_iff, readClaim?_of_hasClaims h hLast hNumeral,
    instantOf?_of_readsAs (hInteger.readsAs hNumeral)]

/-- How a token tells its own end. -/
structure TellsEnd (token : String) : Prop where
  accepted {t : Instant} : ofClaim? token = some t ↔ ∃ ms v n, HasClaims token ms ∧ IsLast "exp" ms v ∧
    IsNumeral v n ∧ instantOf? n = some t ∧ earliest ≤ t.nanos - buffer
  integer {t : Instant} {ms : List (String × Bytes)} {v : Bytes} {n : Int} : HasClaims token ms →
    IsLast "exp" ms v → IsInteger v n →
    (ofClaim? token = some t ↔ t.nanos = n * second ∧ earliest ≤ t.nanos - buffer)
  float {t : Instant} {ms : List (String × Bytes)} {v : Bytes} {x : Binary64} : HasClaims token ms →
    IsLast "exp" ms v → IsNumeral v (.real x) → ofClaim? token = some t →
    ∃ q, x.value? = some q ∧ 1000000 ∣ t.nanos ∧ |(t.nanos : ℚ) - q * 1000000000| < 1000000
  derived {t : Instant} (hClaim : ofClaim? token = some t) (told : Option Binary64) (now : Instant) :
    derive token told now = some (t, .jwtClaim)
  held {t : Instant} {r : TokenResponse} (hClaim : ofClaim? token = some t) (hToken : r.accessToken = ⟨token⟩)
    (now : Instant) : HeldToken.ofResponse? r now = some ⟨⟨token⟩, t, .jwtClaim⟩
  otherwise {told : Option Binary64} {now t : Instant} {source : ExpirySource} (hClaim : ofClaim? token = none)
    (hDerive : derive token told now = some (t, source)) : source = .expiresIn
  heldOtherwise {r : TokenResponse} {now : Instant} {h : HeldToken} (hClaim : ofClaim? token = none)
    (hToken : r.accessToken = ⟨token⟩) (hHeld : HeldToken.ofResponse? r now = some h) : h.source = .expiresIn

theorem source_of_derive {told : Option Binary64} {now : Instant} {source : ExpirySource}
    (hClaim : ofClaim? token = none) (hDerive : derive token told now = some (t, source)) : source = .expiresIn := by
  simp only [derive, hClaim, Option.map_eq_some_iff] at hDerive
  obtain ⟨_, -, hEq⟩ := hDerive
  cases hEq
  rfl

/-- The end that a token tells is read from its claim alone, and comes before everything that is told with it. -/
theorem token_tellsEnd (token : String) : TellsEnd token where
  accepted {t} := by
    rw [ofClaim?_eq_some_iff, readClaim?_eq_some_iff]
    constructor
    · rintro ⟨⟨ms, v, n, hHas, hLast, hNumeral, hInstant⟩, hStart⟩
      exact ⟨ms, v, n, hHas, hLast, hNumeral, hInstant, hStart⟩
    · rintro ⟨ms, v, n, hHas, hLast, hNumeral, hInstant, hStart⟩
      exact ⟨⟨ms, v, n, hHas, hLast, hNumeral, hInstant⟩, hStart⟩
  integer := ofClaim?_of_integer
  float hHas hLast hNumeral hClaim := by
    have hRead := (ofClaim?_eq_some_iff.1 hClaim).1
    rw [readClaim?_of_hasClaims hHas hLast hNumeral] at hRead
    exact fromFloat_near hRead
  derived hClaim told now := by simp only [derive, hClaim]
  held hClaim hToken now := by
    simp only [HeldToken.ofResponse?, hToken, derive, hClaim, Option.map_some]
  otherwise := source_of_derive
  heldOtherwise hClaim hToken hHeld := by
    obtain ⟨⟨t, source⟩, hDerive, rfl⟩ := Option.map_eq_some_iff.1 hHeld
    rw [hToken] at hDerive
    exact source_of_derive hClaim hDerive

/-- The object has one member, `exp`, with the seconds of the first day of 2025. -/
example : (ofClaim? "h.eyJleHAiOjE3MzU2ODk2MDB9.s").map Instant.nanos = some (1735689600 * second) := by
  decide +kernel

end BearerTokens.Expiry
