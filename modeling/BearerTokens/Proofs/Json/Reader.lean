import BearerTokens.Proofs.Json.Grammar

/-!
# Readers of JSON

What the typed readers take: a text, a number, or the word for nothing in its place, after blanks. What comes
next in an array or an object, and how the members of an object are read one after the other.
-/

set_option autoImplicit false

namespace BearerTokens.Json

open BearerTokens.Number BearerTokens.Text

theorem mapError_eq_ok {ε ε' α : Type} {f : ε → ε'} {r : Except ε α} {x : α} :
    r.mapError f = .ok x ↔ r = .ok x := by
  cases r <;> simp [Except.mapError]

theorem map_eq_ok {ε α γ : Type} {f : α → γ} {r : Except ε α} {y : γ} :
    r.map f = .ok y ↔ ∃ x, r = .ok x ∧ f x = y := by
  cases r <;> simp [Except.map]

/-- A reader takes blanks and a text that spells a value, and nothing else. -/
structure Reads {α : Type} (read : Reader α) (spells : Bytes → α → Prop) : Prop where
  sound {s rest : Bytes} {x : α} : read s = .ok (x, rest) →
    ∃ w v, s = w ++ (v ++ rest) ∧ Blanks w ∧ spells v x
  complete {w v rest : Bytes} {x : α} : Blanks w → spells v x → EndsNumber rest →
    read (w ++ (v ++ rest)) = .ok (x, rest)
  value {v : Bytes} {x : α} : spells v x → IsValue v

def IsText (v : Bytes) (text : String) : Prop :=
  ∃ inner, v = 0x22 :: (inner ++ [0x22]) ∧ Spells inner (Utf8.ofString text)

def IsFloat (v : Bytes) (x : Binary64) : Prop :=
  ∃ n, IsNumeral v n ∧ n.toBinary64 = x

def OrNull {α : Type} (spells : Bytes → α → Prop) (v : Bytes) : Option α → Prop
  | none => v = 0x6E :: ull
  | some x => spells v x

theorem text_reads : Reads text IsText where
  sound {s rest x} hRead := by
    obtain ⟨w, hBlanks, hShape, -⟩ := exists_blanks s
    unfold text at hRead
    split at hRead
    · rename_i more hSkip
      obtain ⟨inner, rfl, hSpells⟩ := string_eq_ok.1 hRead
      rw [hSkip] at hShape
      exact ⟨w, _, by rw [hShape]; simp, hBlanks, inner, rfl, hSpells⟩
    · cases hRead
  complete {w v rest x} hBlanks hText _ := by
    obtain ⟨inner, rfl, hSpells⟩ := hText
    rw [text, skipBlanks_append hBlanks, List.cons_append, skipBlanks_cons rfl]
    exact string_eq_ok.2 ⟨inner, by simp, hSpells⟩
  value hText := by
    obtain ⟨inner, rfl, hSpells⟩ := hText
    exact .string hSpells.scans

theorem float_reads : Reads float IsFloat where
  sound {s rest x} hRead := by
    obtain ⟨w, hBlanks, hShape, -⟩ := exists_blanks s
    unfold float at hRead
    split at hRead
    · cases hRead
    · rename_i b more hSkip
      split at hRead
      · cases hNumber : number (b :: more) with
        | error fault =>
          rw [hNumber] at hRead
          cases hRead
        | ok result =>
          rw [hNumber] at hRead
          cases hRead
          obtain ⟨v, hNumeral, hValue⟩ := isNumeral_of_number hNumber
          exact ⟨w, v, by rw [← hNumeral, ← hSkip, ← hShape], hBlanks, _, hValue, rfl⟩
      · cases hRead
  complete {w v rest x} hBlanks hFloat hRest := by
    obtain ⟨n, hNumeral, rfl⟩ := hFloat
    obtain ⟨b, t, rfl, hStarts, hFirst⟩ := hNumeral.isNumber.starts
    rw [float, skipBlanks_append hBlanks, List.cons_append, skipBlanks_cons (not_blank_of_startsValue hStarts)]
    have hNumber := hNumeral.number_append hRest
    rw [List.cons_append] at hNumber
    simp only [if_pos hFirst, hNumber]
    rfl
  value hFloat := by
    obtain ⟨n, hNumeral, -⟩ := hFloat
    exact .number hNumeral.isNumber

theorem Reads.orNull {α : Type} {read : Reader α} {spells : Bytes → α → Prop} (h : Reads read spells)
    (hOther : ∀ v x, spells v x → v.head? ≠ some 0x6E) : Reads (nullable read) (OrNull spells) where
  sound {s rest x} hRead := by
    obtain ⟨w, hBlanks, hShape, -⟩ := exists_blanks s
    unfold nullable at hRead
    split at hRead
    · rename_i more hSkip
      cases hWord : word ull more with
      | error fault =>
        rw [hWord] at hRead
        cases hRead
      | ok after =>
        rw [hWord] at hRead
        cases hRead
        rw [word_eq_ok.1 hWord] at hSkip
        exact ⟨w, 0x6E :: ull, by rw [hShape, hSkip]; rfl, hBlanks, rfl⟩
    · cases hInner : read (skipBlanks s) with
      | error fault =>
        rw [hInner] at hRead
        cases hRead
      | ok result =>
        rw [hInner] at hRead
        cases hRead
        obtain ⟨w', v, hSkip, hBlanks', hSpells⟩ := h.sound hInner
        exact ⟨w ++ w', v, by rw [hShape, hSkip, List.append_assoc], hBlanks.append hBlanks', hSpells⟩
  complete {w v rest x} hBlanks hSpells hRest := by
    cases x with
    | none =>
      cases hSpells
      rw [nullable, skipBlanks_append hBlanks, List.cons_append, skipBlanks_cons rfl]
      simp only [word_eq_ok.2 rfl]
      rfl
    | some x =>
      obtain ⟨b, t, rfl, hFirst⟩ := (h.value hSpells).starts
      have hRead := h.complete .nil hSpells hRest
      have hNull : b ≠ 0x6E := fun hb => hOther _ _ hSpells (by rw [hb]; rfl)
      rw [List.nil_append, List.cons_append] at hRead
      unfold nullable
      rw [skipBlanks_append hBlanks, List.cons_append, skipBlanks_cons (not_blank_of_startsValue hFirst)]
      split
      · rename_i hShape
        exact absurd (List.cons.inj hShape).1 hNull
      · rw [hRead]
        rfl
  value {v x} hSpells := by
    cases x with
    | none =>
      cases hSpells
      exact .null
    | some x => exact h.value hSpells

inductive KeyAt : Bool → Bytes → Next → Prop where
  | closed {first : Bool} {w rest : Bytes} (hBlanks : Blanks w) : KeyAt first (w ++ 0x7D :: rest) (.closed rest)
  | first {w rest : Bytes} (hBlanks : Blanks w) : KeyAt true (w ++ 0x22 :: rest) (.more rest)
  | later {w u rest : Bytes} (hBlanks : Blanks w) (hBefore : Blanks u) :
      KeyAt false (w ++ 0x2C :: (u ++ 0x22 :: rest)) (.more rest)

theorem nextKey_eq_ok {first : Bool} {s : Bytes} {next : Next} :
    nextKey first s = .ok next ↔ KeyAt first s next := by
  constructor
  · intro hNext
    obtain ⟨w, hBlanks, hShape, -⟩ := exists_blanks s
    unfold nextKey at hNext
    cases hSkip : skipBlanks s with
    | nil =>
      simp only [hSkip] at hNext
      cases hNext
    | cons b more =>
      rw [hShape, hSkip]
      simp only [hSkip] at hNext
      split_ifs at hNext with hClosing hFirst hQuote hComma
      · cases hNext
        rw [hClosing]
        exact .closed hBlanks
      · cases hNext
        rw [hFirst, hQuote]
        exact .first hBlanks
      · obtain ⟨u, hBefore, hInner, -⟩ := exists_blanks more
        cases hSkip' : skipBlanks more with
        | nil =>
          simp only [hSkip'] at hNext
          cases hNext
        | cons c more' =>
          simp only [hSkip'] at hNext
          split_ifs at hNext with hQuote
          cases hNext
          rw [hComma, hInner, hSkip', hQuote, Bool.eq_false_iff.2 hFirst]
          exact .later hBlanks hBefore
  · intro h
    cases h with
    | closed hBlanks =>
      rw [nextKey, skipBlanks_append hBlanks, skipBlanks_cons rfl]
      rfl
    | first hBlanks =>
      rw [nextKey, skipBlanks_append hBlanks, skipBlanks_cons rfl]
      rfl
    | @later w u rest hBlanks hBefore =>
      have hQuote : skipBlanks (u ++ 0x22 :: rest) = 0x22 :: rest := by
        rw [skipBlanks_append hBefore, skipBlanks_cons rfl]
      rw [nextKey, skipBlanks_append hBlanks, skipBlanks_cons rfl]
      simp [hQuote]

inductive ElementAt : Bool → Bytes → Next → Prop where
  | closed {first : Bool} {w rest : Bytes} (hBlanks : Blanks w) : ElementAt first (w ++ 0x5D :: rest) (.closed rest)
  | first {w rest : Bytes} {b : UInt8} (hBlanks : Blanks w) (hBlank : isBlankByte b = false) (hClosing : b ≠ 0x5D) :
      ElementAt true (w ++ b :: rest) (.more (b :: rest))
  | later {w u rest : Bytes} {b : UInt8} (hBlanks : Blanks w) (hBefore : Blanks u) (hBlank : isBlankByte b = false)
      (hClosing : b ≠ 0x5D) : ElementAt false (w ++ 0x2C :: (u ++ b :: rest)) (.more (b :: rest))

theorem nextElement_eq_ok {first : Bool} {s : Bytes} {next : Next} :
    nextElement first s = .ok next ↔ ElementAt first s next := by
  constructor
  · intro hNext
    obtain ⟨w, hBlanks, hShape, hHead⟩ := exists_blanks s
    unfold nextElement at hNext
    cases hSkip : skipBlanks s with
    | nil =>
      simp only [hSkip] at hNext
      cases hNext
    | cons b more =>
      rw [hShape, hSkip]
      simp only [hSkip] at hNext hHead
      split_ifs at hNext with hClosing hFirst hComma
      · cases hNext
        rw [hClosing]
        exact .closed hBlanks
      · cases hNext
        rw [hFirst]
        exact .first hBlanks (hHead b rfl) hClosing
      · obtain ⟨u, hBefore, hInner, hHead'⟩ := exists_blanks more
        cases hSkip' : skipBlanks more with
        | nil =>
          simp only [hSkip'] at hNext
          cases hNext
        | cons c more' =>
          simp only [hSkip'] at hNext hHead'
          split_ifs at hNext with hClosing'
          cases hNext
          rw [hComma, hInner, hSkip', Bool.eq_false_iff.2 hFirst]
          exact .later hBlanks hBefore (hHead' c rfl) hClosing'
  · intro h
    cases h with
    | closed hBlanks =>
      rw [nextElement, skipBlanks_append hBlanks, skipBlanks_cons rfl]
      rfl
    | first hBlanks hBlank hClosing =>
      rw [nextElement, skipBlanks_append hBlanks, skipBlanks_cons hBlank]
      simp [hClosing]
    | @later w u rest b hBlanks hBefore hBlank hClosing =>
      have hInner : skipBlanks (u ++ b :: rest) = b :: rest := by
        rw [skipBlanks_append hBefore, skipBlanks_cons hBlank]
      rw [nextElement, skipBlanks_append hBlanks, skipBlanks_cons rfl]
      simp [hInner, hClosing]

theorem ElementAt.first_value {w v : Bytes} (hBlanks : Blanks w) (hValue : IsValue v) (rest : Bytes) :
    ElementAt true (w ++ (v ++ rest)) (.more (v ++ rest)) := by
  obtain ⟨b, t, rfl, hFirst⟩ := hValue.starts
  exact .first hBlanks (not_blank_of_startsValue hFirst) (not_closing_of_startsValue hFirst)

theorem ElementAt.later_value {w u v : Bytes} (hBlanks : Blanks w) (hBefore : Blanks u) (hValue : IsValue v)
    (rest : Bytes) : ElementAt false (w ++ 0x2C :: (u ++ (v ++ rest))) (.more (v ++ rest)) := by
  obtain ⟨b, t, rfl, hFirst⟩ := hValue.starts
  exact .later hBlanks hBefore (not_blank_of_startsValue hFirst) (not_closing_of_startsValue hFirst)

/-- What has been read when the members of an object are read to their end. -/
theorem membersFrom_cases {ε σ : Type} {rules : MemberRules ε σ} {state state' : σ} {first : Bool} {fuel : Nat}
    {s rest : Bytes} (hRead : membersFrom rules state first fuel s = .ok (state', rest)) :
    KeyAt first s (.closed rest) ∧ state' = state ∨
      ∃ k after name s₁ s₂ state₁ s₃, fuel = k + 1 ∧ KeyAt first s (.more after) ∧ string after = .ok (name, s₁) ∧
        rules.allow state name = .ok () ∧ colon s₁ = .ok s₂ ∧ rules.take state name s₂ = .ok (state₁, s₃) ∧
        membersFrom rules state₁ false k s₃ = .ok (state', rest) := by
  cases fuel with
  | zero => cases hRead
  | succ k =>
    unfold membersFrom at hRead
    split at hRead
    · cases hRead
    · rename_i hNext
      cases hRead
      exact .inl ⟨nextKey_eq_ok.1 hNext, rfl⟩
    · rename_i after hNext
      split at hRead
      · cases hRead
      rename_i name s₁ hName
      split at hRead
      · cases hRead
      rename_i hAllow
      split at hRead
      · cases hRead
      rename_i s₂ hColon
      split at hRead
      · cases hRead
      rename_i state₁ s₃ hTake
      exact .inr ⟨k, after, name, s₁, s₂, state₁, s₃, rfl, nextKey_eq_ok.1 hNext, hName, hAllow, hColon, hTake, hRead⟩

theorem membersFrom_more {ε σ : Type} {rules : MemberRules ε σ} {state state₁ : σ} {first : Bool}
    {s after s₁ s₂ s₃ : Bytes} {name : String} (hNext : KeyAt first s (.more after)) (hName : string after = .ok (name, s₁))
    (hAllow : rules.allow state name = .ok ()) (hColon : colon s₁ = .ok s₂)
    (hTake : rules.take state name s₂ = .ok (state₁, s₃)) (fuel : Nat) :
    membersFrom rules state first (fuel + 1) s = membersFrom rules state₁ false fuel s₃ := by
  simp only [membersFrom, nextKey_eq_ok.2 hNext, hName, hAllow, hColon, hTake]

theorem membersFrom_closed {ε σ : Type} {rules : MemberRules ε σ} {state : σ} {first : Bool} {s rest : Bytes}
    (hNext : KeyAt first s (.closed rest)) (fuel : Nat) :
    membersFrom rules state first (fuel + 1) s = .ok (state, rest) := by
  simp only [membersFrom, nextKey_eq_ok.2 hNext]

end BearerTokens.Json
