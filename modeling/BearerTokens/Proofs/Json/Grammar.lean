import BearerTokens.Proofs.Json.Number

/-!
# Values of JSON

The grammar of values of any kind, as the scan over unknown members takes them: the texts of strings do not
matter, numbers may be of any size, and nesting has no limit.
-/

set_option autoImplicit false

namespace BearerTokens.Json

/-- What a stretch of a document can be. -/
inductive Part where
  | value
  | elements
  | members

inductive IsPart : Part → Bytes → Prop where
  | null : IsPart .value (0x6E :: ull)
  | true : IsPart .value (0x74 :: rue)
  | false : IsPart .value (0x66 :: alse)
  | string {inner : Bytes} (h : Scans inner) : IsPart .value (0x22 :: (inner ++ [0x22]))
  | number {s : Bytes} (h : IsNumber s) : IsPart .value s
  | emptyArray {w : Bytes} (hBlanks : Blanks w) : IsPart .value (0x5B :: (w ++ [0x5D]))
  | array {s : Bytes} (h : IsPart .elements s) : IsPart .value (0x5B :: (s ++ [0x5D]))
  | emptyObject {w : Bytes} (hBlanks : Blanks w) : IsPart .value (0x7B :: (w ++ [0x7D]))
  | object {s : Bytes} (h : IsPart .members s) : IsPart .value (0x7B :: (s ++ [0x7D]))
  | element {w v w' : Bytes} (hBefore : Blanks w) (hValue : IsPart .value v) (hAfter : Blanks w') :
      IsPart .elements (w ++ (v ++ w'))
  | elements {w v w' s : Bytes} (hBefore : Blanks w) (hValue : IsPart .value v) (hAfter : Blanks w')
      (hMore : IsPart .elements s) : IsPart .elements (w ++ (v ++ (w' ++ 0x2C :: s)))
  | member {w key u u' v w' : Bytes} (hBefore : Blanks w) (hKey : Scans key) (hColon : Blanks u) (hColon' : Blanks u')
      (hValue : IsPart .value v) (hAfter : Blanks w') :
      IsPart .members (w ++ 0x22 :: (key ++ 0x22 :: (u ++ 0x3A :: (u' ++ (v ++ w')))))
  | members {w key u u' v w' s : Bytes} (hBefore : Blanks w) (hKey : Scans key) (hColon : Blanks u)
      (hColon' : Blanks u') (hValue : IsPart .value v) (hAfter : Blanks w') (hMore : IsPart .members s) :
      IsPart .members (w ++ 0x22 :: (key ++ 0x22 :: (u ++ 0x3A :: (u' ++ (v ++ (w' ++ 0x2C :: s))))))

abbrev IsValue : Bytes → Prop :=
  IsPart .value

def startsValue (b : UInt8) : Bool :=
  b == 0x6E || b == 0x74 || b == 0x66 || b == 0x22 || b == 0x2D || isDigit b || b == 0x5B || b == 0x7B

theorem IsNumber.starts {s : Bytes} (h : IsNumber s) :
    ∃ b t, s = b :: t ∧ startsValue b = true ∧ (b = 0x2D ∨ isDigit b = true) := by
  have hDigit {b : UInt8} (hb : isDigit b = true) : startsValue b = true := by
    simp [startsValue, hb]
  cases h with
  | plain h =>
    cases h with
    | zero => exact ⟨_, _, rfl, rfl, .inr rfl⟩
    | digits _ hDigits =>
      have hFirst := hDigits.all _ List.mem_cons_self
      exact ⟨_, _, rfl, hDigit hFirst, .inr hFirst⟩
  | minus => exact ⟨_, _, rfl, rfl, .inl rfl⟩

theorem IsValue.starts {v : Bytes} (h : IsValue v) : ∃ b t, v = b :: t ∧ startsValue b = true := by
  cases h with
  | number h =>
    obtain ⟨b, t, rfl, hFirst, -⟩ := h.starts
    exact ⟨b, t, rfl, hFirst⟩
  | _ => exact ⟨_, _, rfl, rfl⟩

theorem not_blank_of_startsValue {b : UInt8} (hb : startsValue b = true) : isBlankByte b = false := by
  rw [Bool.eq_false_iff]
  intro hBlank
  simp only [isBlankByte, Bool.or_eq_true, beq_iff_eq] at hBlank
  obtain ((rfl | rfl) | rfl) | rfl := hBlank <;> cases hb

theorem not_closing_of_startsValue {b : UInt8} (hb : startsValue b = true) : b ≠ 0x5D := by
  rintro rfl
  cases hb

theorem colon_eq_ok {s rest : Bytes} : colon s = .ok rest ↔ ∃ w, Blanks w ∧ s = w ++ 0x3A :: rest := by
  constructor
  · intro hColon
    obtain ⟨w, hBlanks, hShape, -⟩ := exists_blanks s
    unfold colon at hColon
    split at hColon
    · cases hColon
    · rename_i b more hSkip
      split at hColon
      · rename_i hb
        cases hColon
        rw [hSkip, hb] at hShape
        exact ⟨w, hBlanks, hShape⟩
      · cases hColon
  · rintro ⟨w, hBlanks, rfl⟩
    rw [colon, skipBlanks_append hBlanks, skipBlanks_cons rfl]
    rfl

theorem skipName_eq_ok {s rest : Bytes} :
    skipName s = .ok rest ↔ ∃ key u, s = key ++ 0x22 :: (u ++ 0x3A :: rest) ∧ Scans key ∧ Blanks u := by
  constructor
  · intro hSkip
    cases hKey : skipString s with
    | error fault =>
      rw [skipName, hKey] at hSkip
      cases hSkip
    | ok after =>
      rw [skipName, hKey] at hSkip
      obtain ⟨key, rfl, hScans⟩ := skipString_eq_ok.1 hKey
      obtain ⟨u, hBlanks, rfl⟩ := colon_eq_ok.1 hSkip
      exact ⟨key, u, rfl, hScans, hBlanks⟩
  · rintro ⟨key, u, rfl, hScans, hBlanks⟩
    rw [skipName, skipString_eq_ok.2 ⟨key, rfl, hScans⟩]
    exact colon_eq_ok.2 ⟨u, hBlanks, rfl⟩

theorem isValue_of_skipScalar {b : UInt8} {s rest : Bytes} (hSkip : skipScalar b s = .ok rest) :
    ∃ v, b :: s = v ++ rest ∧ IsValue v := by
  unfold skipScalar at hSkip
  split_ifs at hSkip with hNull hTrue hFalse hQuote hMinus hDigit
  · subst hNull
    rw [word_eq_ok.1 hSkip]
    exact ⟨_, rfl, .null⟩
  · subst hTrue
    rw [word_eq_ok.1 hSkip]
    exact ⟨_, rfl, .true⟩
  · subst hFalse
    rw [word_eq_ok.1 hSkip]
    exact ⟨_, rfl, .false⟩
  · subst hQuote
    obtain ⟨inner, rfl, hScans⟩ := skipString_eq_ok.1 hSkip
    exact ⟨0x22 :: (inner ++ [0x22]), by simp, .string hScans⟩
  · subst hMinus
    obtain ⟨lit, rfl, hForm⟩ := skipUnsigned_skips.sound hSkip
    exact ⟨0x2D :: lit, rfl, .number (.minus hForm)⟩
  · obtain ⟨lit, hShape, hForm⟩ := skipUnsigned_skips.sound hSkip
    exact ⟨lit, hShape, .number (.plain hForm)⟩

theorem skipScalar_number {b : UInt8} {s rest : Bytes} (h : IsNumber (b :: s)) (hRest : EndsNumber rest) :
    skipScalar b (s ++ rest) = .ok rest := by
  cases h with
  | minus h => exact skipUnsigned_skips.complete h hRest
  | plain h =>
    have hDigit : isDigit b = true := by
      cases h with
      | zero => rfl
      | digits _ hDigits => exact hDigits.all b List.mem_cons_self
    have hNe {c : UInt8} (hc : isDigit c = false) : b ≠ c := by
      rintro rfl
      rw [hc] at hDigit
      cases hDigit
    rw [skipScalar, if_neg (hNe rfl), if_neg (hNe rfl), if_neg (hNe rfl), if_neg (hNe rfl), if_neg (hNe rfl),
      if_pos hDigit]
    exact skipUnsigned_skips.complete h hRest

variable {stack stack' stack'' : List Bracket} {e e' e'' : Expecting} {s s' s'' w rest : Bytes}

/-- The scan comes from one place to another, through no more tokens than bytes. -/
def Passes (stack : List Bracket) (e : Expecting) (s : Bytes) (stack' : List Bracket) (e' : Expecting)
    (s' : Bytes) : Prop :=
  ∃ n, n + s'.length ≤ s.length ∧ ∀ fuel, skipFrom (n + fuel) stack e s = skipFrom fuel stack' e' s'

theorem Passes.trans (h : Passes stack e s stack' e' s') (h' : Passes stack' e' s' stack'' e'' s'') :
    Passes stack e s stack'' e'' s'' := by
  obtain ⟨n, hn, hFirst⟩ := h
  obtain ⟨m, hm, hSecond⟩ := h'
  refine ⟨n + m, by omega, fun fuel => ?_⟩
  rw [Nat.add_assoc, hFirst, hSecond]

theorem skipFrom_succ {b : UInt8} {more : Bytes} (hGoing : stack ≠ [] ∨ e ≠ .separator) (hBlanks : Blanks w)
    (hb : isBlankByte b = false) (hToken : skipToken stack e b more = .ok (stack', e', s')) (fuel : Nat) :
    skipFrom (fuel + 1) stack e (w ++ b :: more) = skipFrom fuel stack' e' s' := by
  have hNot : stack = [] → e = .separator → False := fun hStack hSeparator =>
    hGoing.elim (· hStack) (· hSeparator)
  rw [skipFrom.eq_3 _ _ _ _ hNot, skipBlanks_append hBlanks, skipBlanks_cons hb]
  simp only [hToken]

theorem Passes.token {b : UInt8} {more : Bytes} (hGoing : stack ≠ [] ∨ e ≠ .separator) (hBlanks : Blanks w)
    (hb : isBlankByte b = false) (hToken : skipToken stack e b more = .ok (stack', e', s'))
    (hLess : s'.length ≤ more.length) : Passes stack e (w ++ b :: more) stack' e' s' := by
  refine ⟨1, ?_, fun fuel => ?_⟩
  · rw [List.length_append, List.length_cons]
    omega
  · rw [Nat.add_comm]
    exact skipFrom_succ hGoing hBlanks hb hToken fuel

theorem skipFrom_cases {fuel : Nat} (hGoing : stack ≠ [] ∨ e ≠ .separator)
    (hSkip : skipFrom fuel stack e s = .ok rest) :
    ∃ k w b more stack' e' s', fuel = k + 1 ∧ Blanks w ∧ isBlankByte b = false ∧ s = w ++ b :: more ∧
      skipToken stack e b more = .ok (stack', e', s') ∧ skipFrom k stack' e' s' = .ok rest := by
  have hNot : stack = [] → e = .separator → False := fun hStack hSeparator =>
    hGoing.elim (· hStack) (· hSeparator)
  cases fuel with
  | zero =>
    rw [skipFrom.eq_2 _ _ _ hNot] at hSkip
    cases hSkip
  | succ k =>
    obtain ⟨w, hBlanks, hShape, hHead⟩ := exists_blanks s
    rw [skipFrom.eq_3 _ _ _ _ hNot] at hSkip
    cases hAfter : skipBlanks s with
    | nil =>
      rw [hAfter] at hSkip
      cases hSkip
    | cons b more =>
      rw [hAfter] at hSkip hShape hHead
      cases hToken : skipToken stack e b more with
      | error fault =>
        simp only [hToken] at hSkip
        cases hSkip
      | ok after =>
        simp only [hToken] at hSkip
        exact ⟨k, w, b, more, after.1, after.2.1, after.2.2, rfl, hBlanks, hHead b rfl, hShape, hToken, hSkip⟩

def AwaitsValue (e : Expecting) : Prop :=
  e = .value ∨ e = .firstElement .square

theorem AwaitsValue.skipToken_eq (hAwaits : AwaitsValue e) {b : UInt8} (hb : startsValue b = true) (more : Bytes) :
    skipToken stack e b more = skipToken stack .value b more := by
  obtain rfl | rfl := hAwaits
  · rfl
  · simp [skipToken, Bracket.closing, not_closing_of_startsValue hb]

theorem AwaitsValue.passes (hAwaits : AwaitsValue e) {b : UInt8} {more : Bytes} (hBlanks : Blanks w)
    (hb : startsValue b = true) (hToken : skipToken stack .value b more = .ok (stack', e', s'))
    (hLess : s'.length ≤ more.length) : Passes stack e (w ++ b :: more) stack' e' s' := by
  refine .token (.inr ?_) hBlanks (not_blank_of_startsValue hb) ((hAwaits.skipToken_eq hb more).trans hToken) hLess
  rintro rfl
  obtain h | h := hAwaits <;> cases h

theorem AwaitsValue.passes_scalar (hAwaits : AwaitsValue e) {b : UInt8} {more : Bytes} (hBlanks : Blanks w)
    (hb : startsValue b = true) (hScalar : b ≠ 0x5B ∧ b ≠ 0x7B) (hSkip : skipScalar b more = .ok rest) :
    Passes stack e (w ++ b :: more) stack .separator rest := by
  refine hAwaits.passes hBlanks hb ?_ ?_
  · simp only [skipToken, if_neg hScalar.1, if_neg hScalar.2, hSkip]
    rfl
  · obtain ⟨v, hShape, hValue⟩ := isValue_of_skipScalar hSkip
    obtain ⟨c, t, rfl, -⟩ := hValue.starts
    have hMore : more = t ++ rest := (List.cons.inj hShape).2
    rw [hMore, List.length_append]
    omega

/-- What the scan does on a part of a document, wherever it stands. -/
def Taken : Part → Bytes → Prop
  | .value, v => ∀ {stack e w rest}, AwaitsValue e → Blanks w → EndsNumber rest →
      Passes stack e (w ++ (v ++ rest)) stack .separator rest
  | .elements, s => ∀ {stack e rest}, AwaitsValue e →
      Passes (.square :: stack) e (s ++ 0x5D :: rest) stack .separator rest
  | .members, s => ∀ {stack e rest}, e = .name ∨ e = .firstElement .curly →
      Passes (.curly :: stack) e (s ++ 0x7D :: rest) stack .separator rest

theorem passes_closing {bracket : Bracket} (hBlanks : Blanks w) (rest : Bytes) :
    Passes (bracket :: stack) .separator (w ++ bracket.closing :: rest) stack .separator rest := by
  refine .token (.inl (List.cons_ne_nil _ _)) hBlanks ?_ ?_ (Nat.le_refl _) <;> cases bracket <;> rfl

theorem passes_comma {bracket : Bracket} (hBlanks : Blanks w) (rest : Bytes) :
    Passes (bracket :: stack) .separator (w ++ 0x2C :: rest) (bracket :: stack)
      (if bracket = .curly then .name else .value) rest :=
  .token (.inl (List.cons_ne_nil _ _)) hBlanks rfl rfl (Nat.le_refl _)

theorem passes_emptied {bracket : Bracket} (hBlanks : Blanks w) (rest : Bytes) :
    Passes (bracket :: stack) (.firstElement bracket) (w ++ bracket.closing :: rest) stack .separator rest := by
  refine .token (.inl (List.cons_ne_nil _ _)) hBlanks ?_ ?_ (Nat.le_refl _) <;> cases bracket <;> rfl

theorem passes_name {key u : Bytes} (hName : e = .name ∨ e = .firstElement .curly) (hBlanks : Blanks w)
    (hKey : Scans key) (hColon : Blanks u) (rest : Bytes) :
    Passes stack e (w ++ 0x22 :: (key ++ 0x22 :: (u ++ 0x3A :: rest))) stack .value rest := by
  have hSkip : skipName (key ++ 0x22 :: (u ++ 0x3A :: rest)) = .ok rest :=
    skipName_eq_ok.2 ⟨key, u, rfl, hKey, hColon⟩
  refine .token (.inr ?_) hBlanks rfl ?_ ?_
  · rintro rfl
    obtain h | h := hName <;> cases h
  · obtain rfl | rfl := hName <;>
    · simp only [skipToken, hSkip]
      rfl
  · simp
    omega

theorem IsPart.taken {part : Part} {s : Bytes} (h : IsPart part s) : Taken part s := by
  induction h with
  | null =>
    intro stack e w rest hAwaits hBlanks _
    exact hAwaits.passes_scalar hBlanks rfl (by decide) (word_eq_ok.2 rfl)
  | true =>
    intro stack e w rest hAwaits hBlanks _
    exact hAwaits.passes_scalar hBlanks rfl (by decide) (word_eq_ok.2 rfl)
  | false =>
    intro stack e w rest hAwaits hBlanks _
    exact hAwaits.passes_scalar hBlanks rfl (by decide) (word_eq_ok.2 rfl)
  | string hScans =>
    intro stack e w rest hAwaits hBlanks _
    refine hAwaits.passes_scalar hBlanks rfl (by decide) (skipString_eq_ok.2 ⟨_, ?_, hScans⟩)
    simp
  | number hNumber =>
    intro stack e w rest hAwaits hBlanks hRest
    obtain ⟨b, t, rfl, hStarts, hFirst⟩ := hNumber.starts
    refine hAwaits.passes_scalar hBlanks hStarts ?_ (skipScalar_number hNumber hRest)
    constructor <;>
    · rintro rfl
      obtain h | h := hFirst <;> cases h
  | emptyArray hInner =>
    intro stack e w rest hAwaits hBlanks _
    rw [List.cons_append, List.append_assoc]
    refine (hAwaits.passes hBlanks rfl rfl (Nat.le_refl _)).trans ?_
    exact passes_emptied hInner rest
  | array _ ih =>
    intro stack e w rest hAwaits hBlanks _
    rw [List.cons_append, List.append_assoc]
    refine (hAwaits.passes hBlanks rfl rfl (Nat.le_refl _)).trans ?_
    exact ih (.inr rfl)
  | emptyObject hInner =>
    intro stack e w rest hAwaits hBlanks _
    rw [List.cons_append, List.append_assoc]
    refine (hAwaits.passes hBlanks rfl rfl (Nat.le_refl _)).trans ?_
    exact passes_emptied hInner rest
  | object _ ih =>
    intro stack e w rest hAwaits hBlanks _
    rw [List.cons_append, List.append_assoc]
    refine (hAwaits.passes hBlanks rfl rfl (Nat.le_refl _)).trans ?_
    exact ih (.inr rfl)
  | element hBefore _ hAfter ih =>
    intro stack e rest hAwaits
    simp only [List.append_assoc]
    refine (ih hAwaits hBefore (.blanks hAfter (.cons (by decide) rest))).trans ?_
    exact passes_closing hAfter rest
  | elements hBefore _ hAfter _ ih ihMore =>
    intro stack e rest hAwaits
    simp only [List.append_assoc, List.cons_append]
    refine (ih hAwaits hBefore (.blanks hAfter (.cons (by decide) _))).trans ?_
    exact (passes_comma hAfter _).trans (ihMore (.inl rfl))
  | member hBefore hKey hColon hColon' _ hAfter ih =>
    intro stack e rest hName
    simp only [List.append_assoc, List.cons_append]
    refine (passes_name hName hBefore hKey hColon _).trans ?_
    refine (ih (.inl rfl) hColon' (.blanks hAfter (.cons (by decide) rest))).trans ?_
    exact passes_closing hAfter rest
  | members hBefore hKey hColon hColon' _ hAfter _ ih ihMore =>
    intro stack e rest hName
    simp only [List.append_assoc, List.cons_append]
    refine (passes_name hName hBefore hKey hColon _).trans ?_
    refine (ih (.inl rfl) hColon' (.blanks hAfter (.cons (by decide) _))).trans ?_
    exact (passes_comma hAfter _).trans (ihMore (.inl rfl))

theorem skipValue_append {v : Bytes} (hBlanks : Blanks w) (hValue : IsValue v) (hRest : EndsNumber rest) :
    skipValue (w ++ (v ++ rest)) = .ok rest := by
  have hTaken : Passes [] .value (w ++ (v ++ rest)) [] .separator rest := hValue.taken (.inl rfl) hBlanks hRest
  obtain ⟨n, hn, hPasses⟩ := hTaken
  have hFuel : (w ++ (v ++ rest)).length + 1 = n + ((w ++ (v ++ rest)).length + 1 - n) := by omega
  rw [skipValue, hFuel, hPasses]
  rw [skipFrom]

/-- Where the scan goes on, with less fuel, after it has taken something up to here. -/
def GoesOn (fuel : Nat) (stack : List Bracket) (s rest : Bytes) : Prop :=
  ∃ less < fuel, skipFrom less stack .separator s = .ok rest

structure Sound (fuel : Nat) : Prop where
  value {stack : List Bracket} {s rest : Bytes} : skipFrom fuel stack .value s = .ok rest →
    ∃ w v s', s = w ++ (v ++ s') ∧ Blanks w ∧ IsValue v ∧ GoesOn fuel stack s' rest
  elements {stack : List Bracket} {s rest : Bytes} : skipFrom fuel (.square :: stack) .value s = .ok rest →
    ∃ t s', s = t ++ 0x5D :: s' ∧ IsPart .elements t ∧ GoesOn fuel stack s' rest
  members {stack : List Bracket} {s rest : Bytes} : skipFrom fuel (.curly :: stack) .name s = .ok rest →
    ∃ t s', s = t ++ 0x7D :: s' ∧ IsPart .members t ∧ GoesOn fuel stack s' rest

theorem GoesOn.mono {fuel fuel' : Nat} (h : GoesOn fuel stack s rest) (hLess : fuel ≤ fuel') :
    GoesOn fuel' stack s rest :=
  let ⟨less, hFuel, hSkip⟩ := h
  ⟨less, Nat.lt_of_lt_of_le hFuel hLess, hSkip⟩

/-- After an element or a member, the bracket closes or a comma comes before the next one. -/
theorem GoesOn.separator_cases {fuel : Nat} {bracket : Bracket} (h : GoesOn fuel (bracket :: stack) s rest) :
    ∃ w s', Blanks w ∧ (s = w ++ bracket.closing :: s' ∧ GoesOn fuel stack s' rest ∨
      s = w ++ 0x2C :: s' ∧ ∃ less < fuel,
        skipFrom less (bracket :: stack) (if bracket = .curly then .name else .value) s' = .ok rest) := by
  obtain ⟨less, hFuel, hSkip⟩ := h
  obtain ⟨k, w, b, more, stack', e', s', rfl, hBlanks, -, rfl, hToken, hSkip⟩ :=
    skipFrom_cases (.inl (List.cons_ne_nil _ _)) hSkip
  refine ⟨w, more, hBlanks, ?_⟩
  simp only [skipToken] at hToken
  split_ifs at hToken with hComma hCurly hClosing
  all_goals cases hToken
  · rw [hComma]
    exact .inr ⟨rfl, k, by omega, by rwa [if_pos hCurly]⟩
  · rw [hComma]
    exact .inr ⟨rfl, k, by omega, by rwa [if_neg hCurly]⟩
  · rw [hClosing]
    exact .inl ⟨rfl, k, by omega, hSkip⟩

/-- After an opening bracket, it closes at once or its contents come. -/
theorem firstElement_cases {fuel : Nat} {bracket : Bracket}
    (hSkip : skipFrom fuel (bracket :: stack) (.firstElement bracket) s = .ok rest) :
    (∃ w s', Blanks w ∧ s = w ++ bracket.closing :: s' ∧ GoesOn fuel stack s' rest) ∨
      skipFrom fuel (bracket :: stack) (if bracket = .curly then .name else .value) s = .ok rest := by
  obtain ⟨k, w, b, more, stack', e', s', rfl, hBlanks, hb, rfl, hToken, hMore⟩ :=
    skipFrom_cases (.inr (by simp)) hSkip
  by_cases hClosing : b = bracket.closing
  · simp only [skipToken, if_pos hClosing] at hToken
    cases hToken
    exact .inl ⟨w, more, hBlanks, by rw [hClosing], k, by omega, hMore⟩
  · refine .inr ((skipFrom_succ (.inl (List.cons_ne_nil _ _)) hBlanks hb ?_ k).trans hMore)
    rw [← hToken]
    cases bracket <;> simp only [skipToken, if_neg hClosing] <;> rfl

theorem sound (fuel : Nat) : Sound fuel := by
  -- a value, the elements and the members go on into one another with less fuel only
  induction fuel using Nat.strongRecOn with
  | ind fuel ih =>
  have hValue {stack : List Bracket} {s rest : Bytes} (hSkip : skipFrom fuel stack .value s = .ok rest) :
      ∃ w v s', s = w ++ (v ++ s') ∧ Blanks w ∧ IsValue v ∧ GoesOn fuel stack s' rest := by
    obtain ⟨k, w, b, more, stack', e', s', rfl, hBlanks, -, rfl, hToken, hSkip⟩ :=
      skipFrom_cases (.inr (by simp)) hSkip
    have hLess : k < k + 1 := Nat.lt_succ_self k
    simp only [skipToken] at hToken
    split_ifs at hToken with hSquare hCurly
    · cases hToken
      rw [hSquare]
      obtain ⟨w', s', hInner, rfl, hAfter⟩ | hSkip := firstElement_cases hSkip
      · exact ⟨w, _, s', by simp [Bracket.closing], hBlanks, .emptyArray hInner, hAfter.mono hLess.le⟩
      · obtain ⟨t, s', rfl, hElements, hAfter⟩ := (ih k hLess).elements hSkip
        exact ⟨w, _, s', by simp, hBlanks, .array hElements, hAfter.mono hLess.le⟩
    · cases hToken
      rw [hCurly]
      obtain ⟨w', s', hInner, rfl, hAfter⟩ | hSkip := firstElement_cases hSkip
      · exact ⟨w, _, s', by simp [Bracket.closing], hBlanks, .emptyObject hInner, hAfter.mono hLess.le⟩
      · obtain ⟨t, s', rfl, hMembers, hAfter⟩ := (ih k hLess).members hSkip
        exact ⟨w, _, s', by simp, hBlanks, .object hMembers, hAfter.mono hLess.le⟩
    · cases hScalar : skipScalar b more with
      | error fault =>
        rw [hScalar] at hToken
        cases hToken
      | ok after =>
        rw [hScalar] at hToken
        cases hToken
        obtain ⟨v, hShape, hValue⟩ := isValue_of_skipScalar hScalar
        exact ⟨w, v, _, by rw [hShape], hBlanks, hValue, k, hLess, hSkip⟩
  refine ⟨hValue, ?_, ?_⟩
  · intro stack s rest hSkip
    obtain ⟨w, v, s', rfl, hBefore, hv, hAfter⟩ := hValue hSkip
    obtain ⟨w', s', hBlanks, ⟨rfl, hMore⟩ | ⟨rfl, k, hLess, hMore⟩⟩ := hAfter.separator_cases
    · exact ⟨_, s', by simp [Bracket.closing], .element hBefore hv hBlanks, hMore⟩
    · obtain ⟨t, s', rfl, hElements, hMore⟩ := (ih k hLess).elements hMore
      exact ⟨_, s', by simp, .elements hBefore hv hBlanks hElements, hMore.mono hLess.le⟩
  · intro stack s rest hSkip
    obtain ⟨k, w, b, more, stack', e', s', rfl, hBefore, -, rfl, hToken, hAfterName⟩ :=
      skipFrom_cases (.inr (by simp)) hSkip
    have hLess : k < k + 1 := Nat.lt_succ_self k
    simp only [skipToken] at hToken
    split_ifs at hToken with hQuote
    cases hName : skipName more with
    | error fault =>
      rw [hName] at hToken
      cases hToken
    | ok after =>
      rw [hName] at hToken
      cases hToken
      obtain ⟨key, u, rfl, hKey, hColon⟩ := skipName_eq_ok.1 hName
      obtain ⟨u', v, s', rfl, hColon', hv, hAfter⟩ := (ih k hLess).value hAfterName
      rw [hQuote]
      obtain ⟨w', s', hBlanks, ⟨rfl, hMore⟩ | ⟨rfl, j, hLess', hMore⟩⟩ := hAfter.separator_cases
      · exact ⟨_, s', by simp [Bracket.closing], .member hBefore hKey hColon hColon' hv hBlanks, hMore.mono hLess.le⟩
      · obtain ⟨t, s', rfl, hMembers, hMore⟩ := (ih j (by omega)).members hMore
        exact ⟨_, s', by simp, .members hBefore hKey hColon hColon' hv hBlanks hMembers, hMore.mono (by omega)⟩

/-- The scan over a value takes blanks and one value. -/
theorem isValue_of_skipValue (hSkip : skipValue s = .ok rest) :
    ∃ w v, s = w ++ (v ++ rest) ∧ Blanks w ∧ IsValue v := by
  obtain ⟨w, v, s', hShape, hBlanks, hValue, less, -, hRest⟩ := (sound _).value hSkip
  rw [skipFrom] at hRest
  cases hRest
  exact ⟨w, v, hShape, hBlanks, hValue⟩

end BearerTokens.Json
