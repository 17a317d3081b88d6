import BearerTokens.Proofs.Json.Text

/-!
# Numbers of JSON

The written form of a number. The reader of numbers and the scan that passes over them both take as much of
the document as belongs to a number, and no reading depends on what follows it.
-/

set_option autoImplicit false

namespace BearerTokens.Json

structure IsDigits (s : Bytes) : Prop where
  some : s ≠ []
  all : ∀ b ∈ s, isDigit b = true

theorem IsDigits.exists_cons {s : Bytes} (h : IsDigits s) :
    ∃ b t, s = b :: t ∧ isDigit b = true ∧ b ≠ 0x2B ∧ b ≠ 0x2D := by
  obtain ⟨b, t, rfl⟩ := List.exists_cons_of_ne_nil h.some
  have hFirst := h.all b List.mem_cons_self
  refine ⟨b, t, rfl, hFirst, ?_, ?_⟩ <;>
  · rintro rfl
    cases hFirst

inductive IsExponent : Bytes → Prop where
  | none : IsExponent []
  | some {mark : UInt8} {sign digits : Bytes} (hMark : isExponentMark mark = true)
      (hSign : sign = [] ∨ sign = [0x2B] ∨ sign = [0x2D]) (hDigits : IsDigits digits) :
      IsExponent (mark :: (sign ++ digits))

inductive IsFraction : Bytes → Prop where
  | none {exponent : Bytes} (hExponent : IsExponent exponent) : IsFraction exponent
  | some {digits exponent : Bytes} (hDigits : IsDigits digits) (hExponent : IsExponent exponent) :
      IsFraction (0x2E :: (digits ++ exponent))

inductive IsUnsigned : Bytes → Prop where
  | zero {more : Bytes} (hMore : IsFraction more) : IsUnsigned (0x30 :: more)
  | digits {b : UInt8} {digits more : Bytes} (hFirst : b ≠ 0x30) (hDigits : IsDigits (b :: digits))
      (hMore : IsFraction more) : IsUnsigned (b :: (digits ++ more))

inductive IsNumber : Bytes → Prop where
  | plain {s : Bytes} (h : IsUnsigned s) : IsNumber s
  | minus {s : Bytes} (h : IsUnsigned s) : IsNumber (0x2D :: s)

def EndsDigits (s : Bytes) : Prop :=
  ∀ b ∈ s.head?, isDigit b = false

def EndsNumber (s : Bytes) : Prop :=
  ∀ b ∈ s.head?, isDigit b = false ∧ b ≠ 0x2E ∧ isExponentMark b = false

theorem EndsNumber.endsDigits {s : Bytes} (h : EndsNumber s) : EndsDigits s :=
  fun b hb => (h b hb).1

theorem EndsNumber.nil : EndsNumber [] := by
  simp [EndsNumber]

theorem EndsNumber.cons {b : UInt8} (hb : isDigit b = false ∧ b ≠ 0x2E ∧ isExponentMark b = false) (s : Bytes) :
    EndsNumber (b :: s) := by
  rintro _ ⟨⟩
  exact hb

theorem EndsNumber.blanks {w s : Bytes} (hBlanks : Blanks w) (h : EndsNumber s) : EndsNumber (w ++ s) := by
  cases w with
  | nil => exact h
  | cons b w =>
    rintro _ ⟨⟩
    have hb := hBlanks b List.mem_cons_self
    simp only [isBlankByte, Bool.or_eq_true, beq_iff_eq] at hb
    obtain ((rfl | rfl) | rfl) | rfl := hb <;> decide

theorem takeWhile_digits {ds rest : Bytes} (hDigits : ∀ b ∈ ds, isDigit b = true) (hRest : EndsDigits rest) :
    (ds ++ rest).takeWhile isDigit = ds := by
  rw [List.takeWhile_append_of_pos hDigits]
  cases rest with
  | nil => simp
  | cons b rest => simp [hRest b rfl]

theorem dropWhile_digits {ds rest : Bytes} (hDigits : ∀ b ∈ ds, isDigit b = true) (hRest : EndsDigits rest) :
    (ds ++ rest).dropWhile isDigit = rest := by
  rw [List.dropWhile_append_of_pos hDigits]
  cases rest with
  | nil => simp
  | cons b rest => simp [hRest b rfl]

theorem exists_digits (s : Bytes) :
    ∃ ds rest, s = ds ++ rest ∧ (∀ b ∈ ds, isDigit b = true) ∧ EndsDigits rest := by
  refine ⟨s.takeWhile isDigit, s.dropWhile isDigit, List.takeWhile_append_dropWhile.symm,
    fun b hb => List.mem_takeWhile_imp hb, ?_⟩
  intro b hb
  have hHead := List.head?_dropWhile_not isDigit s
  rw [Option.mem_def.1 hb] at hHead
  simpa using hHead

theorem isDigit_of_isExponentMark {b : UInt8} (hMark : isExponentMark b = true) : isDigit b = false := by
  rw [isExponentMark, Bool.or_eq_true, beq_iff_eq, beq_iff_eq] at hMark
  obtain rfl | rfl := hMark <;> rfl

theorem IsExponent.endsDigits {s rest : Bytes} (h : IsExponent s) (hRest : EndsNumber rest) :
    EndsDigits (s ++ rest) := by
  cases h with
  | none => exact hRest.endsDigits
  | some hMark _ _ =>
    rintro b ⟨⟩
    exact isDigit_of_isExponentMark hMark

theorem IsFraction.endsDigits {s rest : Bytes} (h : IsFraction s) (hRest : EndsNumber rest) :
    EndsDigits (s ++ rest) := by
  cases h with
  | none hExponent => exact hExponent.endsDigits hRest
  | some _ _ =>
    rintro b ⟨⟩
    rfl

/-- A scan takes the texts of a form, whatever comes after them. -/
structure Skips (skip : Bytes → Except Fault Bytes) (form : Bytes → Prop) : Prop where
  sound {s rest : Bytes} : skip s = .ok rest → ∃ lit, s = lit ++ rest ∧ form lit
  complete {lit rest : Bytes} : form lit → EndsNumber rest → skip (lit ++ rest) = .ok rest

theorem skipDigits_append {ds rest : Bytes} (hDigits : IsDigits ds) (hRest : EndsDigits rest) :
    skipDigits (ds ++ rest) = .ok rest := by
  cases ds with
  | nil => exact absurd rfl hDigits.some
  | cons b ds =>
    obtain ⟨hFirst, hMore⟩ := List.forall_mem_cons.1 hDigits.all
    rw [List.cons_append, skipDigits, if_pos hFirst, dropWhile_digits hMore hRest]

theorem digits_of_skipDigits {s rest : Bytes} (hSkip : skipDigits s = .ok rest) :
    ∃ ds, s = ds ++ rest ∧ IsDigits ds := by
  cases s with
  | nil => cases hSkip
  | cons b s =>
    rw [skipDigits] at hSkip
    split at hSkip
    · rename_i hFirst
      obtain ⟨ds, more, rfl, hDigits, hMore⟩ := exists_digits s
      rw [dropWhile_digits hDigits hMore] at hSkip
      cases hSkip
      exact ⟨b :: ds, rfl, List.cons_ne_nil _ _, List.forall_mem_cons.2 ⟨hFirst, hDigits⟩⟩
    · cases hSkip

theorem skipSign_cases (s : Bytes) :
    ∃ sign, s = sign ++ skipSign s ∧ (sign = [] ∨ sign = [0x2B] ∨ sign = [0x2D]) := by
  unfold skipSign
  split
  · exact ⟨[0x2B], rfl, .inr (.inl rfl)⟩
  · exact ⟨[0x2D], rfl, .inr (.inr rfl)⟩
  · exact ⟨[], rfl, .inl rfl⟩

theorem skipSign_append {sign digits : Bytes} (hSign : sign = [] ∨ sign = [0x2B] ∨ sign = [0x2D])
    (hDigits : IsDigits digits) (rest : Bytes) : skipSign (sign ++ (digits ++ rest)) = digits ++ rest := by
  obtain rfl | rfl | rfl := hSign
  · obtain ⟨b, digits, rfl, -, hPlus, hMinus⟩ := hDigits.exists_cons
    simp [skipSign, hPlus, hMinus]
  · rfl
  · rfl

theorem skipExponent_skips : Skips skipExponent IsExponent where
  sound {s rest} hSkip := by
    unfold skipExponent at hSkip
    split at hSkip
    · split at hSkip
      · rename_i mark s hMark
        obtain ⟨sign, hShape, hSign⟩ := skipSign_cases s
        obtain ⟨digits, hRest, hDigits⟩ := digits_of_skipDigits hSkip
        rw [hRest] at hShape
        exact ⟨_, by rw [hShape, List.cons_append, List.append_assoc], .some hMark hSign hDigits⟩
      · cases hSkip
        exact ⟨[], rfl, .none⟩
    · cases hSkip
      exact ⟨[], rfl, .none⟩
  complete {lit rest} hForm hRest := by
    cases hForm with
    | none =>
      cases rest with
      | nil => rfl
      | cons b rest => simp [skipExponent, (hRest b rfl).2.2]
    | some hMark hSign hDigits =>
      rw [List.cons_append, List.append_assoc, skipExponent, if_pos hMark, skipSign_append hSign hDigits,
        skipDigits_append hDigits hRest.endsDigits]

theorem skipFraction_skips : Skips skipFraction IsFraction where
  sound {s rest} hSkip := by
    unfold skipFraction at hSkip
    split at hSkip
    · rename_i s
      cases hMore : skipDigits s with
      | error e =>
        rw [hMore] at hSkip
        cases hSkip
      | ok more =>
        rw [hMore] at hSkip
        obtain ⟨digits, rfl, hDigits⟩ := digits_of_skipDigits hMore
        obtain ⟨exponent, rfl, hExponent⟩ := skipExponent_skips.sound hSkip
        exact ⟨_, by rw [List.cons_append, List.append_assoc], .some hDigits hExponent⟩
    · obtain ⟨exponent, rfl, hExponent⟩ := skipExponent_skips.sound hSkip
      exact ⟨exponent, rfl, .none hExponent⟩
  complete {lit rest} hForm hRest := by
    cases hForm with
    | none hExponent =>
      have hPoint : ∀ more, lit ++ rest ≠ 0x2E :: more := by
        intro more hEq
        cases hExponent with
        | none => exact (hRest 0x2E (by rw [show rest = _ from hEq]; rfl)).2.1 rfl
        | some hMark =>
          cases hEq
          cases hMark
      rw [skipFraction.eq_2 _ hPoint, skipExponent_skips.complete hExponent hRest]
    | some hDigits hExponent =>
      rw [List.cons_append, List.append_assoc, skipFraction, skipDigits_append hDigits (hExponent.endsDigits hRest)]
      exact skipExponent_skips.complete hExponent hRest

theorem skipUnsigned_skips : Skips skipUnsigned IsUnsigned where
  sound {s rest} hSkip := by
    unfold skipUnsigned at hSkip
    split at hSkip
    · split at hSkip
      · cases hSkip
      · obtain ⟨more, hShape, hMore⟩ := skipFraction_skips.sound hSkip
        exact ⟨0x30 :: more, by rw [hShape, List.cons_append], .zero hMore⟩
    · rename_i hZero
      cases hFirst : skipDigits s with
      | error e =>
        rw [hFirst] at hSkip
        cases hSkip
      | ok after =>
        rw [hFirst] at hSkip
        obtain ⟨digits, rfl, hDigits⟩ := digits_of_skipDigits hFirst
        obtain ⟨more, rfl, hMore⟩ := skipFraction_skips.sound hSkip
        obtain ⟨b, digits, rfl⟩ := List.exists_cons_of_ne_nil hDigits.some
        by_cases hb : b = 0x30
        · subst hb
          -- a zero before another digit has been refused
          cases digits with
          | nil => exact ⟨0x30 :: more, rfl, .zero hMore⟩
          | cons d digits => exact (hZero _ _ rfl).elim
        · exact ⟨b :: (digits ++ more), by simp, .digits hb hDigits hMore⟩
  complete {lit rest} hForm hRest := by
    cases hForm with
    | @zero more hMore =>
      have hEnd := hMore.endsDigits hRest
      have hAfter := skipFraction_skips.complete hMore hRest
      rw [List.cons_append]
      generalize more ++ rest = after at hEnd hAfter
      cases after with
      | nil => exact hAfter
      | cons d after => rw [skipUnsigned, if_neg (by simp [hEnd d rfl]), hAfter]
    | @digits b digits more hFirst hDigits hMore =>
      have hNot : ∀ d after, b :: (digits ++ more) ++ rest ≠ 0x30 :: d :: after := fun _ _ hEq =>
        hFirst (List.cons.inj hEq).1
      rw [skipUnsigned.eq_2 _ hNot, List.cons_append, List.append_assoc, ← List.cons_append,
        skipDigits_append hDigits (hMore.endsDigits hRest)]
      exact skipFraction_skips.complete hMore hRest

/-- A reading of a text of a form that comes out the same with anything else after it. -/
def Local (read : Reader Number) (form : Bytes → Prop) : Prop :=
  ∀ {s n rest}, read s = .ok (n, rest) →
    ∃ lit, s = lit ++ rest ∧ form lit ∧ ∀ rest', EndsNumber rest' → read (lit ++ rest') = .ok (n, rest')

theorem real_local {negative : Bool} {significand : Nat} {exponent : Int} {s rest : Bytes} {n : Number}
    (hRead : real negative significand exponent s = .ok (n, rest)) :
    rest = s ∧ ∀ rest', real negative significand exponent rest' = .ok (n, rest') := by
  unfold real at *
  split at hRead
  · cases hRead
    exact ⟨rfl, fun _ => rfl⟩
  · cases hRead

theorem exponentDigits_local (negative below : Bool) (significand : Nat) (exponent : Int) :
    Local (exponentDigits negative below significand exponent) IsDigits := by
  intro s n rest hRead
  obtain ⟨ds, more, rfl, hDigits, hMore⟩ := exists_digits s
  simp only [exponentDigits, takeWhile_digits hDigits hMore, dropWhile_digits hDigits hMore] at hRead
  by_cases hNone : ds.isEmpty = true
  · rw [if_pos hNone] at hRead
    split at hRead <;> cases hRead
  · rw [if_neg hNone] at hRead
    have hForm : IsDigits ds := ⟨by simpa using hNone, hDigits⟩
    split_ifs at hRead with hBelow hFits hFits hZero
    all_goals
      obtain ⟨rfl, hOther⟩ := real_local hRead
      refine ⟨ds, rfl, hForm, fun rest' hRest' => ?_⟩
      simp only [exponentDigits, takeWhile_digits hDigits hRest'.endsDigits,
        dropWhile_digits hDigits hRest'.endsDigits, *]
      simp

theorem exponentPart_local (negative : Bool) (significand : Nat) (exponent : Int) {mark : UInt8}
    (hMark : isExponentMark mark = true) :
    Local (exponentPart negative significand exponent) fun lit => IsExponent (mark :: lit) := by
  intro s n rest hRead
  unfold exponentPart at hRead
  split at hRead
  · obtain ⟨digits, rfl, hDigits, hOther⟩ := exponentDigits_local _ _ _ _ hRead
    exact ⟨[0x2B] ++ digits, rfl, .some hMark (.inr (.inl rfl)) hDigits, hOther⟩
  · obtain ⟨digits, rfl, hDigits, hOther⟩ := exponentDigits_local _ _ _ _ hRead
    exact ⟨[0x2D] ++ digits, rfl, .some hMark (.inr (.inr rfl)) hDigits, hOther⟩
  · obtain ⟨digits, rfl, hDigits, hOther⟩ := exponentDigits_local _ _ _ _ hRead
    refine ⟨[] ++ digits, rfl, .some hMark (.inl rfl) hDigits, fun rest' hRest' => ?_⟩
    rw [← hOther rest' hRest']
    obtain ⟨b, digits, rfl, -, hPlus, hMinus⟩ := hDigits.exists_cons
    simp [exponentPart, hPlus, hMinus]

theorem fractionPart_local (negative : Bool) (significand dropped : Nat) :
    Local (fractionPart negative significand dropped) fun lit => IsFraction (0x2E :: lit) := by
  intro s n rest hRead
  obtain ⟨ds, more, rfl, hDigits, hMore⟩ := exists_digits s
  simp only [fractionPart, takeWhile_digits hDigits hMore, dropWhile_digits hDigits hMore] at hRead
  by_cases hNone : ds.isEmpty = true
  · rw [if_pos hNone] at hRead
    split at hRead <;> cases hRead
  rw [if_neg hNone] at hRead
  have hForm : IsDigits ds := ⟨by simpa using hNone, hDigits⟩
  have hPlain (h : real negative (absorb significand 0 ds).1 (dropped - (absorb significand 0 ds).2) more =
      .ok (n, rest)) : ∃ lit, ds ++ more = lit ++ rest ∧ IsFraction (0x2E :: lit) ∧
        ∀ rest', EndsNumber rest' → fractionPart negative significand dropped (lit ++ rest') = .ok (n, rest') := by
    obtain ⟨rfl, hOther⟩ := real_local h
    refine ⟨ds, rfl, by simpa using IsFraction.some hForm .none, fun rest' hRest' => ?_⟩
    simp only [fractionPart, takeWhile_digits hDigits hRest'.endsDigits, dropWhile_digits hDigits hRest'.endsDigits,
      if_neg hNone]
    cases rest' with
    | nil => exact hOther []
    | cons b rest' => simpa [(hRest' b rfl).2.2] using hOther (b :: rest')
  cases more with
  | nil => exact hPlain hRead
  | cons b more =>
    by_cases hMark : isExponentMark b = true
    · simp only [if_pos hMark] at hRead
      obtain ⟨lit, rfl, hExponent, hOther⟩ := exponentPart_local _ _ _ hMark hRead
      refine ⟨ds ++ b :: lit, by simp, .some hForm hExponent, fun rest' hRest' => ?_⟩
      have hEnd : EndsDigits (b :: (lit ++ rest')) := by
        rintro _ ⟨⟩
        exact isDigit_of_isExponentMark hMark
      rw [List.append_assoc, List.cons_append]
      simp only [fractionPart, takeWhile_digits hDigits hEnd, dropWhile_digits hDigits hEnd, if_neg hNone, if_pos hMark]
      exact hOther rest' hRest'
    · simp only [if_neg hMark] at hRead
      exact hPlain hRead

theorem afterWhole_local (negative : Bool) (significand dropped : Nat) :
    Local (afterWhole negative significand dropped) IsFraction := by
  intro s n rest hRead
  have hPlain (h : (if dropped = 0 then .ok (whole negative significand, s)
      else real negative significand dropped s) = .ok (n, rest)) :
      ∃ lit, s = lit ++ rest ∧ IsFraction lit ∧
        ∀ rest', EndsNumber rest' → afterWhole negative significand dropped (lit ++ rest') = .ok (n, rest') := by
    have hEnd : rest = s ∧ ∀ rest', (if dropped = 0 then .ok (whole negative significand, rest')
        else real negative significand dropped rest') = .ok (n, rest') := by
      split at h
      · rename_i hFits
        cases h
        exact ⟨rfl, fun _ => if_pos hFits⟩
      · rename_i hFits
        obtain ⟨hRest, hOther⟩ := real_local h
        exact ⟨hRest, fun rest' => (if_neg hFits).trans (hOther rest')⟩
    obtain ⟨rfl, hOther⟩ := hEnd
    refine ⟨[], rfl, .none .none, fun rest' hRest' => ?_⟩
    rw [List.nil_append, ← hOther rest']
    cases rest' with
    | nil => rfl
    | cons b rest' => simp [afterWhole, (hRest' b rfl).2.1, (hRest' b rfl).2.2]
  cases s with
  | nil => exact hPlain hRead
  | cons b s =>
    by_cases hPoint : b = 0x2E
    · subst hPoint
      obtain ⟨lit, rfl, hFraction, hOther⟩ := fractionPart_local _ _ _ hRead
      exact ⟨0x2E :: lit, rfl, hFraction, hOther⟩
    · by_cases hMark : isExponentMark b = true
      · simp only [afterWhole, if_neg hPoint, if_pos hMark] at hRead
        obtain ⟨lit, rfl, hExponent, hOther⟩ := exponentPart_local _ _ _ hMark hRead
        refine ⟨b :: lit, rfl, .none hExponent, fun rest' hRest' => ?_⟩
        simp only [List.cons_append, afterWhole, if_neg hPoint, if_pos hMark]
        exact hOther rest' hRest'
      · simp only [afterWhole, if_neg hPoint, if_neg hMark] at hRead
        exact hPlain hRead

theorem unsigned_local (negative : Bool) : Local (unsigned negative) IsUnsigned := by
  intro s n rest hRead
  cases s with
  | nil => cases hRead
  | cons b s =>
    by_cases hZero : b = 0x30
    · subst hZero
      have hAfter : afterWhole negative 0 0 s = .ok (n, rest) := by
        cases s with
        | nil => exact hRead
        | cons d s =>
          simp only [unsigned, if_pos] at hRead
          split at hRead
          · cases hRead
          · exact hRead
      obtain ⟨lit, rfl, hFraction, hOther⟩ := afterWhole_local _ _ _ hAfter
      refine ⟨0x30 :: lit, rfl, .zero hFraction, fun rest' hRest' => ?_⟩
      have hEnd := hFraction.endsDigits hRest'
      rw [← hOther rest' hRest', List.cons_append]
      generalize lit ++ rest' = after at hEnd
      cases after with
      | nil => rfl
      | cons d after => simp [unsigned, hEnd d rfl]
    · by_cases hFirst : isDigit b = true
      · obtain ⟨ds, more, rfl, hDigits, hMore⟩ := exists_digits s
        simp only [unsigned, if_neg hZero, if_pos hFirst, takeWhile_digits hDigits hMore,
          dropWhile_digits hDigits hMore] at hRead
        obtain ⟨lit, rfl, hFraction, hOther⟩ := afterWhole_local _ _ _ hRead
        have hForm : IsDigits (b :: ds) := ⟨List.cons_ne_nil _ _, List.forall_mem_cons.2 ⟨hFirst, hDigits⟩⟩
        refine ⟨b :: (ds ++ lit), by simp, .digits hZero hForm hFraction, fun rest' hRest' => ?_⟩
        have hEnd := hFraction.endsDigits hRest'
        rw [List.cons_append, List.append_assoc]
        simp only [unsigned, if_neg hZero, if_pos hFirst, takeWhile_digits hDigits hEnd, dropWhile_digits hDigits hEnd]
        exact hOther rest' hRest'
      · simp only [unsigned, if_neg hZero, if_neg hFirst] at hRead
        cases hRead

theorem number_local : Local number IsNumber := by
  intro s n rest hRead
  unfold number at hRead
  split at hRead
  · obtain ⟨lit, rfl, hForm, hOther⟩ := unsigned_local true hRead
    exact ⟨0x2D :: lit, rfl, .minus hForm, hOther⟩
  · obtain ⟨lit, rfl, hForm, hOther⟩ := unsigned_local false hRead
    refine ⟨lit, rfl, .plain hForm, fun rest' hRest' => ?_⟩
    rw [← hOther rest' hRest', number.eq_2]
    intro more hEq
    cases hForm with
    | zero => cases hEq
    | digits _ hDigits =>
      cases hEq
      cases hDigits.all _ List.mem_cons_self

def IsNumeral (s : Bytes) (n : Number) : Prop :=
  number s = .ok (n, [])

theorem IsNumeral.isNumber {s : Bytes} {n : Number} (h : IsNumeral s n) : IsNumber s := by
  obtain ⟨lit, hShape, hForm, -⟩ := number_local h
  rw [List.append_nil] at hShape
  rwa [hShape]

theorem IsNumeral.number_append {s : Bytes} {n : Number} (h : IsNumeral s n) {rest : Bytes} (hRest : EndsNumber rest) :
    number (s ++ rest) = .ok (n, rest) := by
  obtain ⟨lit, hShape, -, hOther⟩ := number_local h
  rw [List.append_nil] at hShape
  rw [hShape]
  exact hOther rest hRest

theorem isNumeral_of_number {s rest : Bytes} {n : Number} (hRead : number s = .ok (n, rest)) :
    ∃ lit, s = lit ++ rest ∧ IsNumeral lit n := by
  obtain ⟨lit, hShape, -, hOther⟩ := number_local hRead
  refine ⟨lit, hShape, ?_⟩
  have hAlone := hOther [] .nil
  rwa [List.append_nil] at hAlone

end BearerTokens.Json
