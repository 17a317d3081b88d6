import BearerTokens.Proofs.Json.Members
import Mathlib.Data.List.Forall2

/-!
# Values of JSON that are read

The values that a text can stand for, with their nesting counted: a word, a text, a number, or an array or an object of
values that are nested less. The reader of values takes what stands for one, and the reader of documents takes it
between blanks.
-/

set_option autoImplicit false

namespace BearerTokens.Json

open BearerTokens.Text

inductive IsScalar : Bytes → Value → Prop where
  | null : IsScalar (0x6E :: ull) .null
  | true : IsScalar (0x74 :: rue) (.bool true)
  | false : IsScalar (0x66 :: alse) (.bool false)
  | string {v : Bytes} {x : String} (hText : IsText v x) : IsScalar v (.string x)
  | number {v : Bytes} {n : Number} (hNumeral : IsNumeral v n) : IsScalar v (.number n)

abbrev HoldsMembers (inner : Bytes → Value → Prop) (ms : List (String × Bytes)) (members : Members) : Prop :=
  List.Forall₂ (fun m x => m.1 = x.1 ∧ inner m.2 x.2) ms members

inductive IsCompound (inner : Bytes → Value → Prop) : Bytes → Value → Prop where
  | array {doc : Bytes} {vs : List Bytes} {xs : List Value} (hDoc : IsArray doc vs) (hItems : List.Forall₂ inner vs xs) :
      IsCompound inner doc (.array xs)
  | object {doc : Bytes} {ms : List (String × Bytes)} {members : Members} (hDoc : IsObject doc ms)
      (hMembers : HoldsMembers inner ms members) : IsCompound inner doc (.object members)

/-- A text stands for a value with at most `depth` levels of arrays and objects. -/
def Denotes : Nat → Bytes → Value → Prop
  | 0, v, x => IsScalar v x
  | depth + 1, v, x => IsScalar v x ∨ IsCompound (Denotes depth) v x

theorem IsScalar.isValue {v : Bytes} {x : Value} (h : IsScalar v x) : IsValue v := by
  cases h with
  | null => exact .null
  | true => exact .true
  | false => exact .false
  | string hText => exact text_reads.value hText
  | number hNumeral => exact .number hNumeral.isNumber

theorem IsCompound.isValue {inner : Bytes → Value → Prop} {v : Bytes} {x : Value} (h : IsCompound inner v x) :
    IsValue v := by
  cases h with
  | array hDoc => exact hDoc.isValue
  | object hDoc => exact hDoc.isValue

section Collecting

variable {inner : Bytes → Value → Prop} {item : Reader Value}

def Collects (inner : Bytes → Value → Prop) (state : Members) (m : String × Bytes) (state' : Members) : Prop :=
  ∃ x, inner m.2 x ∧ state' = (m.1, x) :: state

theorem collecting_takes (hReads : Reads item inner) : Takes (collecting item) (Collects inner) where
  sound {state state' name s rest} _ hTake := by
    simp only [collecting, map_eq_ok] at hTake
    obtain ⟨⟨x, after⟩, hRead, hEq⟩ := hTake
    cases hEq
    obtain ⟨u, v, rfl, hBlanks, hInner⟩ := hReads.sound hRead
    exact ⟨u, v, rfl, hBlanks, hReads.value hInner, x, hInner, rfl⟩
  complete {state state' name u v rest} hBlanks _ hCollects hRest := by
    obtain ⟨x, hInner, rfl⟩ := hCollects
    refine ⟨rfl, ?_⟩
    simp only [collecting, hReads.complete hBlanks hInner hRest]
    rfl

theorem holdsMembers_of_addsAll {state state' : Members} {ms : List (String × Bytes)}
    (hAll : AddsAll (Collects inner) state ms state') :
    ∃ members, HoldsMembers inner ms members ∧ state' = members.reverse ++ state := by
  induction hAll with
  | nil => exact ⟨[], .nil, rfl⟩
  | @cons state state' state'' m ms hFirst _ ih =>
    obtain ⟨x, hInner, rfl⟩ := hFirst
    obtain ⟨members, hMembers, rfl⟩ := ih
    exact ⟨(m.1, x) :: members, .cons ⟨rfl, hInner⟩ hMembers, by simp⟩

theorem addsAll_of_holdsMembers {ms : List (String × Bytes)} {members : Members}
    (hMembers : HoldsMembers inner ms members) (state : Members) :
    AddsAll (Collects inner) state ms (members.reverse ++ state) := by
  induction hMembers generalizing state with
  | nil => exact .nil
  | @cons m x ms members hFirst _ ih =>
    rw [List.reverse_cons, List.append_assoc]
    exact .cons ⟨x.2, hFirst.2, by rw [hFirst.1]⟩ (ih (x :: state))

theorem HoldsMembers.exists_value {ms : List (String × Bytes)} {members : Members}
    (hMembers : HoldsMembers inner ms members) : ∀ m ∈ ms, ∃ x, inner m.2 x := by
  induction hMembers with
  | nil => simp
  | cons hFirst _ ih => exact List.forall_mem_cons.2 ⟨⟨_, hFirst.2⟩, ih⟩

theorem exists_holdsMembers {ms : List (String × Bytes)} (hValues : ∀ m ∈ ms, ∃ x, inner m.2 x) :
    ∃ members, HoldsMembers inner ms members := by
  induction ms with
  | nil => exact ⟨[], .nil⟩
  | cons m ms ih =>
    obtain ⟨⟨x, hx⟩, hMore⟩ := List.forall_mem_cons.1 hValues
    obtain ⟨members, hMembers⟩ := ih hMore
    exact ⟨(m.1, x) :: members, .cons ⟨rfl, hx⟩ hMembers⟩

end Collecting

section Reading

variable {inner : Option (Reader Value)} {item : Reader Value} {denotes : Bytes → Value → Prop}

theorem valueWith_sound (hInner : ∀ item ∈ inner, Reads item denotes) {s rest : Bytes} {x : Value}
    (hRead : valueWith inner s = .ok (x, rest)) :
    ∃ w v, s = w ++ (v ++ rest) ∧ Blanks w ∧ (IsScalar v x ∨ inner.isSome = true ∧ IsCompound denotes v x) := by
  obtain ⟨w, hBlanks, hShape, -⟩ := exists_blanks s
  unfold valueWith at hRead
  split at hRead
  · cases hRead
  · rename_i b more hSkip
    rw [hSkip] at hShape
    split_ifs at hRead with hNull hTrue hFalse hQuote hNumber hSquare hCurly
    · obtain ⟨after, hWord, hEq⟩ := map_eq_ok.1 hRead
      cases hEq
      exact ⟨w, 0x6E :: ull, by rw [hShape, hNull, word_eq_ok.1 hWord]; rfl, hBlanks, .inl .null⟩
    · obtain ⟨after, hWord, hEq⟩ := map_eq_ok.1 hRead
      cases hEq
      exact ⟨w, 0x74 :: rue, by rw [hShape, hTrue, word_eq_ok.1 hWord]; rfl, hBlanks, .inl .true⟩
    · obtain ⟨after, hWord, hEq⟩ := map_eq_ok.1 hRead
      cases hEq
      exact ⟨w, 0x66 :: alse, by rw [hShape, hFalse, word_eq_ok.1 hWord]; rfl, hBlanks, .inl .false⟩
    · obtain ⟨⟨text, after⟩, hString, hEq⟩ := map_eq_ok.1 hRead
      cases hEq
      obtain ⟨key, rfl, hSpells⟩ := string_eq_ok.1 hString
      exact ⟨w, _, by rw [hShape, hQuote]; simp, hBlanks, .inl (.string ⟨key, rfl, hSpells⟩)⟩
    · obtain ⟨⟨n, after⟩, hNumeral, hEq⟩ := map_eq_ok.1 hRead
      cases hEq
      obtain ⟨v, hText, hNumeral⟩ := isNumeral_of_number hNumeral
      exact ⟨w, v, by rw [hShape, hText], hBlanks, .inl (.number hNumeral)⟩
    · cases inner with
      | none => cases hRead
      | some item =>
        obtain ⟨⟨xs, after⟩, hElements, hEq⟩ := map_eq_ok.1 hRead
        cases hEq
        obtain ⟨t, vs, rfl, hArray, hItems⟩ := (hInner item rfl).elements_sound hElements
        exact ⟨w, _, by rw [hShape, hSquare]; simp, hBlanks, .inr ⟨rfl, .array hArray hItems⟩⟩
    · cases inner with
      | none => cases hRead
      | some item =>
        obtain ⟨⟨state, after⟩, hMembers, hEq⟩ := map_eq_ok.1 hRead
        cases hEq
        obtain ⟨t, ms, rfl, hObject, hAll⟩ := (collecting_takes (hInner item rfl)).members_sound hMembers
        obtain ⟨members, hHolds, rfl⟩ := holdsMembers_of_addsAll hAll
        rw [List.append_nil, List.reverse_reverse]
        exact ⟨w, _, by rw [hShape, hCurly]; simp, hBlanks, .inr ⟨rfl, .object hObject hHolds⟩⟩

theorem valueWith_scalar {w v rest : Bytes} {x : Value} (hBlanks : Blanks w) (hScalar : IsScalar v x)
    (hRest : EndsNumber rest) : valueWith inner (w ++ (v ++ rest)) = .ok (x, rest) := by
  rw [valueWith, skipBlanks_append hBlanks]
  cases hScalar with
  | null =>
    rw [List.cons_append, skipBlanks_cons rfl]
    simp [word_eq_ok.2, Except.map]
  | true =>
    rw [List.cons_append, skipBlanks_cons rfl]
    simp [word_eq_ok.2, Except.map]
  | false =>
    rw [List.cons_append, skipBlanks_cons rfl]
    simp [word_eq_ok.2, Except.map]
  | string hText =>
    obtain ⟨text, rfl, hSpells⟩ := hText
    rw [List.cons_append, skipBlanks_cons rfl]
    simp [string_eq_ok.2 ⟨text, rfl, hSpells⟩, Except.map]
  | number hNumeral =>
    obtain ⟨b, t, rfl, hStarts, hFirst⟩ := hNumeral.isNumber.starts
    have hNe {c : UInt8} (hc : c ≠ 0x2D) (hc' : isDigit c = false) : b ≠ c := by
      rintro rfl
      obtain h | h := hFirst
      · exact hc h
      · rw [hc'] at h
        cases h
    have hNumber := hNumeral.number_append hRest
    rw [List.cons_append] at hNumber
    rw [List.cons_append, skipBlanks_cons (not_blank_of_startsValue hStarts)]
    dsimp only
    rw [if_neg (hNe (by decide) rfl), if_neg (hNe (by decide) rfl), if_neg (hNe (by decide) rfl),
      if_neg (hNe (by decide) rfl), if_pos hFirst, hNumber]
    rfl

theorem valueWith_compound (hReads : Reads item denotes) {w v : Bytes} {x : Value} (hBlanks : Blanks w)
    (hCompound : IsCompound denotes v x) (rest : Bytes) :
    valueWith (some item) (w ++ (v ++ rest)) = .ok (x, rest) := by
  rw [valueWith, skipBlanks_append hBlanks]
  cases hCompound with
  | array hDoc hItems =>
    obtain ⟨t, rfl⟩ := hDoc.exists_inner
    rw [List.cons_append, skipBlanks_cons rfl, List.append_assoc]
    simp [isDigit, hReads.elements_complete hDoc hItems rest, Except.map]
  | object hDoc hMembers =>
    obtain ⟨t, rfl⟩ := hDoc.exists_inner
    have hAll := addsAll_of_holdsMembers hMembers []
    rw [List.cons_append, skipBlanks_cons rfl, List.append_assoc]
    simp [isDigit, (collecting_takes hReads).members_complete hDoc hAll rest, Except.map]

end Reading

/-- The reader of values that nest to some depth takes exactly the texts that stand for one. -/
theorem value_reads (depth : Nat) : Reads (value depth) (Denotes depth) := by
  induction depth with
  | zero =>
    constructor
    · intro s rest x hRead
      have hInner : ∀ item ∈ none, Reads item IsScalar := by simp
      obtain ⟨w, v, hShape, hBlanks, hScalar | ⟨⟨⟩, -⟩⟩ := valueWith_sound hInner hRead
      exact ⟨w, v, hShape, hBlanks, hScalar⟩
    · intro w v rest x hBlanks hScalar hRest
      exact valueWith_scalar hBlanks hScalar hRest
    · intro v x hScalar
      exact hScalar.isValue
  | succ depth ih =>
    constructor
    · intro s rest x hRead
      obtain ⟨w, v, hShape, hBlanks, hDenotes⟩ := valueWith_sound (by rintro _ ⟨⟩; exact ih) hRead
      exact ⟨w, v, hShape, hBlanks, hDenotes.imp_right And.right⟩
    · intro w v rest x hBlanks hDenotes hRest
      obtain hScalar | hCompound := hDenotes
      · exact valueWith_scalar hBlanks hScalar hRest
      · exact valueWith_compound ih hBlanks hCompound rest
    · intro v x hDenotes
      exact hDenotes.elim IsScalar.isValue IsCompound.isValue

/-- A text stands for one value only. -/
theorem Denotes.unique {depth : Nat} {v : Bytes} {x y : Value} (h : Denotes depth v x) (h' : Denotes depth v y) :
    x = y := by
  have hRead := (value_reads depth).complete .nil h .nil
  have hRead' := (value_reads depth).complete .nil h' .nil
  rw [hRead] at hRead'
  cases hRead'
  rfl

theorem Denotes.number {v : Bytes} {n : Number} (hNumeral : IsNumeral v n) (depth : Nat) :
    Denotes depth v (.number n) := by
  cases depth with
  | zero => exact IsScalar.number hNumeral
  | succ depth => exact .inl (.number hNumeral)

theorem Denotes.numeral {depth : Nat} {v : Bytes} {n : Number} (h : Denotes depth v (.number n)) : IsNumeral v n := by
  cases depth with
  | zero =>
    cases h with
    | number hNumeral => exact hNumeral
  | succ depth =>
    obtain h | h := h
    · cases h with
      | number hNumeral => exact hNumeral
    · cases h

/-- What starts like a number is one. -/
theorem Denotes.exists_numeral {depth : Nat} {b : UInt8} {t : Bytes} {x : Value} (h : Denotes depth (b :: t) x)
    (hFirst : b = 0x2D ∨ isDigit b = true) : ∃ n, IsNumeral (b :: t) n := by
  have hScalar (h : IsScalar (b :: t) x) : ∃ n, IsNumeral (b :: t) n := by
    generalize hText : b :: t = v at h
    cases h with
    | number hNumeral => exact ⟨_, hNumeral⟩
    | string hString =>
      obtain ⟨text, rfl, -⟩ := hString
      cases hText
      obtain h | h := hFirst <;> cases h
    | null | true | false =>
      cases hText
      obtain h | h := hFirst <;> cases h
  cases depth with
  | zero => exact hScalar h
  | succ depth =>
    obtain h | h := h
    · exact hScalar h
    · generalize hText : b :: t = v at h
      cases h with
      | array hDoc =>
        obtain ⟨text, rfl⟩ := hDoc.exists_inner
        cases hText
        obtain h | h := hFirst <;> cases h
      | object hDoc =>
        obtain ⟨text, rfl⟩ := hDoc.exists_inner
        cases hText
        obtain h | h := hFirst <;> cases h

section Last

variable {β γ : Type} {name : String}

inductive IsLast (name : String) : List (String × β) → β → Prop where
  | here {x : β} {rest : List (String × β)} (hNone : name ∉ rest.map Prod.fst) : IsLast name ((name, x) :: rest) x
  | later {x : β} {m : String × β} {rest : List (String × β)} (h : IsLast name rest x) : IsLast name (m :: rest) x

theorem IsLast.mem {l : List (String × β)} {x : β} (h : IsLast name l x) : (name, x) ∈ l := by
  induction h with
  | here => exact List.mem_cons_self
  | later _ ih => exact List.mem_cons_of_mem _ ih

theorem Members.last?_eq_none_iff {members : Members} :
    members.last? name = none ↔ name ∉ List.map Prod.fst members := by
  simp only [Members.last?, Option.map_eq_none_iff, List.find?_eq_none, List.mem_reverse, beq_iff_eq, List.mem_map,
    not_exists, not_and]

theorem Members.last?_cons (m : String × Value) (members : Members) :
    Members.last? (m :: members) name = (Members.last? members name).or (if m.1 = name then some m.2 else none) := by
  unfold Members.last?
  rw [List.reverse_cons, List.find?_append]
  cases members.reverse.find? (fun m => m.1 == name) with
  | some m' => rfl
  | none =>
    by_cases hName : m.1 = name
    · simp [hName]
    · simp [hName]

theorem Members.last?_eq_some_iff {members : Members} {x : Value} :
    members.last? name = some x ↔ IsLast name members x := by
  constructor
  · intro hLast
    induction members with
    | nil => cases hLast
    | cons m members ih =>
      rw [Members.last?_cons] at hLast
      cases hMore : Members.last? members name with
      | some y =>
        rw [hMore] at hLast
        cases hLast
        exact .later (ih hMore)
      | none =>
        rw [hMore, Option.none_or] at hLast
        split_ifs at hLast with hName
        cases hLast
        obtain ⟨name', x⟩ := m
        cases hName
        exact .here (Members.last?_eq_none_iff.1 hMore)
  · intro h
    induction h with
    | here hNone => rw [Members.last?_cons, Members.last?_eq_none_iff.2 hNone, if_pos rfl, Option.none_or]
    | later _ ih => rw [Members.last?_cons, ih, Option.some_or]

/-- Lists with the same names, in which what stands for a name is related, have related last members. -/
theorem IsLast.transport {R : β → γ → Prop} {l : List (String × β)} {l' : List (String × γ)} {x : β}
    (hAll : List.Forall₂ (fun a b => a.1 = b.1 ∧ R a.2 b.2) l l') (h : IsLast name l x) :
    ∃ y, IsLast name l' y ∧ R x y := by
  induction hAll with
  | nil => cases h
  | @cons a b l l' hFirst hMore ih =>
    cases h with
    | here hNone =>
      obtain ⟨name', y⟩ := b
      obtain ⟨rfl, hR⟩ := hFirst
      have hNames : l.map Prod.fst = l'.map Prod.fst := by
        rw [← List.forall₂_eq_eq_eq, List.forall₂_map_left_iff, List.forall₂_map_right_iff]
        exact hMore.imp fun _ _ h => h.1
      rw [hNames] at hNone
      exact ⟨y, .here hNone, hR⟩
    | later h =>
      obtain ⟨y, hLast, hR⟩ := ih h
      exact ⟨y, .later hLast, hR⟩

end Last

theorem blanks_iff {s : Bytes} : (skipBlanks s).isEmpty = true ↔ Blanks s := by
  rw [List.isEmpty_iff, skipBlanks, List.dropWhile_eq_nil_iff]
  exact Iff.rfl

/-- A document is one value between blanks. -/
theorem document_eq_ok {α : Type} {read : Reader α} {spells : Bytes → α → Prop} (hReads : Reads read spells)
    {s : Bytes} {x : α} :
    document read s = .ok x ↔ ∃ w v w', s = w ++ (v ++ w') ∧ Blanks w ∧ spells v x ∧ Blanks w' := by
  unfold document
  constructor
  · intro hRead
    split at hRead
    · cases hRead
    · rename_i y rest hValue
      split_ifs at hRead with hEnd
      cases hRead
      obtain ⟨w, v, hShape, hBlanks, hSpells⟩ := hReads.sound hValue
      exact ⟨w, v, rest, hShape, hBlanks, hSpells, blanks_iff.1 hEnd⟩
  · rintro ⟨w, v, w', rfl, hBlanks, hSpells, hBlanks'⟩
    have hRest : EndsNumber w' := by
      rw [← List.append_nil w']
      exact .blanks hBlanks' .nil
    rw [hReads.complete hBlanks hSpells hRest]
    exact if_pos (blanks_iff.2 hBlanks')

/-- A document that is an object of values. -/
theorem objectDocument_eq_ok {depth : Nat} {s : Bytes} {members : Members} :
    document (value (depth + 1)) s = .ok (.object members) ↔ ∃ w doc w' ms, s = w ++ (doc ++ w') ∧ Blanks w ∧
      Blanks w' ∧ IsObject doc ms ∧ HoldsMembers (Denotes depth) ms members := by
  rw [document_eq_ok (value_reads _)]
  constructor
  · rintro ⟨w, doc, w', hShape, hBlanks, ⟨⟨⟩⟩ | hCompound, hBlanks'⟩
    cases hCompound with
    | object hDoc hMembers => exact ⟨w, doc, w', _, hShape, hBlanks, hBlanks', hDoc, hMembers⟩
  · rintro ⟨w, doc, w', ms, hShape, hBlanks, hBlanks', hDoc, hMembers⟩
    exact ⟨w, doc, w', hShape, hBlanks, .inr (.object hDoc hMembers), hBlanks'⟩

end BearerTokens.Json
