import BearerTokens.Json.Record
import BearerTokens.Proofs.Json.Members
import Mathlib.Data.List.Nodup

/-!
# Records of JSON

What a record is read from: an object whose members name the fields, none of them twice, or an array that lists
them. The values of the fields are what their texts spell, and the values of other members can be anything.
-/

set_option autoImplicit false

namespace BearerTokens.Json

open BearerTokens.Text

namespace Schema

variable {φ : Type} {β : φ → Type}

section Fields

variable {schema : Schema φ β} {spells : (f : φ) → Bytes → β f → Prop}

def fieldsOf (schema : Schema φ β) (ms : List (String × Bytes)) : List (φ × Bytes) :=
  ms.filterMap fun m => (schema.field? m.1).map (·, m.2)

/-- The values that were given are what the texts of their fields spell. -/
def Matches (spells : (f : φ) → Bytes → β f → Prop) (fields : List (φ × Bytes)) (given : Given β) : Prop :=
  List.Forall₂ (fun p g => p.1 = g.1 ∧ spells g.1 p.2 g.2) fields given

theorem Matches.fields_eq {fields : List (φ × Bytes)} {given : Given β} (h : Matches spells fields given) :
    fields.map Prod.fst = given.map Sigma.fst := by
  induction h with
  | nil => rfl
  | cons hFirst _ ih => rw [List.map_cons, List.map_cons, ih, hFirst.1]

theorem Matches.exists_text {fields : List (φ × Bytes)} {given : Given β} (h : Matches spells fields given)
    {f : φ} {x : β f} (hMem : ⟨f, x⟩ ∈ given) : ∃ v, (f, v) ∈ fields ∧ spells f v x := by
  induction h with
  | nil => cases hMem
  | @cons p g _ _ hFirst _ ih =>
    obtain hg | hMem := List.mem_cons.1 hMem
    · subst hg
      obtain ⟨f', v⟩ := p
      obtain ⟨rfl, hSpells⟩ := hFirst
      exact ⟨v, List.mem_cons_self, hSpells⟩
    · obtain ⟨v, hIn, hSpells⟩ := ih hMem
      exact ⟨v, List.mem_cons_of_mem _ hIn, hSpells⟩

def valuesOf (value : (f : φ) → β f) (fields : List (φ × Bytes)) : Given β :=
  (fields.map fun p => ⟨p.1, value p.1⟩).reverse

theorem matches_valuesOf {value : (f : φ) → β f} {fields : List (φ × Bytes)}
    (hSpells : ∀ f v, (f, v) ∈ fields → spells f v (value f)) : Matches spells fields (valuesOf value fields).reverse := by
  rw [valuesOf, List.reverse_reverse, Matches, List.forall₂_map_right_iff, List.forall₂_same]
  exact fun p hp => ⟨rfl, hSpells p.1 p.2 hp⟩

theorem fieldsOf_cons_some {name : String} {v : Bytes} {f : φ} (hField : schema.field? name = some f)
    (ms : List (String × Bytes)) : schema.fieldsOf ((name, v) :: ms) = (f, v) :: schema.fieldsOf ms := by
  simp [fieldsOf, hField]

theorem fieldsOf_cons_none {name : String} {v : Bytes} (hField : schema.field? name = none)
    (ms : List (String × Bytes)) : schema.fieldsOf ((name, v) :: ms) = schema.fieldsOf ms := by
  simp [fieldsOf, hField]

/-- The elements of an array are for the first of some fields, and none of those left out is needed. -/
structure Lists (schema : Schema φ β) (spells : (f : φ) → Bytes → β f → Prop) (fs : List φ) (vs : List Bytes)
    (given : Given β) : Prop where
  count : vs.length ≤ fs.length
  needed : ∀ f ∈ fs.drop vs.length, f ∉ schema.neededByPosition
  spelled : Matches spells (fs.zip vs) given

theorem Lists.nil {fs : List φ} (hNeeded : ∀ f ∈ fs, f ∉ schema.neededByPosition) : Lists schema spells fs [] [] where
  count := Nat.zero_le _
  needed := hNeeded
  spelled := by
    rw [List.zip_nil_right]
    exact .nil

theorem Lists.cons {f : φ} {fs : List φ} {v : Bytes} {vs : List Bytes} {x : β f} {given : Given β}
    (hSpells : spells f v x) (h : Lists schema spells fs vs given) :
    Lists schema spells (f :: fs) (v :: vs) (⟨f, x⟩ :: given) where
  count := Nat.succ_le_succ h.count
  needed := h.needed
  spelled := .cons ⟨rfl, hSpells⟩ h.spelled

theorem Lists.nil_cases {fs : List φ} {given : Given β} (h : Lists schema spells fs [] given) :
    given = [] ∧ ∀ f ∈ fs, f ∉ schema.neededByPosition := by
  have hSpelled := h.spelled
  rw [List.zip_nil_right] at hSpelled
  cases hSpelled
  exact ⟨rfl, h.needed⟩

theorem Lists.cons_cases {fs : List φ} {v : Bytes} {vs : List Bytes} {given : Given β}
    (h : Lists schema spells fs (v :: vs) given) :
    ∃ f fs' x given', fs = f :: fs' ∧ given = ⟨f, x⟩ :: given' ∧ spells f v x ∧ Lists schema spells fs' vs given' := by
  cases fs with
  | nil => exact absurd h.count (by simp)
  | cons f fs =>
    have hSpelled := h.spelled
    rw [List.zip_cons_cons] at hSpelled
    cases hSpelled with
    | @cons _ g _ given hFirst hMore =>
      obtain ⟨f', x⟩ := g
      obtain ⟨rfl, hSpells⟩ := hFirst
      exact ⟨f, fs, x, given, rfl, rfl, hSpells, Nat.le_of_succ_le_succ h.count, h.needed, hMore⟩

/-- A record in a document, and the fields it gives with the texts of their values. -/
inductive IsRecord (schema : Schema φ β) : Bytes → List (φ × Bytes) → Prop where
  | object {doc : Bytes} {ms : List (String × Bytes)} (hDoc : IsObject doc ms)
      (hOnce : ((schema.fieldsOf ms).map Prod.fst).Nodup)
      (hNeeded : ∀ f ∈ schema.needed, f ∈ (schema.fieldsOf ms).map Prod.fst) : IsRecord schema doc (schema.fieldsOf ms)
  | array {doc : Bytes} {vs : List Bytes} (hDoc : IsArray doc vs) (hCount : vs.length ≤ schema.positions.length)
      (hNeeded : ∀ f ∈ schema.positions.drop vs.length, f ∉ schema.neededByPosition) :
      IsRecord schema doc (schema.positions.zip vs)

/-- No field is given twice. -/
theorem IsRecord.nodup {doc : Bytes} {fields : List (φ × Bytes)} (h : schema.IsRecord doc fields)
    (hPositions : schema.positions.Nodup) : (fields.map Prod.fst).Nodup := by
  cases h with
  | object _ hOnce _ => exact hOnce
  | array _ hCount _ =>
    rw [List.zip_eq_zip_take_min, List.map_fst_zip (by simp)]
    exact hPositions.sublist (List.take_sublist _ _)

theorem IsRecord.isValue {doc : Bytes} {fields : List (φ × Bytes)} (h : schema.IsRecord doc fields) : IsValue doc := by
  cases h with
  | object hDoc _ _ => exact hDoc.isValue
  | array hDoc _ _ => exact hDoc.isValue

end Fields

variable [DecidableEq φ]

theorem endElements_eq_ok {s rest : Bytes} :
    endElements s = .ok rest ↔ ∃ w, Blanks w ∧ s = w ++ 0x5D :: rest := by
  constructor
  · intro hEnd
    obtain ⟨w, hBlanks, hShape, -⟩ := exists_blanks s
    unfold endElements at hEnd
    cases hSkip : skipBlanks s with
    | nil =>
      simp only [hSkip] at hEnd
      cases hEnd
    | cons b more =>
      simp only [hSkip] at hEnd
      split_ifs at hEnd with hClosing
      cases hEnd
      exact ⟨w, hBlanks, by rw [hShape, hSkip, hClosing]⟩
  · rintro ⟨w, hBlanks, rfl⟩
    rw [endElements, skipBlanks_append hBlanks, skipBlanks_cons rfl]
    rfl

section Named

variable {schema : Schema φ β} {spells : (f : φ) → Bytes → β f → Prop}

/-- How one member adds to the fields that were given. -/
inductive Adds (schema : Schema φ β) (spells : (f : φ) → Bytes → β f → Prop) :
    Given β → String × Bytes → Given β → Prop where
  | field {given : Given β} {name : String} {v : Bytes} {f : φ} {x : β f} (hField : schema.field? name = some f)
      (hNew : given.has f = false) (hSpells : spells f v x) : Adds schema spells given (name, v) (⟨f, x⟩ :: given)
  | other {given : Given β} {name : String} {v : Bytes} (hField : schema.field? name = none) :
      Adds schema spells given (name, v) given

theorem memberRules_takes (hReads : ∀ f, Reads (schema.read f) (spells f)) :
    Takes schema.memberRules (Adds schema spells) where
  sound {given given' name s rest} hAllow hTake := by
    simp only [memberRules] at hAllow hTake
    cases hField : schema.field? name with
    | none =>
      simp only [hField, tagged, map_eq_ok, mapError_eq_ok] at hTake
      obtain ⟨after, hSkip, hEq⟩ := hTake
      cases hEq
      obtain ⟨u, v, rfl, hBlanks, hValue⟩ := isValue_of_skipValue hSkip
      exact ⟨u, v, rfl, hBlanks, hValue, .other hField⟩
    | some f =>
      simp only [hField, tagged, map_eq_ok, mapError_eq_ok] at hAllow hTake
      obtain ⟨⟨x, after⟩, hRead, hEq⟩ := hTake
      cases hEq
      obtain ⟨u, v, rfl, hBlanks, hSpells⟩ := (hReads f).sound hRead
      refine ⟨u, v, rfl, hBlanks, (hReads f).value hSpells, .field hField ?_ hSpells⟩
      split_ifs at hAllow with hNew
      exact Bool.eq_false_iff.2 hNew
  complete {given given' name u v rest} hBlanks hValue hAdds hRest := by
    simp only [memberRules]
    cases hAdds with
    | field hField hNew hSpells =>
      simp [hField, hNew, tagged, (hReads _).complete hBlanks hSpells hRest, Except.mapError, Except.map]
    | other hField => simp [hField, tagged, skipValue_append hBlanks hValue hRest, Except.mapError, Except.map]

theorem get?_eq_none {given : Given β} {f : φ} : given.get? f = none ↔ f ∉ given.map Sigma.fst := by
  induction given with
  | nil => simp [Given.get?]
  | cons g given ih =>
    obtain ⟨f', x⟩ := g
    by_cases hf : f' = f
    · simp [Given.get?, hf]
    · simp [Given.get?, hf, ih, Ne.symm hf]

theorem mem_of_get? {given : Given β} {f : φ} {x : β f} (hGet : given.get? f = some x) : ⟨f, x⟩ ∈ given := by
  induction given with
  | nil => cases hGet
  | cons g given ih =>
    obtain ⟨f', y⟩ := g
    by_cases hf : f' = f
    · subst hf
      simp only [Given.get?, dif_pos] at hGet
      cases hGet
      exact List.mem_cons_self
    · simp only [Given.get?, dif_neg hf] at hGet
      exact List.mem_cons_of_mem _ (ih hGet)

theorem has_iff {given : Given β} {f : φ} : given.has f = true ↔ f ∈ given.map Sigma.fst := by
  simp [Given.has]

theorem matches_of_addsAll {given given' : Given β} {ms : List (String × Bytes)}
    (hAll : AddsAll (Adds schema spells) given ms given') (hGiven : (given.map Sigma.fst).Nodup) :
    (given'.map Sigma.fst).Nodup ∧
      ∃ added, given' = added.reverse ++ given ∧ Matches spells (schema.fieldsOf ms) added := by
  induction hAll with
  | nil => exact ⟨hGiven, [], rfl, .nil⟩
  | cons hFirst _ ih =>
    cases hFirst with
    | @field _ _ f x hField hNew hSpells =>
      have hFresh : f ∉ List.map Sigma.fst _ := mt has_iff.2 (Bool.eq_false_iff.1 hNew)
      obtain ⟨hOnce, added, rfl, hMatches⟩ := ih (List.nodup_cons.2 ⟨hFresh, hGiven⟩)
      rw [fieldsOf_cons_some hField]
      exact ⟨hOnce, ⟨f, x⟩ :: added, by simp, .cons ⟨rfl, hSpells⟩ hMatches⟩
    | other hField =>
      rw [fieldsOf_cons_none hField]
      exact ih hGiven

theorem addsAll_of_matches {given added : Given β} {ms : List (String × Bytes)}
    (hMatches : Matches spells (schema.fieldsOf ms) added) (hOnce : ((added.reverse ++ given).map Sigma.fst).Nodup) :
    AddsAll (Adds schema spells) given ms (added.reverse ++ given) := by
  induction ms generalizing given added with
  | nil =>
    cases hMatches
    exact .nil
  | cons m ms ih =>
    obtain ⟨name, v⟩ := m
    cases hField : schema.field? name with
    | none =>
      rw [fieldsOf_cons_none hField] at hMatches
      exact .cons (.other hField) (ih hMatches hOnce)
    | some f =>
      rw [fieldsOf_cons_some hField] at hMatches
      cases hMatches with
      | @cons _ g _ added hFirst hMore =>
        obtain ⟨f', x⟩ := g
        obtain ⟨rfl, hSpells⟩ := hFirst
        rw [List.reverse_cons, List.append_assoc, List.singleton_append] at hOnce ⊢
        have hFresh := (List.nodup_append.1 (List.map_append ▸ hOnce)).2.1
        have hNew : Given.has given f = false :=
          Bool.eq_false_iff.2 (mt has_iff.1 (List.nodup_cons.1 hFresh).1)
        exact .cons (.field hField hNew hSpells) (ih hMore hOnce)

end Named

section Positional

variable {schema : Schema φ β} {spells : (f : φ) → Bytes → β f → Prop}
variable (hReads : ∀ f, Reads (schema.read f) (spells f))

theorem byPosition_cases {given given' : Given β} {index : Nat} {f : φ} {fs : List φ} {s rest : Bytes}
    (hRead : schema.byPosition given index (f :: fs) s = .ok (given', rest)) :
    (ElementAt (index == 0) s (.closed rest) ∧ given' = given ∧ ∀ g ∈ f :: fs, g ∉ schema.neededByPosition) ∨
      ∃ after x s', ElementAt (index == 0) s (.more after) ∧ schema.read f after = .ok (x, s') ∧
        schema.byPosition (⟨f, x⟩ :: given) (index + 1) fs s' = .ok (given', rest) := by
  unfold byPosition at hRead
  split at hRead
  · cases hRead
  · rename_i hNext
    rw [tagged, mapError_eq_ok] at hNext
    split_ifs at hRead with hNeeded
    cases hRead
    refine .inl ⟨nextElement_eq_ok.1 hNext, rfl, fun g hg hIn => hNeeded ?_⟩
    exact List.any_eq_true.2 ⟨g, hg, List.contains_iff_mem.2 hIn⟩
  · rename_i after hNext
    rw [tagged, mapError_eq_ok] at hNext
    split at hRead
    · cases hRead
    · rename_i x s' hItem
      rw [tagged, mapError_eq_ok] at hItem
      exact .inr ⟨after, x, s', nextElement_eq_ok.1 hNext, hItem, hRead⟩

include hReads in
theorem byPosition_sound {given given' : Given β} {index : Nat} {fs : List φ} {s rest : Bytes}
    (hRead : schema.byPosition given (index + 1) fs s = .ok (given', rest)) :
    ∃ t vs added, s = t ++ 0x5D :: rest ∧ AreFurther t vs ∧ Lists schema spells fs vs added ∧
      given' = added.reverse ++ given := by
  induction fs generalizing given index s with
  | nil =>
    simp only [byPosition, tagged, map_eq_ok, mapError_eq_ok] at hRead
    obtain ⟨after, hEnd, hEq⟩ := hRead
    cases hEq
    obtain ⟨w, hBlanks, rfl⟩ := endElements_eq_ok.1 hEnd
    exact ⟨w, [], [], rfl, .none hBlanks, .nil (by simp), rfl⟩
  | cons f fs ih =>
    obtain ⟨hNext, rfl, hNeeded⟩ | ⟨after, x, s', hNext, hItem, hMore⟩ := byPosition_cases hRead
    · cases hNext with
      | @closed _ w _ hBlanks => exact ⟨w, [], [], rfl, .none hBlanks, .nil hNeeded, rfl⟩
    · obtain ⟨w', v, hShape, hBlanks', hSpells⟩ := (hReads f).sound hItem
      obtain ⟨t, vs, added, rfl, hFurther, hLists, rfl⟩ := ih hMore
      cases hNext with
      | @later w u more b hBlanks hBefore =>
        exact ⟨_, v :: vs, ⟨f, x⟩ :: added, by rw [hShape]; simp,
          .some hBlanks (hBefore.append hBlanks') ((hReads f).value hSpells) hFurther, hLists.cons hSpells, by simp⟩

include hReads in
theorem array_sound {given : Given β} {fs : List φ} {s rest : Bytes}
    (hRead : schema.byPosition [] 0 fs s = .ok (given, rest)) :
    ∃ t vs added, s = t ++ 0x5D :: rest ∧ IsArray (0x5B :: (t ++ [0x5D])) vs ∧ Lists schema spells fs vs added ∧
      given = added.reverse := by
  cases fs with
  | nil =>
    simp only [byPosition, tagged, map_eq_ok, mapError_eq_ok] at hRead
    obtain ⟨after, hEnd, hEq⟩ := hRead
    cases hEq
    obtain ⟨w, hBlanks, rfl⟩ := endElements_eq_ok.1 hEnd
    exact ⟨w, [], [], rfl, .empty hBlanks, .nil (by simp), rfl⟩
  | cons f fs =>
    obtain ⟨hNext, rfl, hNeeded⟩ | ⟨after, x, s', hNext, hItem, hMore⟩ := byPosition_cases hRead
    · cases hNext with
      | @closed _ w _ hBlanks => exact ⟨w, [], [], rfl, .empty hBlanks, .nil hNeeded, rfl⟩
    · obtain ⟨w', v, hShape, hBlanks', hSpells⟩ := (hReads f).sound hItem
      obtain ⟨t, vs, added, rfl, hFurther, hLists, rfl⟩ := byPosition_sound hReads hMore
      cases hNext with
      | @first w more b hBlanks =>
        refine ⟨(w ++ w') ++ (v ++ t), v :: vs, ⟨f, x⟩ :: added, by rw [hShape]; simp, ?_, hLists.cons hSpells, by simp⟩
        rw [List.append_assoc (w ++ w'), List.append_assoc v]
        exact .elements (hBlanks.append hBlanks') ((hReads f).value hSpells) hFurther

theorem byPosition_more {given : Given β} {index : Nat} {f : φ} {fs : List φ} {s after s' : Bytes} {x : β f}
    (hNext : ElementAt (index == 0) s (.more after)) (hItem : schema.read f after = .ok (x, s')) :
    schema.byPosition given index (f :: fs) s = schema.byPosition (⟨f, x⟩ :: given) (index + 1) fs s' := by
  simp only [byPosition, tagged, nextElement_eq_ok.2 hNext, hItem, Except.mapError]

theorem byPosition_closed {given : Given β} {index : Nat} {fs : List φ} {w : Bytes} (hBlanks : Blanks w)
    (hNeeded : ∀ f ∈ fs, f ∉ schema.neededByPosition) (rest : Bytes) :
    schema.byPosition given index fs (w ++ 0x5D :: rest) = .ok (given, rest) := by
  cases fs with
  | nil =>
    rw [byPosition, endElements_eq_ok.2 ⟨w, hBlanks, rfl⟩]
    rfl
  | cons f fs =>
    have hNone : (f :: fs).any (schema.neededByPosition.contains ·) = false := by
      rw [List.any_eq_false]
      exact fun g hg hIn => hNeeded g hg (List.contains_iff_mem.1 hIn)
    simp only [byPosition, tagged, nextElement_eq_ok.2 (.closed hBlanks), Except.mapError, hNone]
    rfl

include hReads in
theorem byPosition_complete {given added : Given β} {index : Nat} {fs : List φ} {t : Bytes} {vs : List Bytes}
    (hFurther : AreFurther t vs) (hLists : Lists schema spells fs vs added) (rest : Bytes) :
    schema.byPosition given (index + 1) fs (t ++ 0x5D :: rest) = .ok (added.reverse ++ given, rest) := by
  induction hFurther generalizing given added index fs with
  | none hBlanks =>
    obtain ⟨rfl, hNeeded⟩ := hLists.nil_cases
    exact byPosition_closed hBlanks hNeeded rest
  | @some w u v t vs hBlanks hBefore hValue hMore ih =>
    obtain ⟨f, fs, x, added, rfl, rfl, hSpells, hLists⟩ := hLists.cons_cases
    have hItem := (hReads f).complete .nil hSpells (hMore.endsNumber rest)
    have hNext : ElementAt (index + 1 == 0) (w ++ 0x2C :: (u ++ (v ++ (t ++ 0x5D :: rest)))) _ :=
      .later_value hBlanks hBefore hValue _
    rw [List.append_assoc, List.cons_append, List.append_assoc, List.append_assoc, byPosition_more hNext hItem,
      ih hLists, List.reverse_cons, List.append_assoc]
    rfl

include hReads in
theorem array_complete {added : Given β} {fs : List φ} {t : Bytes} {vs : List Bytes}
    (hArray : IsArray (0x5B :: (t ++ [0x5D])) vs) (hLists : Lists schema spells fs vs added) (rest : Bytes) :
    schema.byPosition [] 0 fs (t ++ 0x5D :: rest) = .ok (added.reverse, rest) := by
  generalize hDoc : 0x5B :: (t ++ [0x5D]) = doc at hArray
  cases hArray with
  | @empty w hBlanks =>
    have hInner : t = w := List.append_cancel_right (List.cons.inj hDoc).2
    subst hInner
    obtain ⟨rfl, hNeeded⟩ := hLists.nil_cases
    exact byPosition_closed hBlanks hNeeded rest
  | @elements u v t' vs hBefore hValue hMore =>
    rw [← List.append_assoc, ← List.append_assoc] at hDoc
    have hInner : t = u ++ v ++ t' := List.append_cancel_right (List.cons.inj hDoc).2
    subst hInner
    obtain ⟨f, fs, x, added, rfl, rfl, hSpells, hLists⟩ := hLists.cons_cases
    have hItem := (hReads f).complete .nil hSpells (hMore.endsNumber rest)
    have hNext : ElementAt (0 == 0) (u ++ (v ++ (t' ++ 0x5D :: rest))) _ := .first_value hBefore hValue _
    rw [List.append_assoc, List.append_assoc, byPosition_more hNext hItem,
      byPosition_complete hReads hMore hLists rest, List.reverse_cons]

end Positional

section

variable {schema : Schema φ β} {spells : (f : φ) → Bytes → β f → Prop}

theorem byName_eq_ok (hReads : ∀ f, Reads (schema.read f) (spells f)) {s rest : Bytes} {given : Given β} :
    schema.byName s = .ok (given, rest) ↔ ∃ t ms, s = t ++ 0x7D :: rest ∧ IsObject (0x7B :: (t ++ [0x7D])) ms ∧
      ((schema.fieldsOf ms).map Prod.fst).Nodup ∧ (∀ f ∈ schema.needed, f ∈ (schema.fieldsOf ms).map Prod.fst) ∧
      Matches spells (schema.fieldsOf ms) given.reverse := by
  have hFields {ms : List (String × Bytes)} (hMatches : Matches spells (schema.fieldsOf ms) given.reverse) :
      (schema.fieldsOf ms).map Prod.fst = (given.map Sigma.fst).reverse := by
    rw [hMatches.fields_eq, List.map_reverse]
  constructor
  · intro hRead
    unfold byName at hRead
    split at hRead
    · cases hRead
    · rename_i given' rest' hMembers
      split_ifs at hRead with hNeeded
      cases hRead
      obtain ⟨t, ms, hShape, hObject, hAll⟩ := (memberRules_takes hReads).members_sound hMembers
      obtain ⟨hOnce, added, hGiven, hMatches⟩ := matches_of_addsAll hAll List.nodup_nil
      rw [List.append_nil] at hGiven
      have hAdded : added = given.reverse := by rw [hGiven, List.reverse_reverse]
      rw [hAdded] at hMatches
      refine ⟨t, ms, hShape, hObject, ?_, fun f hf => ?_, hMatches⟩
      · rw [hFields hMatches]
        exact List.nodup_reverse.2 hOnce
      · rw [hFields hMatches]
        exact List.mem_reverse.2 (has_iff.1 (List.all_eq_true.1 hNeeded f hf))
  · rintro ⟨t, ms, rfl, hObject, hOnce, hNeeded, hMatches⟩
    rw [hFields hMatches] at hOnce hNeeded
    have hAll : AddsAll (Adds schema spells) [] ms (given.reverse.reverse ++ []) := by
      refine addsAll_of_matches hMatches ?_
      rw [List.reverse_reverse, List.append_nil]
      exact List.nodup_reverse.1 hOnce
    rw [List.reverse_reverse, List.append_nil] at hAll
    rw [byName, (memberRules_takes hReads).members_complete hObject hAll rest]
    exact if_pos (List.all_eq_true.2 fun f hf => has_iff.2 (List.mem_reverse.1 (hNeeded f hf)))

/-- A record is read exactly where one stands, after blanks, whatever comes after it. -/
theorem record_eq_ok (hReads : ∀ f, Reads (schema.read f) (spells f)) {s rest : Bytes} {given : Given β} :
    schema.record s = .ok (given, rest) ↔ ∃ w doc fields, s = w ++ (doc ++ rest) ∧ Blanks w ∧
      schema.IsRecord doc fields ∧ Matches spells fields given.reverse := by
  constructor
  · intro hRead
    obtain ⟨w, hBlanks, hShape, -⟩ := exists_blanks s
    unfold record at hRead
    split at hRead
    · rename_i more hSkip
      obtain ⟨t, vs, added, rfl, hArray, hLists, hGiven⟩ := array_sound hReads hRead
      refine ⟨w, _, _, by rw [hShape, hSkip]; simp, hBlanks, .array hArray hLists.count hLists.needed, ?_⟩
      rw [hGiven, List.reverse_reverse]
      exact hLists.spelled
    · rename_i more hSkip
      obtain ⟨t, ms, rfl, hObject, hOnce, hNeeded, hMatches⟩ := (byName_eq_ok hReads).1 hRead
      exact ⟨w, _, _, by rw [hShape, hSkip]; simp, hBlanks, .object hObject hOnce hNeeded, hMatches⟩
    · cases hRead
  · rintro ⟨w, doc, fields, rfl, hBlanks, hRecord, hMatches⟩
    cases hRecord with
    | @object ms hDoc hOnce hNeeded =>
      obtain ⟨t, rfl⟩ := hDoc.exists_inner
      rw [record, skipBlanks_append hBlanks, List.cons_append, skipBlanks_cons rfl]
      exact (byName_eq_ok hReads).2 ⟨t, ms, by simp, hDoc, hOnce, hNeeded, hMatches⟩
    | @array vs hDoc hCount hNeeded =>
      obtain ⟨t, rfl⟩ := hDoc.exists_inner
      rw [record, skipBlanks_append hBlanks, List.cons_append, skipBlanks_cons rfl]
      have hRead := array_complete hReads hDoc ⟨hCount, hNeeded, hMatches⟩ rest
      rw [List.reverse_reverse] at hRead
      simpa using hRead

theorem reader_reads (hReads : ∀ f, Reads (schema.read f) (spells f)) :
    Reads schema.reader fun doc given => ∃ fields, schema.IsRecord doc fields ∧ Matches spells fields given.reverse where
  sound {s rest given} hRead := by
    obtain ⟨w, doc, fields, hShape, hBlanks, hRecord, hMatches⟩ := (record_eq_ok hReads).1 (mapError_eq_ok.1 hRead)
    exact ⟨w, doc, hShape, hBlanks, fields, hRecord, hMatches⟩
  complete {w doc rest given} hBlanks hGiven _ := by
    obtain ⟨fields, hRecord, hMatches⟩ := hGiven
    exact mapError_eq_ok.2 ((record_eq_ok hReads).2 ⟨w, doc, fields, rfl, hBlanks, hRecord, hMatches⟩)
  value hGiven := by
    obtain ⟨fields, hRecord, -⟩ := hGiven
    exact hRecord.isValue

theorem Matches.given {fields : List (φ × Bytes)} {given : Given β} (h : Matches spells fields given.reverse) {f : φ}
    {v : Bytes} (hOnce : (fields.map Prod.fst).Nodup) (hv : (f, v) ∈ fields) :
    ∃ x, given.get? f = some x ∧ spells f v x := by
  cases hGet : given.get? f with
  | none =>
    have hNone := get?_eq_none.1 hGet
    rw [← List.mem_reverse, ← List.map_reverse, ← h.fields_eq] at hNone
    exact absurd (List.mem_map_of_mem hv) hNone
  | some x =>
    obtain ⟨v', hv', hSpells⟩ := h.exists_text (List.mem_reverse.2 (mem_of_get? hGet))
    have hText : (f, v) = (f, v') := List.inj_on_of_nodup_map hOnce hv hv' rfl
    cases hText
    exact ⟨x, rfl, hSpells⟩

theorem Matches.not_given {fields : List (φ × Bytes)} {given : Given β} (h : Matches spells fields given.reverse) {f : φ}
    (hNone : f ∉ fields.map Prod.fst) : given.get? f = none := by
  rwa [get?_eq_none, ← List.mem_reverse, ← List.map_reverse, ← h.fields_eq]

theorem get?_valuesOf (value : (f : φ) → β f) (fields : List (φ × Bytes)) (f : φ) :
    (valuesOf value fields).get? f = if f ∈ fields.map Prod.fst then some (value f) else none := by
  have hKeys : (valuesOf value fields).map Sigma.fst = (fields.map Prod.fst).reverse := by
    rw [valuesOf, List.map_reverse, List.map_map]
    rfl
  cases hGet : (valuesOf value fields).get? f with
  | none =>
    rw [get?_eq_none, hKeys, List.mem_reverse] at hGet
    rw [if_neg hGet]
  | some x =>
    have hMem := mem_of_get? hGet
    rw [valuesOf, List.mem_reverse, List.mem_map] at hMem
    obtain ⟨p, hp, hEq⟩ := hMem
    cases hEq
    rw [if_pos (List.mem_map_of_mem hp)]

end

end Schema

end BearerTokens.Json
