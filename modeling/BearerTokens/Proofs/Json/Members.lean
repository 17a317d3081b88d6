import BearerTokens.Proofs.Json.Reader

/-!
# Objects and arrays of JSON

An object is written as its members, each with a name and the text of its value, and an array as the texts of its
elements. The members of an object are taken in one after the other, whatever is made of each of them.
-/

set_option autoImplicit false

namespace BearerTokens.Json

open BearerTokens.Text

inductive IsMember : Bytes → String × Bytes → Prop where
  | intro {w key u u' v : Bytes} {name : String} (hBefore : Blanks w) (hKey : Spells key (Utf8.ofString name))
      (hColon : Blanks u) (hColon' : Blanks u') (hValue : IsValue v) :
      IsMember (w ++ 0x22 :: (key ++ 0x22 :: (u ++ 0x3A :: (u' ++ v)))) (name, v)

inductive AreMore : Bytes → List (String × Bytes) → Prop where
  | none {w : Bytes} (hBlanks : Blanks w) : AreMore w []
  | some {w s t : Bytes} {m : String × Bytes} {ms : List (String × Bytes)} (hBlanks : Blanks w) (hMember : IsMember s m)
      (hMore : AreMore t ms) : AreMore (w ++ 0x2C :: (s ++ t)) (m :: ms)

theorem AreMore.endsNumber {t : Bytes} {ms : List (String × Bytes)} (h : AreMore t ms) (rest : Bytes) :
    EndsNumber (t ++ 0x7D :: rest) := by
  cases h with
  | none hBlanks => exact .blanks hBlanks (.cons (by decide) _)
  | some hBlanks =>
    rw [List.append_assoc]
    exact .blanks hBlanks (.cons (by decide) _)

theorem AreMore.length_le {t : Bytes} {ms : List (String × Bytes)} (h : AreMore t ms) : ms.length ≤ t.length := by
  induction h with
  | none => exact Nat.zero_le _
  | some _ _ _ ih =>
    simp only [List.length_cons, List.length_append]
    omega

inductive IsObject : Bytes → List (String × Bytes) → Prop where
  | empty {w : Bytes} (hBlanks : Blanks w) : IsObject (0x7B :: (w ++ [0x7D])) []
  | members {s t : Bytes} {m : String × Bytes} {ms : List (String × Bytes)} (hMember : IsMember s m)
      (hMore : AreMore t ms) : IsObject (0x7B :: (s ++ (t ++ [0x7D]))) (m :: ms)

theorem IsObject.exists_inner {doc : Bytes} {ms : List (String × Bytes)} (h : IsObject doc ms) :
    ∃ t, doc = 0x7B :: (t ++ [0x7D]) := by
  cases h with
  | empty => exact ⟨_, rfl⟩
  | @members s t => exact ⟨s ++ t, by rw [List.append_assoc]⟩

inductive AreFurther : Bytes → List Bytes → Prop where
  | none {w : Bytes} (hBlanks : Blanks w) : AreFurther w []
  | some {w u v t : Bytes} {vs : List Bytes} (hBlanks : Blanks w) (hBefore : Blanks u) (hValue : IsValue v)
      (hMore : AreFurther t vs) : AreFurther (w ++ 0x2C :: (u ++ (v ++ t))) (v :: vs)

theorem AreFurther.endsNumber {t : Bytes} {vs : List Bytes} (h : AreFurther t vs) (rest : Bytes) :
    EndsNumber (t ++ 0x5D :: rest) := by
  cases h with
  | none hBlanks => exact .blanks hBlanks (.cons (by decide) _)
  | some hBlanks =>
    rw [List.append_assoc]
    exact .blanks hBlanks (.cons (by decide) _)

theorem AreFurther.length_le {t : Bytes} {vs : List Bytes} (h : AreFurther t vs) : vs.length ≤ t.length := by
  induction h with
  | none => exact Nat.zero_le _
  | some _ _ _ _ ih =>
    simp only [List.length_cons, List.length_append]
    omega

inductive IsArray : Bytes → List Bytes → Prop where
  | empty {w : Bytes} (hBlanks : Blanks w) : IsArray (0x5B :: (w ++ [0x5D])) []
  | elements {u v t : Bytes} {vs : List Bytes} (hBefore : Blanks u) (hValue : IsValue v) (hMore : AreFurther t vs) :
      IsArray (0x5B :: (u ++ (v ++ (t ++ [0x5D])))) (v :: vs)

theorem IsArray.exists_inner {doc : Bytes} {vs : List Bytes} (h : IsArray doc vs) :
    ∃ t, doc = 0x5B :: (t ++ [0x5D]) := by
  cases h with
  | empty => exact ⟨_, rfl⟩
  | @elements u v t => exact ⟨u ++ (v ++ t), by rw [List.append_assoc, List.append_assoc]⟩

theorem AreMore.isPart {s t : Bytes} {m : String × Bytes} {ms : List (String × Bytes)} (hMember : IsMember s m)
    (hMore : AreMore t ms) : IsPart .members (s ++ t) := by
  induction hMore generalizing s m with
  | none hBlanks =>
    cases hMember with
    | intro hBefore hKey hColon hColon' hValue =>
      simpa using IsPart.member hBefore hKey.scans hColon hColon' hValue hBlanks
  | some hBlanks hNext _ ih =>
    cases hMember with
    | intro hBefore hKey hColon hColon' hValue =>
      simpa using IsPart.members hBefore hKey.scans hColon hColon' hValue hBlanks (ih hNext)

theorem IsObject.isValue {doc : Bytes} {ms : List (String × Bytes)} (h : IsObject doc ms) : IsValue doc := by
  cases h with
  | empty hBlanks => exact .emptyObject hBlanks
  | members hMember hMore =>
    rw [← List.append_assoc]
    exact .object (hMore.isPart hMember)

theorem AreFurther.isPart {u v t : Bytes} {vs : List Bytes} (hBefore : Blanks u) (hValue : IsValue v)
    (hMore : AreFurther t vs) : IsPart .elements (u ++ (v ++ t)) := by
  induction hMore generalizing u v with
  | none hBlanks => exact .element hBefore hValue hBlanks
  | some hBlanks hBefore' hValue' _ ih => exact .elements hBefore hValue hBlanks (ih hBefore' hValue')

theorem IsArray.isValue {doc : Bytes} {vs : List Bytes} (h : IsArray doc vs) : IsValue doc := by
  cases h with
  | empty hBlanks => exact .emptyArray hBlanks
  | elements hBefore hValue hMore =>
    have hPart := IsPart.array (hMore.isPart hBefore hValue)
    simpa using hPart

variable {ε σ : Type}

/-- The rules take the text of a member in the way told by `adds`, and no other. -/
structure Takes (rules : MemberRules ε σ) (adds : σ → String × Bytes → σ → Prop) : Prop where
  sound {state state' : σ} {name : String} {s rest : Bytes} : rules.allow state name = .ok () →
    rules.take state name s = .ok (state', rest) →
    ∃ u v, s = u ++ (v ++ rest) ∧ Blanks u ∧ IsValue v ∧ adds state (name, v) state'
  complete {state state' : σ} {name : String} {u v rest : Bytes} : Blanks u → IsValue v →
    adds state (name, v) state' → EndsNumber rest →
    rules.allow state name = .ok () ∧ rules.take state name (u ++ (v ++ rest)) = .ok (state', rest)

inductive AddsAll (adds : σ → String × Bytes → σ → Prop) : σ → List (String × Bytes) → σ → Prop where
  | nil {state : σ} : AddsAll adds state [] state
  | cons {state state' state'' : σ} {m : String × Bytes} {ms : List (String × Bytes)} (hFirst : adds state m state')
      (hMore : AddsAll adds state' ms state'') : AddsAll adds state (m :: ms) state''

variable {rules : MemberRules ε σ} {adds : σ → String × Bytes → σ → Prop} {state state' : σ}

/-- A member that has been read after its opening quote. -/
theorem Takes.member_sound (hTakes : Takes rules adds) {name : String} {after s₁ s₂ s₃ w : Bytes}
    (hName : string after = .ok (name, s₁)) (hAllow : rules.allow state name = .ok ()) (hColon : colon s₁ = .ok s₂)
    (hTake : rules.take state name s₂ = .ok (state', s₃)) (hBlanks : Blanks w) :
    ∃ s v, w ++ 0x22 :: after = s ++ s₃ ∧ IsMember s (name, v) ∧ adds state (name, v) state' := by
  obtain ⟨key, rfl, hKey⟩ := string_eq_ok.1 hName
  obtain ⟨u, hBefore, rfl⟩ := colon_eq_ok.1 hColon
  obtain ⟨u', v, rfl, hAfter, hValue, hAdds⟩ := hTakes.sound hAllow hTake
  exact ⟨_, v, by simp, .intro hBlanks hKey hBefore hAfter hValue, hAdds⟩

theorem Takes.membersFrom_sound (hTakes : Takes rules adds) {fuel : Nat} {s rest : Bytes}
    (hRead : membersFrom rules state false fuel s = .ok (state', rest)) :
    ∃ t ms, s = t ++ 0x7D :: rest ∧ AreMore t ms ∧ AddsAll adds state ms state' := by
  -- the comma before a member is read in the round of that member, so what is left always follows one
  induction fuel generalizing state s with
  | zero => cases hRead
  | succ fuel ih =>
    obtain ⟨hNext, rfl⟩ | ⟨k, after, name, s₁, s₂, given₁, s₃, hFuel, hNext, hName, hAllow, hColon, hTake, hMore⟩ :=
      membersFrom_cases hRead
    · cases hNext with
      | @closed _ w rest hBlanks => exact ⟨w, [], rfl, .none hBlanks, .nil⟩
    · cases hFuel
      cases hNext with
      | @later w u _ hBlanks hBefore =>
        obtain ⟨s, v, hShape, hMember, hAdds⟩ := hTakes.member_sound hName hAllow hColon hTake hBefore
        obtain ⟨t, ms, rfl, hRest, hAll⟩ := ih hMore
        exact ⟨_, _, by rw [hShape]; simp, .some hBlanks hMember hRest, .cons hAdds hAll⟩

theorem Takes.members_sound (hTakes : Takes rules adds) {s rest : Bytes}
    (hRead : members rules state s = .ok (state', rest)) :
    ∃ t ms, s = t ++ 0x7D :: rest ∧ IsObject (0x7B :: (t ++ [0x7D])) ms ∧ AddsAll adds state ms state' := by
  obtain ⟨hNext, rfl⟩ | ⟨k, after, name, s₁, s₂, given₁, s₃, hFuel, hNext, hName, hAllow, hColon, hTake, hMore⟩ :=
    membersFrom_cases hRead
  · cases hNext with
    | @closed _ w rest hBlanks => exact ⟨w, [], rfl, .empty hBlanks, .nil⟩
  · cases hNext with
    | @first w _ hBlanks =>
      obtain ⟨s, v, hShape, hMember, hAdds⟩ := hTakes.member_sound hName hAllow hColon hTake hBlanks
      obtain ⟨t, ms, rfl, hRest, hAll⟩ := hTakes.membersFrom_sound hMore
      refine ⟨s ++ t, _, by rw [hShape]; simp, ?_, .cons hAdds hAll⟩
      rw [List.append_assoc]
      exact .members hMember hRest

/-- A member that stands in a document is read to its end. -/
theorem Takes.member_complete (hTakes : Takes rules adds) {s rest : Bytes} {m : String × Bytes}
    (hMember : IsMember s m) (hAdds : adds state m state') (hRest : EndsNumber rest) :
    ∃ w after, s ++ rest = w ++ 0x22 :: after ∧ Blanks w ∧ ∀ {first t} fuel, KeyAt first t (.more after) →
      membersFrom rules state first (fuel + 1) t = membersFrom rules state' false fuel rest := by
  cases hMember with
  | @intro w key u u' v name hBefore hKey hColon hColon' hValue =>
    obtain ⟨hAllow, hTake⟩ := hTakes.complete hColon' hValue hAdds hRest
    refine ⟨w, key ++ 0x22 :: (u ++ 0x3A :: (u' ++ (v ++ rest))), by simp, hBefore, fun fuel hNext => ?_⟩
    exact membersFrom_more hNext (string_eq_ok.2 ⟨key, rfl, hKey⟩) hAllow (colon_eq_ok.2 ⟨u, hColon, rfl⟩) hTake fuel

theorem Takes.membersFrom_complete (hTakes : Takes rules adds) {t : Bytes} {ms : List (String × Bytes)}
    (hMore : AreMore t ms) (hAll : AddsAll adds state ms state') {fuel : Nat} (hFuel : ms.length < fuel)
    (rest : Bytes) : membersFrom rules state false fuel (t ++ 0x7D :: rest) = .ok (state', rest) := by
  induction hMore generalizing state fuel with
  | none hBlanks =>
    cases hAll
    obtain ⟨k, rfl⟩ := Nat.exists_eq_add_of_lt hFuel
    exact membersFrom_closed (.closed hBlanks) _
  | @some w s t m ms hBlanks hMember hMore ih =>
    cases hAll with
    | cons hFirst hAll =>
      obtain ⟨u, after, hShape, hBefore, hRead⟩ := hTakes.member_complete hMember hFirst (hMore.endsNumber rest)
      obtain ⟨k, rfl⟩ : ∃ k, fuel = k + 1 := ⟨fuel - 1, by omega⟩
      rw [List.append_assoc, List.cons_append, List.append_assoc, hShape, hRead k (.later hBlanks hBefore)]
      exact ih hAll (by simpa using hFuel)

theorem Takes.members_complete (hTakes : Takes rules adds) {t : Bytes} {ms : List (String × Bytes)}
    (hObject : IsObject (0x7B :: (t ++ [0x7D])) ms) (hAll : AddsAll adds state ms state') (rest : Bytes) :
    members rules state (t ++ 0x7D :: rest) = .ok (state', rest) := by
  generalize hDoc : 0x7B :: (t ++ [0x7D]) = doc at hObject
  cases hObject with
  | @empty w hBlanks =>
    have hInner : t = w := List.append_cancel_right (List.cons.inj hDoc).2
    subst hInner
    cases hAll
    exact membersFrom_closed (.closed hBlanks) _
  | @members s t' m ms hMember hMore =>
    rw [← List.append_assoc] at hDoc
    have hInner : t = s ++ t' := List.append_cancel_right (List.cons.inj hDoc).2
    subst hInner
    cases hAll with
    | cons hFirst hAll =>
      obtain ⟨u, after, hShape, hBefore, hRead⟩ := hTakes.member_complete hMember hFirst (hMore.endsNumber rest)
      have hFuel := hMore.length_le
      rw [Json.members, List.append_assoc, hShape, hRead _ (.first hBefore)]
      refine hTakes.membersFrom_complete hMore hAll ?_ rest
      rw [← hShape]
      simp
      omega

def ListOf {α : Type} (spells : Bytes → α → Prop) (doc : Bytes) (xs : List α) : Prop :=
  ∃ vs, IsArray doc vs ∧ List.Forall₂ spells vs xs

section Elements

variable {α : Type} {item : Reader α} {spells : Bytes → α → Prop} {done xs : List α}

theorem elementsFrom_cases {first : Bool} {fuel : Nat} {s rest : Bytes}
    (hRead : elementsFrom item done first fuel s = .ok (xs, rest)) :
    ElementAt first s (.closed rest) ∧ xs = done.reverse ∨
      ∃ k after x s', fuel = k + 1 ∧ ElementAt first s (.more after) ∧ item after = .ok (x, s') ∧
        elementsFrom item (x :: done) false k s' = .ok (xs, rest) := by
  cases fuel with
  | zero => cases hRead
  | succ k =>
    unfold elementsFrom at hRead
    split at hRead
    · cases hRead
    · rename_i hNext
      cases hRead
      exact .inl ⟨nextElement_eq_ok.1 hNext, rfl⟩
    · rename_i after hNext
      split at hRead
      · cases hRead
      · rename_i x s' hItem
        exact .inr ⟨k, after, x, s', rfl, nextElement_eq_ok.1 hNext, hItem, hRead⟩

theorem elementsFrom_more {first : Bool} {s after s' : Bytes} {x : α} (hNext : ElementAt first s (.more after))
    (hItem : item after = .ok (x, s')) (fuel : Nat) :
    elementsFrom item done first (fuel + 1) s = elementsFrom item (x :: done) false fuel s' := by
  simp only [elementsFrom, nextElement_eq_ok.2 hNext, hItem]

theorem elementsFrom_closed {first : Bool} {s rest : Bytes} (hNext : ElementAt first s (.closed rest)) (fuel : Nat) :
    elementsFrom item done first (fuel + 1) s = .ok (done.reverse, rest) := by
  simp only [elementsFrom, nextElement_eq_ok.2 hNext]

theorem Reads.elementsFrom_sound (hReads : Reads item spells) {fuel : Nat} {s rest : Bytes}
    (hRead : elementsFrom item done false fuel s = .ok (xs, rest)) :
    ∃ t vs added, s = t ++ 0x5D :: rest ∧ AreFurther t vs ∧ List.Forall₂ spells vs added ∧
      xs = done.reverse ++ added := by
  induction fuel generalizing done s with
  | zero => cases hRead
  | succ fuel ih =>
    obtain ⟨hNext, rfl⟩ | ⟨k, after, x, s', hFuel, hNext, hItem, hMore⟩ := elementsFrom_cases hRead
    · cases hNext with
      | @closed _ w _ hBlanks => exact ⟨w, [], [], rfl, .none hBlanks, .nil, by simp⟩
    · cases hFuel
      obtain ⟨w', v, hShape, hBlanks', hSpells⟩ := hReads.sound hItem
      obtain ⟨t, vs, added, rfl, hFurther, hAll, rfl⟩ := ih hMore
      cases hNext with
      | @later w u more b hBlanks hBefore =>
        exact ⟨_, v :: vs, x :: added, by rw [hShape]; simp,
          .some hBlanks (hBefore.append hBlanks') (hReads.value hSpells) hFurther, .cons hSpells hAll, by simp⟩

theorem Reads.elements_sound (hReads : Reads item spells) {s rest : Bytes} (hRead : elements item s = .ok (xs, rest)) :
    ∃ t vs, s = t ++ 0x5D :: rest ∧ IsArray (0x5B :: (t ++ [0x5D])) vs ∧ List.Forall₂ spells vs xs := by
  obtain ⟨hNext, rfl⟩ | ⟨k, after, x, s', hFuel, hNext, hItem, hMore⟩ := elementsFrom_cases hRead
  · cases hNext with
    | @closed _ w _ hBlanks => exact ⟨w, [], rfl, .empty hBlanks, .nil⟩
  · obtain ⟨w', v, hShape, hBlanks', hSpells⟩ := hReads.sound hItem
    obtain ⟨t, vs, added, rfl, hFurther, hAll, rfl⟩ := hReads.elementsFrom_sound hMore
    cases hNext with
    | @first w more b hBlanks =>
      refine ⟨(w ++ w') ++ (v ++ t), v :: vs, by rw [hShape]; simp, ?_, .cons hSpells hAll⟩
      rw [List.append_assoc (w ++ w'), List.append_assoc v]
      exact .elements (hBlanks.append hBlanks') (hReads.value hSpells) hFurther

theorem Reads.elementsFrom_complete (hReads : Reads item spells) {added : List α} {t : Bytes} {vs : List Bytes}
    (hFurther : AreFurther t vs) (hAll : List.Forall₂ spells vs added) {fuel : Nat} (hFuel : vs.length < fuel)
    (rest : Bytes) :
    elementsFrom item done false fuel (t ++ 0x5D :: rest) = .ok (done.reverse ++ added, rest) := by
  obtain ⟨k, rfl⟩ : ∃ k, fuel = k + 1 := ⟨fuel - 1, by omega⟩
  induction hFurther generalizing done added k with
  | none hBlanks =>
    cases hAll
    rw [elementsFrom_closed (.closed hBlanks), List.append_nil]
  | @some w u v t vs hBlanks hBefore hValue hMore ih =>
    cases hAll with
    | @cons _ x _ added hSpells hAll =>
      have hItem := hReads.complete .nil hSpells (hMore.endsNumber rest)
      obtain ⟨k, rfl⟩ : ∃ j, k = j + 1 := ⟨k - 1, by simp at hFuel; omega⟩
      rw [List.append_assoc, List.cons_append, List.append_assoc, List.append_assoc,
        elementsFrom_more (.later_value hBlanks hBefore hValue _) hItem, ih hAll k (by simpa using hFuel),
        List.reverse_cons, List.append_assoc]
      rfl

theorem Reads.elements_complete (hReads : Reads item spells) {t : Bytes} {vs : List Bytes}
    (hArray : IsArray (0x5B :: (t ++ [0x5D])) vs) (hAll : List.Forall₂ spells vs xs) (rest : Bytes) :
    elements item (t ++ 0x5D :: rest) = .ok (xs, rest) := by
  generalize hDoc : 0x5B :: (t ++ [0x5D]) = doc at hArray
  cases hArray with
  | @empty w hBlanks =>
    have hInner : t = w := List.append_cancel_right (List.cons.inj hDoc).2
    subst hInner
    cases hAll
    exact elementsFrom_closed (.closed hBlanks) _
  | @elements u v t' vs hBefore hValue hMore =>
    rw [← List.append_assoc, ← List.append_assoc] at hDoc
    have hInner : t = u ++ v ++ t' := List.append_cancel_right (List.cons.inj hDoc).2
    subst hInner
    cases hAll with
    | @cons _ x _ added hSpells hAll =>
      have hItem := hReads.complete .nil hSpells (hMore.endsNumber rest)
      obtain ⟨b, v', rfl, -⟩ := hValue.starts
      have hFuel := hMore.length_le
      rw [Json.elements, List.append_assoc, List.append_assoc,
        elementsFrom_more (.first_value hBefore hValue _) hItem, hReads.elementsFrom_complete hMore hAll ?_ rest]
      · rfl
      · simp
        omega

theorem Reads.list (hReads : Reads item spells) : Reads (list item) (ListOf spells) where
  sound {s rest xs} hRead := by
    obtain ⟨w, hBlanks, hShape, -⟩ := exists_blanks s
    unfold Json.list at hRead
    split at hRead
    · rename_i more hSkip
      obtain ⟨t, vs, rfl, hArray, hAll⟩ := hReads.elements_sound hRead
      exact ⟨w, _, by rw [hShape, hSkip]; simp, hBlanks, vs, hArray, hAll⟩
    · cases hRead
  complete {w doc rest xs} hBlanks hList _ := by
    obtain ⟨vs, hArray, hAll⟩ := hList
    obtain ⟨t, rfl⟩ := hArray.exists_inner
    rw [Json.list, skipBlanks_append hBlanks, List.cons_append, skipBlanks_cons rfl]
    simpa using hReads.elements_complete hArray hAll rest
  value hList := by
    obtain ⟨vs, hArray, -⟩ := hList
    exact hArray.isValue

end Elements

end BearerTokens.Json
