import Mathlib.Algebra.GroupWithZero.Nat
import Mathlib.Data.List.Forall2
import Mathlib.Data.List.Nodup

/-!
# Places in lists

What stands where after something has been put at the end of a list, in a numbered place, or in the place that
its key gives it.
-/

set_option autoImplicit false

namespace BearerTokens

theorem getElem?_snoc_eq_some_iff {α : Type} {l : List α} {a b : α} {i : Nat} :
    (l ++ [a])[i]? = some b ↔ l[i]? = some b ∨ i = l.length ∧ a = b := by
  rw [List.getElem?_append]
  split
  · rename_i hi
    exact ⟨.inl, fun h => h.resolve_right fun hEnd => absurd hEnd.1 (Nat.ne_of_lt hi)⟩
  · rename_i hi
    rw [List.getElem?_eq_none (Nat.le_of_not_lt hi)]
    by_cases hEnd : i = l.length
    · simp [hEnd]
    · have hPast : i - l.length ≠ 0 := by omega
      simp [hEnd, hPast]

theorem getElem?_set_eq_some_iff {α : Type} {l : List α} {a old b : α} {i j : Nat}
    (hOld : l[i]? = some old) (hNew : old ≠ b) :
    (l.set i a)[j]? = some b ↔ l[j]? = some b ∨ j = i ∧ a = b := by
  obtain ⟨hi, -⟩ := List.getElem?_eq_some_iff.1 hOld
  rw [List.getElem?_set]
  by_cases hij : i = j
  · subst hij
    rw [hOld]
    simp [hi, hNew]
  · simp [hij, Ne.symm hij]

theorem getElem?_modify_eq_some {α : Type} {l : List α} {f : α → α} {i j : Nat} {b : α}
    (h : (l.modify i f)[j]? = some b) : ∃ a, l[j]? = some a ∧ b = if j = i then f a else a := by
  rw [List.getElem?_modify, Option.map_eq_map, Option.map_eq_some_iff] at h
  obtain ⟨a, hOld, rfl⟩ := h
  refine ⟨a, hOld, ?_⟩
  simp [eq_comm]

theorem mem_modify {α : Type} {l : List α} {f : α → α} {i : Nat} {b : α} (h : b ∈ l.modify i f) :
    ∃ a ∈ l, b = a ∨ b = f a := by
  obtain ⟨j, hj⟩ := List.mem_iff_getElem?.1 h
  obtain ⟨a, hOld, rfl⟩ := getElem?_modify_eq_some hj
  refine ⟨a, List.mem_of_getElem? hOld, ?_⟩
  split
  · exact .inr rfl
  · exact .inl rfl

/-- A count over all places changes by what becomes of one. -/
theorem countP_modify {α : Type} {p : α → Bool} {l : List α} {f : α → α} {i : Nat} {a : α} (h : l[i]? = some a) :
    (l.modify i f).countP p + (if p a then 1 else 0) = l.countP p + (if p (f a) then 1 else 0) := by
  obtain ⟨hi, hAt⟩ := List.getElem?_eq_some_iff.1 h
  have hSplit : l = l.take i ++ a :: l.drop (i + 1) := by simp [← hAt]
  have hCount := congrArg (List.countP p) hSplit
  rw [List.countP_append, List.countP_cons] at hCount
  rw [List.modify_eq_take_cons_drop hi, hAt, List.countP_append, List.countP_cons]
  omega

theorem countP_set_of_getElem? {α : Type} {p : α → Bool} {l : List α} {i : Nat} {a : α} (h : l[i]? = some a) (b : α) :
    (l.set i b).countP p + (if p a then 1 else 0) = l.countP p + (if p b then 1 else 0) := by
  rw [List.set_eq_modify]
  exact countP_modify h

/-- A sum over all places changes by what becomes of one. -/
theorem sum_map_set {α : Type} {f : α → Nat} {l : List α} {i : Nat} {a : α} (h : l[i]? = some a) (b : α) :
    ((l.set i b).map f).sum + f a = (l.map f).sum + f b := by
  obtain ⟨hi, hAt⟩ := List.getElem?_eq_some_iff.1 h
  have hSplit : l = l.take i ++ a :: l.drop (i + 1) := by simp [← hAt]
  have hSum := congrArg (fun xs => (xs.map f).sum) hSplit
  simp only [List.map_append, List.map_cons, List.sum_append, List.sum_cons] at hSum
  rw [List.set_eq_take_append_cons_drop, if_pos hi]
  simp only [List.map_append, List.map_cons, List.sum_append, List.sum_cons]
  omega

/-- A sum of ones counts them. -/
theorem sum_map_eq_countP {α : Type} {f : α → Nat} {p : α → Bool} (h : ∀ a, f a = if p a then 1 else 0) (l : List α) :
    (l.map f).sum = l.countP p := by
  induction l with
  | nil => rfl
  | cons a l ih => rw [List.map_cons, List.sum_cons, List.countP_cons, ih, h, Nat.add_comm]

theorem option_refl {α : Type} {R : α → α → Prop} (h : ∀ a, R a a) (o : Option α) : Option.Rel R o o := by
  cases o with
  | none => exact .none
  | some a => exact .some (h a)

section Forall

variable {α β : Type} {R : α → β → Prop} {l : List α} {m : List β}

theorem option_rel_map {α' β' : Type} {S : α' → β' → Prop} {f : α → α'} {g : β → β'} {o : Option α} {o' : Option β}
    (h : Option.Rel R o o') (hMap : ∀ {a b}, R a b → S (f a) (g b)) : Option.Rel S (o.map f) (o'.map g) := by
  cases h with
  | none => exact .none
  | some hRel => exact .some (hMap hRel)

theorem forall₂_getElem? (h : List.Forall₂ R l m) (i : Nat) : Option.Rel R l[i]? m[i]? := by
  induction h generalizing i with
  | nil => exact .none
  | cons hHead _ ih =>
    cases i with
    | zero => exact .some hHead
    | succ i => exact ih i

theorem forall₂_modify (h : List.Forall₂ R l m) {f : α → α} {g : β → β} (hKeep : ∀ a b, R a b → R (f a) (g b))
    (i : Nat) : List.Forall₂ R (l.modify i f) (m.modify i g) := by
  induction h generalizing i with
  | nil =>
    cases i <;> exact .nil
  | @cons a b _ _ hHead hTail ih =>
    cases i with
    | zero => exact .cons (hKeep a b hHead) hTail
    | succ i => exact .cons hHead (ih i)

theorem forall₂_set (h : List.Forall₂ R l m) {a : α} {b : β} (hNew : R a b) (i : Nat) :
    List.Forall₂ R (l.set i a) (m.set i b) := by
  rw [List.set_eq_modify, List.set_eq_modify]
  exact forall₂_modify h (fun _ _ _ => hNew) i

theorem forall₂_snoc (h : List.Forall₂ R l m) {a : α} {b : β} (hNew : R a b) : List.Forall₂ R (l ++ [a]) (m ++ [b]) :=
  List.rel_append h (.cons hNew .nil)

end Forall

theorem rel_of_pairwise {α : Type} {R : α → α → Prop} {before after : List α} {a b : α}
    (h : (before ++ a :: after).Pairwise R) (hMem : b ∈ after) : R a b :=
  (List.pairwise_cons.1 (List.pairwise_append.1 h).2.1).1 b hMem

theorem pairwise_of_split {α : Type} {R : α → α → Prop} {l : List α}
    (h : ∀ before a mid b after, l = before ++ a :: (mid ++ b :: after) → R a b) : l.Pairwise R := by
  induction l with
  | nil => exact .nil
  | cons a l ih =>
    refine .cons (fun b hMem => ?_) (ih fun before a' mid b after hSplit => ?_)
    · obtain ⟨mid, after, rfl⟩ := List.append_of_mem hMem
      exact h [] a mid b after rfl
    · exact h (a :: before) a' mid b after (by rw [hSplit, List.cons_append])

section ByKey

variable {α β : Type} [DecidableEq β] (key : α → β)

theorem key_replace (x y : α) : key (if key y == key x then x else y) = key y := by
  split
  · rename_i hSame
    exact (beq_iff_eq.1 hSame).symm
  · rfl

/-- What is put in its place is found there, and what is found elsewhere stays. -/
theorem find?_place (xs : List α) (x : α) (k : β) :
    (if xs.any (key · == key x) then xs.map fun y => if key y == key x then x else y else xs ++ [x]).find?
        (key · == k) =
      if k = key x then some x else xs.find? (key · == k) := by
  split
  · rename_i hAny
    rw [List.find?_map]
    simp only [Function.comp_def, key_replace]
    cases hFound : xs.find? (key · == k) with
    | some y =>
      have hy : key y = k := beq_iff_eq.1 (List.find?_some (p := (key · == k)) hFound)
      rw [Option.map_some, hy]
      by_cases hk : k = key x <;> simp [hk]
    | none =>
      rw [if_neg]
      · rfl
      · rintro rfl
        obtain ⟨y, hMem, hy⟩ := List.any_eq_true.1 hAny
        exact List.find?_eq_none.1 hFound y hMem hy
  · rename_i hNew
    rw [List.find?_append, List.find?_singleton]
    by_cases hk : k = key x
    · subst hk
      have hNone : xs.find? (key · == key x) = none :=
        List.find?_eq_none.2 fun y hMem hy => hNew (List.any_eq_true.2 ⟨y, hMem, hy⟩)
      simp [hNone]
    · simp [hk, Ne.symm hk]

theorem nodup_place {xs : List α} (h : (xs.map key).Nodup) (x : α) :
    ((if xs.any (key · == key x) then xs.map fun y => if key y == key x then x else y else xs ++ [x]).map
      key).Nodup := by
  split
  · have hKeys : (xs.map fun y => if key y == key x then x else y).map key = xs.map key := by
      rw [List.map_map]
      exact List.map_congr_left fun y _ => key_replace key x y
    rwa [hKeys]
  · rename_i hNew
    rw [List.map_append, List.map_singleton, ← List.concat_eq_append]
    refine List.Nodup.concat (fun hMem => hNew ?_) h
    obtain ⟨y, hMem, hy⟩ := List.mem_map.1 hMem
    exact List.any_eq_true.2 ⟨y, hMem, beq_iff_eq.2 hy⟩

/-- Where keys are distinct, everything is found under its own. -/
theorem find?_of_mem {xs : List α} (h : (xs.map key).Nodup) {x : α} (hMem : x ∈ xs) :
    xs.find? (key · == key x) = some x := by
  induction xs with
  | nil => cases hMem
  | cons y ys ih =>
    rw [List.map_cons, List.nodup_cons] at h
    rw [List.find?_cons]
    rcases List.mem_cons.1 hMem with rfl | hLater
    · simp
    · have hOther : key y ≠ key x := fun hSame => h.1 (hSame ▸ List.mem_map_of_mem hLater)
      simp only [beq_false_of_ne hOther]
      exact ih h.2 hLater

theorem place_of_split {before after : List α} {x y : α} (h : ((before ++ y :: after).map key).Nodup)
    (hKey : key y = key x) :
    ((before ++ y :: after).map fun z => if key z == key x then x else z) = before ++ x :: after := by
  rw [List.map_append, List.map_cons, List.nodup_append, List.nodup_cons] at h
  obtain ⟨-, ⟨hAfter, -⟩, hBefore⟩ := h
  have hKept {zs : List α} (hOther : ∀ z ∈ zs, key z ≠ key x) :
      (zs.map fun z => if key z == key x then x else z) = zs := by
    refine (List.map_congr_left fun z hMem => ?_).trans (List.map_id zs)
    simp [hOther z hMem]
  rw [List.map_append, List.map_cons, hKept, hKept]
  · simp [hKey]
  · intro z hMem hSame
    exact hAfter (hKey.trans hSame.symm ▸ List.mem_map_of_mem hMem)
  · intro z hMem hSame
    exact hBefore _ (List.mem_map_of_mem hMem) _ (List.mem_cons_self ..) (hSame.trans hKey.symm)

/-- A sum over all places changes by what is put in one, and by what was there. -/
theorem sum_place (count : α → Nat) {xs : List α} (h : (xs.map key).Nodup) (x : α) :
    ((if xs.any (key · == key x) then xs.map fun y => if key y == key x then x else y else xs ++ [x]).map
        count).sum + ((xs.find? (key · == key x)).map count).getD 0 = (xs.map count).sum + count x := by
  split
  · rename_i hAny
    obtain ⟨y, hMem, hy⟩ := List.any_eq_true.1 hAny
    have hKey : key y = key x := beq_iff_eq.1 hy
    rw [← hKey, find?_of_mem key h hMem, hKey]
    obtain ⟨before, after, rfl⟩ := List.append_of_mem hMem
    rw [place_of_split key h hKey]
    simp
    omega
  · rename_i hNone
    have hMissing : xs.find? (key · == key x) = none :=
      List.find?_eq_none.2 fun y hMem hy => hNone (List.any_eq_true.2 ⟨y, hMem, hy⟩)
    simp [hMissing]

end ByKey

end BearerTokens
