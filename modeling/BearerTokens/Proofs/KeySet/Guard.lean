import BearerTokens.KeySet.Guard
import Mathlib.Data.List.Nodup

/-!
# Guards and the calls they serve

A guard serves the call that holds it and those that wait for it. Coming, looking and going change that by the
call that comes, looks or goes and by no other, and nobody loses the guard but by going.
-/

set_option autoImplicit false

namespace BearerTokens.Guard

variable {g : Guard} {n m : CallName}

def Serves (g : Guard) (name : CallName) : Prop :=
  g.holder = some name ∨ name ∈ g.waiters

structure Orderly (g : Guard) : Prop where
  nodup : g.waiters.Nodup
  apart : ∀ n, g.holder = some n → n ∉ g.waiters

theorem not_serves_free (name : CallName) : ¬ free.Serves name := by
  simp [Serves, free]

theorem orderly_free : free.Orderly := ⟨List.nodup_nil, by simp [free]⟩

theorem serves_enter : (g.enter n).Serves m ↔ g.Serves m ∨ m = n := by
  unfold enter Serves
  cases hHolder : g.holder with
  | none => simp [or_comm, eq_comm]
  | some holder => simp [or_assoc]

theorem Orderly.enter (h : g.Orderly) (hNew : ¬ g.Serves n) : (g.enter n).Orderly := by
  obtain ⟨hHolds, hWaits⟩ := not_or.1 hNew
  unfold Guard.enter
  split
  · refine ⟨h.nodup, ?_⟩
    rintro m ⟨⟩
    exact hWaits
  · refine ⟨?_, fun m hm => ?_⟩
    · rw [← List.concat_eq_append]
      exact List.Nodup.concat hWaits h.nodup
    · simp only [List.mem_append, List.mem_singleton, not_or]
      refine ⟨h.apart m hm, ?_⟩
      rintro rfl
      exact hHolds hm

theorem holder_enter (h : g.holder = some m) : (g.enter n).holder = some m := by
  unfold enter
  rw [h]

theorem mem_waiters_of_woken (h : g.woken? = some n) : n ∈ g.waiters := by
  unfold woken? at h
  split at h
  · exact List.mem_of_head? h
  · cases h

theorem serves_look (h : g.Orderly) (hWaits : n ∈ g.waiters) : (g.look n).Serves m ↔ g.Serves m := by
  unfold look
  rw [serves_enter]
  unfold Serves
  by_cases hm : m = n
  · subst hm
    simp [hWaits]
  · simp [hm, h.nodup.mem_erase_iff]

theorem Orderly.look (h : g.Orderly) (hWaits : n ∈ g.waiters) : (g.look n).Orderly := by
  unfold Guard.look
  refine Orderly.enter ⟨h.nodup.erase n, fun m hm hMem => ?_⟩ ?_
  · exact h.apart m hm (List.mem_of_mem_erase hMem)
  · rintro (hHolds | hStill)
    · exact h.apart n hHolds hWaits
    · exact h.nodup.not_mem_erase hStill

theorem holder_look (h : g.holder = some m) : (g.look n).holder = some m :=
  holder_enter h

@[simp] theorem wake_holder (g : Guard) : g.wake.holder = g.holder := rfl

@[simp] theorem wake_waiters (g : Guard) : g.wake.waiters = g.waiters := rfl

theorem forget_of_holder (h : g.holder = some n) : g.forget n = g.release := by
  simp [forget, h]

theorem holder_forget_of_other (h : g.holder ≠ some n) : (g.forget n).holder = g.holder := by
  unfold forget
  rw [if_neg h]
  split <;> rfl

theorem waiters_forget_of_other (h : g.holder ≠ some n) : (g.forget n).waiters = g.waiters.erase n := by
  unfold forget
  rw [if_neg h]
  split <;> rfl

theorem serves_forget (h : g.Orderly) : (g.forget n).Serves m ↔ g.Serves m ∧ m ≠ n := by
  unfold Serves
  by_cases hHolder : g.holder = some n
  · rw [forget_of_holder hHolder]
    have hApart := h.apart n hHolder
    simp only [release, wake_holder, wake_waiters, reduceCtorEq, false_or, hHolder, Option.some.injEq]
    constructor
    · intro hWaits
      refine ⟨.inr hWaits, ?_⟩
      rintro rfl
      exact hApart hWaits
    · rintro ⟨hHolds | hWaits, hm⟩
      · exact absurd hHolds.symm hm
      · exact hWaits
  · rw [holder_forget_of_other hHolder, waiters_forget_of_other hHolder, h.nodup.mem_erase_iff]
    constructor
    · rintro (hHolds | ⟨hm, hWaits⟩)
      · refine ⟨.inl hHolds, ?_⟩
        rintro rfl
        exact hHolder hHolds
      · exact ⟨.inr hWaits, hm⟩
    · rintro ⟨hHolds | hWaits, hm⟩
      · exact .inl hHolds
      · exact .inr ⟨hm, hWaits⟩

theorem Orderly.forget (h : g.Orderly) (n : CallName) : (g.forget n).Orderly := by
  by_cases hHolder : g.holder = some n
  · rw [forget_of_holder hHolder]
    exact ⟨h.nodup, by simp [release]⟩
  · constructor
    · rw [waiters_forget_of_other hHolder]
      exact h.nodup.erase n
    · intro m hm hMem
      rw [holder_forget_of_other hHolder] at hm
      rw [waiters_forget_of_other hHolder] at hMem
      exact h.apart m hm (List.mem_of_mem_erase hMem)

theorem holder_forget (h : g.holder = some m) (hm : m ≠ n) : (g.forget n).holder = some m := by
  rw [holder_forget_of_other, h]
  rw [h]
  exact fun hSame => hm (Option.some.inj hSame)

theorem holder_of_forget (h : (g.forget n).holder = some m) : g.holder = some m := by
  by_cases hHolder : g.holder = some n
  · rw [forget_of_holder hHolder] at h
    cases h
  · rwa [holder_forget_of_other hHolder] at h

/-- While nobody holds the guard, one of those that wait for it has been woken. -/
def Alert (g : Guard) : Prop :=
  g.holder = none → g.waiters ≠ [] → g.isWaking = true

theorem alert_free : free.Alert := fun _ hWaits => absurd rfl hWaits

theorem holder_of_enter (h : (g.enter n).holder = some m) : g.holder = some m ∨ m = n := by
  unfold enter at h
  split at h
  · exact .inr (Option.some.inj h).symm
  · exact .inl h

theorem holder_of_look (h : (g.look n).holder = some m) : g.holder = some m ∨ m = n := by
  unfold look at h
  rcases holder_of_enter h with hHolds | hSame
  · exact .inl hHolds
  · exact .inr hSame

theorem alert_enter (g : Guard) (n : CallName) : (g.enter n).Alert := by
  intro hFree
  unfold enter at hFree
  split at hFree
  · cases hFree
  · rename_i hHolder
    rw [hHolder] at hFree
    cases hFree

theorem alert_look (g : Guard) (n : CallName) : (g.look n).Alert :=
  alert_enter _ n

theorem alert_wake (g : Guard) : g.wake.Alert := by
  intro _ hWaits
  simpa [wake] using hWaits

theorem Alert.forget (h : g.Alert) (n : CallName) : (g.forget n).Alert := by
  unfold Guard.forget
  split
  · exact alert_wake _
  · split
    · exact alert_wake _
    · intro hFree hWaits
      refine h hFree fun hNone => hWaits ?_
      simp [hNone]

theorem Alert.woken (h : g.Alert) (hFree : g.holder = none) (hWaits : n ∈ g.waiters) :
    ∃ m, g.woken? = some m := by
  have hSome : g.waiters ≠ [] := List.ne_nil_of_mem hWaits
  obtain ⟨m, rest, hWaiters⟩ := List.exists_cons_of_ne_nil hSome
  refine ⟨m, ?_⟩
  rw [woken?, h hFree hSome, hWaiters]
  rfl

end BearerTokens.Guard
