import BearerTokens.Proofs.KeySet.Guard
import BearerTokens.Proofs.KeySetCache.Move
import Mathlib.Logic.Function.Basic

/-!
# Ties between calls and guards

A call is tied to a guard while it holds it or waits for it. All calls that are tied are tied to one guard, the
one that newcomers get and the last that was made; and it serves those calls and no others.
-/

set_option autoImplicit false

namespace BearerTokens.KeySetCache

open BearerTokens.Http BearerTokens.Time

structure Tie where
  guard : Nat
  request : Option Nat

def Stage.tie? : Stage → Option Tie
  | .queued _ g => some ⟨g, none⟩
  | .downloading _ g request => some ⟨g, some request⟩
  | _ => none

def Activity.name? : Activity → Option CallName
  | .idle => none
  | .outside name _ => some name
  | .inside name _ _ _ => some name
  | .loading name _ _ _ _ => some name
  | .done name _ _ _ => some name

def Activity.tie? : Activity → Option Tie
  | .inside _ _ _ g => some ⟨g, none⟩
  | .loading _ _ _ g request => some ⟨g, some request⟩
  | _ => none

/-- The tie of a call. What the call at work does counts for more than the stage at which it was left. -/
def tie? (l : Lane) (a : Activity) (name : CallName) : Option Tie :=
  if a.name? = some name then a.tie? else (l.stage? name).bind Stage.tie?

def Moment.tie? (m : Moment) (name : CallName) : Option Tie :=
  KeySetCache.tie? m.work.lane m.activity name

theorem Stage.guard?_eq_some_iff {stage : Stage} {g : Nat} :
    stage.guard? = some g ↔ ∃ t, stage.tie? = some t ∧ t.guard = g := by
  cases stage <;> simp [Stage.guard?, Stage.tie?]

@[simp] theorem tie?_idle (l : Lane) (name : CallName) :
    tie? l .idle name = (l.stage? name).bind Stage.tie? := rfl

theorem tie?_of_name {l : Lane} {a : Activity} {name : CallName} (h : a.name? = some name) :
    tie? l a name = a.tie? :=
  if_pos h

theorem tie?_of_other {l : Lane} {a : Activity} {name : CallName} (h : a.name? ≠ some name) :
    tie? l a name = (l.stage? name).bind Stage.tie? :=
  if_neg h

def Activity.Concerns (a : Activity) (name : CallName) : Prop :=
  a.name? = none ∨ a.name? = some name

theorem Activity.concerns_idle (name : CallName) : Activity.idle.Concerns name := .inl rfl

theorem Activity.Concerns.other {a : Activity} {name n : CallName} (h : a.Concerns name) (hn : n ≠ name) :
    a.name? ≠ some n := by
  rcases h with hNone | hSome
  · rw [hNone]
    simp
  · rw [hSome]
    exact fun hSame => hn (Option.some.inj hSame).symm

/-- What one call does changes no tie but its own. -/
theorem tie?_eq_update {l l' : Lane} {a a' : Activity} {name : CallName} {v : Option Tie}
    (hBefore : a.Concerns name) (hAfter : a'.Concerns name)
    (hStages : ∀ n, n ≠ name → l'.stage? n = l.stage? n) (hSelf : tie? l' a' name = v) :
    tie? l' a' = Function.update (tie? l a) name v := by
  funext n
  by_cases hn : n = name
  · subst hn
    rw [Function.update_self, hSelf]
  · rw [Function.update_of_ne hn, tie?_of_other (hAfter.other hn), tie?_of_other (hBefore.other hn),
      hStages n hn]

theorem tie?_eq_of_same {l l' : Lane} {a a' : Activity} (name : CallName) (hBefore : a.Concerns name)
    (hAfter : a'.Concerns name) (hStages : ∀ n, n ≠ name → l'.stage? n = l.stage? n)
    (hSelf : tie? l' a' name = tie? l a name) : tie? l' a' = tie? l a := by
  rw [tie?_eq_update hBefore hAfter hStages hSelf, Function.update_eq_self]

theorem tie?_setCall {l : Lane} {a : Activity} {call : Call} (hConcerns : a.Concerns call.name) :
    tie? (l.setCall call) .idle = Function.update (tie? l a) call.name call.stage.tie? := by
  refine tie?_eq_update hConcerns (Activity.concerns_idle _) (fun n hn => l.stage?_setCall_of_other hn) ?_
  rw [tie?_idle, Lane.stage?_setCall, if_pos rfl, Option.bind_some]

/-- Guards, the one among them that newcomers get, and the ties that calls have to them. -/
structure Guarded (guards : List Guard) (newcomers : Option Nat) (tie : CallName → Option Tie) : Prop where
  newest : ∀ g, newcomers = some g → g + 1 = guards.length
  held : ∀ n t, tie n = some t → newcomers = some t.guard
  serves : ∀ (g : Nat) (guard : Guard), guards[g]? = some guard →
    ∀ n, guard.Serves n ↔ ∃ t, tie n = some t ∧ t.guard = g
  orderly : ∀ (g : Nat) (guard : Guard), guards[g]? = some guard → guard.Orderly
  loads : ∀ (n : CallName) (g request : Nat) (guard : Guard), tie n = some ⟨g, some request⟩ →
    guards[g]? = some guard → guard.holder = some n

variable {guards : List Guard} {newcomers : Option Nat} {tie tie' : CallName → Option Tie} {g : Nat}
  {name : CallName}

theorem guarded_empty : Guarded [] none fun _ => none where
  newest := by simp
  held := by simp
  serves := by simp
  orderly := by simp
  loads := by simp

theorem Guarded.guard_of_tie (h : Guarded guards newcomers tie) {t : Tie} (hTie : tie name = some t) :
    ∃ guard, guards[t.guard]? = some guard ∧ guard.Serves name := by
  have hLength := h.newest t.guard (h.held name t hTie)
  have hGuard : guards[t.guard]? = some guards[t.guard] := List.getElem?_eq_getElem (by omega)
  exact ⟨_, hGuard, (h.serves _ _ hGuard name).2 ⟨t, hTie, rfl⟩⟩

/-- Two calls whose requests are under way are one. -/
theorem Guarded.unique (h : Guarded guards newcomers tie) {n n' : CallName} {g g' q q' : Nat}
    (hFirst : tie n = some ⟨g, some q⟩) (hSecond : tie n' = some ⟨g', some q'⟩) : n = n' ∧ q = q' := by
  obtain rfl : g = g' := Option.some.inj ((h.held n _ hFirst).symm.trans (h.held n' _ hSecond))
  obtain ⟨guard, hGuard, -⟩ := h.guard_of_tie hFirst
  obtain rfl : n = n' :=
    Option.some.inj ((h.loads n g q guard hFirst hGuard).symm.trans (h.loads n' g q' guard hSecond hGuard))
  rw [hFirst] at hSecond
  cases hSecond
  exact ⟨rfl, rfl⟩

/-- One guard changes, and with it the ties to it. -/
theorem Guarded.modify (h : Guarded guards newcomers tie) {f : Guard → Guard}
    (hHeld : ∀ n t, tie' n = some t → newcomers = some t.guard)
    (hOthers : ∀ n t, t.guard ≠ g → (tie' n = some t ↔ tie n = some t))
    (hServes : ∀ guard : Guard, guards[g]? = some guard →
      ∀ n, (f guard).Serves n ↔ ∃ t, tie' n = some t ∧ t.guard = g)
    (hOrderly : ∀ guard : Guard, guards[g]? = some guard → (f guard).Orderly)
    (hLoads : ∀ (n : CallName) (request : Nat) (guard : Guard), tie' n = some ⟨g, some request⟩ →
      guards[g]? = some guard → (f guard).holder = some n) :
    Guarded (guards.modify g f) newcomers tie' where
  newest g' hNew := by
    rw [List.length_modify]
    exact h.newest g' hNew
  held := hHeld
  serves g' guard hGuard n := by
    obtain ⟨before, hBefore, rfl⟩ := getElem?_modify_eq_some hGuard
    split
    · rename_i hSame
      subst hSame
      exact hServes before hBefore n
    · rename_i hOther
      rw [h.serves g' before hBefore n]
      refine exists_congr fun t => and_congr_left ?_
      rintro rfl
      exact (hOthers n t hOther).symm
  orderly g' guard hGuard := by
    obtain ⟨before, hBefore, rfl⟩ := getElem?_modify_eq_some hGuard
    split
    · rename_i hSame
      subst hSame
      exact hOrderly before hBefore
    · exact h.orderly g' before hBefore
  loads n g' request guard hTie hGuard := by
    obtain ⟨before, hBefore, rfl⟩ := getElem?_modify_eq_some hGuard
    split
    · rename_i hSame
      subst hSame
      exact hLoads n request before hTie hBefore
    · rename_i hOther
      exact h.loads n g' request before ((hOthers n _ hOther).1 hTie) hBefore

theorem update_tie_eq_some_iff {v : Option Tie} {n : CallName} {t : Tie} :
    Function.update tie name v n = some t ↔ (n = name ∧ v = some t) ∨ (n ≠ name ∧ tie n = some t) := by
  by_cases hn : n = name
  · subst hn
    simp
  · simp [hn]

theorem Guarded.enter (h : Guarded guards (some g) tie) (hNew : tie name = none) :
    Guarded (guards.modify g (·.enter name)) (some g) (Function.update tie name (some ⟨g, none⟩)) := by
  have hLocal (n : CallName) (t : Tie) (hTie : Function.update tie name (some ⟨g, none⟩) n = some t) :
      some g = some t.guard := by
    rcases update_tie_eq_some_iff.1 hTie with ⟨rfl, ⟨⟩⟩ | ⟨-, hOld⟩
    · rfl
    · exact h.held n t hOld
  have hUnserved {guard : Guard} (hGuard : guards[g]? = some guard) : ¬ guard.Serves name := by
    rw [h.serves g guard hGuard, hNew]
    simp
  refine h.modify hLocal ?_ ?_ ?_ ?_
  · intro n t hOther
    rw [update_tie_eq_some_iff]
    constructor
    · rintro (⟨rfl, ⟨⟩⟩ | ⟨-, hOld⟩)
      · exact absurd rfl hOther
      · exact hOld
    · intro hOld
      refine .inr ⟨?_, hOld⟩
      rintro rfl
      rw [hNew] at hOld
      cases hOld
  · intro guard hGuard n
    rw [Guard.serves_enter, h.serves g guard hGuard n]
    simp only [update_tie_eq_some_iff]
    constructor
    · rintro (⟨t, hOld, hg⟩ | rfl)
      · refine ⟨t, .inr ⟨?_, hOld⟩, hg⟩
        rintro rfl
        rw [hNew] at hOld
        cases hOld
      · exact ⟨_, .inl ⟨rfl, rfl⟩, rfl⟩
    · rintro ⟨t, ⟨rfl, -⟩ | ⟨-, hOld⟩, hg⟩
      · exact .inr rfl
      · exact .inl ⟨t, hOld, hg⟩
  · exact fun guard hGuard => (h.orderly g guard hGuard).enter (hUnserved hGuard)
  · intro n request guard hTie hGuard
    rcases update_tie_eq_some_iff.1 hTie with ⟨-, ⟨⟩⟩ | ⟨-, hOld⟩
    exact Guard.holder_enter (h.loads n g request guard hOld hGuard)

theorem Guarded.look (h : Guarded guards newcomers tie)
    (hWaits : ∀ guard : Guard, guards[g]? = some guard → name ∈ guard.waiters) :
    Guarded (guards.modify g (·.look name)) newcomers tie := by
  refine h.modify h.held (fun _ _ _ => Iff.rfl) ?_ ?_ ?_
  · intro guard hGuard n
    rw [Guard.serves_look (h.orderly g guard hGuard) (hWaits guard hGuard)]
    exact h.serves g guard hGuard n
  · exact fun guard hGuard => (h.orderly g guard hGuard).look (hWaits guard hGuard)
  · exact fun n request guard hTie hGuard => Guard.holder_look (h.loads n g request guard hTie hGuard)

theorem Guarded.forget (h : Guarded guards newcomers tie) {t : Tie} (hTie : tie name = some t)
    (hGuard : t.guard = g) :
    Guarded (guards.modify g (·.forget name)) newcomers (Function.update tie name none) := by
  have hLeft (n : CallName) (t' : Tie) :
      Function.update tie name none n = some t' ↔ n ≠ name ∧ tie n = some t' := by
    simp [update_tie_eq_some_iff]
  refine h.modify ?_ ?_ ?_ ?_ ?_
  · exact fun n t' hTie' => h.held n t' ((hLeft n t').1 hTie').2
  · intro n t' hOther
    rw [hLeft, and_iff_right_of_imp]
    rintro hOld rfl
    rw [hTie] at hOld
    cases hOld
    exact hOther hGuard
  · intro guard hSlot n
    rw [Guard.serves_forget (h.orderly g guard hSlot), h.serves g guard hSlot n]
    simp only [hLeft]
    constructor
    · rintro ⟨⟨t', hOld, hg⟩, hn⟩
      exact ⟨t', ⟨hn, hOld⟩, hg⟩
    · rintro ⟨t', ⟨hn, hOld⟩, hg⟩
      exact ⟨⟨t', hOld, hg⟩, hn⟩
  · exact fun guard hSlot => (h.orderly g guard hSlot).forget name
  · intro n request guard hTie' hSlot
    obtain ⟨hn, hOld⟩ := (hLeft n _).1 hTie'
    exact Guard.holder_forget (h.loads n g request guard hOld hSlot) hn

theorem Guarded.load (h : Guarded guards newcomers tie) {request : Nat} (hTie : tie name = some ⟨g, none⟩)
    (hHolds : ∀ guard : Guard, guards[g]? = some guard → guard.holder = some name) :
    Guarded guards newcomers (Function.update tie name (some ⟨g, some request⟩)) where
  newest := h.newest
  held n t hNow := by
    rcases update_tie_eq_some_iff.1 hNow with ⟨rfl, ⟨⟩⟩ | ⟨-, hOld⟩
    · exact h.held n ⟨g, none⟩ hTie
    · exact h.held n t hOld
  serves g' guard hGuard n := by
    rw [h.serves g' guard hGuard n]
    by_cases hn : n = name
    · subst hn
      simp [hTie]
    · simp [hn]
  orderly := h.orderly
  loads n g' request' guard hNow hGuard := by
    rcases update_tie_eq_some_iff.1 hNow with ⟨rfl, ⟨⟩⟩ | ⟨-, hOld⟩
    · exact hHolds guard hGuard
    · exact h.loads n g' request' guard hOld hGuard

/-- A guard that no call is tied to is not for newcomers any more. -/
theorem Guarded.retire (h : Guarded guards newcomers tie) (hUntied : ∀ n, tie n = none) :
    Guarded guards none tie where
  newest := by simp
  held n t hTie := by
    rw [hUntied] at hTie
    cases hTie
  serves := h.serves
  orderly := h.orderly
  loads := h.loads

theorem Guarded.takeGuard {l : Lane} (h : Guarded l.guards l.guard tie) :
    Guarded l.takeGuard.1.guards (some l.takeGuard.2) tie ∧ l.takeGuard.1.guard = some l.takeGuard.2 := by
  unfold Lane.takeGuard
  cases hGuard : l.guard with
  | some g =>
    rw [hGuard] at h
    exact ⟨h, hGuard⟩
  | none =>
    rw [hGuard] at h
    -- every tie is to the guard for newcomers, so without one there are no ties to the older guards
    have hUntied (n : CallName) : tie n = none := by
      cases hTie : tie n with
      | none => rfl
      | some t => cases h.held n t hTie
    refine ⟨?_, rfl⟩
    constructor
    · rintro g ⟨⟩
      simp
    · intro n t hTie
      rw [hUntied] at hTie
      cases hTie
    · intro g guard hGuards n
      simp only [hUntied, reduceCtorEq, false_and, exists_false, iff_false]
      rcases getElem?_snoc_eq_some_iff.1 hGuards with hOld | ⟨-, rfl⟩
      · rw [h.serves g guard hOld n, hUntied]
        simp
      · exact Guard.not_serves_free n
    · intro g guard hGuards
      rcases getElem?_snoc_eq_some_iff.1 hGuards with hOld | ⟨-, rfl⟩
      · exact h.orderly g guard hOld
      · exact Guard.orderly_free
    · intro n g request guard hTie
      rw [hUntied] at hTie
      cases hTie

end BearerTokens.KeySetCache
