import BearerTokens.Proofs.Grant.Body

/-!
# Checked scopes

A list of scopes is refused for the first entry in it that is empty or holds a blank, and for no other reason.
-/

set_option autoImplicit false

namespace BearerTokens

open BearerTokens.Text

inductive ScopeError.Of : String → ScopeError → Prop where
  | empty : Of "" .empty
  | blank {scope : String} {c : Char} (mem : c ∈ scope.toList) (blank : isBlank c = true) :
      Of scope (.containsWhitespace scope)

/-- The first entry at fault, and what is wrong with it. -/
def Scopes.FirstFault (scopes : List String) (e : ScopeError) : Prop :=
  ∃ before scope after, scopes = before ++ scope :: after ∧ (∀ other ∈ before, ∀ e, ¬ ScopeError.Of other e) ∧
    ScopeError.Of scope e

theorem ScopeError.of?_eq_some_iff {scope : String} {e : ScopeError} : of? scope = some e ↔ Of scope e := by
  unfold of?
  constructor
  · intro h
    split_ifs at h with hEmpty hBlank
    · cases h
      rw [String.isEmpty_iff.1 hEmpty]
      exact .empty
    · cases h
      obtain ⟨c, hMem, hc⟩ := List.any_eq_true.1 hBlank
      exact .blank hMem hc
  · intro h
    cases h with
    | empty => rfl
    | @blank _ c hMem hc =>
      have hSome : scope.isEmpty = false := by
        refine Bool.eq_false_iff.2 fun hEmpty => ?_
        rw [String.isEmpty_iff.1 hEmpty] at hMem
        cases hMem
      rw [hSome, if_neg Bool.false_ne_true, if_pos (List.any_eq_true.2 ⟨c, hMem, hc⟩)]

theorem ScopeError.of?_eq_none_iff {scope : String} : of? scope = none ↔ ∀ e, ¬ Of scope e := by
  rw [Option.eq_none_iff_forall_ne_some]
  exact forall_congr' fun e => not_congr of?_eq_some_iff

namespace Scopes

theorem findSome?_eq_some_iff {scopes : List String} {e : ScopeError} :
    scopes.findSome? ScopeError.of? = some e ↔ FirstFault scopes e := by
  rw [List.findSome?_eq_some_iff]
  constructor
  · rintro ⟨before, scope, after, hSplit, hFault, hBefore⟩
    exact ⟨before, scope, after, hSplit, fun other hMem => ScopeError.of?_eq_none_iff.1 (hBefore other hMem),
      ScopeError.of?_eq_some_iff.1 hFault⟩
  · rintro ⟨before, scope, after, hSplit, hBefore, hFault⟩
    exact ⟨before, scope, after, hSplit, ScopeError.of?_eq_some_iff.2 hFault,
      fun other hMem => ScopeError.of?_eq_none_iff.2 (hBefore other hMem)⟩

theorem ofList_eq_error_iff {scopes : List String} {e : ScopeError} :
    ofList scopes = .error e ↔ FirstFault scopes e := by
  rw [← findSome?_eq_some_iff]
  unfold ofList
  split <;> simp_all

theorem ofList_eq_ok_iff {scopes : List String} {s : Scopes} : ofList scopes = .ok s ↔ s.toList = scopes := by
  refine ⟨toList_of_ofList, ?_⟩
  rintro rfl
  unfold ofList
  split
  · rename_i hFault
    rw [List.findSome?_eq_none_iff.2 s.valid] at hFault
    cases hFault
  · rfl

end Scopes

end BearerTokens
