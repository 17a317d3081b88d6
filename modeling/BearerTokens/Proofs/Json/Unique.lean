import BearerTokens.Proofs.Json.Members

/-!
# One way to read

At the beginning of a text stands at most one value, and an object has only one list of members. Both are seen by
readers: what they take is theirs alone.
-/

set_option autoImplicit false

namespace BearerTokens.Json

theorem Blanks.endsNumber {w : Bytes} (h : Blanks w) : EndsNumber w := by
  rw [← List.append_nil w]
  exact .blanks h .nil

theorem skipBlanks_value {w v : Bytes} (hBlanks : Blanks w) (hValue : IsValue v) (rest : Bytes) :
    skipBlanks (w ++ (v ++ rest)) = v ++ rest := by
  obtain ⟨b, t, rfl, hFirst⟩ := hValue.starts
  rw [skipBlanks_append hBlanks, List.cons_append, skipBlanks_cons (not_blank_of_startsValue hFirst)]

theorem IsValue.unique {w w' v v' rest rest' : Bytes} (h : IsValue v) (h' : IsValue v') (hBlanks : Blanks w)
    (hBlanks' : Blanks w') (hRest : EndsNumber rest) (hRest' : EndsNumber rest')
    (hEq : w ++ (v ++ rest) = w' ++ (v' ++ rest')) : v = v' := by
  -- to skip either of the values leaves what stands after both
  have hSkip := skipValue_append hBlanks h hRest
  rw [hEq, skipValue_append hBlanks' h' hRest'] at hSkip
  cases hSkip
  have hValues := congrArg skipBlanks hEq
  rw [skipBlanks_value hBlanks h, skipBlanks_value hBlanks' h'] at hValues
  exact List.append_cancel_right hValues

def asWritten : MemberRules Fault (List (String × Bytes)) where
  between := id
  atColon := id
  allow _ _ := .ok ()
  take state name s := (skipValue s).map fun rest =>
    (state ++ [(name, (skipBlanks s).take ((skipBlanks s).length - rest.length))], rest)

theorem take_skipBlanks {w v : Bytes} (hBlanks : Blanks w) (hValue : IsValue v) (rest : Bytes) :
    (skipBlanks (w ++ (v ++ rest))).take ((skipBlanks (w ++ (v ++ rest))).length - rest.length) = v := by
  rw [skipBlanks_value hBlanks hValue, List.length_append, Nat.add_sub_cancel, List.take_left]

theorem asWritten_takes : Takes asWritten fun state m state' => state' = state ++ [m] where
  sound {state state' name s rest} _ hTake := by
    obtain ⟨after, hSkip, hEq⟩ := map_eq_ok.1 hTake
    cases hEq
    obtain ⟨u, v, rfl, hBlanks, hValue⟩ := isValue_of_skipValue hSkip
    exact ⟨u, v, rfl, hBlanks, hValue, by rw [take_skipBlanks hBlanks hValue]⟩
  complete {state state' name u v rest} hBlanks hValue hAdds hRest := by
    refine ⟨rfl, map_eq_ok.2 ⟨rest, skipValue_append hBlanks hValue hRest, ?_⟩⟩
    rw [take_skipBlanks hBlanks hValue, hAdds]

theorem addsAll_asWritten (state ms : List (String × Bytes)) :
    AddsAll (fun state m state' => state' = state ++ [m]) state ms (state ++ ms) := by
  induction ms generalizing state with
  | nil =>
    rw [List.append_nil]
    exact .nil
  | cons m ms ih =>
    rw [List.append_cons]
    exact .cons rfl (ih (state ++ [m]))

theorem IsObject.unique {doc : Bytes} {ms ms' : List (String × Bytes)} (h : IsObject doc ms) (h' : IsObject doc ms') :
    ms = ms' := by
  obtain ⟨t, rfl⟩ := h.exists_inner
  have hRead := asWritten_takes.members_complete h (addsAll_asWritten [] ms) []
  rw [asWritten_takes.members_complete h' (addsAll_asWritten [] ms') []] at hRead
  cases hRead
  rfl

end BearerTokens.Json
