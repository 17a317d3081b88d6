import BearerTokens.Grant.Basic
import BearerTokens.Proofs.Text.Form

/-!
# What a form body tells

A receiver reads the client id, the secret and the scopes of a grant out of its body, whatever characters they
hold, so two grants with one body have the same parameters.
-/

set_option autoImplicit false

namespace BearerTokens

open BearerTokens.Text

namespace Scopes

/-- No entry has a space in it, since none has a blank. -/
theorem ne_space (s : Scopes) {scope : String} (hScope : scope ∈ s.toList) {c : Char} (hc : c ∈ scope.toList) :
    (c == ' ') = false := by
  have hValid := s.valid scope hScope
  refine beq_false_of_ne ?_
  rintro rfl
  have hBlank : scope.toList.any isBlank = true := List.any_eq_true.2 ⟨' ', hc, rfl⟩
  rw [ScopeError.of?, hBlank] at hValid
  split at hValid <;> cases hValid

theorem split_joined (s : Scopes) (hSome : s.toList ≠ []) :
    (splitWhere (· == ' ') s.joined.toList).map String.ofList = s.toList := by
  have hPieces : ∀ piece ∈ s.toList.map String.toList, ∀ c ∈ piece, (c == ' ') = false := by
    intro piece hPiece c hc
    obtain ⟨scope, hScope, rfl⟩ := List.mem_map.1 hPiece
    exact s.ne_space hScope hc
  have hSplit : splitWhere (· == ' ') s.joined.toList = s.toList.map String.toList := by
    rw [joined, String.toList_intercalate]
    exact splitWhere_intercalate rfl (mt List.map_eq_nil_iff.1 hSome) hPieces
  rw [hSplit, List.map_map]
  refine (List.map_congr_left fun scope _ => ?_).trans (List.map_id _)
  exact String.ofList_toList

theorem toList_of_ofList {scopes : List String} {s : Scopes} (hList : ofList scopes = .ok s) :
    s.toList = scopes := by
  unfold ofList at hList
  split at hList
  · cases hList
  · cases hList
    rfl

end Scopes

namespace Grant

theorem make_cases {clientId : String} {clientSecret : Secret} {tokenUrl : Url} {scopes : List String} {g : Grant}
    (hMake : make clientId clientSecret tokenUrl scopes = .ok g) :
    g.clientId = clientId ∧ g.clientSecret = clientSecret ∧ g.tokenUrl = tokenUrl ∧ g.scopes.toList = scopes := by
  unfold make at hMake
  split at hMake
  · cases hMake
  split at hMake
  · cases hMake
  split at hMake
  · cases hMake
  split at hMake
  · cases hMake
  · rename_i hScopes
    cases hMake
    exact ⟨rfl, rfl, rfl, Scopes.toList_of_ofList hScopes⟩

def credentials (clientId : String) (clientSecret : Secret) : List (String × String) :=
  [("grant_type", "client_credentials"), ("client_id", clientId), ("client_secret", clientSecret.expose)]

theorem pairs_bare {g : Grant} (hNone : g.scopes.toList = []) :
    g.pairs = credentials g.clientId g.clientSecret := by
  rw [pairs, Scopes.requestValue?, Scopes.isEmpty, hNone]
  rfl

theorem pairs_scoped {g : Grant} (hSome : g.scopes.toList ≠ []) :
    g.pairs = credentials g.clientId g.clientSecret ++ [("scope", g.scopes.joined)] := by
  rw [pairs, Scopes.requestValue?, Scopes.isEmpty, List.isEmpty_eq_false_iff.2 hSome]
  rfl

theorem decode_form (g : Grant) : Form.decode g.form = g.pairs :=
  Form.decode_encode g.pairs

structure Told (body clientId : String) (clientSecret : Secret) (scopes : List String) : Prop where
  /-- Without scopes the body holds the credentials and no more. -/
  unscoped : scopes = [] → Form.decode body = credentials clientId clientSecret
  /-- With scopes one more pair follows, and the spaces in its value part it into the scopes. -/
  listed : scopes ≠ [] → ∃ value,
    Form.decode body = credentials clientId clientSecret ++ [("scope", value)] ∧
      (splitWhere (· == ' ') value.toList).map String.ofList = scopes

theorem form_told (g : Grant) : Told g.form g.clientId g.clientSecret g.scopes.toList where
  unscoped hNone := by rw [decode_form, pairs_bare hNone]
  listed hSome := ⟨g.scopes.joined, by rw [decode_form, pairs_scoped hSome], g.scopes.split_joined hSome⟩

theorem credentials_inj {clientId clientId' : String} {clientSecret clientSecret' : Secret}
    {more more' : List (String × String)}
    (hEq : credentials clientId clientSecret ++ more = credentials clientId' clientSecret' ++ more') :
    clientId = clientId' ∧ clientSecret = clientSecret' ∧ more = more' := by
  cases clientSecret
  cases clientSecret'
  simpa [credentials] using hEq

theorem Told.unique {body clientId clientId' : String} {clientSecret clientSecret' : Secret}
    {scopes scopes' : List String} (h : Told body clientId clientSecret scopes)
    (h' : Told body clientId' clientSecret' scopes') :
    clientId = clientId' ∧ clientSecret = clientSecret' ∧ scopes = scopes' := by
  have hMore {clientId : String} {clientSecret : Secret} {scopes : List String}
      (h : Told body clientId clientSecret scopes) :
      ∃ more, Form.decode body = credentials clientId clientSecret ++ more ∧
        scopes = more.flatMap fun p => (splitWhere (· == ' ') p.2.toList).map String.ofList := by
    by_cases hNone : scopes = []
    · exact ⟨[], by rw [h.unscoped hNone, List.append_nil], hNone⟩
    · obtain ⟨value, hDecode, hSplit⟩ := h.listed hNone
      exact ⟨[("scope", value)], hDecode, by rw [List.flatMap_singleton, hSplit]⟩
  obtain ⟨more, hDecode, hScopes⟩ := hMore h
  obtain ⟨more', hDecode', hScopes'⟩ := hMore h'
  obtain ⟨hId, hSecret, hPairs⟩ := credentials_inj (hDecode.symm.trans hDecode')
  exact ⟨hId, hSecret, by rw [hScopes, hScopes', hPairs]⟩

/-- What a grant was made from: its body tells it, and no body of other parameters is the same. -/
structure Lossless (g : Grant) (clientId : String) (clientSecret : Secret) (scopes : List String) : Prop where
  told : Told g.form clientId clientSecret scopes
  sole : ∀ clientId' clientSecret' tokenUrl' scopes' g', make clientId' clientSecret' tokenUrl' scopes' = .ok g' →
    g'.form = g.form → clientId' = clientId ∧ clientSecret' = clientSecret ∧ scopes' = scopes

theorem make_lossless {clientId : String} {clientSecret : Secret} {tokenUrl : Url} {scopes : List String} {g : Grant}
    (hMake : make clientId clientSecret tokenUrl scopes = .ok g) : Lossless g clientId clientSecret scopes := by
  have hTold {clientId : String} {clientSecret : Secret} {tokenUrl : Url} {scopes : List String} {g : Grant}
      (hMake : make clientId clientSecret tokenUrl scopes = .ok g) : Told g.form clientId clientSecret scopes := by
    obtain ⟨rfl, rfl, -, rfl⟩ := make_cases hMake
    exact g.form_told
  constructor
  · exact hTold hMake
  · intro clientId' clientSecret' tokenUrl' scopes' g' hMake' hForm
    have hTold' := hTold hMake'
    rw [hForm] at hTold'
    exact hTold'.unique (hTold hMake)

def tokenEndpoint : Url :=
  ⟨"https", some ⟨"", none, .domain "idp.example.com", none⟩, .segments ["token"], none, none⟩

theorem reserved_lossless :
    ∃ g, make "a&b=c" ⟨"p%+ \n€🔑"⟩ tokenEndpoint ["api/.default", "läs+skriv"] = .ok g ∧
      g.form = "grant_type=client_credentials&client_id=a%26b%3Dc&client_secret=p%25%2B+%0A%E2%82%AC%F0%9F%94%91" ++
        "&scope=api%2F.default+l%C3%A4s%2Bskriv" ∧
      Lossless g "a&b=c" ⟨"p%+ \n€🔑"⟩ ["api/.default", "läs+skriv"] :=
  have hMake : make "a&b=c" ⟨"p%+ \n€🔑"⟩ tokenEndpoint ["api/.default", "läs+skriv"] = .ok _ := rfl
  ⟨_, hMake, by decide +kernel, make_lossless hMake⟩

end Grant

end BearerTokens
