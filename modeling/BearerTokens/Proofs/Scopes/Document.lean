import BearerTokens.Proofs.Json.Value
import BearerTokens.Proofs.Json.Written
import BearerTokens.Proofs.Scopes
import BearerTokens.Proofs.Text.Blank

/-!
# Scopes in documents

A list of scopes is written as an array of strings and read from one. What is read passes the same check as what is
listed, so nothing that is written is refused, and a list of scopes is parted by spaces into its entries wherever it
came from.
-/

set_option autoImplicit false

namespace BearerTokens.Scopes

open BearerTokens.Json BearerTokens.Text

structure IsScope (scope : String) : Prop where
  filled : scope ≠ ""
  whole : ∀ c ∈ scope.toList, c.toNat ∉ whiteSpace

theorem isScope_iff {scope : String} : IsScope scope ↔ ∀ e, ¬ ScopeError.Of scope e := by
  constructor
  · rintro ⟨hFilled, hWhole⟩ e h
    cases h with
    | empty => exact hFilled rfl
    | blank hMem hBlank => exact hWhole _ hMem (isBlank_iff.1 hBlank)
  · intro hNone
    refine ⟨?_, fun c hMem hWhite => hNone _ (.blank hMem (isBlank_iff.2 hWhite))⟩
    rintro rfl
    exact hNone _ .empty

/-- What becomes of a list of strings: it is taken as it is, or its first entry at fault is told. -/
structure Checked (scopes : List String) : Prop where
  accepted : (∃ s, ofList scopes = .ok s) ↔ ∀ scope ∈ scopes, IsScope scope
  kept : ∀ s, ofList scopes = .ok s → s.toList = scopes
  empty : ofList scopes = .error .empty ↔
    ∃ before after, scopes = before ++ "" :: after ∧ ∀ scope ∈ before, IsScope scope
  blank : ∀ entry, ofList scopes = .error (.containsWhitespace entry) ↔
    ∃ before after, scopes = before ++ entry :: after ∧ (∀ scope ∈ before, IsScope scope) ∧
      ∃ c ∈ entry.toList, c.toNat ∈ whiteSpace

theorem exists_ofList_iff {scopes : List String} :
    (∃ s, ofList scopes = .ok s) ↔ ∀ scope ∈ scopes, IsScope scope := by
  constructor
  · rintro ⟨s, hList⟩ scope hMem
    rw [← ofList_eq_ok_iff.1 hList] at hMem
    exact isScope_iff.2 (ScopeError.of?_eq_none_iff.1 (s.valid scope hMem))
  · intro hAll
    have hValid : ∀ scope ∈ scopes, ScopeError.of? scope = none := fun scope hMem =>
      ScopeError.of?_eq_none_iff.2 (isScope_iff.1 (hAll scope hMem))
    exact ⟨⟨scopes, hValid⟩, ofList_eq_ok_iff.2 rfl⟩

theorem firstFault_iff {scopes : List String} {e : ScopeError} : FirstFault scopes e ↔
    ∃ before scope after, scopes = before ++ scope :: after ∧ (∀ other ∈ before, IsScope other) ∧
      ScopeError.Of scope e := by
  simp only [FirstFault, isScope_iff]

theorem checked (scopes : List String) : Checked scopes where
  accepted := exists_ofList_iff
  kept s hList := toList_of_ofList hList
  empty := by
    rw [ofList_eq_error_iff, firstFault_iff]
    constructor
    · rintro ⟨before, _, after, hSplit, hBefore, ⟨⟩⟩
      exact ⟨before, after, hSplit, hBefore⟩
    · rintro ⟨before, after, hSplit, hBefore⟩
      exact ⟨before, "", after, hSplit, hBefore, .empty⟩
  blank entry := by
    rw [ofList_eq_error_iff, firstFault_iff]
    constructor
    · rintro ⟨before, _, after, hSplit, hBefore, ⟨⟩ | @⟨_, c, hMem, hBlank⟩⟩
      exact ⟨before, after, hSplit, hBefore, c, hMem, isBlank_iff.1 hBlank⟩
    · rintro ⟨before, after, hSplit, hBefore, c, hMem, hWhite⟩
      exact ⟨before, entry, after, hSplit, hBefore, .blank hMem (isBlank_iff.2 hWhite)⟩

def IsDocument (doc : Bytes) (scopes : List String) : Prop :=
  ∃ w v w', doc = w ++ (v ++ w') ∧ Blanks w ∧ ListOf IsText v scopes ∧ Blanks w'

theorem reads : Reads read fun v s => ListOf IsText v s.toList where
  sound {doc rest s} hRead := by
    unfold read at hRead
    split at hRead
    · cases hRead
    · rename_i scopes after hTexts
      split at hRead
      · rename_i hList
        cases hRead
        rw [ofList_eq_ok_iff.1 hList]
        exact text_reads.list.sound hTexts
      · cases hRead
  complete {w v rest s} hBlanks hTexts hRest := by
    have hList : ofList s.toList = .ok s := ofList_eq_ok_iff.2 rfl
    simp only [read, text_reads.list.complete hBlanks hTexts hRest, hList]
  value := text_reads.list.value

theorem document_eq_ok_iff {doc : Bytes} {s : Scopes} : document read doc = .ok s ↔ IsDocument doc s.toList :=
  document_eq_ok reads

theorem isDocument_json (s : Scopes) : IsDocument (Utf8.ofString s.json) s.toList := by
  have hArray : ListOf IsText (Utf8.ofString s.json) s.toList := by
    rw [json, Utf8.ofString, String.toList_ofList]
    refine ⟨_, isArray_writeStrings s.toList, ?_⟩
    rw [List.forall₂_map_left_iff, List.forall₂_same]
    exact fun scope _ => isText_writeString scope
  exact ⟨[], _, [], by simp, .nil, hArray, .nil⟩

/-- What is read from a document, and what is read from it when it has been written again. -/
structure Documented (doc : Bytes) : Prop where
  accepted : (∃ s, document read doc = .ok s) ↔
    ∃ scopes, IsDocument doc scopes ∧ ∃ s, ofList scopes = .ok s
  told : ∀ s, document read doc = .ok s ↔ IsDocument doc s.toList
  rewritten : ∀ s, document read doc = .ok s → document read (Utf8.ofString s.json) = .ok s

/-- What a list of scopes is to those who read it. -/
structure Unambiguous (s : Scopes) : Prop where
  json : document read (Utf8.ofString s.json) = .ok s
  unrequested : s.toList = [] → s.requestValue? = none
  parted : s.toList ≠ [] → ∃ value, s.requestValue? = some value ∧
    (splitWhere (· == ' ') value.toList).map String.ofList = s.toList

theorem documented (doc : Bytes) : Documented doc where
  accepted := by
    constructor
    · rintro ⟨s, hRead⟩
      exact ⟨s.toList, document_eq_ok_iff.1 hRead, s, ofList_eq_ok_iff.2 rfl⟩
    · rintro ⟨scopes, hDoc, s, hList⟩
      rw [← ofList_eq_ok_iff.1 hList] at hDoc
      exact ⟨s, document_eq_ok_iff.2 hDoc⟩
  told _ := document_eq_ok_iff
  rewritten s _ := document_eq_ok_iff.2 (isDocument_json s)

theorem unambiguous (s : Scopes) : Unambiguous s where
  json := document_eq_ok_iff.2 (isDocument_json s)
  unrequested hNone := by
    rw [requestValue?, isEmpty, hNone]
    rfl
  parted hSome := by
    refine ⟨s.joined, ?_, s.split_joined hSome⟩
    rw [requestValue?, isEmpty, List.isEmpty_eq_false_iff.2 hSome]
    rfl

/-- Scopes are checked in the same way where they are listed and where they are read, and come back from what they are
written to. -/
theorem scopes_roundTrip : (∀ scopes, Checked scopes) ∧ (∀ doc, Documented doc) ∧ ∀ s, Unambiguous s :=
  ⟨checked, documented, unambiguous⟩

/-- Blanks may stand around the strings, and a string may be spelled by escapes. -/
example : (document read (Utf8.ofString " [\"\\u0061:b\", \"\\ud83d\\ude00\"]\n")).map Scopes.toList =
    .ok ["a:b", "😀"] := by
  decide +kernel

end BearerTokens.Scopes
