import BearerTokens.Proofs.Text.Blank
import BearerTokens.Proofs.Url.Authority
import BearerTokens.Proofs.Url.Path

/-!
# URLs of the web

What the reader leaves of a URL with a scheme of the web is in one form, whatever text it was read from, and a URL in
that form is read from its own text.
-/

set_option autoImplicit false

namespace BearerTokens.Url

open BearerTokens.Text

variable {toAscii : ToAscii}

def IsWeb (url : Url) : Prop :=
  url.scheme = "http" ∨ url.scheme = "https"

/-- The form in which the reader leaves URLs of the web. -/
structure Canonical (toAscii : ToAscii) (u : Url) : Prop where
  web : u.IsWeb
  authority : ∃ a, u.authority = some a ∧ a.Canonical toAscii u.scheme
  path : ∃ items, u.path = .segments items ∧ IsPath items
  query : ∀ query, u.query = some query → Percent.Kept (staysInQuery true) query.toList
  fragment : ∀ fragment, u.fragment = some fragment → Percent.Kept staysInFragment fragment.toList

theorem kind_of_web {u : Url} (h : u.IsWeb) : SchemeKind.of u.scheme = .special := by
  obtain h | h := h
  · rw [h]
    decide
  · rw [h]
    decide

theorem parseHierarchical_canonical (hLaws : toAscii.Lawful) {scheme : String} {s : List Char} {u : Url}
    (h : parseHierarchical toAscii scheme .special s = .ok u) (hWeb : u.IsWeb) : u.Canonical toAscii := by
  unfold parseHierarchical at h
  split at h
  · cases h
  · rename_i hAuthority
    cases h
    exact ⟨hWeb, ⟨_, rfl, Authority.authorityOf_canonical hLaws hAuthority⟩,
      ⟨_, pathBehind_special _, segmentsOf_isPath _⟩, (queryAndFragment_kept _).1, (queryAndFragment_kept _).2⟩

theorem parseHierarchical_scheme {scheme : String} {kind : SchemeKind} {s : List Char} {u : Url}
    (h : parseHierarchical toAscii scheme kind s = .ok u) : u.scheme = scheme := by
  unfold parseHierarchical at h
  split at h
  · cases h
  · cases h
    rfl

theorem fileBehind_scheme (host : Host) (s : List Char) : (fileBehind host s).scheme = "file" := by
  unfold fileBehind
  dsimp only
  split
  · rfl
  · rfl

theorem fileBehindSlashes_scheme {s : List Char} {u : Url} (h : fileBehindSlashes toAscii s = .ok u) :
    u.scheme = "file" := by
  unfold fileBehindSlashes at h
  dsimp only at h
  split at h
  · cases h
    rfl
  · split at h
    · cases h
      rfl
    · split at h
      · cases h
      · cases h
        split
        · rfl
        · exact fileBehind_scheme _ _

theorem parseFile_scheme {s : List Char} {u : Url} (h : parseFile toAscii s = .ok u) : u.scheme = "file" := by
  unfold parseFile at h
  split at h
  · cases h
    rfl
  · split at h
    · cases h
      rfl
    · exact fileBehindSlashes_scheme h

/-- Whatever is read is left in that form. -/
theorem parse_canonical (hLaws : toAscii.Lawful) {text : String} {u : Url} (h : parse text toAscii = .ok u)
    (hWeb : u.IsWeb) : u.Canonical toAscii := by
  have hKind := kind_of_web hWeb
  have hNot {scheme : String} (hOther : SchemeKind.of scheme = .other) : u.scheme ≠ scheme := by
    rintro rfl
    rw [hOther] at hKind
    cases hKind
  unfold parse at h
  split at h
  · cases h
  · split at h
    · rw [parseFile_scheme h] at hKind
      cases hKind
    · exact parseHierarchical_canonical hLaws h hWeb
    · rename_i hOther _
      exact absurd (parseHierarchical_scheme h) (hNot hOther)
    · rename_i hOther _
      cases h
      exact absurd rfl (hNot hOther)
    · rename_i hOther _ _ _
      cases h
      exact absurd rfl (hNot hOther)

def rest (u : Url) : List Char :=
  u.path.text.toList ++ tail u.query u.fragment

theorem toList_text {u : Url} {a : Authority} (hAuthority : u.authority = some a) :
    u.text.toList = u.scheme.toList ++ ':' :: '/' :: '/' :: (a.text.toList ++ u.rest) := by
  rw [text, withoutFragment, hierarchy, hAuthority, rest]
  cases u.query <;> cases u.fragment <;> simp [tail, queryText, fragmentText]

theorem scheme?_web {scheme : String} (h : scheme = "http" ∨ scheme = "https") (s : List Char) :
    scheme? (scheme.toList ++ ':' :: s) = some (scheme, s) := by
  obtain rfl | rfl := h
  · rfl
  · rfl

section Written

variable {u : Url}

theorem Canonical.rest_head (h : u.Canonical toAscii) {c : Char} (hc : u.rest.head? = some c) : c = '/' := by
  obtain ⟨items, hPath, hItems⟩ := h.path
  rw [rest, hPath, toList_path hItems.filled] at hc
  cases hc
  rfl

theorem isShown_of_mem_authority {scheme : String} {a : Authority} (h : a.Canonical toAscii scheme) {c : Char}
    (hc : c ∈ a.text.toList) : isShown c = true := by
  rw [Authority.toList_text, List.mem_append] at hc
  obtain hc | hc := hc
  · obtain rfl | rfl | hKept := h.mem_userinfo hc
    · rfl
    · rfl
    · exact of_kind (by decide) hKept.1 hKept.2
  · obtain rfl | hText := h.marks_of_mem_place hc
    · rfl
    · rw [Host.inText, Bool.and_eq_true] at hText
      exact hText.1

theorem isShown_of_mem_scheme (h : u.IsWeb) : ∀ c ∈ u.scheme.toList, isShown c = true := by
  refine List.all_eq_true.1 ?_
  obtain h | h := h
  · rw [h]
    decide
  · rw [h]
    decide

theorem Canonical.isShown_of_mem_tail (h : u.Canonical toAscii) {c : Char} (hc : c ∈ tail u.query u.fragment) :
    isShown c = true := by
  rw [tail, List.mem_append] at hc
  obtain hc | hc := hc
  · obtain rfl | ⟨q, hQuery, hc⟩ := mem_queryText hc
    · rfl
    · exact of_kind (by decide) (h.query q hQuery c hc).1 (h.query q hQuery c hc).2
  · obtain rfl | ⟨f, hFragment, hc⟩ := mem_fragmentText hc
    · rfl
    · exact of_kind (by decide) (h.fragment f hFragment c hc).1 (h.fragment f hFragment c hc).2

theorem Canonical.isShown_of_mem (h : u.Canonical toAscii) {c : Char} (hc : c ∈ u.text.toList) : isShown c = true := by
  obtain ⟨a, hAuthority, ha⟩ := h.authority
  obtain ⟨items, hPath, hItems⟩ := h.path
  rw [toList_text hAuthority, rest, hPath] at hc
  simp only [List.mem_append, List.mem_cons] at hc
  obtain hc | rfl | rfl | rfl | hc | hc | hc := hc
  · exact isShown_of_mem_scheme h.web c hc
  · rfl
  · rfl
  · rfl
  · exact isShown_of_mem_authority ha hc
  · exact of_kind (by decide) (hItems.mem_text hc).1 (hItems.mem_text hc).2
  · exact h.isShown_of_mem_tail hc

/-- Nothing of it is dropped before it is read. -/
theorem visible_trim_of_shown {text : String} (h : ∀ c ∈ text.toList, isShown c = true) :
    visible (trim text) = text.toList := by
  have hEdge {c : Char} (hc : c ∈ text.toList) : isEdge c = false := by
    have hShown := isShown_iff.1 (h c hc)
    exact decide_eq_false (by omega)
  have hTrim : trim text = text.toList := by
    refine rdropWhile_dropWhile_eq_self ?_ ?_
    · intro c hc
      exact hEdge (List.mem_of_mem_head? hc)
    · intro c hc
      exact hEdge (List.mem_of_getLast? hc)
  rw [hTrim]
  refine List.filter_eq_self.2 fun c hc => ?_
  have hShown := isShown_iff.1 (h c hc)
  exact of_kind (k := isShown) (p := fun c => !isLineBreak c) (by decide) (by omega) (h c hc)

theorem Canonical.visible_tail (h : u.Canonical toAscii) :
    visible (tail u.query u.fragment) = tail u.query u.fragment := by
  refine List.filter_eq_self.2 fun c hc => ?_
  have hShown := h.isShown_of_mem_tail hc
  have hBounds := isShown_iff.1 hShown
  exact of_kind (k := isShown) (p := fun c => !isLineBreak c) (by decide) (by omega) hShown

/-- Path, query and fragment are told apart by the characters that lead them. -/
theorem Canonical.assemble_rest (h : u.Canonical toAscii) :
    assemble u.scheme .special u.authority (pathBehind .special) u.rest = u := by
  obtain ⟨items, hPath, hItems⟩ := h.path
  have hInside : ∀ c ∈ u.path.text.toList, (!endsPath c) = true := by
    intro c hc
    rw [hPath] at hc
    exact of_kind (p := fun c => !endsPath c) (by decide) (hItems.mem_text hc).1 (hItems.mem_text hc).2
  have hSpan := span_append hInside (tail u.query u.fragment) fun c hc => by
    rw [endsPath_of_head_tail hc]
    rfl
  have hTail : queryAndFragment SchemeKind.special.isSpecial (tail u.query u.fragment) = (u.query, u.fragment) :=
    queryAndFragment_tail h.query h.fragment
  rw [assemble, rest, hSpan.1, hSpan.2, h.visible_tail, hTail]
  dsimp only
  rw [hPath, hItems.pathBehind_text, ← hPath]

/-- A URL in that form is read from its text. -/
theorem Canonical.parse_text (hLaws : toAscii.Lawful) (h : u.Canonical toAscii) : parse u.text toAscii = .ok u := by
  obtain ⟨a, hAuthority, ha⟩ := h.authority
  have hScheme := scheme?_web h.web ('/' :: '/' :: (a.text.toList ++ u.rest))
  have hVisible := visible_trim_of_shown fun c hc => h.isShown_of_mem hc
  -- the reader skips every slash it finds there, and an authority does not begin with one
  have hSlashes : ('/' :: '/' :: (a.text.toList ++ u.rest)).dropWhile (isSlash true) = a.text.toList ++ u.rest := by
    obtain ⟨c, more, hText⟩ := List.exists_cons_of_ne_nil ha.text_ne_nil
    have hc : endsAuthority true c = false := ha.not_ends_of_mem (by rw [hText]; exact List.mem_cons_self)
    rw [endsAuthority, Bool.or_eq_false_iff, Bool.or_eq_false_iff] at hc
    rw [hText, List.dropWhile_cons_of_pos rfl, List.dropWhile_cons_of_pos rfl, List.cons_append,
      List.dropWhile_cons_of_neg (Bool.eq_false_iff.1 hc.1.1)]
  have hRead : authorityOf toAscii u.scheme SchemeKind.special.isSpecial (a.text.toList ++ u.rest) = .ok (a, u.rest) :=
    ha.authorityOf_text hLaws fun c hc => by
      rw [h.rest_head hc]
      rfl
  rw [toList_text hAuthority] at hVisible
  rw [parse, hVisible, hScheme]
  dsimp only
  rw [kind_of_web h.web]
  dsimp only
  rw [hSlashes, parseHierarchical, hRead]
  dsimp only
  rw [← hAuthority, h.assemble_rest]

end Written

end BearerTokens.Url
