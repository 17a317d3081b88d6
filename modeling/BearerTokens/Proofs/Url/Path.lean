import Mathlib.Data.List.TakeWhile
import BearerTokens.Proofs.Text.Percent
import BearerTokens.Url.Parser

/-!
# Paths, queries and fragments that read back

A segment is encoded, holds no slash, and names neither the place that it stands in nor the one above. A path of such
segments is read from its text, and so are a query and a fragment that are encoded.
-/

set_option autoImplicit false

namespace BearerTokens.Text.Percent

variable {keep : Char → Bool}

/-- The first character of an encoded text has stayed, or it leads the first byte of a character that has not. -/
theorem encode_eq_cons {s t : List Char} {a : Char} (h : encode keep s = a :: t) :
    (∃ rest, s = a :: rest ∧ t = encode keep rest) ∨
      ∃ c rest b bytes, s = c :: rest ∧ ¬ (c.toNat < 0x80 ∧ keep c = true) ∧ String.utf8EncodeChar c = b :: bytes ∧
        a :: t = encodeByte b ++ (bytes.flatMap encodeByte ++ encode keep rest) := by
  cases s with
  | nil => cases h
  | cons c rest =>
    rw [encode_cons, encode, List.flatMap_singleton] at h
    split at h
    · obtain ⟨rfl, rfl⟩ := List.cons.inj h
      exact .inl ⟨rest, rfl, rfl⟩
    · rename_i hNot
      obtain ⟨b, bytes, hBytes⟩ := List.exists_cons_of_ne_nil (String.utf8EncodeChar_ne_nil (c := c))
      rw [hBytes, List.flatMap_cons, List.append_assoc] at h
      exact .inr ⟨c, rest, b, bytes, rfl, hNot, hBytes, h.symm⟩

theorem encode_eq_cons_of_ne {s t : List Char} {a : Char} (h : encode keep s = a :: t) (ha : a ≠ '%') :
    ∃ rest, s = a :: rest ∧ t = encode keep rest := by
  obtain hStayed | ⟨_, _, _, _, -, -, -, hText⟩ := encode_eq_cons h
  · exact hStayed
  · exact absurd (List.cons.inj hText).1 ha

/-- A first byte below 0x80 is all that its character is written with. -/
theorem eq_of_encodeChar_cons {c : Char} {b : UInt8} {bytes : List UInt8} (hb : b < 0x80)
    (h : String.utf8EncodeChar c = b :: bytes) : c = Char.ofNat b.toNat := by
  have hItems := Utf8.items_encode [c]
  rw [Utf8.encode, List.flatMap_singleton, h, Utf8.items_eq, Utf8.itemsFrom_cons] at hItems
  have hFirst : Utf8.step .idle b = ([some (Char.ofNat b.toNat)], .idle) := Utf8.first_ascii hb
  rw [hFirst] at hItems
  exact (Option.some.inj (List.cons.inj hItems).1).symm

end BearerTokens.Text.Percent

namespace BearerTokens.Url

open BearerTokens.Text

theorem stable_staysInPath : Percent.Stable staysInPath :=
  .of_ascii rfl (by decide)

theorem hexDigit_dot : ∀ n < 16, (Percent.hexDigit n = '2' → n = 2) ∧ (Percent.hexDigit n = 'E' → n = 14) ∧
    Percent.hexDigit n ≠ 'e' := by
  decide

/-- No character but the dot is written with the byte of the dot, and the dot stays itself. -/
theorem not_dot_of_encodeChar {c : Char} {b : UInt8} {bytes : List UInt8}
    (hNot : ¬ (c.toNat < 0x80 ∧ staysInPath c = true)) (hBytes : String.utf8EncodeChar c = b :: bytes)
    (hb : b.toNat = 0x2E) : False := by
  have hAscii : b < 0x80 := by
    rw [UInt8.lt_iff_toNat_lt, hb]
    decide
  have hDot := Percent.eq_of_encodeChar_cons hAscii hBytes
  rw [hb] at hDot
  rw [hDot] at hNot
  exact hNot ⟨by decide, rfl⟩

/-- An encoded dot in an encoded text was there before. -/
theorem exists_of_encode_dot {s t : List Char} {x : Char} (hx : x = 'e' ∨ x = 'E')
    (hText : Percent.encode staysInPath s = '%' :: '2' :: x :: t) :
    ∃ rest, s = '%' :: '2' :: x :: rest ∧ t = Percent.encode staysInPath rest := by
  obtain ⟨rest, rfl, hTwo⟩ | ⟨c, rest, b, bytes, rfl, hNot, hBytes, hByte⟩ := Percent.encode_eq_cons hText
  · obtain ⟨rest, rfl, hLetter⟩ := Percent.encode_eq_cons_of_ne hTwo.symm (by decide)
    have hOther : x ≠ '%' := by
      obtain rfl | rfl := hx <;> decide
    obtain ⟨rest, rfl, hRest⟩ := Percent.encode_eq_cons_of_ne hLetter.symm hOther
    exact ⟨rest, rfl, hRest⟩
  -- otherwise these are the digits of a first byte, which would be that of a dot
  · injection hByte with _ hDigits
    injection hDigits with hHigh hDigits
    injection hDigits with hLow _
    have hLess := b.toNat_lt
    have hTwo := (hexDigit_dot _ (by omega)).1 hHigh.symm
    have hLetter := (hexDigit_dot _ (Nat.mod_lt b.toNat (by decide))).2
    rw [← hLow] at hLetter
    have hb : b.toNat = 0x2E := by
      have hFourteen := hLetter.1 (hx.resolve_left hLetter.2)
      omega
    exact (not_dot_of_encodeChar hNot hBytes hb).elim

/-- Encoding makes no dots. -/
theorem dots_of_encode {s : List Char} {n : Nat} (h : dots (Percent.encode staysInPath s) = some n) :
    dots s = some n := by
  generalize hText : Percent.encode staysInPath s = t at h
  fun_induction dots t generalizing s n with
  | case1 =>
    cases s with
    | nil => exact h
    | cons c s => exact absurd hText (Percent.encode_ne_nil (List.cons_ne_nil c s))
  | case2 t ih =>
    obtain ⟨rest, rfl, rfl⟩ := Percent.encode_eq_cons_of_ne hText (by decide)
    obtain ⟨m, hm, rfl⟩ := Option.map_eq_some_iff.1 h
    rw [dots, ih rfl hm]
    rfl
  | case3 t ih =>
    obtain ⟨rest, rfl, rfl⟩ := exists_of_encode_dot (.inl rfl) hText
    obtain ⟨m, hm, rfl⟩ := Option.map_eq_some_iff.1 h
    rw [dots, ih rfl hm]
    rfl
  | case4 t ih =>
    obtain ⟨rest, rfl, rfl⟩ := exists_of_encode_dot (.inr rfl) hText
    obtain ⟨m, hm, rfl⟩ := Option.map_eq_some_iff.1 h
    rw [dots, ih rfl hm]
    rfl
  | case5 => cases h

/-- A segment as the reader leaves it. -/
structure IsSegment (s : List Char) : Prop where
  kept : Percent.Kept staysInPath s
  unbroken : ∀ c ∈ s, isSlash true c = false
  notHere : dots s ≠ some 1
  notAbove : dots s ≠ some 2

theorem isSegment_of_all {s : List Char}
    (h : s.all (fun c => decide (c.toNat < 0x80) && staysInPath c && !isSlash true c) = true) (hHere : dots s ≠ some 1)
    (hAbove : dots s ≠ some 2) : IsSegment s := by
  have hAll : ∀ c ∈ s, (c.toNat < 0x80 ∧ staysInPath c = true) ∧ isSlash true c = false := by
    simpa [List.all_eq_true] using h
  exact ⟨fun c hc => (hAll c hc).1, fun c hc => (hAll c hc).2, hHere, hAbove⟩

theorem isSegment_nil : IsSegment [] :=
  isSegment_of_all rfl (by decide) (by decide)

theorem not_slash_of_alphanum {c : Char} (hc : c.isAlphanum = true) : isSlash true c = false := by
  have hAll := of_kind (p := fun c => !isSlash true c) (by decide) (ascii_of_isAlphanum hc) hc
  simpa using hAll

theorem isSegment_encode {s : List Char} (hWhole : ∀ c ∈ s, isSlash true c = false) (hHere : dots s ≠ some 1)
    (hAbove : dots s ≠ some 2) : IsSegment (Percent.encode staysInPath s) where
  kept := Percent.kept_encode stable_staysInPath s
  unbroken c hc := by
    obtain ⟨hMem, -⟩ | rfl | hAlphanum := Percent.mem_encode hc
    · exact hWhole c hMem
    · rfl
    · exact not_slash_of_alphanum hAlphanum
  notHere := mt dots_of_encode hHere
  notAbove := mt dots_of_encode hAbove

/-- One segment of a web URL's path. -/
theorem resolve_special_cons (done : List String) (piece : List Char) (more : List (List Char)) :
    resolve .special done (piece :: more) =
      match dots (visible piece) with
      | some 2 => resolve .special (if more.isEmpty then "" :: shorten done else shorten done) more
      | some 1 => resolve .special (if more.isEmpty then "" :: done else done) more
      | _ => resolve .special (segment (visible piece) :: done) more := by
  have hNone : (if SchemeKind.special = .file ∧ done = [] then partedDrive? piece else none) = none :=
    if_neg fun h => nomatch h.1
  have hStep := resolve.eq_2 .special done piece more
  rw [hNone] at hStep
  exact hStep

theorem mem_shorten {done : List String} {item : String} (h : item ∈ shorten done) : item ∈ done := by
  cases done with
  | nil => exact h
  | cons first done =>
    rw [shorten] at h
    split at h
    · exact h
    · exact List.mem_cons_of_mem _ h

structure IsPath (items : List String) : Prop where
  segment : ∀ item ∈ items, IsSegment item.toList
  filled : items ≠ []

theorem resolve_isPath {done : List String} (hDone : ∀ item ∈ done, IsSegment item.toList) {ps : List (List Char)}
    (hWhole : ∀ piece ∈ ps, ∀ c ∈ piece, isSlash true c = false) (hFilled : ps ≠ [] ∨ done ≠ []) :
    IsPath (resolve .special done ps) := by
  induction ps generalizing done with
  | nil =>
    rw [resolve]
    constructor
    · intro item hItem
      exact hDone item (List.mem_reverse.1 hItem)
    · exact fun hNil => hFilled.elim (· rfl) (· (List.reverse_eq_nil_iff.1 hNil))
  | cons piece ps ih =>
    obtain ⟨hPiece, hMore⟩ := List.forall_mem_cons.1 hWhole
    have hVisible : ∀ c ∈ visible piece, isSlash true c = false := fun c hc => hPiece c (List.mem_of_mem_filter hc)
    have hEmpty {l : List String} (hl : ∀ item ∈ l, IsSegment item.toList) :
        ∀ item ∈ "" :: l, IsSegment item.toList :=
      List.forall_mem_cons.2 ⟨isSegment_nil, hl⟩
    have hShort : ∀ item ∈ shorten done, IsSegment item.toList := fun item hItem => hDone item (mem_shorten hItem)
    -- a dot segment that comes last leaves an empty one behind
    have hDots {l : List String} (hl : ∀ item ∈ l, IsSegment item.toList) :
        IsPath (resolve .special (if ps.isEmpty then "" :: l else l) ps) := by
      cases ps with
      | nil => exact ih (hEmpty hl) hMore (.inr (List.cons_ne_nil _ _))
      | cons next ps => exact ih hl hMore (.inl (List.cons_ne_nil _ _))
    rw [resolve_special_cons]
    split
    · exact hDots hShort
    · exact hDots hDone
    · rename_i hAbove hHere
      refine ih (List.forall_mem_cons.2 ⟨?_, hDone⟩) hMore (.inr (List.cons_ne_nil _ _))
      rw [segment, encoded, String.toList_ofList]
      exact isSegment_encode hVisible hHere hAbove

theorem segmentsOf_isPath (s : List Char) : IsPath (segmentsOf .special s) :=
  resolve_isPath (List.forall_mem_nil _) (fun _ hPiece _ hc => (mem_of_mem_splitWhere hPiece hc).2)
    (.inl (splitWhere_ne_nil _ _))

theorem pathBehind_special (s : List Char) : pathBehind .special s = .segments (segmentsOf .special s) := by
  rw [pathBehind, if_neg fun hOther => nomatch hOther.2]

theorem visible_of_kept {s : List Char} (h : Percent.Kept staysInPath s) : visible s = s := by
  refine List.filter_eq_self.2 fun c hc => ?_
  exact of_kind (p := fun c => !isLineBreak c) (by decide) (h c hc).1 (h c hc).2

theorem resolve_segments {items done : List String} (h : ∀ item ∈ items, IsSegment item.toList) :
    resolve .special done (items.map String.toList) = done.reverse ++ items := by
  induction items generalizing done with
  | nil => rw [List.map_nil, resolve, List.append_nil]
  | cons item items ih =>
    obtain ⟨hItem, hMore⟩ := List.forall_mem_cons.1 h
    have hSame : segment item.toList = item := by
      rw [segment, encoded, Percent.encode_eq_self hItem.kept, String.ofList_toList]
    rw [List.map_cons, resolve_special_cons, visible_of_kept hItem.kept]
    split
    · rename_i hTwo
      exact absurd hTwo hItem.notAbove
    · rename_i hOne
      exact absurd hOne hItem.notHere
    · rw [hSame, ih hMore, List.reverse_cons, List.append_assoc, List.singleton_append]

theorem toList_path {items : List String} (h : items ≠ []) :
    (UrlPath.segments items).text.toList = '/' :: ['/'].intercalate (items.map String.toList) := by
  rw [UrlPath.text]
  induction items with
  | nil => exact absurd rfl h
  | cons item items ih =>
    rw [List.map_cons, String.join_cons, String.toList_append, String.toList_append]
    cases items with
    | nil =>
      rw [List.map_nil, String.join_nil, List.map_singleton, List.intercalate_singleton]
      exact List.append_nil _
    | cons next items =>
      rw [ih (List.cons_ne_nil _ _), List.map_cons, List.map_cons, List.map_cons, List.intercalate_cons_cons,
        List.append_assoc, List.append_assoc]
      rfl

theorem IsPath.pathBehind_text {items : List String} (h : IsPath items) :
    pathBehind .special (UrlPath.segments items).text.toList = .segments items := by
  have hWhole : ∀ piece ∈ items.map String.toList, ∀ c ∈ piece, isSlash true c = false := by
    intro piece hPiece
    obtain ⟨item, hItem, rfl⟩ := List.mem_map.1 hPiece
    exact (h.segment item hItem).unbroken
  have hPieces : pieces .special (['/'].intercalate (items.map String.toList)) = items.map String.toList :=
    splitWhere_intercalate rfl (mt List.map_eq_nil_iff.1 h.filled) hWhole
  have hOpen (s : List Char) : segmentsOf .special ('/' :: s) = resolve .special [] (pieces .special s) := rfl
  rw [pathBehind_special, toList_path h.filled, hOpen, hPieces, resolve_segments h.segment, List.reverse_nil,
    List.nil_append]

theorem IsPath.mem_text {items : List String} (h : IsPath items) {c : Char}
    (hc : c ∈ (UrlPath.segments items).text.toList) : c.toNat < 0x80 ∧ staysInPath c = true := by
  rw [toList_path h.filled, List.mem_cons] at hc
  obtain rfl | hc := hc
  · decide
  · obtain rfl | ⟨piece, hPiece, hc⟩ := mem_intercalate hc
    · decide
    · obtain ⟨item, hItem, rfl⟩ := List.mem_map.1 hPiece
      exact (h.segment item hItem).kept c hc

theorem stable_staysInQuery : Percent.Stable (staysInQuery true) :=
  .of_ascii rfl (by decide)

theorem stable_staysInFragment : Percent.Stable staysInFragment :=
  .of_ascii rfl (by decide)

def queryText : Option String → List Char
  | some query => '?' :: query.toList
  | none => []

def fragmentText : Option String → List Char
  | some fragment => '#' :: fragment.toList
  | none => []

def tail (query fragment : Option String) : List Char :=
  queryText query ++ fragmentText fragment

theorem mem_queryText {query : Option String} {c : Char} (hc : c ∈ queryText query) :
    c = '?' ∨ ∃ q, query = some q ∧ c ∈ q.toList := by
  cases query with
  | some q => exact (List.mem_cons.1 hc).imp_right fun hMem => ⟨q, rfl, hMem⟩
  | none => cases hc

theorem mem_fragmentText {fragment : Option String} {c : Char} (hc : c ∈ fragmentText fragment) :
    c = '#' ∨ ∃ f, fragment = some f ∧ c ∈ f.toList := by
  cases fragment with
  | some f => exact (List.mem_cons.1 hc).imp_right fun hMem => ⟨f, rfl, hMem⟩
  | none => cases hc

theorem endsPath_of_head_tail {query fragment : Option String} {c : Char} (hc : (tail query fragment).head? = some c) :
    endsPath c = true := by
  cases query with
  | some query =>
    cases hc
    rfl
  | none =>
    cases fragment with
    | some fragment =>
      cases hc
      rfl
    | none => cases hc

theorem queryAndFragment_kept (s : List Char) :
    (∀ query, (queryAndFragment true s).1 = some query → Percent.Kept (staysInQuery true) query.toList) ∧
      ∀ fragment, (queryAndFragment true s).2 = some fragment → Percent.Kept staysInFragment fragment.toList := by
  have hKept {keep : Char → Bool} (hStable : Percent.Stable keep) (s : List Char) :
      Percent.Kept keep (encoded keep s).toList := by
    rw [encoded, String.toList_ofList]
    exact Percent.kept_encode hStable s
  unfold queryAndFragment
  dsimp only
  split
  · constructor
    · intro query hQuery
      cases hQuery
      exact hKept stable_staysInQuery _
    · intro fragment hFragment
      split at hFragment
      · cases hFragment
        exact hKept stable_staysInFragment _
      · cases hFragment
  · constructor
    · intro query hQuery
      cases hQuery
    · intro fragment hFragment
      split at hFragment
      · cases hFragment
        exact hKept stable_staysInFragment _
      · cases hFragment

theorem queryAndFragment_tail {query fragment : Option String}
    (hQuery : ∀ q, query = some q → Percent.Kept (staysInQuery true) q.toList)
    (hFragment : ∀ f, fragment = some f → Percent.Kept staysInFragment f.toList) :
    queryAndFragment true (tail query fragment) = (query, fragment) := by
  have hFragmentSame {f : String} (hf : fragment = some f) : encoded staysInFragment f.toList = f := by
    rw [encoded, Percent.encode_eq_self (hFragment f hf), String.ofList_toList]
  cases query with
  | none =>
    cases fragment with
    | none => rfl
    | some f => exact congrArg (fun t => (none, some t)) (hFragmentSame rfl)
  | some q =>
    have hInside : ∀ c ∈ q.toList, decide (c ≠ '#') = true := by
      intro c hc
      refine decide_eq_true ?_
      rintro rfl
      cases (hQuery q rfl '#' hc).2
    have hSame : encoded (staysInQuery true) q.toList = q := by
      rw [encoded, Percent.encode_eq_self (hQuery q rfl), String.ofList_toList]
    cases fragment with
    | none =>
      rw [tail, fragmentText, List.append_nil, queryText, queryAndFragment]
      dsimp only
      rw [List.takeWhile_eq_self_iff.2 hInside, List.dropWhile_eq_nil_iff.2 hInside, hSame]
    | some f =>
      have hSpan := span_append hInside ('#' :: f.toList) fun c hc => by
        cases hc
        rfl
      rw [tail, queryText, fragmentText, List.cons_append, queryAndFragment]
      dsimp only
      rw [hSpan.1, hSpan.2, hSame]
      exact congrArg (fun t => (some q, some t)) (hFragmentSame rfl)

end BearerTokens.Url
