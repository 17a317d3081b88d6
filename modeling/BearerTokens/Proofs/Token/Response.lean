import BearerTokens.Proofs.Json.Record
import BearerTokens.Token.Response

/-!
# What a token response is read from

The bodies that are taken for a token response, and the values they give. A body has to begin with one object
that names each field at most once, or with an array that lists the fields; what follows this does not matter.
-/

set_option autoImplicit false

namespace BearerTokens.TokenResponse

open BearerTokens.Json BearerTokens.Json.Schema BearerTokens.Text

def spells : (f : Field) → Bytes → f.type → Prop
  | .accessToken => fun v (token : Secret) => IsText v token.expose
  | .tokenType => OrNull IsText
  | .expiresIn => OrNull IsFloat
  | .scope => OrNull IsText

theorem secret_reads : Reads Secret.read fun v token => IsText v token.expose where
  sound {s rest token} hRead := by
    obtain ⟨⟨value, after⟩, hText, hEq⟩ := map_eq_ok.1 hRead
    cases hEq
    exact text_reads.sound hText
  complete {w v rest token} hBlanks hText hRest :=
    map_eq_ok.2 ⟨(token.expose, rest), text_reads.complete hBlanks hText hRest, rfl⟩
  value hText := text_reads.value hText

theorem text_not_null {v : Bytes} {text : String} (hText : IsText v text) : v.head? ≠ some 0x6E := by
  obtain ⟨inner, rfl, -⟩ := hText
  simp

theorem float_not_null {v : Bytes} {x : Number.Binary64} (hFloat : IsFloat v x) : v.head? ≠ some 0x6E := by
  obtain ⟨n, hNumeral, -⟩ := hFloat
  obtain ⟨b, t, rfl, -, hFirst⟩ := hNumeral.isNumber.starts
  rintro ⟨⟩
  obtain h | h := hFirst <;> cases h

theorem field_reads (f : Field) : Reads (schema.read f) (spells f) := by
  cases f with
  | accessToken => exact secret_reads
  | tokenType => exact text_reads.orNull fun _ _ => text_not_null
  | expiresIn => exact float_reads.orNull fun _ _ => float_not_null
  | scope => exact text_reads.orNull fun _ _ => text_not_null

/-- A field that may be left out: its value is what its text spells, and nothing if it is not there or null. -/
def Gives {α : Type} (spells : Bytes → α → Prop) (fields : List (Field × Bytes)) (f : Field) : Option α → Prop
  | none => ∀ v, (f, v) ∈ fields → v = 0x6E :: ull
  | some x => ∃ v, (f, v) ∈ fields ∧ spells v x

structure Holds (fields : List (Field × Bytes)) (r : TokenResponse) : Prop where
  accessToken : ∃ v, (.accessToken, v) ∈ fields ∧ IsText v r.accessToken.expose
  tokenType : Gives IsText fields .tokenType r.tokenType
  expiresIn : Gives IsFloat fields .expiresIn r.expiresIn
  scope : Gives IsText fields .scope r.scope

theorem text_unique {fields : List (Field × Bytes)} (hOnce : (fields.map Prod.fst).Nodup) {f : Field} {v v' : Bytes}
    (h : (f, v) ∈ fields) (h' : (f, v') ∈ fields) : v = v' :=
  congrArg Prod.snd (List.inj_on_of_nodup_map hOnce h h' rfl)

theorem gives_found {α : Type} {spells : Bytes → α → Prop} {fields : List (Field × Bytes)} {f : Field}
    {found : Option (Option α)} (hOnce : (fields.map Prod.fst).Nodup)
    (hFound : ∀ x, found = some x → ∃ v, (f, v) ∈ fields ∧ OrNull spells v x)
    (hNone : found = none → f ∉ fields.map Prod.fst) : Gives spells fields f (found.getD none) := by
  match found with
  | none => exact fun v hv => absurd (List.mem_map_of_mem hv) (hNone rfl)
  | some none =>
    obtain ⟨v, hIn, hNull⟩ := hFound none rfl
    intro v' hv'
    rw [text_unique hOnce hv' hIn]
    exact hNull
  | some (some x) => exact hFound (some x) rfl

def value (r : TokenResponse) : (f : Field) → f.type
  | .accessToken => r.accessToken
  | .tokenType => r.tokenType
  | .expiresIn => r.expiresIn
  | .scope => r.scope

theorem Gives.orNull {α : Type} {spells : Bytes → α → Prop} {fields : List (Field × Bytes)} {f : Field} {x : Option α}
    (h : Gives spells fields f x) (hOnce : (fields.map Prod.fst).Nodup) {v : Bytes} (hv : (f, v) ∈ fields) :
    OrNull spells v x := by
  cases x with
  | none => exact h v hv
  | some x =>
    obtain ⟨v', hIn, hSpells⟩ := h
    rw [text_unique hOnce hv hIn]
    exact hSpells

theorem Holds.spells {fields : List (Field × Bytes)} {r : TokenResponse} (h : Holds fields r)
    (hOnce : (fields.map Prod.fst).Nodup) {f : Field} {v : Bytes} (hv : (f, v) ∈ fields) :
    TokenResponse.spells f v (r.value f) := by
  cases f with
  | accessToken =>
    obtain ⟨v', hIn, hText⟩ := h.accessToken
    rw [text_unique hOnce hv hIn]
    exact hText
  | tokenType => exact h.tokenType.orNull hOnce hv
  | expiresIn => exact h.expiresIn.orNull hOnce hv
  | scope => exact h.scope.orNull hOnce hv

def IsResponse (doc : Bytes) (r : TokenResponse) : Prop :=
  ∃ fields, schema.IsRecord doc fields ∧ Holds fields r

def BeginsWith (body : Bytes) (r : TokenResponse) : Prop :=
  ∃ w doc rest, body = w ++ (doc ++ rest) ∧ Blanks w ∧ IsResponse doc r

theorem isRecord_nodup {doc : Bytes} {fields : List (Field × Bytes)} (h : schema.IsRecord doc fields) :
    (fields.map Prod.fst).Nodup :=
  h.nodup (by decide)

theorem holds_of_given {fields : List (Field × Bytes)} {given : Given Field.type} {r : TokenResponse}
    (hMatches : Matches TokenResponse.spells fields given.reverse) (hOnce : (fields.map Prod.fst).Nodup)
    (hGiven : ofGiven? given = some r) : Holds fields r := by
  have hFound {f : Field} {x : f.type} (hGet : given.get? f = some x) : ∃ v, (f, v) ∈ fields ∧ spells f v x :=
    hMatches.exists_text (List.mem_reverse.2 (mem_of_get? hGet))
  have hNone {f : Field} (hGet : given.get? f = none) : f ∉ fields.map Prod.fst := by
    rw [hMatches.fields_eq, List.map_reverse, List.mem_reverse]
    exact get?_eq_none.1 hGet
  obtain ⟨token, hToken, rfl⟩ := Option.map_eq_some_iff.1 hGiven
  exact
    { accessToken := hFound hToken
      tokenType := gives_found hOnce (fun _ => hFound) hNone
      expiresIn := gives_found hOnce (fun _ => hFound) hNone
      scope := gives_found hOnce (fun _ => hFound) hNone }

def givenOf (r : TokenResponse) (fields : List (Field × Bytes)) : Given Field.type :=
  (fields.map fun p => ⟨p.1, r.value p.1⟩).reverse

theorem matches_givenOf {fields : List (Field × Bytes)} {r : TokenResponse} (h : Holds fields r)
    (hOnce : (fields.map Prod.fst).Nodup) : Matches TokenResponse.spells fields (r.givenOf fields).reverse :=
  matches_valuesOf fun _ _ hv => h.spells hOnce hv

theorem get?_givenOf (r : TokenResponse) (fields : List (Field × Bytes)) (f : Field) :
    (r.givenOf fields).get? f = if f ∈ fields.map Prod.fst then some (r.value f) else none :=
  get?_valuesOf r.value fields f

theorem Gives.getD_eq {α : Type} {spells : Bytes → α → Prop} {fields : List (Field × Bytes)} {f : Field}
    {x : Option α} (h : Gives spells fields f x) :
    (if f ∈ fields.map Prod.fst then some x else none).getD none = x := by
  split
  · rfl
  · rename_i hNone
    cases x with
    | none => rfl
    | some x =>
      obtain ⟨v, hIn, -⟩ := h
      exact absurd (List.mem_map_of_mem hIn) hNone

theorem ofGiven?_givenOf {fields : List (Field × Bytes)} {r : TokenResponse} (h : Holds fields r) :
    ofGiven? (r.givenOf fields) = some r := by
  obtain ⟨v, hToken, -⟩ := h.accessToken
  have hGiven : (r.givenOf fields).get? .accessToken = some r.accessToken := by
    rw [get?_givenOf, if_pos (List.mem_map_of_mem hToken)]
    rfl
  have hType : ((r.givenOf fields).get? .tokenType).getD none = r.tokenType := by
    rw [get?_givenOf]
    exact h.tokenType.getD_eq
  have hExpires : ((r.givenOf fields).get? .expiresIn).getD none = r.expiresIn := by
    rw [get?_givenOf]
    exact h.expiresIn.getD_eq
  have hScope : ((r.givenOf fields).get? .scope).getD none = r.scope := by
    rw [get?_givenOf]
    exact h.scope.getD_eq
  rw [ofGiven?, hGiven, hType, hExpires, hScope]
  rfl

theorem read_eq_ok {body : Bytes} {r : TokenResponse} : read body = .ok r ↔ BeginsWith body r := by
  constructor
  · intro hRead
    unfold read at hRead
    split at hRead
    · cases hRead
    · rename_i given rest hRecord
      split at hRead
      · rename_i hGiven
        cases hRead
        obtain ⟨w, doc, fields, hShape, hBlanks, hRecord, hMatches⟩ := (record_eq_ok field_reads).1 hRecord
        exact ⟨w, doc, rest, hShape, hBlanks, fields, hRecord,
          holds_of_given hMatches (isRecord_nodup hRecord) hGiven⟩
      · cases hRead
  · rintro ⟨w, doc, rest, hShape, hBlanks, fields, hRecord, hHolds⟩
    have hMatches := matches_givenOf hHolds (isRecord_nodup hRecord)
    have hRead := (record_eq_ok field_reads).2 ⟨w, doc, fields, hShape, hBlanks, hRecord, hMatches⟩
    simp only [read, hRead, ofGiven?_givenOf hHolds]

/-- What becomes of the body of a response that told success. -/
structure Decided (status : Nat) (body : Bytes) : Prop where
  /-- It is accepted with the values it begins with, when the token is not empty. -/
  accepted : ∀ r, parse status body = .ok r ↔ BeginsWith body r ∧ r.accessToken.expose ≠ ""
  /-- An empty token is an error of its own. -/
  emptied : parse status body = .error .emptyAccessToken ↔ ∃ r, BeginsWith body r ∧ r.accessToken.expose = ""
  /-- Every other body is malformed, and the error has the status. -/
  refused : (¬ ∃ r, BeginsWith body r) ↔ ∃ e, parse status body = .error (.malformedResponse e status)

def IsWhole (body : Bytes) (r : TokenResponse) : Prop :=
  ∃ w doc rest, body = w ++ (doc ++ rest) ∧ Blanks w ∧ Blanks rest ∧ (∃ ms, IsObject doc ms) ∧ IsResponse doc r

theorem parse_decided (status : Nat) (body : Bytes) : Decided status body := by
  cases hRead : read body with
  | error e =>
    have hParse : parse status body = .error (.malformedResponse e status) := by rw [parse, hRead]
    constructor <;> simp [← read_eq_ok, hParse, hRead]
  | ok r =>
    by_cases hEmpty : r.accessToken.expose = ""
    · have hParse : parse status body = .error .emptyAccessToken := by
        simp only [parse, hRead, Secret.isEmpty, String.isEmpty_iff, if_pos hEmpty]
      constructor
      · intro r'
        rw [← read_eq_ok, hParse, hRead]
        constructor
        · rintro ⟨⟩
        · rintro ⟨⟨⟩, hToken⟩
          exact absurd hEmpty hToken
      · simp [← read_eq_ok, hParse, hRead, hEmpty]
      · simp [← read_eq_ok, hParse, hRead]
    · have hParse : parse status body = .ok r := by
        simp only [parse, hRead, Secret.isEmpty, String.isEmpty_iff, if_neg hEmpty]
      constructor
      · intro r'
        rw [← read_eq_ok, hParse, hRead]
        constructor
        · rintro ⟨⟩
          exact ⟨rfl, hEmpty⟩
        · rintro ⟨⟨⟩, -⟩
          rfl
      · simp [← read_eq_ok, hParse, hRead, hEmpty]
      · simp [← read_eq_ok, hParse, hRead]

/-- The last byte of a body that is one object and blanks closes the object or is a blank. -/
theorem IsWhole.last {body : Bytes} {r : TokenResponse} (h : IsWhole body r) {b : UInt8}
    (hLast : body.getLast? = some b) : b = 0x7D ∨ isBlankByte b = true := by
  obtain ⟨w, doc, rest, rfl, -, hRest, ⟨ms, hDoc⟩, -⟩ := h
  obtain ⟨t, rfl⟩ := hDoc.exists_inner
  rw [List.getLast?_append, List.getLast?_append] at hLast
  cases hEnd : rest.getLast? with
  | none =>
    rw [hEnd, ← List.cons_append, List.getLast?_append] at hLast
    cases hLast
    exact .inl rfl
  | some c =>
    rw [hEnd] at hLast
    cases hLast
    exact .inr (hRest b (List.mem_of_getLast? hEnd))

def trailing : Bytes :=
  Utf8.ofString "\x7b\"access_token\":\"abc\"\x7d x"

theorem not_only_whole : ¬ ∀ (status : Nat) (body : Bytes) (r : TokenResponse), 200 ≤ status → status ≤ 299 →
    (parse status body = .ok r ↔ IsWhole body r ∧ r.accessToken.expose ≠ "") := by
  intro hClaim
  have hParse : parse 200 trailing = .ok ⟨⟨"abc"⟩, none, none, none⟩ := rfl
  obtain ⟨hWhole, -⟩ := (hClaim 200 trailing _ (by decide) (by decide)).1 hParse
  obtain h | h := hWhole.last rfl
  · cases h
  · cases h

end BearerTokens.TokenResponse
