import BearerTokens.Grant.Settings
import BearerTokens.Proofs.Json.Unique
import BearerTokens.Proofs.Json.Value
import BearerTokens.Proofs.Token.Response
import Mathlib.Logic.Relation

/-!
# Settings in documents

What an object tells of the settings depends on which of them it gives, not on how their names are spelled, on the
order of its members or on what else is in it. It is read if it gives none of them twice and each in its form.
-/

set_option autoImplicit false

namespace BearerTokens.Settings

open BearerTokens.Json BearerTokens.Json.Schema BearerTokens.Text

def Field.spellings : Field → List String
  | .clientId => ["clientId", "client_id"]
  | .clientSecret => ["clientSecret", "client_secret"]
  | .tokenUrl => ["tokenUrl", "token_url"]
  | .scopes => ["scopes"]

theorem field?_eq_some_iff {name : String} {f : Field} : schema.field? name = some f ↔ name ∈ f.spellings := by
  simp only [schema, Field.ofName?]
  split_ifs with hId hSecret hUrl hScopes
  · obtain rfl | rfl := hId <;> cases f <;> decide
  · obtain rfl | rfl := hSecret <;> cases f <;> decide
  · obtain rfl | rfl := hUrl <;> cases f <;> decide
  · subst hScopes
    cases f <;> decide
  · cases f <;> simp_all [Field.spellings]

def spells : (f : Field) → Bytes → f.type → Prop
  | .clientId => OrNull IsText
  | .clientSecret => OrNull fun v (secret : Secret) => IsText v secret.expose
  | .tokenUrl => OrNull IsText
  | .scopes => OrNull (ListOf IsText)

def Field.nothing : (f : Field) → f.type
  | .clientId => none
  | .clientSecret => none
  | .tokenUrl => none
  | .scopes => none

def value (s : Settings) : (f : Field) → f.type
  | .clientId => s.clientId
  | .clientSecret => s.clientSecret
  | .tokenUrl => s.tokenUrl
  | .scopes => s.scopes

theorem eq_of_value {s s' : Settings} (h : ∀ f, s.value f = s'.value f) : s = s' := by
  obtain ⟨clientId, clientSecret, tokenUrl, scopes⟩ := s
  obtain rfl : clientId = s'.clientId := h .clientId
  obtain rfl : clientSecret = s'.clientSecret := h .clientSecret
  obtain rfl : tokenUrl = s'.tokenUrl := h .tokenUrl
  obtain rfl : scopes = s'.scopes := h .scopes
  rfl

theorem list_not_null {v : Bytes} {texts : List String} (hList : ListOf IsText v texts) : v.head? ≠ some 0x6E := by
  obtain ⟨vs, hArray, -⟩ := hList
  obtain ⟨t, rfl⟩ := hArray.exists_inner
  simp

theorem field_reads (f : Field) : Reads (schema.read f) (spells f) := by
  cases f with
  | clientId => exact text_reads.orNull fun _ _ => TokenResponse.text_not_null
  | clientSecret => exact TokenResponse.secret_reads.orNull fun _ _ => TokenResponse.text_not_null
  | tokenUrl => exact text_reads.orNull fun _ _ => TokenResponse.text_not_null
  | scopes => exact text_reads.list.orNull fun _ _ => list_not_null

theorem spells_null_iff {f : Field} {x : f.type} : spells f (0x6E :: ull) x ↔ x = f.nothing := by
  have hOrNull {α : Type} (texts : Bytes → α → Prop) (hOther : ∀ v x, texts v x → v.head? ≠ some 0x6E)
      (x : Option α) : OrNull texts (0x6E :: ull) x ↔ x = none := by
    cases x with
    | none => exact iff_of_true rfl rfl
    | some x => exact iff_of_false (fun h => hOther _ x h rfl) (Option.some_ne_none x)
  cases f with
  | clientId => exact hOrNull IsText (fun _ _ => TokenResponse.text_not_null) x
  | clientSecret =>
    exact hOrNull (fun v (secret : Secret) => IsText v secret.expose) (fun _ _ => TokenResponse.text_not_null) x
  | tokenUrl => exact hOrNull IsText (fun _ _ => TokenResponse.text_not_null) x
  | scopes => exact hOrNull (ListOf IsText) (fun _ _ => list_not_null) x

variable {s : Settings} {fields fields' : List (Field × Bytes)}

/-- A setting that is given is what its text spells, and one that is not is missing. -/
structure Holds (fields : List (Field × Bytes)) (s : Settings) : Prop where
  given : ∀ f v, (f, v) ∈ fields → spells f v (s.value f)
  left : ∀ f, f ∉ fields.map Prod.fst → s.value f = f.nothing

theorem value_ofGiven (given : Given Field.type) (f : Field) :
    (ofGiven given).value f = (given.get? f).getD f.nothing := by
  cases f <;> rfl

theorem holds_ofGiven {given : Given Field.type} (h : Matches spells fields given.reverse)
    (hOnce : (fields.map Prod.fst).Nodup) : Holds fields (ofGiven given) where
  given f v hv := by
    obtain ⟨x, hGet, hSpells⟩ := h.given hOnce hv
    rw [value_ofGiven, hGet]
    exact hSpells
  left f hNone := by
    rw [value_ofGiven, h.not_given hNone]
    rfl

theorem Holds.ofGiven_valuesOf (h : Holds fields s) : ofGiven (valuesOf s.value fields) = s := by
  refine eq_of_value fun f => ?_
  rw [value_ofGiven, get?_valuesOf]
  split_ifs with hGiven
  · rfl
  · exact (h.left f hGiven).symm

theorem reads : Reads read fun doc s => ∃ fields, schema.IsRecord doc fields ∧ Holds fields s where
  sound {doc rest s} hRead := by
    obtain ⟨⟨given, after⟩, hReader, hEq⟩ := map_eq_ok.1 hRead
    cases hEq
    obtain ⟨w, v, hShape, hBlanks, fields, hRecord, hMatches⟩ := (reader_reads field_reads).sound hReader
    exact ⟨w, v, hShape, hBlanks, fields, hRecord, holds_ofGiven hMatches (hRecord.nodup (by decide))⟩
  complete {w v rest s} hBlanks hHolds hRest := by
    obtain ⟨fields, hRecord, hHolds⟩ := hHolds
    have hRead := (reader_reads field_reads).complete hBlanks ⟨fields, hRecord, matches_valuesOf hHolds.given⟩ hRest
    exact map_eq_ok.2 ⟨_, hRead, congrArg (·, rest) hHolds.ofGiven_valuesOf⟩
  value hHolds := by
    obtain ⟨fields, hRecord, -⟩ := hHolds
    exact hRecord.isValue

theorem Holds.perm (h : Holds fields s) (hPerm : fields.Perm fields') : Holds fields' s where
  given f v hv := h.given f v (hPerm.mem_iff.2 hv)
  left f hNone := h.left f (mt (hPerm.map Prod.fst).mem_iff.1 hNone)

theorem holds_null_iff {f : Field} (hNone : f ∉ fields.map Prod.fst) :
    Holds ((f, 0x6E :: ull) :: fields) s ↔ Holds fields s := by
  constructor
  · intro h
    refine ⟨fun g v hv => h.given g v (List.mem_cons_of_mem _ hv), fun g hg => ?_⟩
    by_cases hEq : g = f
    · subst hEq
      exact spells_null_iff.1 (h.given g _ List.mem_cons_self)
    · exact h.left g (List.not_mem_cons_of_ne_of_not_mem hEq hg)
  · intro h
    refine ⟨fun g v hv => ?_, fun g hg => h.left g (List.not_mem_of_not_mem_cons hg)⟩
    obtain hNull | hv := List.mem_cons.1 hv
    · cases hNull
      exact spells_null_iff.2 (h.left f hNone)
    · exact h.given g v hv

variable {ms ms' : List (String × Bytes)}

def GivesTwice (f : Field) (ms : List (String × Bytes)) : Prop :=
  ∃ m m', [m, m'].Sublist ms ∧ m.1 ∈ f.spellings ∧ m'.1 ∈ f.spellings

/-- The settings are told by the members that have one of their names, and by no other. -/
structure Tells (ms : List (String × Bytes)) (s : Settings) : Prop where
  once : ∀ f, ¬ GivesTwice f ms
  given : ∀ f, ∀ m ∈ ms, m.1 ∈ f.spellings → spells f m.2 (s.value f)
  left : ∀ f, (∀ m ∈ ms, m.1 ∉ f.spellings) → s.value f = f.nothing

theorem mem_fieldsOf_iff {f : Field} {v : Bytes} :
    (f, v) ∈ schema.fieldsOf ms ↔ ∃ m ∈ ms, m.1 ∈ f.spellings ∧ m.2 = v := by
  simp [fieldsOf, field?_eq_some_iff]

theorem fields_eq (ms : List (String × Bytes)) :
    (schema.fieldsOf ms).map Prod.fst = ms.filterMap fun m => schema.field? m.1 := by
  rw [fieldsOf, List.map_filterMap]
  refine List.filterMap_congr fun m _ => ?_
  cases schema.field? m.1 <;> rfl

theorem mem_fields_iff {f : Field} : f ∈ (schema.fieldsOf ms).map Prod.fst ↔ ∃ m ∈ ms, m.1 ∈ f.spellings := by
  rw [fields_eq, List.mem_filterMap]
  simp only [field?_eq_some_iff]

theorem nodup_iff : ((schema.fieldsOf ms).map Prod.fst).Nodup ↔ ∀ f, ¬ GivesTwice f ms := by
  rw [List.nodup_iff_sublist, fields_eq]
  refine forall_congr' fun f => not_congr ?_
  rw [List.sublist_filterMap_iff]
  constructor
  · rintro ⟨l, hSub, hTwo⟩
    obtain ⟨before, m, rest, rfl, -, hFirst, hOne⟩ := List.filterMap_eq_cons_iff.1 hTwo.symm
    obtain ⟨between, m', after, rfl, -, hSecond, -⟩ := List.filterMap_eq_cons_iff.1 hOne
    refine ⟨m, m', List.Sublist.trans ?_ hSub, field?_eq_some_iff.1 hFirst, field?_eq_some_iff.1 hSecond⟩
    simp
  · rintro ⟨m, m', hSub, hFirst, hSecond⟩
    refine ⟨[m, m'], hSub, ?_⟩
    simp [field?_eq_some_iff.2 hFirst, field?_eq_some_iff.2 hSecond]

theorem tells_iff : Tells ms s ↔ ((schema.fieldsOf ms).map Prod.fst).Nodup ∧ Holds (schema.fieldsOf ms) s := by
  constructor
  · rintro ⟨hOnce, hGiven, hLeft⟩
    refine ⟨nodup_iff.2 hOnce, fun f v hv => ?_, fun f hNone => hLeft f fun m hm hName => ?_⟩
    · obtain ⟨m, hm, hName, rfl⟩ := mem_fieldsOf_iff.1 hv
      exact hGiven f m hm hName
    · exact hNone (mem_fields_iff.2 ⟨m, hm, hName⟩)
  · rintro ⟨hOnce, hHolds⟩
    refine ⟨nodup_iff.1 hOnce, fun f m hm hName => ?_, fun f hNone => hHolds.left f fun hMem => ?_⟩
    · exact hHolds.given f m.2 (mem_fieldsOf_iff.2 ⟨m, hm, hName, rfl⟩)
    · obtain ⟨m, hm, hName⟩ := mem_fields_iff.1 hMem
      exact hNone m hm hName

/-- What can be done to the members of an object without touching the settings that they tell. -/
inductive Rewrite : List (String × Bytes) → List (String × Bytes) → Prop where
  | permute {ms ms' : List (String × Bytes)} (perm : ms.Perm ms') : Rewrite ms ms'
  | respell {before after : List (String × Bytes)} {f : Field} {name name' : String} {v : Bytes}
      (old : name ∈ f.spellings) (new : name' ∈ f.spellings) :
      Rewrite (before ++ (name, v) :: after) (before ++ (name', v) :: after)
  | nullify {before after : List (String × Bytes)} {f : Field} {name : String}
      (absent : ∀ m ∈ before ++ after, m.1 ∉ f.spellings) (new : name ∈ f.spellings) :
      Rewrite (before ++ after) (before ++ (name, 0x6E :: ull) :: after)
  | insert {before after : List (String × Bytes)} {name : String} {v : Bytes} (other : ∀ f : Field, name ∉ f.spellings) :
      Rewrite (before ++ after) (before ++ (name, v) :: after)

theorem Rewrite.tells_iff (h : Rewrite ms ms') : Tells ms s ↔ Tells ms' s := by
  simp only [Settings.tells_iff]
  cases h with
  | permute hPerm =>
    have hFields : (schema.fieldsOf ms).Perm (schema.fieldsOf ms') := hPerm.filterMap _
    exact and_congr (hFields.map Prod.fst).nodup_iff ⟨fun h => h.perm hFields, fun h => h.perm hFields.symm⟩
  | @respell before after f name name' v hOld hNew =>
    have hFields : schema.fieldsOf (before ++ (name', v) :: after) = schema.fieldsOf (before ++ (name, v) :: after) := by
      simp only [fieldsOf, List.filterMap_append, List.filterMap_cons, field?_eq_some_iff.2 hOld,
        field?_eq_some_iff.2 hNew]
    rw [hFields]
  | @nullify before after f name hAbsent hNew =>
    have hFields : (schema.fieldsOf (before ++ (name, 0x6E :: ull) :: after)).Perm
        ((f, 0x6E :: ull) :: schema.fieldsOf (before ++ after)) := by
      rw [← fieldsOf_cons_some (field?_eq_some_iff.2 hNew)]
      exact List.perm_middle.filterMap _
    have hNone : f ∉ (schema.fieldsOf (before ++ after)).map Prod.fst := by
      intro hMem
      obtain ⟨m, hm, hName⟩ := mem_fields_iff.1 hMem
      exact hAbsent m hm hName
    rw [(hFields.map Prod.fst).nodup_iff, List.map_cons, List.nodup_cons, and_iff_right hNone]
    refine and_congr_right fun _ => (holds_null_iff hNone).symm.trans ?_
    exact ⟨fun h => h.perm hFields.symm, fun h => h.perm hFields⟩
  | @insert before after name v hOther =>
    have hField : schema.field? name = none :=
      Option.eq_none_iff_forall_ne_some.2 fun f hf => hOther f (field?_eq_some_iff.1 hf)
    have hFields : schema.fieldsOf (before ++ (name, v) :: after) = schema.fieldsOf (before ++ after) := by
      simp only [fieldsOf, List.filterMap_append, List.filterMap_cons, hField, Option.map_none]
    rw [hFields]

theorem tells_of_rewritten (h : Relation.EqvGen Rewrite ms ms') : Tells ms s ↔ Tells ms' s := by
  induction h with
  | rel _ _ h => exact h.tells_iff
  | refl => exact Iff.rfl
  | symm _ _ _ ih => exact ih.symm
  | trans _ _ _ _ _ ih ih' => exact ih.trans ih'

/-- A document that is an object by the grammar of JSON. It leaves open whether the names of the members spell texts. -/
def IsObjectDocument (text : Bytes) : Prop :=
  ∃ w doc w', text = w ++ (doc ++ w') ∧ Blanks w ∧ IsValue doc ∧ doc.head? = some 0x7B ∧ Blanks w'

def HasMembers (text : Bytes) (ms : List (String × Bytes)) : Prop :=
  ∃ w doc w', text = w ++ (doc ++ w') ∧ Blanks w ∧ IsObject doc ms ∧ Blanks w'

theorem document_eq_ok_iff {text : Bytes} (hText : IsObjectDocument text) :
    document read text = .ok s ↔ ∃ ms, HasMembers text ms ∧ Tells ms s := by
  rw [document_eq_ok reads]
  constructor
  · rintro ⟨w, v, w', hShape, hBlanks, ⟨fields, hRecord, hHolds⟩, hBlanks'⟩
    obtain ⟨u, doc, u', hShape', hBefore, hValue, hHead, hAfter⟩ := hText
    obtain rfl := hRecord.isValue.unique hValue hBlanks hBefore hBlanks'.endsNumber hAfter.endsNumber
      (hShape.symm.trans hShape')
    cases hRecord with
    | object hDoc hOnce _ => exact ⟨_, ⟨w, v, w', hShape, hBlanks, hDoc, hBlanks'⟩, tells_iff.2 ⟨hOnce, hHolds⟩⟩
    | array hDoc =>
      -- settings may be listed by position, but then the document is no object
      obtain ⟨t, rfl⟩ := hDoc.exists_inner
      cases hHead
  · rintro ⟨ms, ⟨w, doc, w', hShape, hBlanks, hDoc, hBlanks'⟩, hTells⟩
    obtain ⟨hOnce, hHolds⟩ := tells_iff.1 hTells
    exact ⟨w, doc, w', hShape, hBlanks, ⟨_, .object hDoc hOnce (List.forall_mem_nil _), hHolds⟩, hBlanks'⟩

theorem HasMembers.isObjectDocument {text : Bytes} (h : HasMembers text ms) : IsObjectDocument text := by
  obtain ⟨w, doc, w', hShape, hBlanks, hDoc, hBlanks'⟩ := h
  refine ⟨w, doc, w', hShape, hBlanks, hDoc.isValue, ?_, hBlanks'⟩
  obtain ⟨t, rfl⟩ := hDoc.exists_inner
  rfl

theorem HasMembers.unique {text : Bytes} (h : HasMembers text ms) (h' : HasMembers text ms') : ms = ms' := by
  obtain ⟨w, doc, w', hShape, hBlanks, hDoc, hBlanks'⟩ := h
  obtain ⟨u, doc', u', hShape', hBefore, hDoc', hAfter⟩ := h'
  obtain rfl := hDoc.isValue.unique hDoc'.isValue hBlanks hBefore hBlanks'.endsNumber hAfter.endsNumber
    (hShape.symm.trans hShape')
  exact hDoc.unique hDoc'

theorem HasMembers.document_eq_ok_iff {text : Bytes} (h : HasMembers text ms) :
    document read text = .ok s ↔ Tells ms s := by
  rw [Settings.document_eq_ok_iff h.isObjectDocument]
  constructor
  · rintro ⟨ms', h', hTells⟩
    rwa [h.unique h']
  · exact fun hTells => ⟨ms, h, hTells⟩

theorem refused_iff {text : Bytes} : (∃ e, document read text = .error e) ↔ ∀ s, document read text ≠ .ok s := by
  cases document read text <;> simp

/-- What is read from a document that is an object. -/
structure ByField (text : Bytes) : Prop where
  accepted : ∀ s, document read text = .ok s ↔ ∃ ms, HasMembers text ms ∧ Tells ms s
  /-- Another document with members that come of these by rewriting, to and fro, gives the same or is refused as well. -/
  same : ∀ ms text' ms', HasMembers text ms → HasMembers text' ms' → Relation.EqvGen Rewrite ms ms' →
    (document read text').toOption = (document read text).toOption
  twice : ∀ ms f, HasMembers text ms → GivesTwice f ms → ∃ e, document read text = .error e
  /-- The name of a member may be spelled in a way in which no text is. -/
  nameless : (∀ ms, ¬ HasMembers text ms) → ∃ e, document read text = .error e

theorem read_byField {text : Bytes} (hText : IsObjectDocument text) : ByField text where
  accepted _ := document_eq_ok_iff hText
  same ms text' ms' h h' hRewritten := by
    have hIff (s : Settings) : document read text' = .ok s ↔ document read text = .ok s := by
      rw [h.document_eq_ok_iff, h'.document_eq_ok_iff, tells_of_rewritten hRewritten]
    cases hRead : document read text with
    | ok s => rw [(hIff s).2 hRead]
    | error e =>
      obtain ⟨e', hRead'⟩ := refused_iff.2 fun s hRead' => by simp [(hIff s).1 hRead'] at hRead
      rw [hRead']
      rfl
  twice ms f h hTwice := by
    refine refused_iff.2 fun s hRead => ?_
    exact (h.document_eq_ok_iff.1 hRead).once f hTwice
  nameless hNone := by
    refine refused_iff.2 fun s hRead => ?_
    obtain ⟨ms, h, -⟩ := (document_eq_ok_iff hText).1 hRead
    exact hNone ms h

theorem isObjectDocument_of_skip {text rest : Bytes} (hSkip : skipValue text = .ok rest) (hRest : Blanks rest)
    (hHead : (skipBlanks text).head? = some 0x7B) : IsObjectDocument text := by
  obtain ⟨w, v, rfl, hBlanks, hValue⟩ := isValue_of_skipValue hSkip
  refine ⟨w, v, rest, rfl, hBlanks, hValue, ?_, hRest⟩
  obtain ⟨b, t, rfl, -⟩ := hValue.starts
  rwa [skipBlanks_value hBlanks hValue] at hHead

def looseText : Bytes :=
  Utf8.ofString " \x7b\"x\":[1e999,\x7b\x7d],\"client_id\":\"svc\",\"token\\u0055rl\":null,\"clientSecret\":\"s\"\x7d\n"

theorem read_byField_loose : IsObjectDocument looseText ∧ ByField looseText :=
  have hSkip : skipValue looseText = .ok [0x0A] := rfl
  have hText : IsObjectDocument looseText := isObjectDocument_of_skip hSkip (by simp [Blanks, isBlankByte]) rfl
  ⟨hText, read_byField hText⟩

example : document read looseText = .ok ⟨some "svc", some ⟨"s"⟩, none, none⟩ := by
  decide +kernel

def halfPair : Bytes :=
  [0x5C, 0x75, 0x64, 0x38, 0x30, 0x30]

theorem not_spells_halfPair (t : Bytes) : ¬ Spells halfPair t := by
  intro h
  cases h with
  | plain _ hEscape _ => exact hEscape rfl
  | escape hEscape _ => cases hEscape
  | unit hUnit hHigh _ _ =>
    cases hUnit
    cases hHigh

/-- A member of another name is passed over only if its name is a text. -/
theorem not_every_name_passed_over : ¬ ∀ key v : Bytes, Scans key → IsValue v →
    (∀ f : Field, ∀ name ∈ f.spellings, ¬ Spells key (Utf8.ofString name)) →
    (document read (0x7B :: 0x22 :: (key ++ 0x22 :: 0x3A :: (v ++ [0x7D])))).toOption =
      (document read [0x7B, 0x7D]).toOption := by
  intro hAll
  have hSame := hAll halfPair (0x6E :: ull) (.unit rfl .nil) .null fun f name _ => not_spells_halfPair _
  have hNone : (document read (0x7B :: 0x22 :: (halfPair ++ 0x22 :: 0x3A :: (0x6E :: ull ++ [0x7D])))).toOption = none :=
    rfl
  have hEmpty : (document read [0x7B, 0x7D]).toOption = some ⟨none, none, none, none⟩ := rfl
  rw [hNone, hEmpty] at hSame
  cases hSame

end BearerTokens.Settings
