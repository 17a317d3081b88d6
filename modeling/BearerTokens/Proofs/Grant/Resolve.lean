import BearerTokens.Proofs.Scopes
import BearerTokens.Proofs.Url.Canonical

/-!
# How settings resolve

Settings resolve to a grant unless something is wrong with them, and of the things that are wrong one counts: a setting
that is lacking before a URL that cannot be read, that before a scheme that is not of the web, and that before a scope.
-/

set_option autoImplicit false

namespace BearerTokens

open BearerTokens.Text

theorem Grant.isWebScheme_iff {url : Url} : isWebScheme url.scheme = true ↔ url.IsWeb := by
  simp [isWebScheme, Url.IsWeb]

namespace Settings

variable {toAscii : ToAscii} {s : Settings}

/-- A required setting is not given, or there is nothing but blanks in it. -/
def Lacks (s : Settings) (r : Required) : Prop :=
  ∀ text, s.get? r = some text → ∀ c ∈ text.toList, Text.isBlank c = true

/-- The first of the required settings that is lacking, in the order in which they are declared. -/
structure FirstLack (s : Settings) (r : Required) : Prop where
  lacks : s.Lacks r
  first : ∃ before after, [.clientId, .clientSecret, .tokenUrl] = before ++ r :: after ∧ ∀ q ∈ before, ¬ s.Lacks q

/-- The required settings are given, none of them blank. -/
structure Given (s : Settings) (clientId : String) (clientSecret : Secret) (tokenUrl : String) : Prop where
  clientId : s.clientId = some clientId
  clientSecret : s.clientSecret = some clientSecret
  tokenUrl : s.tokenUrl = some tokenUrl
  full : ∀ r, ¬ s.Lacks r

theorem isBlank_get?_iff {r : Required} : isBlank (s.get? r) = true ↔ s.Lacks r := by
  unfold Lacks isBlank
  cases s.get? r with
  | none => simp
  | some text => simp [List.all_eq_true]

theorem mem_missing_iff {r : Required} : r ∈ s.missing ↔ s.Lacks r := by
  have hAll : r ∈ Required.all := by cases r <;> decide
  rw [missing, List.mem_filter, isBlank_get?_iff, and_iff_right hAll]

theorem missing_eq_nil_iff : s.missing = [] ↔ ∀ r, ¬ s.Lacks r := by
  rw [List.eq_nil_iff_forall_not_mem]
  exact forall_congr' fun r => not_congr mem_missing_iff

theorem exists_missing_iff {r : Required} : (∃ rest, s.missing = r :: rest) ↔ s.FirstLack r := by
  unfold missing
  simp only [List.filter_eq_cons_iff, isBlank_get?_iff]
  constructor
  · rintro ⟨rest, before, after, hSplit, hBefore, hLacks, -⟩
    exact ⟨hLacks, before, after, hSplit, hBefore⟩
  · rintro ⟨hLacks, before, after, hSplit, hBefore⟩
    exact ⟨_, before, after, hSplit, hBefore, hLacks, rfl⟩

/-- Where nothing is lacking, everything is given. -/
theorem exists_given (hFull : ∀ r, ¬ s.Lacks r) : ∃ clientId clientSecret tokenUrl,
    s.Given clientId clientSecret tokenUrl := by
  obtain ⟨clientId, clientSecret, tokenUrl, scopes⟩ := s
  have hSome (r : Required) : Settings.get? ⟨clientId, clientSecret, tokenUrl, scopes⟩ r ≠ none := by
    intro hNone
    refine hFull r fun text hText => ?_
    rw [hNone] at hText
    cases hText
  match clientId, clientSecret, tokenUrl with
  | some clientId, some clientSecret, some tokenUrl => exact ⟨_, _, _, rfl, rfl, rfl, hFull⟩
  | none, _, _ => exact absurd rfl (hSome .clientId)
  | _, none, _ => exact absurd rfl (hSome .clientSecret)
  | _, _, none => exact absurd rfl (hSome .tokenUrl)

theorem Given.trim_ne_empty {clientId tokenUrl : String} {clientSecret : Secret}
    (h : s.Given clientId clientSecret tokenUrl) : trim clientId ≠ "" := by
  intro hEmpty
  refine h.full .clientId fun text hText => ?_
  rw [get?, h.clientId] at hText
  cases hText
  exact trim_eq_empty_iff.1 hEmpty

theorem Given.secret_filled {clientId tokenUrl : String} {clientSecret : Secret}
    (h : s.Given clientId clientSecret tokenUrl) : clientSecret.isEmpty = false := by
  refine Bool.eq_false_iff.2 fun hEmpty => h.full .clientSecret fun text hText => ?_
  rw [get?, h.clientSecret] at hText
  cases hText
  rw [Secret.isEmpty, String.isEmpty_iff] at hEmpty
  dsimp only
  rw [hEmpty]
  exact List.forall_mem_nil _

/-- What settings resolve to: the first thing that is wrong with them, or a grant. -/
inductive Resolves (toAscii : ToAscii) (s : Settings) : Except ConfigError Grant → Prop where
  | lack {r : Required} (first : s.FirstLack r) : Resolves toAscii s (.error (.missingField r.name))
  | url {clientId tokenUrl : String} {clientSecret : Secret} {e : UrlError}
      (given : s.Given clientId clientSecret tokenUrl) (unread : Url.parse (trim tokenUrl) toAscii = .error e) :
      Resolves toAscii s (.error (.invalidTokenUrl e))
  | scheme {clientId tokenUrl : String} {clientSecret : Secret} {url : Url}
      (given : s.Given clientId clientSecret tokenUrl) (read : Url.parse (trim tokenUrl) toAscii = .ok url)
      (other : ¬ url.IsWeb) : Resolves toAscii s (.error (.unsupportedScheme url.text))
  | scope {clientId tokenUrl : String} {clientSecret : Secret} {url : Url} {e : ScopeError}
      (given : s.Given clientId clientSecret tokenUrl) (read : Url.parse (trim tokenUrl) toAscii = .ok url)
      (web : url.IsWeb) (fault : Scopes.FirstFault (s.scopes.getD []) e) : Resolves toAscii s (.error (.invalidScope e))
  | grant {clientId tokenUrl : String} {clientSecret : Secret} {url : Url} {scopes : Scopes}
      (given : s.Given clientId clientSecret tokenUrl) (read : Url.parse (trim tokenUrl) toAscii = .ok url)
      (web : url.IsWeb) (listed : scopes.toList = s.scopes.getD []) :
      Resolves toAscii s (.ok ⟨trim clientId, clientSecret, url, scopes⟩)

/-- Once all is given, the URL and what is made of it decide. -/
theorem Given.resolve_unread {clientId tokenUrl : String} {clientSecret : Secret} {e : UrlError}
    (h : s.Given clientId clientSecret tokenUrl) (hUnread : Url.parse (trim tokenUrl) toAscii = .error e) :
    s.resolve toAscii = .error (.invalidTokenUrl e) := by
  rw [resolve, missing_eq_nil_iff.2 h.full, h.clientId, h.clientSecret, h.tokenUrl]
  dsimp only
  rw [hUnread]

theorem Given.resolve_read {clientId tokenUrl : String} {clientSecret : Secret} {url : Url}
    (h : s.Given clientId clientSecret tokenUrl) (hRead : Url.parse (trim tokenUrl) toAscii = .ok url) :
    s.resolve toAscii = Grant.make (trim clientId) clientSecret url (s.scopes.getD []) := by
  rw [resolve, missing_eq_nil_iff.2 h.full, h.clientId, h.clientSecret, h.tokenUrl]
  dsimp only
  rw [hRead]

/-- Of the checks of a grant only those of the scheme and of the scopes can fail. -/
theorem Given.make_eq {clientId tokenUrl : String} {clientSecret : Secret}
    (h : s.Given clientId clientSecret tokenUrl) (url : Url) (scopes : List String) :
    Grant.make (trim clientId) clientSecret url scopes =
      if Grant.isWebScheme url.scheme then
        match Scopes.ofList scopes with
        | .error e => .error (.invalidScope e)
        | .ok scopes => .ok ⟨trim clientId, clientSecret, url, scopes⟩
      else .error (.unsupportedScheme url.text) := by
  have hId : (trim clientId).isEmpty = false :=
    Bool.eq_false_iff.2 fun hEmpty => h.trim_ne_empty (String.isEmpty_iff.1 hEmpty)
  unfold Grant.make
  rw [hId, h.secret_filled]
  cases Grant.isWebScheme url.scheme <;> rfl

theorem Resolves.resolve_eq {result : Except ConfigError Grant} (h : s.Resolves toAscii result) :
    s.resolve toAscii = result := by
  cases h with
  | lack hFirst =>
    obtain ⟨rest, hMissing⟩ := exists_missing_iff.2 hFirst
    unfold resolve
    rw [hMissing]
  | url hGiven hUnread => exact hGiven.resolve_unread hUnread
  | scheme hGiven hRead hOther =>
    rw [hGiven.resolve_read hRead, hGiven.make_eq, if_neg (mt Grant.isWebScheme_iff.1 hOther)]
  | scope hGiven hRead hWeb hFault =>
    rw [hGiven.resolve_read hRead, hGiven.make_eq, if_pos (Grant.isWebScheme_iff.2 hWeb),
      Scopes.ofList_eq_error_iff.2 hFault]
  | grant hGiven hRead hWeb hListed =>
    rw [hGiven.resolve_read hRead, hGiven.make_eq, if_pos (Grant.isWebScheme_iff.2 hWeb),
      Scopes.ofList_eq_ok_iff.2 hListed]

/-- All settings resolve to something. -/
theorem exists_resolves (s : Settings) (toAscii : ToAscii) : ∃ result, s.Resolves toAscii result := by
  cases hMissing : s.missing with
  | cons r rest => exact ⟨_, .lack (exists_missing_iff.1 ⟨rest, hMissing⟩)⟩
  | nil =>
    obtain ⟨clientId, clientSecret, tokenUrl, hGiven⟩ := exists_given (missing_eq_nil_iff.1 hMissing)
    cases hRead : Url.parse (trim tokenUrl) toAscii with
    | error e => exact ⟨_, .url hGiven hRead⟩
    | ok url =>
      by_cases hWeb : url.IsWeb
      · cases hScopes : Scopes.ofList (s.scopes.getD []) with
        | error e => exact ⟨_, .scope hGiven hRead hWeb (Scopes.ofList_eq_error_iff.1 hScopes)⟩
        | ok scopes => exact ⟨_, .grant hGiven hRead hWeb (Scopes.ofList_eq_ok_iff.1 hScopes)⟩
      · exact ⟨_, .scheme hGiven hRead hWeb⟩

theorem resolve_eq_iff {result : Except ConfigError Grant} :
    s.resolve toAscii = result ↔ s.Resolves toAscii result := by
  refine ⟨?_, Resolves.resolve_eq⟩
  rintro rfl
  obtain ⟨result, hResolves⟩ := s.exists_resolves toAscii
  rwa [hResolves.resolve_eq]

/-- A setting is reported as missing only if it is lacking. -/
theorem lacks_of_missingField {field : String} (h : s.resolve toAscii = .error (.missingField field)) :
    ∃ r, s.Lacks r := by
  cases resolve_eq_iff.1 h with
  | lack hFirst => exact ⟨_, hFirst.lacks⟩

end Settings

end BearerTokens
