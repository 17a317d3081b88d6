import BearerTokens.Proofs.Grant.Resolve
import BearerTokens.Proofs.Http.Target
import BearerTokens.Proofs.TokenCache.Delivery
import BearerTokens.Service

/-!
# Requests of checked grants

The checks of a grant leave two things open that a request target asks for: that the URL is not too long, and that no
name in its host holds a character that targets do not have. Where both are given, the request comes about, and nobody who
asks the service is ever told that it could not be built.
-/

set_option autoImplicit false

namespace BearerTokens

open BearerTokens.Http BearerTokens.Time

structure Url.IsTarget (u : Url) : Prop where
  fits : u.text.utf8ByteSize ≤ 65534
  plain : ∀ a, u.authority = some a → ∀ c ∈ a.host.text.toList, c ∉ ['"', '`', '\x7b', '\x7d']

theorem not_foreign_iff {c : Char} : isForeignToTargets c = false ↔ c ∉ ['"', '`', '\x7b', '\x7d'] := by
  rw [isForeignToTargets, Bool.eq_false_iff, ne_eq, List.contains_iff_mem]
  rfl

section Target

variable {toAscii : ToAscii} {u : Url}

theorem parse_text_of_isTarget (h : u.Canonical toAscii) (hTarget : u.IsTarget) :
    ∃ target, Target.parse u.text = .ok target := by
  obtain ⟨a, hAuthority, ha⟩ := h.authority
  have hPlain : ∀ c ∈ a.host.text.toList, isForeignToTargets c = false := fun c hc =>
    not_foreign_iff.2 (hTarget.plain a hAuthority c hc)
  rw [parse_text_eq h hTarget.fits hAuthority ha, checkAuthority_text ha hPlain]
  exact ⟨_, rfl⟩

theorem parse_text_of_long (hLong : 65534 < u.text.utf8ByteSize) : Target.parse u.text = .error .tooLong :=
  if_pos hLong

theorem parse_text_of_foreign (h : u.Canonical toAscii) (hFits : u.text.utf8ByteSize ≤ 65534) (hNot : ¬ u.IsTarget) :
    Target.parse u.text = .error .invalidCharacter := by
  obtain ⟨a, hAuthority, ha⟩ := h.authority
  have hForeign : ∃ c ∈ a.host.text.toList, isForeignToTargets c = true := by
    by_contra hNone
    refine hNot ⟨hFits, fun b hb c hc => ?_⟩
    rw [hAuthority] at hb
    cases hb
    exact not_foreign_iff.1 (Bool.eq_false_iff.2 fun hForeign => hNone ⟨c, hc, hForeign⟩)
  rw [parse_text_eq h hFits hAuthority ha, checkAuthority_text_foreign ha hForeign]
  rfl

end Target

namespace Service

def Event.onCache : Event → TokenCache.Event
  | .get ready | .header ready => .call ready
  | .invalidate => .clear
  | .cache e => e

/-- The cache of a service runs as if it were alone. -/
theorem run_available (cache : TokenCache) (headers : List Nat) (events : List Event) :
    ∃ asked, (available cache headers).run events = available (cache.run (events.map Event.onCache)) asked := by
  induction events generalizing cache headers with
  | nil => exact ⟨headers, rfl⟩
  | cons event events ih =>
    cases event with
    | get ready => exact ih (cache.step (.call ready)) headers
    | header ready => exact ih (cache.step (.call ready)) (headers ++ [cache.callers.length])
    | invalidate => exact ih (cache.step .clear) headers
    | cache e => exact ih (cache.step e) headers

/-- No reply tells of a request that could not be built, as it is or as its error is classified. -/
def BuildsAll (classify : Classifier) (events : List Event) : Prop :=
  ∀ event ∈ events, ∀ reply, event.onCache.reply? = some reply →
    ∀ cause, reply.result classify .token ≠ .error (.config (.request cause))

/-- To make a header fails in its own way. -/
theorem answer_of_outcome {cache : TokenCache} {headers : List Nat} {caller : Nat} {cause : TargetError}
    (h : (available cache headers).outcome? caller = some (.failure (.config (.request cause)))) :
    cache.answer? caller = some (.failure (.config (.request cause))) := by
  obtain ⟨answer, hAnswer, hOutcome⟩ := Option.map_eq_some_iff.1 h
  rw [hAnswer]
  cases answer with
  | token secret =>
    rw [Outcome.ofAnswer] at hOutcome
    split at hOutcome
    · rw [Secret.bearer] at hOutcome
      cases hHeader : Header.make? ("Bearer " ++ secret.expose) true <;> simp [hHeader] at hOutcome
    · cases hOutcome
  | failure e =>
    cases hOutcome
    rfl
  | overflow => cases hOutcome

end Service

/-- A reply amounts to a request that could not be built only if it says so. -/
theorem Exchange.result_of_conclude {classify : Classifier} {now : Instant} {reply : Reply} {e : ConfigError}
    (h : conclude classify now reply = some (.error (.config e))) :
    reply.result classify .token = .error (.config e) := by
  unfold conclude at h
  split at h
  · rename_i hResult
    cases h
    exact hResult
  · split at h
    · split at h
      · cases h
      · obtain ⟨token, -, hToken⟩ := Option.map_eq_some_iff.1 h
        cases hToken
    · cases h

namespace Grant

/-- What a grant needs to be asked for, and what it is worth. -/
structure Requestable (g : Grant) : Prop where
  request_iff : (∃ request, g.request = .ok request) ↔ g.tokenUrl.IsTarget
  long : 65534 < g.tokenUrl.text.utf8ByteSize → g.request = .error (.request .tooLong)
  foreign : g.tokenUrl.text.utf8ByteSize ≤ 65534 → ¬ g.tokenUrl.IsTarget →
    g.request = .error (.request .invalidCharacter)
  spared : g.tokenUrl.IsTarget → ∀ classify clock events, Service.BuildsAll classify events → ∀ caller cause,
    ((Service.ofCache (.new g classify clock)).run events).outcome? caller ≠
      some (.failure (.config (.request cause)))

theorem spared_of_request {g : Grant} {request : Request} (hRequest : g.request = .ok request) {classify : Classifier}
    {clock : Clock} {events : List Service.Event} (hBuilds : Service.BuildsAll classify events) (caller : Nat)
    (cause : TargetError) : ((Service.ofCache (.new g classify clock)).run events).outcome? caller ≠
      some (.failure (.config (.request cause))) := by
  intro hOutcome
  obtain ⟨asked, hRun⟩ := Service.run_available (.new g classify clock) [] events
  rw [Service.ofCache, hRun] at hOutcome
  obtain ⟨e, hUnbuilt, -⟩ | ⟨event, hEvent, reply, hReply, now, hConclude⟩ :=
    TokenCache.run_failure (Service.answer_of_outcome hOutcome)
  · rw [hRequest] at hUnbuilt
    cases hUnbuilt
  · obtain ⟨event, hMem, rfl⟩ := List.mem_map.1 hEvent
    exact hBuilds event hMem reply hReply cause (Exchange.result_of_conclude hConclude)

theorem requestable_of_canonical {toAscii : ToAscii} {g : Grant} (h : g.tokenUrl.Canonical toAscii) : g.Requestable := by
  have hOk (hTarget : g.tokenUrl.IsTarget) : ∃ request, g.request = .ok request := by
    obtain ⟨target, hParse⟩ := parse_text_of_isTarget h hTarget
    rw [request, hParse]
    exact ⟨_, rfl⟩
  have hLong (hLong : 65534 < g.tokenUrl.text.utf8ByteSize) : g.request = .error (.request .tooLong) := by
    rw [request, parse_text_of_long hLong]
  have hForeign (hFits : g.tokenUrl.text.utf8ByteSize ≤ 65534) (hNot : ¬ g.tokenUrl.IsTarget) :
      g.request = .error (.request .invalidCharacter) := by
    rw [request, parse_text_of_foreign h hFits hNot]
  refine ⟨⟨?_, hOk⟩, hLong, hForeign, ?_⟩
  · rintro ⟨request, hRequest⟩
    by_contra hNot
    rcases Nat.lt_or_ge 65534 g.tokenUrl.text.utf8ByteSize with hMore | hLess
    · rw [hLong hMore] at hRequest
      cases hRequest
    · rw [hForeign hLess hNot] at hRequest
      cases hRequest
  · intro hTarget classify clock events hBuilds
    obtain ⟨request, hRequest⟩ := hOk hTarget
    exact spared_of_request hRequest hBuilds

theorem web_of_make {clientId : String} {clientSecret : Secret} {url : Url} {scopes : List String} {g : Grant}
    (hMake : make clientId clientSecret url scopes = .ok g) : url.IsWeb := by
  unfold make at hMake
  split at hMake
  · cases hMake
  · split at hMake
    · cases hMake
    · split at hMake
      · cases hMake
      · rename_i hScheme
        rw [Bool.not_eq_true', Bool.not_eq_false] at hScheme
        exact isWebScheme_iff.1 hScheme

/-- A grant that has passed its checks can be asked for unless its URL is no target. -/
theorem make_requestable {toAscii : ToAscii} (hLaws : toAscii.Lawful) {text clientId : String} {clientSecret : Secret}
    {url : Url} {scopes : List String} {g : Grant} (hRead : Url.parse text toAscii = .ok url)
    (hMake : make clientId clientSecret url scopes = .ok g) : g.Requestable := by
  have hCanonical := Url.parse_canonical hLaws hRead (web_of_make hMake)
  obtain ⟨-, -, rfl, -⟩ := make_cases hMake
  exact requestable_of_canonical hCanonical

def foreignGrant : Grant where
  clientId := "svc"
  clientSecret := ⟨"s3cret"⟩
  tokenUrl := ⟨"http", some ⟨"us%20er", some "p", .domain "xn--bcher-kva.example", some 8080⟩, .segments ["token"],
    some "a=b", some "c"⟩
  scopes := ⟨["read"], by decide⟩

theorem make_requestable_foreign : ToAscii.sample.Lawful ∧
    Url.parse "http://us er:p@B\u00FCcher.Example:8080/token?a=b#c" .sample = .ok foreignGrant.tokenUrl ∧
      make "svc" ⟨"s3cret"⟩ foreignGrant.tokenUrl ["read"] = .ok foreignGrant ∧ foreignGrant.Requestable := by
  have hRead : Url.parse "http://us er:p@B\u00FCcher.Example:8080/token?a=b#c" .sample =
      .ok foreignGrant.tokenUrl := by
    decide +kernel
  have hMake : make "svc" ⟨"s3cret"⟩ foreignGrant.tokenUrl ["read"] = .ok foreignGrant := by
    decide +kernel
  exact ⟨ToAscii.sample_lawful, hRead, hMake, make_requestable ToAscii.sample_lawful hRead hMake⟩

def braceGrant : Grant where
  clientId := "svc"
  clientSecret := ⟨"secret"⟩
  tokenUrl := ⟨"https", some ⟨"", none, .domain "a\x7bb", none⟩, .segments ["token"], none, none⟩
  scopes := .empty

/-- To pass the checks of a grant is not enough: a brace may stand in the name of a host, but not in a target. -/
theorem not_every_grant_requestable : ¬ ∀ text clientId clientSecret url scopes g, Url.parse text .plain = .ok url →
    make clientId clientSecret url scopes = .ok g → ∃ request, g.request = .ok request := by
  intro hAll
  have hRead : Url.parse "https://a\x7bb/token" .plain = .ok braceGrant.tokenUrl := by
    decide +kernel
  have hMake : make "svc" ⟨"secret"⟩ braceGrant.tokenUrl [] = .ok braceGrant := by
    decide +kernel
  have hRefused : braceGrant.request = .error (.request .invalidCharacter) := by
    decide +kernel
  obtain ⟨request, hRequest⟩ := hAll _ _ _ _ _ _ hRead hMake
  rw [hRefused] at hRequest
  cases hRequest

end Grant

end BearerTokens
