import BearerTokens.Proofs.Grant.Secret
import BearerTokens.Proofs.Service.Lockstep
import BearerTokens.Proofs.TokenCache.Receipt

/-!
# Secrets that are not shown

Whoever watches a service from outside learns nothing of the secrets in it. With another client secret it shows the
same texts, notes, states and expiries, gives its callers the same, and sends the same requests but for one pair of
their forms. With other access tokens in the replies only what the callers get is different.
-/

set_option autoImplicit false

namespace BearerTokens

open BearerTokens.Http BearerTokens.Json BearerTokens.Time

namespace Settings

def cacheRun (s : Settings) (classify : Classifier) (clock : Clock) (toAscii : ToAscii)
    (events : List TokenCache.Event) : Except ConfigError TokenCache :=
  (s.resolve toAscii).map fun grant => (TokenCache.new grant classify clock).run events

def serviceRun (s : Settings) (classify : Classifier) (clock : Clock) (toAscii : ToAscii)
    (events : List Service.Event) : Except ConfigError Service :=
  (Service.ofSettings s classify clock toAscii).map (·.run events)

end Settings

inductive Agree {ε α β : Type} (R : α → β → Prop) : Except ε α → Except ε β → Prop where
  | error (e : ε) : Agree R (.error e) (.error e)
  | ok {x : α} {y : β} (related : R x y) : Agree R (.ok x) (.ok y)

theorem Agree.map_eq {ε α β γ : Type} {R : α → β → Prop} {x : Except ε α} {y : Except ε β} (h : Agree R x y)
    {f : α → γ} {g : β → γ} (hSame : ∀ {a b}, R a b → g b = f a) : y.map g = x.map f := by
  cases h with
  | error e => rfl
  | ok related => exact congrArg Except.ok (hSame related)

namespace Disguise

variable {c d : TokenCache} {s t : Service} {secret : Secret}

def clientSecret (secret : Secret) : Disguise where
  request r := r.withSecret secret
  reply := Eq
  secret := Eq
  error := Eq

theorem clientSecret_sound (secret : Secret) : (clientSecret secret).Sound where
  config _ := rfl
  conclude classify now r _ := by
    rintro rfl
    refine option_refl (fun result => ?_) _
    cases result with
    | ok t => exact .ok ⟨rfl, rfl, rfl⟩
    | error e => exact .error rfl

theorem Caches.answer?_eq (h : (clientSecret secret).Caches c d) (k : Nat) : d.answer? k = c.answer? k := by
  match c.answer? k, d.answer? k, h.answer? k with
  | _, _, .none => rfl
  | _, _, .some hAnswer =>
    cases hAnswer with
    | token hSecret =>
      cases hSecret
      rfl
    | failure hError =>
      cases hError
      rfl
    | overflow => rfl

theorem Services.outcome? (h : (clientSecret secret).Services s t) (k : Nat) : t.outcome? k = s.outcome? k := by
  cases h with
  | available hCaches headers => rw [Service.outcome?, hCaches.answer?_eq, Service.outcome?]
  | unavailable => rfl

theorem Caches.withSecret {g : Grant} (classify : Classifier) (clock : Clock) :
    (clientSecret secret).Caches (.new g classify clock) (.new (g.withSecret secret) classify clock) :=
  .new (g.inspect_withSecret secret) (g.request_withSecret secret) classify clock

end Disguise

namespace Settings

variable {a b : Secret}

/-- The secret decides nothing about which error there is or whether there is a cache. -/
theorem cacheRun_withSecret (s : Settings) (hA : a.IsFilled) (hB : b.IsFilled) (classify : Classifier)
    (clock : Clock) (toAscii : ToAscii) (events : List TokenCache.Event) :
    Agree (Disguise.clientSecret b).Caches ((s.withSecret a).cacheRun classify clock toAscii events)
      ((s.withSecret b).cacheRun classify clock toAscii events) := by
  unfold cacheRun
  rw [s.resolve_withSecret hA hB toAscii]
  cases (s.withSecret a).resolve toAscii with
  | error e => exact .error e
  | ok grant =>
    have hSame : List.Forall₂ (Disguise.clientSecret b).Event events events :=
      List.forall₂_same.2 fun e _ => .refl (fun _ => rfl) e
    exact .ok ((Disguise.Caches.withSecret classify clock).run (Disguise.clientSecret_sound b) hSame)

theorem ofSettings_withSecret (s : Settings) (hA : a.IsFilled) (hB : b.IsFilled) (classify : Classifier)
    (clock : Clock) (toAscii : ToAscii) :
    Agree (Disguise.clientSecret b).Services (Service.ofSettings (s.withSecret a) classify clock toAscii)
      (Service.ofSettings (s.withSecret b) classify clock toAscii) := by
  unfold Service.ofSettings
  rw [s.missing_withSecret hB hA, s.resolve_withSecret hA hB toAscii]
  cases (s.withSecret a).missing with
  | cons r rs => exact .ok (.unavailable (r :: rs) 0)
  | nil =>
    cases (s.withSecret a).resolve toAscii with
    | error e => exact .error e
    | ok grant => exact .ok (.available (.withSecret classify clock) [])

theorem serviceRun_withSecret (s : Settings) (hA : a.IsFilled) (hB : b.IsFilled) (classify : Classifier)
    (clock : Clock) (toAscii : ToAscii) (events : List Service.Event) :
    Agree (Disguise.clientSecret b).Services ((s.withSecret a).serviceRun classify clock toAscii events)
      ((s.withSecret b).serviceRun classify clock toAscii events) := by
  unfold serviceRun
  have hSame : List.Forall₂ (Disguise.clientSecret b).ServiceEvent events events :=
    List.forall₂_same.2 fun e _ => .refl (fun _ => rfl) e
  match Service.ofSettings (s.withSecret a) classify clock toAscii,
    Service.ofSettings (s.withSecret b) classify clock toAscii, s.ofSettings_withSecret hA hB classify clock toAscii with
  | _, _, .error e => exact .error e
  | _, _, .ok hStart => exact .ok (hStart.run (Disguise.clientSecret_sound b) hSame)

/-- Which of two client secrets the settings hold is told by nothing but the requests, and there by one pair. -/
structure ClientSecretUnseen (s : Settings) (a b : Secret) (classify : Classifier) (clock : Clock)
    (toAscii : ToAscii) : Prop where
  settings : (s.withSecret b).inspect = (s.withSecret a).inspect
  missing : (s.withSecret b).missing = (s.withSecret a).missing
  config : ((s.withSecret b).resolve toAscii).map Grant.inspect =
    ((s.withSecret a).resolve toAscii).map Grant.inspect
  cache : ∀ events, ((s.withSecret b).cacheRun classify clock toAscii events).map TokenCache.shown =
    ((s.withSecret a).cacheRun classify clock toAscii events).map TokenCache.shown
  answers : ∀ events caller, ((s.withSecret b).cacheRun classify clock toAscii events).map (·.answer? caller) =
    ((s.withSecret a).cacheRun classify clock toAscii events).map (·.answer? caller)
  cacheRequests : ∀ events, ((s.withSecret b).cacheRun classify clock toAscii events).map TokenCache.requests =
    ((s.withSecret a).cacheRun classify clock toAscii events).map fun c => c.requests.map (·.withSecret b)
  service : ∀ events, ((s.withSecret b).serviceRun classify clock toAscii events).map Service.shown =
    ((s.withSecret a).serviceRun classify clock toAscii events).map Service.shown
  outcomes : ∀ events caller, ((s.withSecret b).serviceRun classify clock toAscii events).map (·.outcome? caller) =
    ((s.withSecret a).serviceRun classify clock toAscii events).map (·.outcome? caller)
  requests : ∀ events, ((s.withSecret b).serviceRun classify clock toAscii events).map Service.requests =
    ((s.withSecret a).serviceRun classify clock toAscii events).map fun x => x.requests.map (·.withSecret b)

theorem clientSecretUnseen (s : Settings) (hA : a.IsFilled) (hB : b.IsFilled) (classify : Classifier)
    (clock : Clock) (toAscii : ToAscii) : s.ClientSecretUnseen a b classify clock toAscii where
  settings := s.inspect_withSecret b a
  missing := s.missing_withSecret hB hA
  config := by
    rw [s.resolve_withSecret hA hB toAscii]
    cases (s.withSecret a).resolve toAscii <;> rfl
  cache events := (s.cacheRun_withSecret hA hB classify clock toAscii events).map_eq fun h => h.shown
  answers events caller :=
    (s.cacheRun_withSecret hA hB classify clock toAscii events).map_eq fun h => h.answer?_eq caller
  cacheRequests events := (s.cacheRun_withSecret hA hB classify clock toAscii events).map_eq fun h => h.requests
  service events := (s.serviceRun_withSecret hA hB classify clock toAscii events).map_eq fun h => h.shown
  outcomes events caller :=
    (s.serviceRun_withSecret hA hB classify clock toAscii events).map_eq fun h => h.outcome? caller
  requests events := (s.serviceRun_withSecret hA hB classify clock toAscii events).map_eq fun h => h.requests

end Settings

/-- A token in which no expiry can be read. -/
structure Secret.IsPlain (s : Secret) : Prop where
  filled : s.isEmpty = false
  unread : Expiry.readClaim? s.expose = none

/-- Tokens of which neither is empty and that name the same expiry, or none. -/
structure Secret.Exchangeable (s s' : Secret) : Prop where
  filled : s.isEmpty = false
  filled' : s'.isEmpty = false
  claim : Expiry.ofClaim? s'.expose = Expiry.ofClaim? s.expose

theorem Secret.IsPlain.exchangeable {s s' : Secret} (h : s.IsPlain) (h' : s'.IsPlain) : s.Exchangeable s' where
  filled := h.filled
  filled' := h'.filled
  claim := by rw [Expiry.ofClaim?, h'.unread, Expiry.ofClaim?, h.unread]

/-- Replies that differ in the access token they bring. Where they bring none, for the body is malformed or the status
tells no success, the bodies may differ in any way. -/
inductive Reissued : Reply → Reply → Prop where
  | same (r : Reply) : Reissued r r
  | token (status : Nat) {body body' : Bytes} {r : TokenResponse} {secret : Secret}
      (read : TokenResponse.read body = .ok r)
      (reread : TokenResponse.read body' = .ok { r with accessToken := secret })
      (exchangeable : r.accessToken.Exchangeable secret) :
      Reissued (.response ⟨status, body⟩) (.response ⟨status, body'⟩)
  | malformed (status : Nat) {body body' : Bytes} {e e' : Misread} (misread : TokenResponse.read body = .error e)
      (misread' : TokenResponse.read body' = .error e') :
      Reissued (.response ⟨status, body⟩) (.response ⟨status, body'⟩)
  | refused {status : Nat} (failed : isSuccess status = false) (body body' : Bytes) :
      Reissued (.response ⟨status, body⟩) (.response ⟨status, body'⟩)

theorem TokenResponse.parse_of_read {status : Nat} {body : Bytes} {r : TokenResponse} (hRead : read body = .ok r)
    (hFilled : r.accessToken.isEmpty = false) : parse status body = .ok r := by
  simp [parse, hRead, hFilled]

theorem TokenResponse.parse_of_misread {status : Nat} {body : Bytes} {e : Misread} (hRead : read body = .error e) :
    parse status body = .error (.malformedResponse e status) := by
  rw [parse, hRead]

namespace Disguise

def accessTokens : Disguise where
  request := id
  reply := Reissued
  secret _ _ := True
  error _ _ := True

theorem held_of_exchangeable {r : TokenResponse} {secret : Secret} (h : r.accessToken.Exchangeable secret)
    (now : Instant) :
    Option.Rel accessTokens.Held (HeldToken.ofResponse? r now)
      (HeldToken.ofResponse? { r with accessToken := secret } now) := by
  have hDerive : Expiry.derive secret.expose r.expiresIn now =
      Expiry.derive r.accessToken.expose r.expiresIn now := by
    rw [Expiry.derive, h.claim, Expiry.derive]
  unfold HeldToken.ofResponse?
  rw [hDerive]
  cases Expiry.derive r.accessToken.expose r.expiresIn now with
  | none => exact .none
  | some expiry => exact .some ⟨trivial, rfl, rfl⟩

theorem result_refl (result : Exchange.Result) : accessTokens.Result result result := by
  cases result with
  | ok t => exact .ok ⟨trivial, rfl, rfl⟩
  | error e => exact .error trivial

theorem accessTokens_sound : accessTokens.Sound where
  config _ := trivial
  conclude classify now r r' hReissued := by
    have hFailed {e e' : Error} : Option.Rel accessTokens.Result (some (.error e)) (some (.error e')) :=
      .some (.error trivial)
    cases hReissued with
    | same => exact option_refl result_refl _
    | token status hRead hReread hTokens =>
      -- with a status that tells no success the body is an error, whatever it brings
      simp only [Exchange.conclude, Reply.result, TokenResponse.parse_of_read hRead hTokens.filled,
        TokenResponse.parse_of_read hReread hTokens.filled']
      split
      · exact option_rel_map (held_of_exchangeable hTokens now) .ok
      · exact hFailed
    | malformed status hRead hRead' =>
      simp only [Exchange.conclude, Reply.result, TokenResponse.parse_of_misread hRead,
        TokenResponse.parse_of_misread hRead']
      split
      · exact hFailed
      · exact hFailed
    | refused hStatus body body' =>
      simp only [Exchange.conclude, Reply.result, hStatus]
      exact hFailed

variable {c d : TokenCache} {s t : Service}

theorem Caches.same {g : Grant} (classify : Classifier) (clock : Clock) :
    accessTokens.Caches (.new g classify clock) (.new g classify clock) := by
  refine .new rfl ?_ classify clock
  cases g.request <;> rfl

theorem Caches.requests_eq (h : accessTokens.Caches c d) : d.requests = c.requests :=
  h.requests.trans (List.map_id _)

theorem Services.requests_eq (h : accessTokens.Services s t) : t.requests = s.requests :=
  h.requests.trans (List.map_id _)

end Disguise

namespace Settings

theorem cacheRun_reissued (s : Settings) (classify : Classifier) (clock : Clock) (toAscii : ToAscii)
    {events reissued : List TokenCache.Event}
    (hReissued : List.Forall₂ Disguise.accessTokens.Event events reissued) :
    Agree Disguise.accessTokens.Caches (s.cacheRun classify clock toAscii events)
      (s.cacheRun classify clock toAscii reissued) := by
  unfold cacheRun
  cases s.resolve toAscii with
  | error e => exact .error e
  | ok grant => exact .ok ((Disguise.Caches.same classify clock).run Disguise.accessTokens_sound hReissued)

theorem serviceRun_reissued (s : Settings) (classify : Classifier) (clock : Clock) (toAscii : ToAscii)
    {events reissued : List Service.Event}
    (hReissued : List.Forall₂ Disguise.accessTokens.ServiceEvent events reissued) :
    Agree Disguise.accessTokens.Services (s.serviceRun classify clock toAscii events)
      (s.serviceRun classify clock toAscii reissued) := by
  have hRun {x y : Service} (hStart : Disguise.accessTokens.Services x y) :
      Disguise.accessTokens.Services (x.run events) (y.run reissued) :=
    hStart.run Disguise.accessTokens_sound hReissued
  unfold serviceRun Service.ofSettings
  cases s.missing with
  | cons r rs => exact .ok (hRun (.unavailable (r :: rs) 0))
  | nil =>
    cases s.resolve toAscii with
    | error e => exact .error e
    | ok grant => exact .ok (hRun (.available (.same classify clock) []))

/-- Which of exchangeable tokens the replies bring is told by nothing but what the callers get. -/
structure TokensUnseen (s : Settings) (classify : Classifier) (clock : Clock) (toAscii : ToAscii) : Prop where
  cache : ∀ events reissued, List.Forall₂ Disguise.accessTokens.Event events reissued →
    (s.cacheRun classify clock toAscii reissued).map TokenCache.shown =
      (s.cacheRun classify clock toAscii events).map TokenCache.shown
  cacheRequests : ∀ events reissued, List.Forall₂ Disguise.accessTokens.Event events reissued →
    (s.cacheRun classify clock toAscii reissued).map TokenCache.requests =
      (s.cacheRun classify clock toAscii events).map TokenCache.requests
  service : ∀ events reissued, List.Forall₂ Disguise.accessTokens.ServiceEvent events reissued →
    (s.serviceRun classify clock toAscii reissued).map Service.shown =
      (s.serviceRun classify clock toAscii events).map Service.shown
  requests : ∀ events reissued, List.Forall₂ Disguise.accessTokens.ServiceEvent events reissued →
    (s.serviceRun classify clock toAscii reissued).map Service.requests =
      (s.serviceRun classify clock toAscii events).map Service.requests

theorem tokensUnseen (s : Settings) (classify : Classifier) (clock : Clock) (toAscii : ToAscii) :
    s.TokensUnseen classify clock toAscii where
  cache _ _ hReissued := (s.cacheRun_reissued classify clock toAscii hReissued).map_eq fun h => h.shown
  cacheRequests _ _ hReissued := (s.cacheRun_reissued classify clock toAscii hReissued).map_eq fun h => h.requests_eq
  service _ _ hReissued := (s.serviceRun_reissued classify clock toAscii hReissued).map_eq fun h => h.shown
  requests _ _ hReissued := (s.serviceRun_reissued classify clock toAscii hReissued).map_eq fun h => h.requests_eq

/-- Neither the client secret nor an access token is told by what a cache or a service shows. -/
structure SecretsUnseen (s : Settings) (a b : Secret) (classify : Classifier) (clock : Clock)
    (toAscii : ToAscii) : Prop where
  clientSecret : s.ClientSecretUnseen a b classify clock toAscii
  accessTokens : s.TokensUnseen classify clock toAscii

/-- In every run, secrets are unseen. -/
theorem run_secretsUnseen (s : Settings) {a b : Secret} (hA : a.IsFilled) (hB : b.IsFilled) (classify : Classifier)
    (clock : Clock) (toAscii : ToAscii) : s.SecretsUnseen a b classify clock toAscii where
  clientSecret := s.clientSecretUnseen hA hB classify clock toAscii
  accessTokens := s.tokensUnseen classify clock toAscii

def sampleSettings : Settings where
  clientId := some "svc"
  clientSecret := none
  tokenUrl := some "https://idp.example.com/token"
  scopes := none

def reissuedResponse : Response :=
  ⟨200, "\x7b\"access_token\":\"opaque, too\",\"expires_in\":3600\x7d".toUTF8.toList⟩

def servedBy (r : Response) : List Service.Event :=
  [.get (some (.response r)), .header none]

theorem sample_reissued : Reissued (.response TokenCache.sampleResponse) (.response reissuedResponse) := by
  have hRead : TokenResponse.read TokenCache.sampleResponse.body =
      .ok ⟨⟨"opaque"⟩, none, some (.ofNat 3600), none⟩ := by decide +kernel
  have hReread : TokenResponse.read reissuedResponse.body =
      .ok ⟨⟨"opaque, too"⟩, none, some (.ofNat 3600), none⟩ := by decide +kernel
  have hPlain : Secret.IsPlain ⟨"opaque"⟩ := ⟨by decide +kernel, by decide +kernel⟩
  have hPlain' : Secret.IsPlain ⟨"opaque, too"⟩ := ⟨by decide +kernel, by decide +kernel⟩
  exact .token 200 hRead hReread (hPlain.exchangeable hPlain')

theorem sample_secretsUnseen :
    (⟨"secret"⟩ : Secret).IsFilled ∧ (⟨" other "⟩ : Secret).IsFilled ∧
    List.Forall₂ Disguise.accessTokens.ServiceEvent (servedBy TokenCache.sampleResponse) (servedBy reissuedResponse) ∧
    sampleSettings.SecretsUnseen ⟨"secret"⟩ ⟨" other "⟩ asNetworkError ⟨TokenCache.epoch⟩ .plain :=
  ⟨by decide +kernel, by decide +kernel,
    .cons (.get (.some sample_reissued)) (.cons (.header .none) .nil),
    run_secretsUnseen sampleSettings (by decide +kernel) (by decide +kernel) asNetworkError ⟨TokenCache.epoch⟩ .plain⟩

end Settings

end BearerTokens
