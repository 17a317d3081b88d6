import BearerTokens.Proofs.Grant.Resolve
import BearerTokens.Proofs.Service.Lockstep

/-!
# Activation

A service is made from settings once. Where a required setting is lacking there is no cache and never will be; where
none is, the service and the grant stand and fall together.
-/

set_option autoImplicit false

namespace BearerTokens

open BearerTokens.Http BearerTokens.Time

namespace Service

/-- No cache comes about, nothing is sent, and whoever asks is told that nothing is configured. -/
structure Idle (service : Service) : Prop where
  uncached : ∀ events, (service.run events).cache? = none
  silent : ∀ events, (service.run events).requests = []
  refuses : ∀ events caller, caller < (service.run events).callers →
    (service.run events).outcome? caller = some (.failure (.config .notConfigured))

theorem step_unavailable (missing : List Required) (callers : Nat) (event : Event) :
    ∃ count, (unavailable missing callers).step event = unavailable missing count := by
  cases event with
  | get | header => exact ⟨callers + 1, rfl⟩
  | invalidate | cache => exact ⟨callers, rfl⟩

theorem run_unavailable (missing : List Required) (callers : Nat) (events : List Event) :
    ∃ count, (unavailable missing callers).run events = unavailable missing count := by
  induction events generalizing callers with
  | nil => exact ⟨callers, rfl⟩
  | cons event events ih =>
    obtain ⟨count, hStep⟩ := step_unavailable missing callers event
    obtain ⟨last, hRun⟩ := ih count
    refine ⟨last, ?_⟩
    rw [← hRun, ← hStep]
    rfl

theorem idle_unavailable (missing : List Required) (callers : Nat) : (unavailable missing callers).Idle := by
  constructor
  · intro events
    obtain ⟨count, hRun⟩ := run_unavailable missing callers events
    rw [hRun]
    rfl
  · intro events
    obtain ⟨count, hRun⟩ := run_unavailable missing callers events
    rw [hRun]
    rfl
  · intro events caller hCaller
    obtain ⟨count, hRun⟩ := run_unavailable missing callers events
    rw [hRun] at hCaller ⊢
    exact if_pos hCaller

end Service

namespace Settings

variable {s : Settings} {classify : Classifier} {clock : Clock} {toAscii : ToAscii}

theorem ofSettings_of_lacks {r : Required} (hLacks : s.Lacks r) :
    Service.ofSettings s classify clock toAscii = .ok (.unavailable s.missing 0) := by
  unfold Service.ofSettings
  cases hMissing : s.missing with
  | nil => exact absurd hLacks (missing_eq_nil_iff.1 hMissing r)
  | cons first rest => rfl

theorem ofSettings_of_full (hFull : ∀ r, ¬ s.Lacks r) : Service.ofSettings s classify clock toAscii =
    (s.resolve toAscii).map fun grant => .ofCache (.new grant classify clock) := by
  unfold Service.ofSettings
  rw [missing_eq_nil_iff.2 hFull]

/-- What a service owes to the settings that it is made from. -/
structure Activation (s : Settings) (classify : Classifier) (clock : Clock) (toAscii : ToAscii) : Prop where
  unavailable_iff :
    (∃ service, Service.ofSettings s classify clock toAscii = .ok service ∧ service.isAvailable = false) ↔
      ∃ r, s.Lacks r
  /-- The settings that are lacking are listed in the order in which they are declared. -/
  listed : ∀ service, Service.ofSettings s classify clock toAscii = .ok service →
    (∀ r, r ∈ service.missing ↔ s.Lacks r) ∧ service.missing.Sublist [.clientId, .clientSecret, .tokenUrl]
  idle : ∀ service, Service.ofSettings s classify clock toAscii = .ok service → service.isAvailable = false →
    service.Idle
  refused : ∀ service, Service.ofSettings s classify clock toAscii = .ok service → service.isAvailable = false →
    ∃ first rest, service.missing = first :: rest ∧ s.resolve toAscii = .error (.missingField first.name)
  available : (∀ r, ¬ s.Lacks r) → Service.ofSettings s classify clock toAscii =
    (s.resolve toAscii).map fun grant => .ofCache (.new grant classify clock)
  resolves_iff : ∀ result, s.resolve toAscii = result ↔ s.Resolves toAscii result
  configured : s.resolve toAscii ≠ .error .notConfigured
  found : (∀ r, ¬ s.Lacks r) → ∀ field, s.resolve toAscii ≠ .error (.missingField field)

theorem isAvailable_of_full (hFull : ∀ r, ¬ s.Lacks r) {service : Service}
    (hService : Service.ofSettings s classify clock toAscii = .ok service) : service.isAvailable = true := by
  rw [ofSettings_of_full hFull] at hService
  cases hResolve : s.resolve toAscii with
  | error e =>
    rw [hResolve] at hService
    cases hService
  | ok grant =>
    rw [hResolve] at hService
    cases hService
    rfl

theorem exists_lacks_of_unavailable {service : Service}
    (hService : Service.ofSettings s classify clock toAscii = .ok service) (hUnavailable : service.isAvailable = false) : ∃ r, s.Lacks r := by
  by_contra hNone
  rw [isAvailable_of_full (not_exists.1 hNone) hService] at hUnavailable
  cases hUnavailable

theorem missing_of_ofSettings {service : Service}
    (hService : Service.ofSettings s classify clock toAscii = .ok service) : service.missing = s.missing := by
  by_cases hLack : ∃ r, s.Lacks r
  · obtain ⟨r, hLacks⟩ := hLack
    rw [ofSettings_of_lacks hLacks] at hService
    cases hService
    rfl
  · have hFull : ∀ r, ¬ s.Lacks r := not_exists.1 hLack
    rw [missing_eq_nil_iff.2 hFull]
    cases service with
    | available => rfl
    | unavailable => cases isAvailable_of_full hFull hService

theorem settings_activate (s : Settings) (classify : Classifier) (clock : Clock) (toAscii : ToAscii) :
    s.Activation classify clock toAscii where
  unavailable_iff := by
    constructor
    · rintro ⟨service, hService, hUnavailable⟩
      exact exists_lacks_of_unavailable hService hUnavailable
    · rintro ⟨r, hLacks⟩
      exact ⟨_, ofSettings_of_lacks hLacks, rfl⟩
  listed service hService := by
    rw [missing_of_ofSettings hService]
    exact ⟨fun r => mem_missing_iff, List.filter_sublist⟩
  idle service hService hUnavailable := by
    cases service with
    | available => cases hUnavailable
    | unavailable missing callers => exact Service.idle_unavailable missing callers
  refused service hService hUnavailable := by
    obtain ⟨r, hLacks⟩ := exists_lacks_of_unavailable hService hUnavailable
    rw [missing_of_ofSettings hService]
    cases hMissing : s.missing with
    | nil => exact absurd hLacks (missing_eq_nil_iff.1 hMissing r)
    | cons first rest =>
      exact ⟨first, rest, rfl, resolve_eq_iff.2 (.lack (exists_missing_iff.1 ⟨rest, hMissing⟩))⟩
  available := ofSettings_of_full
  resolves_iff result := resolve_eq_iff
  configured h := by cases resolve_eq_iff.1 h
  found hFull field h := by
    obtain ⟨r, hLacks⟩ := lacks_of_missingField h
    exact hFull r hLacks

end Settings

end BearerTokens
