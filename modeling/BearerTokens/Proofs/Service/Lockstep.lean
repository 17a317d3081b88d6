import BearerTokens.Proofs.TokenCache.Lockstep
import BearerTokens.Service

/-!
# Services in lockstep

What a service and its cache show to whoever watches them, and two services that go through the same events side by
side: only the disguise tells their caches apart, so what they show is the same.
-/

set_option autoImplicit false

namespace BearerTokens

open BearerTokens.Http BearerTokens.Time

/-- What a cache shows of itself. -/
structure TokenCache.Shown where
  config : String
  text : String
  state : CacheState
  expiresAt : Option Instant
  trace : List String
  counters : List (String × Nat)

def TokenCache.shown (c : TokenCache) : TokenCache.Shown where
  config := c.grant.inspect
  text := c.inspect
  state := c.state
  expiresAt := c.expiresAt?
  trace := trace c.notes
  counters := counters c.notes

def TokenCache.requests (c : TokenCache) : List Request :=
  c.transport.calls.map (·.request)

/-- What a service shows of itself and of its cache, if it has one. -/
structure Service.Shown where
  text : String
  trace : List String
  counters : List (String × Nat)
  cache : Option TokenCache.Shown

def Service.shown (s : Service) : Service.Shown where
  text := s.inspect
  trace := trace s.notes
  counters := counters s.notes
  cache := s.cache?.map TokenCache.shown

def Service.requests (s : Service) : List Request :=
  (s.cache?.map TokenCache.requests).getD []

namespace Disguise

inductive ServiceEvent (D : Disguise) : Service.Event → Service.Event → Prop where
  | get {ready ready' : Option Reply} (alike : Option.Rel D.reply ready ready') :
      ServiceEvent D (.get ready) (.get ready')
  | header {ready ready' : Option Reply} (alike : Option.Rel D.reply ready ready') :
      ServiceEvent D (.header ready) (.header ready')
  | invalidate : ServiceEvent D .invalidate .invalidate
  | cache {e e' : TokenCache.Event} (event : D.Event e e') : ServiceEvent D (.cache e) (.cache e')

inductive Services (D : Disguise) : Service → Service → Prop where
  | available {c d : TokenCache} (caches : D.Caches c d) (headers : List Nat) :
      Services D (.available c headers) (.available d headers)
  | unavailable (missing : List Required) (callers : Nat) :
      Services D (.unavailable missing callers) (.unavailable missing callers)

variable {D : Disguise} {c d : TokenCache} {s t : Service}

theorem Caches.new {g g' : Grant} (hInspect : g'.inspect = g.inspect) (hRequest : g'.request = g.request.map D.request)
    (classify : Classifier) (clock : Clock) : D.Caches (.new g classify clock) (.new g' classify clock) where
  grant := hInspect
  request := hRequest
  classify := rfl
  clock := rfl
  transport := .nil
  cached := .none
  inFlight := rfl
  exchanges := .nil
  callers := .nil
  handles := rfl
  notes := rfl

theorem Caches.shown (h : D.Caches c d) : d.shown = c.shown := by
  simp only [TokenCache.shown, h.grant, h.inspect, h.state, h.expiresAt?, h.notes]

theorem Caches.requests (h : D.Caches c d) : d.requests = c.requests.map D.request :=
  h.transport.requests

namespace Services

theorem step (h : D.Services s t) (hSound : D.Sound) {e e' : Service.Event} (hEvent : D.ServiceEvent e e') :
    D.Services (s.step e) (t.step e') := by
  cases h with
  | available hCaches headers =>
    cases hEvent with
    | get hReady => exact .available (hCaches.step hSound (.call hReady)) headers
    | header hReady =>
      simp only [Service.step, hCaches.callerCount]
      exact .available (hCaches.step hSound (.call hReady)) _
    | invalidate => exact .available (hCaches.step hSound .clear) headers
    | cache hEvent => exact .available (hCaches.step hSound hEvent) headers
  | unavailable missing callers =>
    cases hEvent with
    | get | header => exact .unavailable missing (callers + 1)
    | invalidate | cache => exact .unavailable missing callers

theorem run (h : D.Services s t) (hSound : D.Sound) {events events' : List Service.Event}
    (hEvents : List.Forall₂ D.ServiceEvent events events') : D.Services (s.run events) (t.run events') := by
  induction hEvents generalizing s t with
  | nil => exact h
  | cons hEvent _ ih => exact ih (h.step hSound hEvent)

theorem inspect (h : D.Services s t) : t.inspect = s.inspect := by
  cases h with
  | available hCaches => exact congrArg (fun text => "Available(" ++ text ++ ")") hCaches.inspect
  | unavailable => rfl

theorem notes (h : D.Services s t) : t.notes = s.notes := by
  cases h with
  | available hCaches => exact hCaches.notes
  | unavailable => rfl

theorem shown (h : D.Services s t) : t.shown = s.shown := by
  have hCache : t.cache?.map TokenCache.shown = s.cache?.map TokenCache.shown := by
    cases h with
    | available hCaches => exact congrArg some hCaches.shown
    | unavailable => rfl
  unfold Service.shown
  rw [h.inspect, h.notes, hCache]

theorem requests (h : D.Services s t) : t.requests = s.requests.map D.request := by
  cases h with
  | available hCaches headers => exact hCaches.requests
  | unavailable => rfl

end Services

/-- Where every reply may stand for itself, every event may. -/
theorem Event.refl (hReply : ∀ r, D.reply r r) (e : TokenCache.Event) : D.Event e e := by
  cases e with
  | call ready => exact .call (option_refl hReply ready)
  | resume k => exact .resume k
  | cancel k => exact .cancel k
  | reply request r => exact .reply request (hReply r)
  | setClock now => exact .setClock now
  | clear => exact .clear
  | share => exact .share
  | giveBack => exact .giveBack

theorem ServiceEvent.refl (hReply : ∀ r, D.reply r r) (e : Service.Event) : D.ServiceEvent e e := by
  cases e with
  | get ready => exact .get (option_refl hReply ready)
  | header ready => exact .header (option_refl hReply ready)
  | invalidate => exact .invalidate
  | cache e => exact .cache (.refl hReply e)

end Disguise

end BearerTokens
