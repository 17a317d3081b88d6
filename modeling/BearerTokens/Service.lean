import BearerTokens.Token.Bearer
import BearerTokens.Token.Cache.Step

/-!
# The token service

What the rest of an application holds. It either has a token cache or lacks settings, and then every request
for a token fails. A caller may ask for the token itself or for the header that carries it; the header is made
when the caller is answered, so the cache does not know the difference.
-/

set_option autoImplicit false

namespace BearerTokens

open BearerTokens.Http BearerTokens.Text BearerTokens.Time

inductive Service where
  /-- A cache, and the callers that asked for a header. -/
  | available (cache : TokenCache) (headers : List Nat)
  /-- The settings that are missing, and how many callers there were. -/
  | unavailable (missing : List Required) (callers : Nat)

namespace Service

inductive Outcome where
  | token (secret : Secret)
  | header (h : Header)
  | failure (e : Error)
  | overflow

def ofCache (cache : TokenCache) : Service :=
  .available cache []

/-- Missing settings make the service unavailable; settings that are wrong are an error. -/
def ofSettings (settings : Settings) (classify : Classifier) (clock : Clock)
    (toAscii : ToAscii := .plain) : Except ConfigError Service :=
  match settings.missing with
  | [] => (settings.resolve toAscii).map fun grant => ofCache (.new grant classify clock)
  | missing => .ok (.unavailable missing 0)

def cache? : Service → Option TokenCache
  | .available cache _ => some cache
  | .unavailable .. => none

def missing : Service → List Required
  | .available .. => []
  | .unavailable missing _ => missing

def isAvailable (s : Service) : Bool :=
  s.cache?.isSome

/-- A service without a cache has noted that once, when it was made. -/
def notes : Service → List Note
  | .available cache _ => cache.notes
  | .unavailable .. => [.decision .token .credentialsUnavailable]

def inspect : Service → String
  | .available cache _ => "Available(" ++ cache.inspect ++ ")"
  | .unavailable missing _ =>
    "Unavailable \x7b missing: " ++ bracketed (missing.map fun r => quoted r.name) ++ " \x7d"

inductive Event where
  | get (ready : Option Reply)
  | header (ready : Option Reply)
  | invalidate
  /-- Something that happens to the cache without the service. -/
  | cache (e : TokenCache.Event)

def step : Service → Event → Service
  | .available cache headers, event =>
    match event with
    | .get ready => .available (cache.step (.call ready)) headers
    | .header ready => .available (cache.step (.call ready)) (headers ++ [cache.callers.length])
    | .invalidate => .available (cache.step .clear) headers
    | .cache e => .available (cache.step e) headers
  | .unavailable missing callers, event =>
    match event with
    | .get _ | .header _ => .unavailable missing (callers + 1)
    | .invalidate | .cache _ => .unavailable missing callers

def run (s : Service) (events : List Event) : Service :=
  events.foldl step s

def callers : Service → Nat
  | .available cache _ => cache.callers.length
  | .unavailable _ callers => callers

/-- The outcome for a caller that wants a header made of its answer, or the answer as it is. -/
def Outcome.ofAnswer (wantsHeader : Bool) : TokenCache.Answer → Outcome
  | .token secret =>
    if wantsHeader then
      match secret.bearer with
      | .ok h => .header h
      | .error e => .failure e
    else .token secret
  | .failure e => .failure e
  | .overflow => .overflow

def outcome? : Service → Nat → Option Outcome
  | .available cache headers, caller =>
    (cache.answer? caller).map (Outcome.ofAnswer (headers.contains caller))
  | .unavailable _ callers, caller =>
    if caller < callers then some (.failure (.config .notConfigured)) else none

def resumeAll : Service → Service
  | .available cache headers => .available cache.resumeAll headers
  | s => s

end Service

end BearerTokens
