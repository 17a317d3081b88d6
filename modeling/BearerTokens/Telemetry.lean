/-!
# Telemetry

What the caches report about themselves: a span around each fetch, an event for each decision, and counters.
One list of notes carries all three; the trace and the counter totals are two views of it.
-/

set_option autoImplicit false

namespace BearerTokens

inductive Operation where
  | token
  | keySet
  deriving DecidableEq, Repr

def Operation.label : Operation → String
  | .token => "token"
  | .keySet => "jwks"

inductive FetchOutcome where
  | attempt
  | success
  | failure
  deriving DecidableEq, Repr

def FetchOutcome.label : FetchOutcome → String
  | .attempt => "attempt"
  | .success => "success"
  | .failure => "failure"

/-- Where the expiry of a token was taken from. -/
inductive ExpirySource where
  | jwtClaim
  | expiresIn
  deriving DecidableEq, Repr

def ExpirySource.label : ExpirySource → String
  | .jwtClaim => "jwt_claim"
  | .expiresIn => "expires_in"

def ExpirySource.inspect : ExpirySource → String
  | .jwtClaim => "JwtClaim"
  | .expiresIn => "ExpiresIn"

inductive Decision where
  | cacheHit
  | joinInFlight
  | startFetch
  | cacheCleared
  | credentialsUnavailable
  | kidMiss
  | joinRefetch
  | named (label : String)
  deriving DecidableEq, Repr

def Decision.label : Decision → String
  | .cacheHit => "cache_hit"
  | .joinInFlight => "join_in_flight"
  | .startFetch => "start_fetch"
  | .cacheCleared => "cache_cleared"
  | .credentialsUnavailable => "client_credentials_unavailable"
  | .kidMiss => "kid_miss"
  | .joinRefetch => "join_refetch"
  | .named label => label

inductive Note where
  | span (op : Operation) (stage : String)
  | decision (op : Operation) (d : Decision)
  | fetch (op : Operation) (outcome : FetchOutcome)
  | expiry (source : ExpirySource)
  deriving DecidableEq, Repr

namespace Note

/-- The trace line of a note; counters have none. -/
def trace? : Note → Option String
  | .span op stage => some ("span openchoreo_auth.fetch op=" ++ op.label ++ " stage=" ++ stage)
  | .decision op d => some ("DEBUG op=" ++ op.label ++ " decision=" ++ d.label)
  | _ => none

def counter? : Note → Option String
  | .fetch op outcome =>
    some ("openchoreo_auth_fetch_total\x7bop=" ++ op.label ++ ",outcome=" ++ outcome.label ++ "\x7d")
  | .expiry source =>
    some ("openchoreo_auth_token_expiry_source_total\x7bsource=" ++ source.label ++ "\x7d")
  | _ => none

end Note

def trace (notes : List Note) : List String :=
  notes.filterMap Note.trace?

/-- Each counter that was ever incremented, with its total, in the order of first use. -/
def counters (notes : List Note) : List (String × Nat) :=
  let keys := notes.filterMap Note.counter?
  keys.eraseDups.map fun key => (key, keys.count key)

end BearerTokens
