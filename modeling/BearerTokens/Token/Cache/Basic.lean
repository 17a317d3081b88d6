import BearerTokens.Time.Clock
import BearerTokens.Token.Exchange

/-!
# Token caches

One token shared by all callers. A cache keeps the last token it was given, the exchange that is under way,
and every caller and exchange there ever was, numbered in the order in which they came. Its history says
what happened when.
-/

set_option autoImplicit false

namespace BearerTokens

open BearerTokens.Http BearerTokens.Text BearerTokens.Time

namespace TokenCache

/-- How far an exchange has come. One whose token would end after the calendar breaks and has no result. -/
inductive Phase where
  | waiting (request : Nat)
  | settled (result : Exchange.Result)
  | broken
  | dropped

inductive Answer where
  | token (secret : Secret)
  | failure (e : Error)
  | overflow
  deriving DecidableEq

inductive CallerState where
  | waiting
  | answered (a : Answer)
  | cancelled
  deriving DecidableEq

/-- A caller and the exchange whose result it shares; one that was served from memory has none. -/
structure Caller where
  exchange : Option Nat
  state : CallerState
  deriving DecidableEq

inductive Fact where
  | served (caller : Nat) (token : HeldToken)
  | joined (caller exchange : Nat)
  | started (caller exchange : Nat)
  | sent (exchange request : Nat)
  | replied (request : Nat) (reply : Reply)
  /-- The reply to an exchange is read. Nowhere else is a network error classified. -/
  | judged (exchange : Nat) (reply : Reply)
  | settled (exchange : Nat) (result : Exchange.Result)
  | broke (exchange : Nat)
  | cancelled (caller : Nat)
  | cleared
  | released

/-- What has happened so far, oldest first, each with the instant at which it did. -/
abbrev History := List (Instant × Fact)

end TokenCache

structure TokenCache where
  grant : Grant
  classify : Classifier
  clock : Clock
  transport : Transport
  cached : Option HeldToken
  inFlight : Option Nat
  exchanges : List TokenCache.Phase
  callers : List TokenCache.Caller
  /-- How many handles there are besides those of the callers. -/
  handles : Nat
  notes : List Note
  history : TokenCache.History

inductive CacheState where
  | cold
  | warm
  | refreshing
  deriving DecidableEq, Repr

def CacheState.name : CacheState → String
  | .cold => "Cold"
  | .warm => "Warm"
  | .refreshing => "Refreshing"

def TokenCache.Phase.answer? : TokenCache.Phase → Option TokenCache.Answer
  | .settled (.ok t) => some (.token t.secret)
  | .settled (.error e) => some (.failure e)
  | .broken => some .overflow
  | _ => none

namespace TokenCache

/-- An empty cache with one handle. -/
def new (grant : Grant) (classify : Classifier) (clock : Clock) : TokenCache where
  grant := grant
  classify := classify
  clock := clock
  transport := .empty
  cached := none
  inFlight := none
  exchanges := []
  callers := []
  handles := 1
  notes := []
  history := []

def usable? (c : TokenCache) : Option HeldToken :=
  c.cached.filter fun t => t.isUsableAt c.clock.now

def state (c : TokenCache) : CacheState :=
  if c.inFlight.isSome then .refreshing
  else if c.usable?.isSome then .warm
  else .cold

def expiresAt? (c : TokenCache) : Option Instant :=
  c.cached.map (·.expiresAt)

/-- A cache lives as long as somebody holds it: every waiting caller does. -/
def isOwned (c : TokenCache) : Bool :=
  decide (0 < c.handles) || c.callers.any fun k => decide (k.state = .waiting)

def awaited? (c : TokenCache) (caller : Nat) : Option Nat :=
  match c.callers[caller]? with
  | some k => if k.state = .waiting then k.exchange else none
  | none => none

def answer? (c : TokenCache) (caller : Nat) : Option Answer :=
  match c.callers[caller]?.map Caller.state with
  | some (.answered a) => some a
  | _ => none

def inspect (c : TokenCache) : String :=
  "TokenCache \x7b config: " ++ c.grant.inspect ++ ", state: " ++ c.state.name ++ " \x7d"

end TokenCache

end BearerTokens
