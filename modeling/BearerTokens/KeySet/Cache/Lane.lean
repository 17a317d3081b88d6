import BearerTokens.Http.Transport
import BearerTokens.Jwt.Verify
import BearerTokens.KeySet.Guard
import BearerTokens.Telemetry
import BearerTokens.Time.Clock
import BearerTokens.Url.Basic

/-!
# Lanes

All that a key-set cache keeps for one URL: the set that is stored, the guards that were made for downloads,
the calls there ever were, and the requests they sent. Sets, guards and requests are numbered in the order in
which they came, so that two equal sets from two downloads are told apart.
-/

set_option autoImplicit false

namespace BearerTokens.KeySetCache

open BearerTokens.Http BearerTokens.Json BearerTokens.Time

/-- A key set that was stored, and its number. -/
structure Stored where
  number : Nat
  set : KeySet
  deriving DecidableEq, Repr

structure Entry where
  stored : Stored
  fetchedAt : Instant
  deriving DecidableEq, Repr

/-- Why a call wants the guard: for a set that is young enough, or for one other than a set in which it missed
its key. -/
inductive Purpose where
  | lookup
  | replacement (stale : Nat)
  deriving DecidableEq, Repr

inductive Inquiry where
  | fetch
  | verify (token : String) (validation : Jwt.Validation)
  deriving DecidableEq, Repr

inductive Job where
  | fetch
  | verify (kid token : String) (validation : Jwt.Validation)
  deriving DecidableEq, Repr

inductive Answer where
  | set (stored : Stored)
  | claims (payload : Value)
  | failure (e : Error)

/-- Where a call stands. A call that waits for a guard, or for the reply to its request while it holds the
guard, knows which guard that is. -/
inductive Stage where
  | queued (purpose : Purpose) (guard : Nat)
  | downloading (purpose : Purpose) (guard request : Nat)
  | finished (answer : Answer)
  | cancelled

structure Call where
  name : CallName
  job : Job
  stage : Stage

inductive Fact where
  | began (call : CallName)
  | sent (call : CallName) (purpose : Purpose) (request : Nat)
  | replied (request : Nat)
  | stored (call : CallName) (purpose : Purpose) (request : Nat) (entry : Entry)
  /-- A download came to nothing; there is no request if none could be built. -/
  | failed (call : CallName) (purpose : Purpose) (request : Option Nat) (e : Error)
  | found (call : CallName) (purpose : Purpose) (number : Nat)
  | finished (call : CallName)
  | cancelled (call : CallName)
  | invalidated

structure Lane where
  entry : Option Entry
  /-- How many sets have been stored. -/
  storedCount : Nat
  guards : List Guard
  /-- The guard that newcomers take. -/
  guard : Option Nat
  calls : List Call
  transport : Transport
  history : List (Instant × Fact)

def Stage.guard? : Stage → Option Nat
  | .queued _ g => some g
  | .downloading _ g _ => some g
  | _ => none

namespace Lane

def empty : Lane := ⟨none, 0, [], none, [], .empty, []⟩

def stage? (l : Lane) (name : CallName) : Option Stage :=
  (l.calls.find? (·.name == name)).map (·.stage)

def answer? (l : Lane) (name : CallName) : Option Answer :=
  match l.stage? name with
  | some (.finished a) => some a
  | _ => none

def setCall (l : Lane) (call : Call) : Lane :=
  if l.calls.any (·.name == call.name) then
    { l with calls := l.calls.map fun c => if c.name == call.name then call else c }
  else { l with calls := l.calls ++ [call] }

def modifyGuard (l : Lane) (g : Nat) (f : Guard → Guard) : Lane :=
  { l with guards := l.guards.modify g f }

def takeGuard (l : Lane) : Lane × Nat :=
  match l.guard with
  | some g => (l, g)
  | none => ({ l with guards := l.guards ++ [.free], guard := some l.guards.length }, l.guards.length)

def isHolder (l : Lane) (g : Nat) (name : CallName) : Bool :=
  match l.guards[g]? with
  | some guard => decide (guard.holder = some name)
  | none => false

def woken? (l : Lane) (g : Nat) : Option CallName :=
  l.guards[g]?.bind Guard.woken?

def isShared (l : Lane) (g : Nat) (name : CallName) : Bool :=
  l.calls.any fun c => c.name != name && decide (c.stage.guard? = some g)

/-- Lets go of a guard after use. Newcomers no longer get it unless another call still has to do with it. -/
def leaveGuard (l : Lane) (g : Nat) (name : CallName) : Lane :=
  let l' := l.modifyGuard g (·.forget name)
  if l.guard = some g ∧ l.isShared g name = false then { l' with guard := none } else l'

/-- Whether a call would get on if it looked again: its reply has come, or the guard has woken it. -/
def isRunnable (l : Lane) (call : Call) : Bool :=
  match call.stage with
  | .queued _ g => decide (l.woken? g = some call.name)
  | .downloading _ _ request => (l.transport.reply? request).isSome
  | _ => false

/-- The stored set, if it is younger than the time to live. -/
def fresh? (l : Lane) (now : Instant) (ttl : Int) : Option Stored :=
  match l.entry with
  | some e => if now.since e.fetchedAt < ttl then some e.stored else none
  | none => none

/-- The set that makes a download needless. -/
def ready? (l : Lane) (now : Instant) (ttl : Int) : Purpose → Option Stored
  | .lookup => l.fresh? now ttl
  | .replacement stale => (l.entry.map (·.stored)).filter fun s => s.number != stale

end Lane

end BearerTokens.KeySetCache
