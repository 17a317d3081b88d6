import BearerTokens.KeySet.Cache.Step

/-!
# Key-set caches

A cache of published key sets: a lane for each URL, and what the lanes share, which is the time to live, the
clock, the way in which tokens are checked with a key, and the notes. Whatever happens concerns one lane, or the
clock.
-/

set_option autoImplicit false

namespace BearerTokens

open BearerTokens.Http BearerTokens.Time

/-- How a call checks a token with a key. A check may read a clock of its own, so that calls may differ; no call
checks more than once. -/
abbrev Checks : Type := Url → CallName → Jwt.Check

structure KeySetCache where
  ttl : Int
  classify : Classifier
  clock : Clock
  checks : Checks
  lanes : List (Url × KeySetCache.Lane)
  notes : List Note

namespace KeySetCache

def defaultTtl : Int := 300 * second

def empty (ttl : Int) (classify : Classifier) (clock : Clock) (checks : Checks) : KeySetCache :=
  ⟨ttl, classify, clock, checks, [], []⟩

/-- A cache whose calls all check tokens at the same second since the epoch. -/
def new (ttl : Int) (classify : Classifier) (clock : Clock) (seconds : Nat) : KeySetCache :=
  empty ttl classify clock fun _ _ => Jwt.verifyWith seconds

def lane (c : KeySetCache) (url : Url) : Lane :=
  (c.lanes.lookup url).getD .empty

def setLane (c : KeySetCache) (url : Url) (l : Lane) : KeySetCache :=
  { c with
    lanes :=
      if c.lanes.any (·.1 == url) then c.lanes.map fun p => if p.1 == url then (url, l) else p
      else c.lanes ++ [(url, l)] }

inductive Event where
  /-- A new call; `ready` are the replies that the transport gives at once to the requests it sends. -/
  | call (url : Url) (name : CallName) (inquiry : Inquiry) (ready : List Reply)
  /-- A call that waits looks again. -/
  | resume (url : Url) (name : CallName) (ready : List Reply)
  | cancel (url : Url) (name : CallName)
  | reply (url : Url) (request : Nat) (reply : Reply)
  | invalidate (url : Url)
  | setClock (now : Instant)

def surroundings (c : KeySetCache) (url : Url) : Surroundings :=
  ⟨url, c.ttl, c.classify, c.clock.now, c.checks url⟩

def within (c : KeySetCache) (url : Url) (ready : List Reply) (act : Surroundings → Work → Work) :
    KeySetCache :=
  let w := act (c.surroundings url) ⟨c.lane url, [], ready⟩
  { c.setLane url w.lane with notes := c.notes ++ w.notes }

def answerRequest (number : Nat) (reply : Reply) (x : Surroundings) (w : Work) : Work :=
  if w.lane.transport.isWaiting number then
    { w with lane := { w.lane with transport := w.lane.transport.answer number reply } }.record x
      [.replied number]
  else w

def removeEntry (x : Surroundings) (w : Work) : Work :=
  { w with lane := { w.lane with entry := none } }.record x [.invalidated]

def step (c : KeySetCache) : Event → KeySetCache
  | .call url name inquiry ready => c.within url ready fun x => KeySetCache.call x name inquiry
  | .resume url name ready => c.within url ready fun x => KeySetCache.resume x name
  | .cancel url name => c.within url [] fun x => KeySetCache.cancel x name
  | .reply url number reply => c.within url [] (answerRequest number reply)
  | .invalidate url => c.within url [] removeEntry
  | .setClock now => { c with clock := c.clock.set now }

def run (c : KeySetCache) (events : List Event) : KeySetCache :=
  events.foldl step c

def cachedUrls (c : KeySetCache) : Nat :=
  c.lanes.countP fun (_, l) => l.entry.isSome

/-- How many URLs have a guard for newcomers. -/
def guardCount (c : KeySetCache) : Nat :=
  c.lanes.countP fun (_, l) => l.guard.isSome

def runnable (c : KeySetCache) : List (Url × CallName) :=
  c.lanes.flatMap fun (url, l) => (l.calls.filter l.isRunnable).map fun call => (url, call.name)

end KeySetCache

end BearerTokens
