import BearerTokens.Token.Cache.Basic

/-!
# Steps of a token cache

A caller is served from memory while a usable token is held; else it joins the exchange under way, or starts
one. Whichever caller is the first to see the reply settles the exchange for all: the token is kept and the
exchange is no longer under way, in one step. Giving up a caller leaves the exchange alone. When nobody holds
the cache any more, the exchange and the token go with it.
-/

set_option autoImplicit false

namespace BearerTokens.TokenCache

open BearerTokens.Http BearerTokens.Time

inductive Event where
  /-- A new caller; `ready` is what the transport answers at once, should a request be sent. -/
  | call (ready : Option Reply)
  /-- A caller that waits looks again. -/
  | resume (caller : Nat)
  | cancel (caller : Nat)
  | reply (request : Nat) (reply : Reply)
  | setClock (now : Instant)
  | clear
  /-- One more handle is taken, or one is given back. -/
  | share
  | giveBack

def record (c : TokenCache) (facts : List Fact) : TokenCache :=
  { c with history := c.history ++ facts.map (c.clock.now, ·) }

def note (c : TokenCache) (notes : List Note) : TokenCache :=
  { c with notes := c.notes ++ notes }

/-- Takes the result of an exchange. Only the exchange under way is ever taken off. -/
def settle (c : TokenCache) (exchange : Nat) (result : Exchange.Result) : TokenCache :=
  { c with
    exchanges := c.exchanges.set exchange (.settled result)
    inFlight := if c.inFlight = some exchange then none else c.inFlight
    cached :=
      match result with
      | .ok token => some token
      | .error _ => c.cached }
  |>.note (Exchange.closingNotes (some result))
  |>.record [.settled exchange result]

/-- An exchange without a result stays under way for ever. -/
def breakOff (c : TokenCache) (exchange : Nat) : TokenCache :=
  { c with exchanges := c.exchanges.set exchange .broken }.record [.broke exchange]

def judge (c : TokenCache) (exchange : Nat) (reply : Reply) : TokenCache :=
  match Exchange.conclude c.classify c.clock.now reply with
  | some result => (c.record [.judged exchange reply]).settle exchange result
  | none => (c.record [.judged exchange reply]).breakOff exchange

/-- Looks whether the reply to an exchange has come, and if so ends the exchange. -/
def look (c : TokenCache) (exchange : Nat) : TokenCache :=
  match c.exchanges[exchange]? with
  | some (.waiting request) =>
    match c.transport.reply? request with
    | none => c
    | some reply => c.judge exchange reply
  | _ => c

def send (c : TokenCache) (exchange : Nat) (r : Request) (ready : Option Reply) : TokenCache :=
  { c with transport := c.transport.send r ready }.record
    (.sent exchange c.transport.nextNumber :: (ready.map (Fact.replied c.transport.nextNumber)).toList)

def addCaller (c : TokenCache) (k : Caller) : TokenCache :=
  { c with callers := c.callers ++ [k] }

def serve (c : TokenCache) (token : HeldToken) : TokenCache :=
  (c.addCaller ⟨none, .answered (.token token.secret)⟩).note [.decision .token .cacheHit]
  |>.record [.served c.callers.length token]

def join (c : TokenCache) (exchange : Nat) : TokenCache :=
  (c.addCaller ⟨some exchange, .waiting⟩).note [.decision .token .joinInFlight]
  |>.record [.joined c.callers.length exchange]

def register (c : TokenCache) : TokenCache :=
  { c.addCaller ⟨some c.exchanges.length, .waiting⟩ with
    exchanges := c.exchanges ++ [Phase.waiting c.transport.nextNumber]
    inFlight := some c.exchanges.length }
  |>.note (.decision .token .startFetch :: Exchange.openingNotes)
  |>.record [.started c.callers.length c.exchanges.length]

/-- Begins an exchange. One whose request cannot be built is settled at once. -/
def start (c : TokenCache) (ready : Option Reply) : TokenCache :=
  match c.grant.request with
  | .error e => c.register.settle c.exchanges.length (.error (.config e))
  | .ok r => c.register.send c.exchanges.length r ready

def setState (c : TokenCache) (caller : Nat) (state : CallerState) : TokenCache :=
  { c with callers := c.callers.modify caller fun k => { k with state := state } }

def collect (c : TokenCache) (caller : Nat) : TokenCache :=
  match c.awaited? caller with
  | none => c
  | some exchange =>
    match c.exchanges[exchange]?.bind Phase.answer? with
    | none => c
    | some a => c.setState caller (.answered a)

def resume (c : TokenCache) (caller : Nat) : TokenCache :=
  match c.awaited? caller with
  | none => c
  | some exchange => (c.look exchange).collect caller

/-- A new caller, up to the point where it is answered or has to wait. -/
def call (c : TokenCache) (ready : Option Reply) : TokenCache :=
  match c.usable? with
  | some token => c.serve token
  | none =>
    match c.inFlight with
    | some exchange => (c.join exchange).resume c.callers.length
    | none => (c.start ready).resume c.callers.length

def cancel (c : TokenCache) (caller : Nat) : TokenCache :=
  match c.awaited? caller with
  | none => c
  | some _ => (c.setState caller .cancelled).record [.cancelled caller]

/-- The request of the exchange under way, while it waits. -/
def pendingRequest? (c : TokenCache) : Option Nat :=
  match c.inFlight.bind (c.exchanges[·]?) with
  | some (.waiting request) => some request
  | _ => none

/-- The exchange under way and its request are dropped, if the request still waits or its reply is unread. -/
def dropPending (c : TokenCache) : TokenCache :=
  match c.inFlight, c.pendingRequest? with
  | some exchange, some request =>
    { c with
      transport := c.transport.abandon request
      exchanges := c.exchanges.set exchange .dropped }
  | _, _ => c

def release (c : TokenCache) : TokenCache :=
  { c.dropPending with inFlight := none, cached := none }.record [.released]

def releaseUnowned (c : TokenCache) : TokenCache :=
  if c.isOwned then c else c.release

def clear (c : TokenCache) : TokenCache :=
  ({ c with cached := none }.note [.decision .token .cacheCleared]).record [.cleared]

def reply (c : TokenCache) (request : Nat) (r : Reply) : TokenCache :=
  if c.transport.isWaiting request then
    { c with transport := c.transport.answer request r }.record [.replied request r]
  else c

def apply (c : TokenCache) : Event → TokenCache
  | .call ready => c.call ready
  | .resume caller => c.resume caller
  | .cancel caller => c.cancel caller
  | .reply request r => c.reply request r
  | .setClock now => { c with clock := c.clock.set now }
  | .clear => c.clear
  | .share => { c with handles := c.handles + 1 }
  | .giveBack => { c with handles := c.handles - 1 }

/-- One event. A cache that nobody holds can no longer be reached; only its clock and its transport go on. -/
def step (c : TokenCache) (event : Event) : TokenCache :=
  if c.isOwned then (c.apply event).releaseUnowned
  else
    match event with
    | .reply .. | .setClock .. => c.apply event
    | _ => c

def run (c : TokenCache) (events : List Event) : TokenCache :=
  events.foldl step c

/-- Lets every caller look again that waits. Once is enough: what a caller finds is there for all of them. -/
def resumeAll (c : TokenCache) : TokenCache :=
  c.run ((List.range c.callers.length).map .resume)

end BearerTokens.TokenCache
