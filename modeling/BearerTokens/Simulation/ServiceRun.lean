import BearerTokens.Service

/-!
# Runs of a token service

A service driven by commands against an endpoint that a script stands in for. Callers go by name. After each
command every caller runs on as far as it gets, and a report says what changed. A command that would lead a
clock out of the calendar ends the run without any report.
-/

set_option autoImplicit false

namespace BearerTokens.Simulation

open BearerTokens.Http BearerTokens.Time

structure ServiceRun where
  service : Service
  /-- Replies to the requests that are still to come. -/
  script : List Reply
  /-- The callers by name, with their numbers; those already reported are left out. -/
  callers : List (String × Nat)
  /-- Whether the application still has its handle. -/
  isHeld : Bool
  /-- The clock that commands move. -/
  clock : Clock
  /-- Whether the service goes by that clock, and not by one of its own. -/
  sharesClock : Bool
  requestsSeen : Nat
  notesSeen : Nat

namespace ServiceRun

inductive Command where
  | get (name : String)
  | header (name : String)
  /-- Asks the cache behind the service. -/
  | cacheGet (name : String)
  | respond (index : Nat) (reply : Reply)
  | script (reply : Reply)
  | cancel (name : String)
  | setClock (now : Instant)
  | advance (delta : Int)
  | tick
  | clear
  | invalidate
  | drop
  | inspect
  | inspectCache

inductive CommandValue where
  | nothing
  | flag (b : Bool)
  | text (s : String)

structure Report where
  value : CommandValue
  done : List (String × Service.Outcome)
  state : Option CacheState
  expiresAt : Option Instant
  calls : Nat
  pending : Nat
  dropped : Nat
  requests : List Request
  trace : List String

def start (service : Service) (script : List Reply) (clock : Clock) (sharesClock : Bool) : ServiceRun where
  service := service
  script := script
  callers := []
  isHeld := true
  clock := clock
  sharesClock := sharesClock
  requestsSeen := 0
  notesSeen := service.notes.length

def transport (r : ServiceRun) : Transport :=
  match r.service.cache? with
  | some cache => cache.transport
  | none => .empty

def cacheStep (r : ServiceRun) (event : TokenCache.Event) : ServiceRun :=
  { r with service := r.service.step (.cache event) }

def moveClock (r : ServiceRun) (clock : Clock) : ServiceRun :=
  let r := { r with clock := clock }
  if r.sharesClock then r.cacheStep (.setClock clock.now) else r

/-- A new caller under a name. A request that it sends takes the first reply of the script. -/
def enter (r : ServiceRun) (name : String) (event : Option Reply → Service.Event) : ServiceRun :=
  let caller := r.service.callers
  let before := r.transport.calls.length
  let r := { r with service := r.service.step (event r.script.head?) }
  { r with
    callers := if caller < r.service.callers then r.callers ++ [(name, caller)] else r.callers
    script := if before < r.transport.calls.length then r.script.drop 1 else r.script }

def obey (r : ServiceRun) : Command → Option (ServiceRun × CommandValue)
  | .get name => some (r.enter name .get, .nothing)
  | .header name => some (r.enter name .header, .nothing)
  | .cacheGet name =>
    some
      (if r.service.isAvailable then r.enter name fun ready => .cache (.call ready) else r, .nothing)
  | .respond index reply =>
    match r.transport.waiting[index]? with
    | some request => some (r.cacheStep (.reply request reply), .flag true)
    | none => some (r, .flag false)
  | .script reply => some ({ r with script := r.script ++ [reply] }, .nothing)
  | .cancel name =>
    match r.callers.lookup name with
    | some caller =>
      some ({ r.cacheStep (.cancel caller) with callers := r.callers.filter (·.1 != name) }, .nothing)
    | none => some (r, .nothing)
  | .setClock now => some (r.moveClock (r.clock.set now), .nothing)
  | .advance delta => (r.clock.advance? delta).map fun clock => (r.moveClock clock, .nothing)
  | .tick => some (r, .nothing)
  | .clear => some (r.cacheStep .clear, .nothing)
  | .invalidate => some ({ r with service := r.service.step .invalidate }, .nothing)
  | .drop => some ({ r.cacheStep .giveBack with isHeld := false }, .nothing)
  | .inspect => some (r, .text r.service.inspect)
  | .inspectCache => some (r, .text (Text.orNone (r.service.cache?.map TokenCache.inspect)))

def finished (r : ServiceRun) : List (String × Service.Outcome) :=
  (r.callers.filterMap fun (name, caller) => (r.service.outcome? caller).map (name, ·)).mergeSort
    fun a b => decide (a.1 ≤ b.1)

def report (r : ServiceRun) (value : CommandValue) : ServiceRun × Report :=
  let r := { r with service := r.service.resumeAll }
  let cache := if r.isHeld then r.service.cache? else none
  let report : Report :=
    { value := value
      done := r.finished
      state := cache.map TokenCache.state
      expiresAt := cache.bind TokenCache.expiresAt?
      calls := r.transport.calls.length
      pending := r.transport.waiting.length
      dropped := r.transport.dropped
      requests := (r.transport.calls.drop r.requestsSeen).map (·.request)
      trace := trace (r.service.notes.drop r.notesSeen) }
  ({ r with
      callers := r.callers.filter fun (_, caller) => (r.service.outcome? caller).isNone
      requestsSeen := r.transport.calls.length
      notesSeen := r.service.notes.length },
    report)

def command (r : ServiceRun) (c : Command) : Option (ServiceRun × Report) :=
  (r.obey c).map fun (r, value) => r.report value

def commands (r : ServiceRun) : List Command → Option (ServiceRun × List Report)
  | [] => some (r, [])
  | c :: cs =>
    match r.command c with
    | none => none
    | some (r, report) => (r.commands cs).map fun (r, reports) => (r, report :: reports)

end ServiceRun

end BearerTokens.Simulation
