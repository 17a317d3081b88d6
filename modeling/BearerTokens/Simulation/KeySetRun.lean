import BearerTokens.KeySet.Cache.Basic

/-!
# Runs of a key-set cache

A key-set cache driven by commands against endpoints that a script stands in for, on a single thread: after
each command the calls that can go on do so, one after the other, each as far as it gets. A report says what
changed. A command that would lead a clock out of the calendar ends the run without any report.
-/

set_option autoImplicit false

namespace BearerTokens.Simulation

open BearerTokens.Http BearerTokens.Time

structure KeySetRun where
  cache : KeySetCache
  /-- Replies to the requests that are still to come. -/
  script : List Reply
  /-- Where each call that is not yet reported belongs. -/
  calls : List (CallName × Url)
  /-- Every request so far, in the order in which they were sent. -/
  requests : List (Url × Nat)
  /-- Every key set that was reported, in the order of the first time. -/
  known : List (Url × Nat)
  notesSeen : Nat
  /-- The clock that commands move. -/
  clock : Clock
  /-- Whether the cache goes by that clock, and not by one of its own. -/
  sharesClock : Bool

namespace KeySetRun

inductive Command where
  | fetch (name : CallName) (url : Url)
  | verify (name : CallName) (url : Url) (token : String) (validation : Jwt.Validation)
  | respond (index : Nat) (reply : Reply)
  | script (reply : Reply)
  | cancel (name : CallName)
  | invalidate (url : Url)
  | setClock (now : Instant)
  | advance (delta : Int)
  | tick

/-- What a call gave back; a key set is named by the order in which sets were first reported. -/
inductive Outcome where
  | set (index : Nat) (ids : List (Option String))
  | claims (payload : Json.Value)
  | failure (e : Error)

structure Report where
  value : Option Bool
  done : List (CallName × Outcome)
  cachedUrls : Nat
  guards : Nat
  calls : Nat
  pending : Nat
  dropped : Nat
  requests : List Request
  trace : List String

def start (cache : KeySetCache) (script : List Reply) (clock : Clock) (sharesClock : Bool) : KeySetRun :=
  ⟨cache, script, [], [], [], cache.notes.length, clock, sharesClock⟩

def moveClock (r : KeySetRun) (clock : Clock) : KeySetRun :=
  let r := { r with clock := clock }
  if r.sharesClock then { r with cache := r.cache.step (.setClock clock.now) } else r

/-- An event at a URL. The requests it sends take their replies from the script, as long as it lasts. -/
def happen (r : KeySetRun) (url : Url) (event : List Reply → KeySetCache.Event) : KeySetRun :=
  let before := (r.cache.lane url).transport.calls.length
  let cache := r.cache.step (event r.script)
  let sent := (cache.lane url).transport.calls.length - before
  { r with
    cache := cache
    script := r.script.drop sent
    requests := r.requests ++ (List.range sent).map fun i => (url, before + i) }

def settleFrom : Nat → KeySetRun → KeySetRun
  | 0, r => r
  | fuel + 1, r =>
    match r.cache.runnable with
    | [] => r
    | (url, name) :: _ => settleFrom fuel (r.happen url (.resume url name))

/-- A call looks again at most a few times in all: once for a reply and once for a guard, for each of two
downloads, and once for every time that it comes too late for a guard. -/
def settle (r : KeySetRun) : KeySetRun :=
  settleFrom (8 * r.calls.length + 8) r

def waiting (r : KeySetRun) : List (Url × Nat) :=
  r.requests.filter fun (url, n) => (r.cache.lane url).transport.isWaiting n

def obey (r : KeySetRun) : Command → Option (KeySetRun × Option Bool)
  | .fetch name url =>
    some ({ r with calls := r.calls ++ [(name, url)] }.happen url (.call url name .fetch), none)
  | .verify name url token validation =>
    some ({ r with calls := r.calls ++ [(name, url)] }.happen url
      (.call url name (.verify token validation)), none)
  | .respond index reply =>
    match r.waiting[index]? with
    | some (url, n) => some (r.happen url fun _ => .reply url n reply, some true)
    | none => some (r, some false)
  | .script reply => some ({ r with script := r.script ++ [reply] }, none)
  | .cancel name =>
    match r.calls.lookup name with
    | some url =>
      some ({ r.happen url fun _ => .cancel url name with calls := r.calls.filter (·.1 != name) }, none)
    | none => some (r, none)
  | .invalidate url => some (r.happen url fun _ => .invalidate url, none)
  | .setClock now => some (r.moveClock (r.clock.set now), none)
  | .advance delta => (r.clock.advance? delta).map fun clock => (r.moveClock clock, none)
  | .tick => some (r, none)

def indexOf (known : List (Url × Nat)) (key : Url × Nat) : List (Url × Nat) × Nat :=
  let known := if known.contains key then known else known ++ [key]
  (known, known.idxOf key)

def collect (known : List (Url × Nat)) :
    List (CallName × Url × KeySetCache.Answer) → List (Url × Nat) × List (CallName × Outcome)
  | [] => (known, [])
  | (name, url, answer) :: rest =>
    let (known, outcome) : List (Url × Nat) × Outcome :=
      match answer with
      | .set s =>
        let (known, index) := indexOf known (url, s.number)
        (known, .set index s.set.ids)
      | .claims payload => (known, .claims payload)
      | .failure e => (known, .failure e)
    let (known, outcomes) := collect known rest
    (known, (name, outcome) :: outcomes)

def transports (r : KeySetRun) : List Transport :=
  r.cache.lanes.map fun (_, l) => l.transport

/-- Lets every call run on after a command, and reports. The requests before the command were `requestsSeen`. -/
def report (r : KeySetRun) (requestsSeen : Nat) (value : Option Bool) : KeySetRun × Report :=
  let r := r.settle
  let answered :=
    (r.calls.filterMap fun (name, url) =>
      ((r.cache.lane url).answer? name).map fun a => (name, url, a)).mergeSort
        fun a b => decide (a.1 ≤ b.1)
  let (known, done) := collect r.known answered
  let total (count : Transport → Nat) : Nat := r.transports.foldl (fun n t => n + count t) 0
  let report : Report :=
    { value := value
      done := done
      cachedUrls := r.cache.cachedUrls
      guards := r.cache.guardCount
      calls := total (·.calls.length)
      pending := total (·.waiting.length)
      dropped := total (·.dropped)
      requests := (r.requests.drop requestsSeen).filterMap fun (url, n) =>
        (r.cache.lane url).transport.calls[n]?.map (·.request)
      trace := trace (r.cache.notes.drop r.notesSeen) }
  ({ r with
      calls := r.calls.filter fun (name, _) => answered.all (·.1 != name)
      known := known
      notesSeen := r.cache.notes.length },
    report)

def command (r : KeySetRun) (c : Command) : Option (KeySetRun × Report) :=
  (r.obey c).map fun (after, value) => after.report r.requests.length value

def commands (r : KeySetRun) : List Command → Option (KeySetRun × List Report)
  | [] => some (r, [])
  | c :: cs =>
    match r.command c with
    | none => none
    | some (r, report) => (r.commands cs).map fun (r, reports) => (r, report :: reports)

end KeySetRun

end BearerTokens.Simulation
