import BearerTokens.KeySet.Cache.Lane

/-!
# Steps of a call

A call runs until it is answered, or has to wait for a guard or for a reply. It looks for a young set without
the guard, then again with it, and downloads one if there still is none. A verification that misses its key in
the set replaces that set once: by one that another call has stored meanwhile, or by a download of its own.
-/

set_option autoImplicit false

namespace BearerTokens.KeySetCache

open BearerTokens.Http BearerTokens.Time

/-- What a call needs to know besides its lane. -/
structure Surroundings where
  url : Url
  ttl : Int
  classify : Classifier
  now : Instant
  /-- How a call checks a token with a key. -/
  check : CallName → Jwt.Check

/-- A call at work: its lane, what has been noted, and the replies that the transport has ready. -/
structure Work where
  lane : Lane
  notes : List Note
  ready : List Reply

namespace Work

def note (w : Work) (notes : List Note) : Work :=
  { w with notes := w.notes ++ notes }

def record (w : Work) (x : Surroundings) (facts : List Fact) : Work :=
  { w with lane := { w.lane with history := w.lane.history ++ facts.map (x.now, ·) } }

def setCall (w : Work) (name : CallName) (job : Job) (stage : Stage) : Work :=
  { w with lane := w.lane.setCall ⟨name, job, stage⟩ }

def finish (w : Work) (x : Surroundings) (name : CallName) (job : Job) (answer : Answer) : Work :=
  (w.setCall name job (.finished answer)).record x [.finished name]

end Work

def request (url : Url) : Except ConfigError Request :=
  match Target.parse url.text with
  | .error e => .error (.request e)
  | .ok target =>
    .ok { method := .get, target := target, headers := [("accept", "application/json")], body := "" }

def judge (url : Url) (classify : Classifier) (reply : Reply) : Except Error KeySet :=
  match reply.result classify .keySet with
  | .error e => .error e
  | .ok r =>
    if isSuccess r.status then
      (KeySet.parse r.body).mapError fun fault => .keySet (.malformed url.text fault)
    else .error (.keySet (.status url.text r.status))

def openingNotes : List Note :=
  [.span .keySet "download", .fetch .keySet .attempt]

def fail (x : Surroundings) (name : CallName) (purpose : Purpose) (request : Option Nat) (e : Error)
    (w : Work) : Work × Except Error Stored :=
  ((w.note [.fetch .keySet .failure]).record x [.failed name purpose request e], .error e)

def store (x : Surroundings) (name : CallName) (purpose : Purpose) (request : Nat) (set : KeySet)
    (w : Work) : Work × Except Error Stored :=
  let entry : Entry := ⟨⟨w.lane.storedCount, set⟩, x.now⟩
  let lane := { w.lane with entry := some entry, storedCount := w.lane.storedCount + 1 }
  (({ w with lane := lane }.note [.fetch .keySet .success]).record x
    [.stored name purpose request entry], .ok entry.stored)

def leave {α : Type} (name : CallName) (g : Nat) (outcome : Work × α) : Work × α :=
  ({ outcome.1 with lane := outcome.1.lane.leaveGuard g name }, outcome.2)

def land (x : Surroundings) (name : CallName) (purpose : Purpose) (g request : Nat) (reply : Reply)
    (w : Work) : Work × Except Error Stored :=
  leave name g
    (match judge x.url x.classify reply with
    | .error e => fail x name purpose (some request) e w
    | .ok set => store x name purpose request set w)

/-- Begins a download. There is no result yet if the reply has to be waited for. -/
def download (x : Surroundings) (name : CallName) (job : Job) (purpose : Purpose) (g : Nat)
    (w : Work) : Work × Option (Except Error Stored) :=
  let w := w.note openingNotes
  match request x.url with
  | .error e =>
    let (w, r) := leave name g (fail x name purpose none (.config e) w)
    (w, some r)
  | .ok r =>
    let number := w.lane.transport.nextNumber
    let w :=
      { w with
        lane := { w.lane with transport := w.lane.transport.send r w.ready.head? }
        ready := w.ready.drop 1 }
      |>.record x [.sent name purpose number]
    match w.lane.transport.reply? number with
    | some reply =>
      let (w, r) := land x name purpose g number reply w
      (w, some r)
    | none => (w.setCall name job (.downloading purpose g number), none)

def inside (x : Surroundings) (name : CallName) (job : Job) (purpose : Purpose) (g : Nat) (w : Work) :
    Work × Option (Except Error Stored) :=
  match w.lane.ready? x.now x.ttl purpose with
  | some s =>
    let w :=
      match purpose with
      | .lookup => w
      | .replacement _ => w.note [.decision .keySet .joinRefetch]
    leave name g (w.record x [.found name purpose s.number], some (.ok s))
  | none => download x name job purpose g w

/-- Goes on inside if the guard has been taken, and waits otherwise. -/
def insideOrWait (x : Surroundings) (name : CallName) (job : Job) (purpose : Purpose) (g : Nat)
    (w : Work) : Work × Option (Except Error Stored) :=
  if w.lane.isHolder g name then inside x name job purpose g w
  else (w.setCall name job (.queued purpose g), none)

def enter (x : Surroundings) (name : CallName) (job : Job) (purpose : Purpose) (w : Work) :
    Work × Option (Except Error Stored) :=
  let (lane, g) := w.lane.takeGuard
  insideOrWait x name job purpose g { w with lane := lane.modifyGuard g (·.enter name) }

/-- The answer that a key set gives; none if the key that is asked for is not in it. -/
def answer? (x : Surroundings) (name : CallName) (s : Stored) : Job → Option Answer
  | .fetch => some (.set s)
  | .verify kid token validation =>
    (s.set.find? kid).map fun key =>
      match x.check name key token validation with
      | .ok payload => .claims payload
      | .error e => .failure (.keySet (.verification e))

def Job.kid : Job → String
  | .fetch => ""
  | .verify kid .. => kid

/-- After a replacement there is no further one. -/
def afterReplacement (x : Surroundings) (name : CallName) (job : Job) (r : Except Error Stored)
    (w : Work) : Work :=
  match r with
  | .error e => w.finish x name job (.failure e)
  | .ok s =>
    w.finish x name job ((answer? x name s job).getD (.failure (.keySet (.unknownKey job.kid))))

def afterLookup (x : Surroundings) (name : CallName) (job : Job) (r : Except Error Stored) (w : Work) :
    Work :=
  match r with
  | .error e => w.finish x name job (.failure e)
  | .ok s =>
    match answer? x name s job with
    | some a => w.finish x name job a
    | none =>
      match enter x name job (.replacement s.number) (w.note [.decision .keySet .kidMiss]) with
      | (w, some r) => afterReplacement x name job r w
      | (w, none) => w

def after (x : Surroundings) (name : CallName) (job : Job) (purpose : Purpose)
    (outcome : Work × Option (Except Error Stored)) : Work :=
  match outcome.2 with
  | none => outcome.1
  | some r =>
    match purpose with
    | .lookup => afterLookup x name job r outcome.1
    | .replacement _ => afterReplacement x name job r outcome.1

def startJob (x : Surroundings) (name : CallName) (job : Job) (w : Work) : Work :=
  match w.lane.fresh? x.now x.ttl with
  | some s =>
    let w := (w.note [.decision .keySet .cacheHit]).record x [.found name .lookup s.number]
    afterLookup x name job (.ok s) w
  | none => after x name job .lookup (enter x name job .lookup w)

/-- A new call. A token whose header is at fault or names no key is refused before anything is fetched. -/
def call (x : Surroundings) (name : CallName) (inquiry : Inquiry) (w : Work) : Work :=
  if (w.lane.stage? name).isSome then w
  else
    let w := w.record x [.began name]
    match inquiry with
    | .fetch => startJob x name .fetch w
    | .verify token validation =>
      match Jwt.keyId token with
      | .error e => w.finish x name (.verify "" token validation) (.failure (.keySet e))
      | .ok kid => startJob x name (.verify kid token validation) w

/-- A call that waits looks again. -/
def resume (x : Surroundings) (name : CallName) (w : Work) : Work :=
  match w.lane.calls.find? (·.name == name) with
  | none => w
  | some c =>
    match c.stage with
    | .queued purpose g =>
      if w.lane.woken? g = some name then
        after x name c.job purpose
          (insideOrWait x name c.job purpose g
            { w with lane := w.lane.modifyGuard g (·.look name) })
      else w
    | .downloading purpose g number =>
      match w.lane.transport.reply? number with
      | none => w
      | some reply =>
        let (w, r) := land x name purpose g number reply w
        after x name c.job purpose (w, some r)
    | _ => w

/-- A call is given up: it leaves its guard, and its request is dropped. The guard stays for newcomers. -/
def cancel (x : Surroundings) (name : CallName) (w : Work) : Work :=
  match w.lane.calls.find? (·.name == name) with
  | none => w
  | some c =>
    let away (g : Nat) (w : Work) : Work :=
      ({ w with lane := w.lane.modifyGuard g (·.forget name) }.setCall name c.job .cancelled).record x
        [.cancelled name]
    match c.stage with
    | .queued _ g => away g w
    | .downloading _ g number =>
      away g { w with lane := { w.lane with transport := w.lane.transport.abandon number } }
    | _ => w

end BearerTokens.KeySetCache
