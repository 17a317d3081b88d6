import BearerTokens.Proofs.KeySetCache.History
import BearerTokens.Proofs.KeySetCache.Operations
import Mathlib.Logic.Relation

/-!
# Elementary moves in a lane

Between two events a lane is at rest. In the middle of one, a single call is at work in it, and the lane goes
through moments that are nineteen kinds of moves apart. A property of moments that every move keeps holds of
every lane after every run, and no event tells what is told by the moves of others.
-/

set_option autoImplicit false

namespace BearerTokens.KeySetCache

open BearerTokens.Http BearerTokens.Time Relation

inductive Activity where
  | idle
  /-- A call that has not come to the guard. -/
  | outside (name : CallName) (job : Job)
  /-- A call that has come to the guard, and holds it or has to wait for it. -/
  | inside (name : CallName) (job : Job) (purpose : Purpose) (guard : Nat)
  /-- A call that holds the guard and whose request is sent. -/
  | loading (name : CallName) (job : Job) (purpose : Purpose) (guard request : Nat)
  /-- A call that has let go of the guard, or needed none. -/
  | done (name : CallName) (job : Job) (purpose : Purpose) (result : Except Error Stored)

structure Moment where
  work : Work
  activity : Activity

def Moment.rest (l : Lane) (ready : List Reply) : Moment :=
  ⟨⟨l, [], ready⟩, .idle⟩

def Inquiry.job : Inquiry → Except KeySetError Job
  | .fetch => .ok .fetch
  | .verify token validation => (Jwt.keyId token).map fun kid => .verify kid token validation

/-- The answer that follows from the result of a lookup or a replacement, unless the key is missed in a lookup. -/
def conclusion? (x : Surroundings) (name : CallName) (job : Job) : Purpose → Except Error Stored → Option Answer
  | _, .error e => some (.failure e)
  | .lookup, .ok s => answer? x name s job
  | .replacement _, .ok s => some ((answer? x name s job).getD (.failure (.keySet (.unknownKey job.kid))))

namespace Work

def newcomerGuard (w : Work) : Nat :=
  w.lane.takeGuard.2

def enter (w : Work) (name : CallName) : Work :=
  { w with lane := w.lane.takeGuard.1.modifyGuard w.newcomerGuard (·.enter name) }

def leave (w : Work) (name : CallName) (g : Nat) : Work :=
  { w with lane := w.lane.leaveGuard g name }

def send (w : Work) (x : Surroundings) (name : CallName) (purpose : Purpose) (r : Request) : Work :=
  { w with
    lane := { w.lane with transport := w.lane.transport.send r w.ready.head? }
    ready := w.ready.drop 1 }
  |>.record x [.sent name purpose w.lane.transport.nextNumber]

def find (w : Work) (x : Surroundings) (name : CallName) (purpose : Purpose) (s : Stored) : Work :=
  (match purpose with
    | .lookup => w
    | .replacement _ => w.note [.decision .keySet .joinRefetch]).record x [.found name purpose s.number]

def giveUp (w : Work) (x : Surroundings) (name : CallName) (job : Job) (g : Nat) : Work :=
  ({ w with lane := w.lane.modifyGuard g (·.forget name) }.setCall name job .cancelled).record x
    [.cancelled name]

end Work

inductive Move (x : Surroundings) : Moment → Moment → Prop where
  | begin {w : Work} {name : CallName} {inquiry : Inquiry} {job : Job}
      (unknown : w.lane.stage? name = none) (task : inquiry.job = .ok job) :
      Move x ⟨w, .idle⟩ ⟨w.record x [.began name], .outside name job⟩
  | refuse {w : Work} {name : CallName} {token : String} {validation : Jwt.Validation} {e : KeySetError}
      (unknown : w.lane.stage? name = none) (fault : Jwt.keyId token = .error e) :
      Move x ⟨w, .idle⟩
        ⟨(w.record x [.began name]).finish x name (.verify "" token validation) (.failure (.keySet e)), .idle⟩
  | hit {w : Work} {name : CallName} {job : Job} {s : Stored} (fresh : w.lane.fresh? x.now x.ttl = some s) :
      Move x ⟨w, .outside name job⟩
        ⟨(w.note [.decision .keySet .cacheHit]).record x [.found name .lookup s.number],
          .done name job .lookup (.ok s)⟩
  | enter {w : Work} {name : CallName} {job : Job} (stale : w.lane.fresh? x.now x.ttl = none) :
      Move x ⟨w, .outside name job⟩ ⟨w.enter name, .inside name job .lookup w.newcomerGuard⟩
  | miss {w : Work} {name : CallName} {job : Job} {s : Stored} (missed : answer? x name s job = none) :
      Move x ⟨w, .done name job .lookup (.ok s)⟩
        ⟨(w.note [.decision .keySet .kidMiss]).enter name,
          .inside name job (.replacement s.number) w.newcomerGuard⟩
  | queue {w : Work} {name : CallName} {job : Job} {purpose : Purpose} {g : Nat}
      (taken : w.lane.isHolder g name = false) :
      Move x ⟨w, .inside name job purpose g⟩ ⟨w.setCall name job (.queued purpose g), .idle⟩
  | find {w : Work} {name : CallName} {job : Job} {purpose : Purpose} {g : Nat} {s : Stored}
      (holds : w.lane.isHolder g name = true) (found : w.lane.ready? x.now x.ttl purpose = some s) :
      Move x ⟨w, .inside name job purpose g⟩
        ⟨(w.find x name purpose s).leave name g, .done name job purpose (.ok s)⟩
  | unbuilt {w : Work} {name : CallName} {job : Job} {purpose : Purpose} {g : Nat} {e : ConfigError}
      (holds : w.lane.isHolder g name = true) (needed : w.lane.ready? x.now x.ttl purpose = none)
      (fault : request x.url = .error e) :
      Move x ⟨w, .inside name job purpose g⟩
        ⟨(fail x name purpose none (.config e) (w.note openingNotes)).1.leave name g,
          .done name job purpose (.error (.config e))⟩
  | send {w : Work} {name : CallName} {job : Job} {purpose : Purpose} {g : Nat} {r : Request}
      (holds : w.lane.isHolder g name = true) (needed : w.lane.ready? x.now x.ttl purpose = none)
      (built : request x.url = .ok r) :
      Move x ⟨w, .inside name job purpose g⟩
        ⟨(w.note openingNotes).send x name purpose r,
          .loading name job purpose g w.lane.transport.nextNumber⟩
  | wait {w : Work} {name : CallName} {job : Job} {purpose : Purpose} {g number : Nat}
      (unanswered : w.lane.transport.reply? number = none) :
      Move x ⟨w, .loading name job purpose g number⟩
        ⟨w.setCall name job (.downloading purpose g number), .idle⟩
  | fail {w : Work} {name : CallName} {job : Job} {purpose : Purpose} {g number : Nat} {reply : Reply}
      {e : Error} (come : w.lane.transport.reply? number = some reply)
      (judged : judge x.url x.classify reply = .error e) :
      Move x ⟨w, .loading name job purpose g number⟩
        ⟨(fail x name purpose (some number) e w).1.leave name g, .done name job purpose (.error e)⟩
  | store {w : Work} {name : CallName} {job : Job} {purpose : Purpose} {g number : Nat} {reply : Reply}
      {set : KeySet} (come : w.lane.transport.reply? number = some reply)
      (judged : judge x.url x.classify reply = .ok set) :
      Move x ⟨w, .loading name job purpose g number⟩
        ⟨(store x name purpose number set w).1.leave name g,
          .done name job purpose (.ok ⟨w.lane.storedCount, set⟩)⟩
  | finish {w : Work} {name : CallName} {job : Job} {purpose : Purpose} {result : Except Error Stored}
      {a : Answer} (concluded : conclusion? x name job purpose result = some a) :
      Move x ⟨w, .done name job purpose result⟩ ⟨w.finish x name job a, .idle⟩
  | wake {w : Work} {name : CallName} {call : Call} {purpose : Purpose} {g : Nat}
      (known : w.lane.calls.find? (·.name == name) = some call) (queued : call.stage = .queued purpose g)
      (woken : w.lane.woken? g = some name) :
      Move x ⟨w, .idle⟩
        ⟨{ w with lane := w.lane.modifyGuard g (·.look name) }, .inside name call.job purpose g⟩
  | reread {w : Work} {name : CallName} {call : Call} {purpose : Purpose} {g number : Nat}
      (known : w.lane.calls.find? (·.name == name) = some call)
      (downloading : call.stage = .downloading purpose g number)
      (come : (w.lane.transport.reply? number).isSome) :
      Move x ⟨w, .idle⟩ ⟨w, .loading name call.job purpose g number⟩
  | cancelQueued {w : Work} {name : CallName} {call : Call} {purpose : Purpose} {g : Nat}
      (known : w.lane.calls.find? (·.name == name) = some call) (queued : call.stage = .queued purpose g) :
      Move x ⟨w, .idle⟩ ⟨w.giveUp x name call.job g, .idle⟩
  | cancelDownload {w : Work} {name : CallName} {call : Call} {purpose : Purpose} {g number : Nat}
      (known : w.lane.calls.find? (·.name == name) = some call)
      (downloading : call.stage = .downloading purpose g number) :
      Move x ⟨w, .idle⟩
        ⟨{ w with lane := { w.lane with transport := w.lane.transport.abandon number } }.giveUp x name
          call.job g, .idle⟩
  | reply {w : Work} {number : Nat} {reply : Reply} (waiting : w.lane.transport.isWaiting number = true) :
      Move x ⟨w, .idle⟩
        ⟨{ w with lane := { w.lane with transport := w.lane.transport.answer number reply } }.record x
          [.replied number], .idle⟩
  | invalidate {w : Work} : Move x ⟨w, .idle⟩ ⟨removeEntry x w, .idle⟩

/-- What a call tells of itself as long as it is at work. -/
def Fact.IsOwn : Fact → Prop
  | .replied _ | .cancelled _ | .invalidated => False
  | _ => True

/-- Replies, cancellations and invalidations are told by no events but their own. -/
def Event.Tells (url : Url) (event : Event) : Fact → Prop
  | .replied number => ∃ reply, event = .reply url number reply
  | .cancelled name => event = .cancel url name
  | .invalidated => event = .invalidate url
  | _ => True

def Adds (x : Surroundings) (p : Fact → Prop) (h h' : History) : Prop :=
  ∃ later, h' = h ++ later ∧ ∀ q ∈ later, q.1 = x.now ∧ p q.2

def Telling (x : Surroundings) (p : Fact → Prop) (m m' : Moment) : Prop :=
  Move x m m' ∧ Adds x p m.work.lane.history m'.work.lane.history

variable {x : Surroundings} {p p' : Fact → Prop} {m m' : Moment} {h h' h'' : History}

theorem Fact.IsOwn.tells {f : Fact} (hOwn : f.IsOwn) (url : Url) (event : Event) : event.Tells url f := by
  cases f with
  | replied => exact hOwn.elim
  | cancelled => exact hOwn.elim
  | invalidated => exact hOwn.elim
  | _ => trivial

theorem Adds.none (hSame : h' = h) : Adds x p h h' :=
  ⟨[], by rw [hSame, List.append_nil], by simp⟩

theorem Adds.one {f : Fact} (hHistory : h' = h ++ [(x.now, f)]) (hTold : p f) : Adds x p h h' :=
  ⟨[(x.now, f)], hHistory, by simpa using hTold⟩

theorem Adds.trans (hFirst : Adds x p h h') (hSecond : Adds x p h' h'') : Adds x p h h'' := by
  obtain ⟨later, rfl, hLater⟩ := hFirst
  obtain ⟨more, rfl, hMore⟩ := hSecond
  refine ⟨later ++ more, List.append_assoc .., fun q hMem => ?_⟩
  rcases List.mem_append.1 hMem with hOld | hNew
  · exact hLater q hOld
  · exact hMore q hNew

theorem Adds.mono (hAdds : Adds x p h h') (hKinds : ∀ f, p f → p' f) : Adds x p' h h' := by
  obtain ⟨later, hHistory, hLater⟩ := hAdds
  exact ⟨later, hHistory, fun q hMem => ⟨(hLater q hMem).1, hKinds _ (hLater q hMem).2⟩⟩

theorem moves_of_telling (hChain : ReflTransGen (Telling x p) m m') : ReflTransGen (Move x) m m' :=
  ReflTransGen.mono (fun _ _ => And.left) m m' hChain

theorem adds_of_telling (hChain : ReflTransGen (Telling x p) m m') :
    Adds x p m.work.lane.history m'.work.lane.history := by
  induction hChain with
  | refl => exact .none rfl
  | tail _ hMove ih => exact ih.trans hMove.2

/-- A call that is at work tells of itself only. -/
theorem Move.telling (hMove : Move x m m') (hBusy : m.activity ≠ .idle) : Telling x Fact.IsOwn m m' := by
  refine ⟨hMove, ?_⟩
  cases hMove with
  | hit => exact .one rfl trivial
  | enter => exact .none (by simp [Work.enter, Lane.modifyGuard])
  | miss => exact .none (by simp [Work.enter, Work.note, Lane.modifyGuard])
  | queue => exact .none (by simp [Work.setCall])
  | @find w name job purpose g s =>
    refine .one (f := .found name purpose s.number) ?_ trivial
    cases purpose <;> simp [Work.leave, Work.find, Work.record, Work.note]
  | @unbuilt w name job purpose g e =>
    exact .one (f := .failed name purpose none (.config e))
      (by simp [KeySetCache.fail, Work.leave, Work.record, Work.note]) trivial
  | send => exact .one rfl trivial
  | wait => exact .none (by simp [Work.setCall])
  | @fail w name job purpose g number reply e =>
    exact .one (f := .failed name purpose (some number) e)
      (by simp [KeySetCache.fail, Work.leave, Work.record, Work.note]) trivial
  | @store w name job purpose g number reply set =>
    exact .one (f := .stored name purpose number ⟨⟨w.lane.storedCount, set⟩, x.now⟩)
      (by simp [KeySetCache.store, Work.leave, Work.record, Work.note]) trivial
  | @finish w name =>
    exact .one (f := .finished name) (by simp [Work.finish, Work.setCall, Work.record]) trivial
  | _ => exact absurd rfl hBusy

theorem adds_giveUp (w : Work) (name : CallName) (job : Job) (g : Nat) :
    Adds x (· = .cancelled name) w.lane.history (w.giveUp x name job g).lane.history :=
  .one (by simp [Work.giveUp, Work.setCall, Work.record, Lane.modifyGuard]) rfl

/-- Where a call has got to that has been under the guard: it has a result, or waits. -/
def reached (name : CallName) (job : Job) (purpose : Purpose)
    (outcome : Work × Option (Except Error Stored)) : Moment :=
  match outcome.2 with
  | some r => ⟨outcome.1, .done name job purpose r⟩
  | none => ⟨outcome.1, .idle⟩

theorem land_move {w : Work} {name : CallName} {job : Job} {purpose : Purpose} {g number : Nat}
    {reply : Reply} (hCome : w.lane.transport.reply? number = some reply) :
    Telling x Fact.IsOwn ⟨w, .loading name job purpose g number⟩
      ⟨(land x name purpose g number reply w).1,
        .done name job purpose (land x name purpose g number reply w).2⟩ := by
  unfold land
  split
  · rename_i e hJudged
    exact Move.telling (.fail hCome hJudged) nofun
  · rename_i set hJudged
    exact Move.telling (.store hCome hJudged) nofun

theorem download_moves {w : Work} {name : CallName} {job : Job} {purpose : Purpose} {g : Nat}
    (hHolds : w.lane.isHolder g name = true) (hNeeded : w.lane.ready? x.now x.ttl purpose = none) :
    ReflTransGen (Telling x Fact.IsOwn) ⟨w, .inside name job purpose g⟩
      (reached name job purpose (download x name job purpose g w)) := by
  cases hRequest : request x.url with
  | error e =>
    simp only [download, hRequest]
    exact .single (Move.telling (.unbuilt hHolds hNeeded hRequest) nofun)
  | ok r =>
    refine .head (Move.telling (.send hHolds hNeeded hRequest) nofun) (.single ?_)
    simp only [download, hRequest]
    split
    · rename_i reply hCome
      exact land_move hCome
    · rename_i hUnanswered
      exact Move.telling (.wait hUnanswered) nofun

theorem inside_moves {w : Work} {name : CallName} {job : Job} {purpose : Purpose} {g : Nat}
    (hHolds : w.lane.isHolder g name = true) :
    ReflTransGen (Telling x Fact.IsOwn) ⟨w, .inside name job purpose g⟩
      (reached name job purpose (inside x name job purpose g w)) := by
  unfold inside
  split
  · rename_i s hFound
    exact .single (Move.telling (.find hHolds hFound) nofun)
  · rename_i hNeeded
    exact download_moves hHolds hNeeded

theorem insideOrWait_moves (w : Work) (name : CallName) (job : Job) (purpose : Purpose) (g : Nat) :
    ReflTransGen (Telling x Fact.IsOwn) ⟨w, .inside name job purpose g⟩
      (reached name job purpose (insideOrWait x name job purpose g w)) := by
  unfold insideOrWait
  split
  · rename_i hHolds
    exact inside_moves hHolds
  · rename_i hTaken
    exact .single (Move.telling (.queue (Bool.eq_false_iff.2 hTaken)) nofun)

theorem after_replacement_moves (name : CallName) (job : Job) (stale : Nat)
    (outcome : Work × Option (Except Error Stored)) :
    ReflTransGen (Telling x Fact.IsOwn) (reached name job (.replacement stale) outcome)
      ⟨after x name job (.replacement stale) outcome, .idle⟩ := by
  obtain ⟨w, r⟩ := outcome
  rcases r with - | (e | s)
  · exact .refl
  · exact .single (Move.telling (.finish rfl) nofun)
  · exact .single (Move.telling (.finish rfl) nofun)

/-- A verification that misses its key goes on as one whose replacement has been through the guard. -/
theorem afterLookup_of_missed {w : Work} {name : CallName} {job : Job} {s : Stored}
    (hMissed : answer? x name s job = none) :
    afterLookup x name job (.ok s) w =
      after x name job (.replacement s.number)
        (insideOrWait x name job (.replacement s.number) w.newcomerGuard
          ((w.note [.decision .keySet .kidMiss]).enter name)) := by
  have hEnter : KeySetCache.enter x name job (.replacement s.number) (w.note [.decision .keySet .kidMiss]) =
      insideOrWait x name job (.replacement s.number) w.newcomerGuard
        ((w.note [.decision .keySet .kidMiss]).enter name) := rfl
  simp only [afterLookup, hMissed, hEnter]
  rcases insideOrWait x name job (.replacement s.number) w.newcomerGuard
    ((w.note [.decision .keySet .kidMiss]).enter name) with ⟨w', - | r⟩ <;> rfl

theorem afterLookup_moves (w : Work) (name : CallName) (job : Job) (r : Except Error Stored) :
    ReflTransGen (Telling x Fact.IsOwn) ⟨w, .done name job .lookup r⟩ ⟨afterLookup x name job r w, .idle⟩ := by
  cases r with
  | error e => exact .single (Move.telling (.finish rfl) nofun)
  | ok s =>
    cases hAnswer : answer? x name s job with
    | some a =>
      simp only [afterLookup, hAnswer]
      exact .single (Move.telling (.finish hAnswer) nofun)
    | none =>
      rw [afterLookup_of_missed hAnswer]
      exact .head (Move.telling (.miss hAnswer) nofun)
        ((insideOrWait_moves _ name job _ _).trans (after_replacement_moves name job s.number _))

theorem after_moves (name : CallName) (job : Job) (purpose : Purpose)
    (outcome : Work × Option (Except Error Stored)) :
    ReflTransGen (Telling x Fact.IsOwn) (reached name job purpose outcome) ⟨after x name job purpose outcome, .idle⟩ := by
  cases purpose with
  | replacement stale => exact after_replacement_moves name job stale outcome
  | lookup =>
    obtain ⟨w, - | r⟩ := outcome
    · exact .refl
    · exact afterLookup_moves w name job r

theorem startJob_moves (w : Work) (name : CallName) (job : Job) :
    ReflTransGen (Telling x Fact.IsOwn) ⟨w, .outside name job⟩ ⟨startJob x name job w, .idle⟩ := by
  unfold startJob
  split
  · rename_i s hFresh
    exact .head (Move.telling (.hit hFresh) nofun) (afterLookup_moves _ name job (.ok s))
  · rename_i hStale
    exact .head (Move.telling (.enter hStale) nofun) ((insideOrWait_moves _ name job _ _).trans (after_moves name job _ _))

theorem call_moves (w : Work) (name : CallName) (inquiry : Inquiry) :
    ReflTransGen (Telling x Fact.IsOwn) ⟨w, .idle⟩ ⟨call x name inquiry w, .idle⟩ := by
  have hBegun : Adds x Fact.IsOwn w.lane.history (w.record x [.began name]).lane.history := .one rfl trivial
  have hBegin {job : Job} (hUnknown : w.lane.stage? name = none) (hTask : inquiry.job = .ok job) :
      Telling x Fact.IsOwn ⟨w, .idle⟩ ⟨w.record x [.began name], .outside name job⟩ :=
    ⟨.begin hUnknown hTask, hBegun⟩
  unfold call
  split
  · exact .refl
  · rename_i hUnknown
    have hUnknown : w.lane.stage? name = none := by simpa using hUnknown
    cases inquiry with
    | fetch => exact .head (hBegin hUnknown rfl) (startJob_moves _ name .fetch)
    | verify token validation =>
      cases hKey : Jwt.keyId token with
      | error e =>
        simp only [hKey]
        exact .single ⟨.refuse hUnknown hKey, hBegun.trans (.one (f := .finished name)
          (by simp [Work.finish, Work.setCall, Work.record]) trivial)⟩
      | ok kid =>
        have hTask : (Inquiry.verify token validation).job = .ok (.verify kid token validation) := by
          rw [Inquiry.job, hKey]
          rfl
        simp only [hKey]
        exact .head (hBegin hUnknown hTask) (startJob_moves _ name _)

theorem resume_moves (w : Work) (name : CallName) :
    ReflTransGen (Telling x Fact.IsOwn) ⟨w, .idle⟩ ⟨resume x name w, .idle⟩ := by
  unfold resume
  split
  · exact .refl
  · rename_i c hKnown
    split
    · rename_i purpose g hQueued
      split
      · rename_i hWoken
        exact .head ⟨.wake hKnown hQueued hWoken, .none rfl⟩
          ((insideOrWait_moves _ name c.job _ _).trans (after_moves name c.job purpose _))
      · exact .refl
    · rename_i purpose g number hDownloading
      split
      · exact .refl
      · rename_i reply hCome
        have hSome : (w.lane.transport.reply? number).isSome := by rw [hCome]; rfl
        exact .head ⟨.reread hKnown hDownloading hSome, .none rfl⟩
          (.head (land_move hCome) (after_moves name c.job purpose
            ((land x name purpose g number reply w).1, some (land x name purpose g number reply w).2)))
    · exact .refl

theorem cancel_moves (w : Work) (name : CallName) :
    ReflTransGen (Telling x (· = .cancelled name)) ⟨w, .idle⟩ ⟨cancel x name w, .idle⟩ := by
  unfold cancel
  split
  · exact .refl
  · rename_i c hKnown
    dsimp only
    split
    · rename_i purpose g hQueued
      exact .single ⟨.cancelQueued hKnown hQueued, adds_giveUp w name c.job g⟩
    · rename_i purpose g number hDownloading
      exact .single ⟨.cancelDownload hKnown hDownloading,
        adds_giveUp { w with lane := { w.lane with transport := w.lane.transport.abandon number } } name c.job g⟩
    · exact .refl

theorem answerRequest_moves (w : Work) (number : Nat) (reply : Reply) :
    ReflTransGen (Telling x (· = .replied number)) ⟨w, .idle⟩ ⟨answerRequest number reply x w, .idle⟩ := by
  unfold answerRequest
  split
  · rename_i hWaiting
    exact .single ⟨.reply hWaiting, .one rfl rfl⟩
  · exact .refl

/-- Whatever happens in a cache, a lane goes from rest to rest by moves, which tell what the event can tell. -/
theorem step_tells (c : KeySetCache) (url : Url) (event : Event) :
    ∃ ready w, ReflTransGen (Telling (c.surroundings url) (event.Tells url)) (.rest (c.lane url) ready) ⟨w, .idle⟩ ∧
      w.lane = (c.step event).lane url := by
  have hWithin (target : Url) (ready : List Reply) (act : Surroundings → Work → Work) {p : Fact → Prop}
      (hMoves : ∀ x w, ReflTransGen (Telling x p) ⟨w, .idle⟩ ⟨act x w, .idle⟩)
      (hKinds : target = url → ∀ f, p f → event.Tells url f) :
      ∃ replies w, ReflTransGen (Telling (c.surroundings url) (event.Tells url)) (.rest (c.lane url) replies)
        ⟨w, .idle⟩ ∧ w.lane = (c.within target ready act).lane url := by
    refine ⟨ready, ?_⟩
    rw [lane_within]
    split
    · rename_i hTarget
      subst hTarget
      have hChain := hMoves (c.surroundings url) ⟨c.lane url, [], ready⟩
      exact ⟨_, ReflTransGen.mono (fun _ _ hMove => ⟨hMove.1, hMove.2.mono (hKinds rfl)⟩) _ _ hChain, rfl⟩
    · exact ⟨_, .refl, rfl⟩
  cases event with
  | call target name inquiry ready =>
    exact hWithin target ready _ (fun x w => call_moves w name inquiry) fun _ _ hOwn => hOwn.tells url _
  | resume target name ready =>
    exact hWithin target ready _ (fun x w => resume_moves w name) fun _ _ hOwn => hOwn.tells url _
  | cancel target name =>
    refine hWithin target [] _ (fun x w => cancel_moves w name) ?_
    rintro rfl _ rfl
    rfl
  | reply target number reply =>
    refine hWithin target [] _ (fun x w => answerRequest_moves w number reply) ?_
    rintro rfl _ rfl
    exact ⟨reply, rfl⟩
  | invalidate target =>
    refine hWithin target [] _ (fun x w => .single ⟨.invalidate, .one rfl rfl⟩) (p := (· = .invalidated)) ?_
    rintro rfl _ rfl
    rfl
  | setClock now => exact ⟨[], _, .refl, rfl⟩

theorem step_moves (c : KeySetCache) (url : Url) (event : Event) :
    ∃ ready w, ReflTransGen (Move (c.surroundings url)) (.rest (c.lane url) ready) ⟨w, .idle⟩ ∧
      w.lane = (c.step event).lane url := by
  obtain ⟨ready, w, hChain, hLane⟩ := step_tells c url event
  exact ⟨ready, w, moves_of_telling hChain, hLane⟩

/-- An event adds to the history what it can tell, and changes nothing that is told. -/
theorem step_adds (c : KeySetCache) (url : Url) (event : Event) :
    Adds (c.surroundings url) (event.Tells url) (c.lane url).history ((c.step event).lane url).history := by
  obtain ⟨ready, w, hChain, hLane⟩ := step_tells c url event
  rw [← hLane]
  exact adds_of_telling hChain

theorem chain_keeps {P : Lane → Activity → Prop}
    (keep : ∀ {m m' : Moment}, Move x m m' → P m.work.lane m.activity → P m'.work.lane m'.activity)
    {m m' : Moment} (hChain : ReflTransGen (Move x) m m') (h : P m.work.lane m.activity) :
    P m'.work.lane m'.activity := by
  induction hChain with
  | refl => exact h
  | tail _ hMove ih => exact keep hMove ih

theorem chain_induction {P : Lane → Activity → Prop}
    (keep : ∀ {x : Surroundings} {m m' : Moment}, Move x m m' → P m.work.lane m.activity →
      P m'.work.lane m'.activity)
    {m m' : Moment} (hChain : ReflTransGen (Move x) m m') (h : P m.work.lane m.activity) :
    P m'.work.lane m'.activity :=
  chain_keeps keep hChain h

/-- Nothing that happens changes the surroundings, except for the clock. -/
theorem surroundings_step (c : KeySetCache) (url : Url) (event : Event) :
    ∃ now, (c.step event).surroundings url = { c.surroundings url with now := now } := by
  cases event with
  | setClock now => exact ⟨_, rfl⟩
  | _ => exact ⟨(c.surroundings url).now, rfl⟩

/-- What every move keeps in its surroundings, and the clock cannot change while a lane is at rest, holds of every
lane after every run. -/
theorem run_keeps {P : Surroundings → Lane → Activity → Prop}
    (keep : ∀ {x : Surroundings} {m m' : Moment}, Move x m m' → P x m.work.lane m.activity →
      P x m'.work.lane m'.activity)
    (clock : ∀ {x : Surroundings} {l : Lane} (now : Instant), P x l .idle → P { x with now := now } l .idle)
    {c : KeySetCache} {url : Url} (h : P (c.surroundings url) (c.lane url) .idle) (events : List Event) :
    P ((c.run events).surroundings url) ((c.run events).lane url) .idle := by
  induction events generalizing c with
  | nil => exact h
  | cons event events ih =>
    obtain ⟨ready, w, hChain, hLane⟩ := step_moves c url event
    have hKept := chain_keeps keep hChain h
    obtain ⟨now, hNow⟩ := surroundings_step c url event
    refine ih (c := c.step event) ?_
    rw [← hLane, hNow]
    exact clock now hKept

/-- What every move keeps holds of every lane after every run. -/
theorem run_induction {P : Lane → Activity → Prop}
    (keep : ∀ {x : Surroundings} {m m' : Moment}, Move x m m' → P m.work.lane m.activity →
      P m'.work.lane m'.activity)
    {c : KeySetCache} {url : Url} (h : P (c.lane url) .idle) (events : List Event) :
    P ((c.run events).lane url) .idle :=
  run_keeps (P := fun _ => P) keep (fun _ hRest => hRest) h events

end BearerTokens.KeySetCache
