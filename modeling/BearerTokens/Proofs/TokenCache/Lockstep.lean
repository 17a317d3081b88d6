import BearerTokens.Proofs.Places
import BearerTokens.Proofs.TokenCache.Move

/-!
# Caches in lockstep

Two caches that go through the same events side by side. What they send, what they are told, and the secrets and
errors they hand on may differ as a disguise allows. All else is the same after every event, for no step of a cache
looks at the value of a secret or at the text of an error.
-/

set_option autoImplicit false

namespace BearerTokens

open BearerTokens.Http BearerTokens.Time

structure Disguise where
  request : Request → Request
  reply : Reply → Reply → Prop
  secret : Secret → Secret → Prop
  error : Error → Error → Prop

namespace Disguise

variable (D : Disguise)

structure Held (t t' : HeldToken) : Prop where
  secret : D.secret t.secret t'.secret
  expiresAt : t'.expiresAt = t.expiresAt
  source : t'.source = t.source

inductive Result : Exchange.Result → Exchange.Result → Prop where
  | ok {t t' : HeldToken} (held : D.Held t t') : Result (.ok t) (.ok t')
  | error {e e' : Error} (alike : D.error e e') : Result (.error e) (.error e')

inductive Phase : TokenCache.Phase → TokenCache.Phase → Prop where
  | waiting (request : Nat) : Phase (.waiting request) (.waiting request)
  | settled {r r' : Exchange.Result} (result : D.Result r r') : Phase (.settled r) (.settled r')
  | broken : Phase .broken .broken
  | dropped : Phase .dropped .dropped

inductive Answer : TokenCache.Answer → TokenCache.Answer → Prop where
  | token {s s' : Secret} (alike : D.secret s s') : Answer (.token s) (.token s')
  | failure {e e' : Error} (alike : D.error e e') : Answer (.failure e) (.failure e')
  | overflow : Answer .overflow .overflow

inductive CallerState : TokenCache.CallerState → TokenCache.CallerState → Prop where
  | waiting : CallerState .waiting .waiting
  | answered {a a' : TokenCache.Answer} (answer : D.Answer a a') : CallerState (.answered a) (.answered a')
  | cancelled : CallerState .cancelled .cancelled

structure Caller (k k' : TokenCache.Caller) : Prop where
  exchange : k'.exchange = k.exchange
  state : D.CallerState k.state k'.state

inductive CallState : Http.CallState → Http.CallState → Prop where
  | waiting : CallState .waiting .waiting
  | answered {r r' : Reply} (alike : D.reply r r') : CallState (.answered r) (.answered r')
  | dropped : CallState .dropped .dropped

structure Call (a a' : Http.Call) : Prop where
  request : a'.request = D.request a.request
  state : D.CallState a.state a'.state

def Transports (t t' : Transport) : Prop :=
  List.Forall₂ D.Call t.calls t'.calls

inductive Event : TokenCache.Event → TokenCache.Event → Prop where
  | call {ready ready' : Option Reply} (alike : Option.Rel D.reply ready ready') : Event (.call ready) (.call ready')
  | resume (caller : Nat) : Event (.resume caller) (.resume caller)
  | cancel (caller : Nat) : Event (.cancel caller) (.cancel caller)
  | reply (request : Nat) {r r' : Reply} (alike : D.reply r r') : Event (.reply request r) (.reply request r')
  | setClock (now : Instant) : Event (.setClock now) (.setClock now)
  | clear : Event .clear .clear
  | share : Event .share .share
  | giveBack : Event .giveBack .giveBack

/-- Two caches that only the disguise tells apart. Their histories are not compared. -/
structure Caches (c d : TokenCache) : Prop where
  grant : d.grant.inspect = c.grant.inspect
  request : d.grant.request = c.grant.request.map D.request
  classify : d.classify = c.classify
  clock : d.clock = c.clock
  transport : D.Transports c.transport d.transport
  cached : Option.Rel D.Held c.cached d.cached
  inFlight : d.inFlight = c.inFlight
  exchanges : List.Forall₂ D.Phase c.exchanges d.exchanges
  callers : List.Forall₂ D.Caller c.callers d.callers
  handles : d.handles = c.handles
  notes : d.notes = c.notes

structure Sound : Prop where
  config : ∀ e, D.error (.config e) (.config e)
  conclude : ∀ (classify : Classifier) (now : Instant) {r r' : Reply}, D.reply r r' →
    Option.Rel D.Result (Exchange.conclude classify now r) (Exchange.conclude classify now r')

variable {D} {c d : TokenCache} {t t' : Transport}

theorem Result.closingNotes {r r' : Exchange.Result} (h : D.Result r r') :
    Exchange.closingNotes (some r') = Exchange.closingNotes (some r) := by
  cases h with
  | ok held => rw [Exchange.closingNotes, held.source, Exchange.closingNotes]
  | error => rfl

theorem Phase.answer? {p p' : TokenCache.Phase} (h : D.Phase p p') : Option.Rel D.Answer p.answer? p'.answer? := by
  cases h with
  | waiting | dropped => exact .none
  | broken => exact .some .overflow
  | settled result =>
    cases result with
    | ok held => exact .some (.token held.secret)
    | error alike => exact .some (.failure alike)

theorem Held.isUsableAt {t t' : HeldToken} (h : D.Held t t') (now : Instant) :
    t'.isUsableAt now = t.isUsableAt now := by
  rw [HeldToken.isUsableAt, h.expiresAt, HeldToken.isUsableAt]

theorem CallerState.waiting_iff {s s' : TokenCache.CallerState} (h : D.CallerState s s') :
    s' = .waiting ↔ s = .waiting := by
  cases h <;> simp

theorem CallState.waiting_iff {s s' : Http.CallState} (h : D.CallState s s') : s' = .waiting ↔ s = .waiting := by
  cases h <;> simp

theorem Transports.nextNumber (h : D.Transports t t') : t'.nextNumber = t.nextNumber :=
  (List.Forall₂.length_eq h).symm

theorem Transports.state? (h : D.Transports t t') (number : Nat) :
    Option.Rel D.CallState (t.state? number) (t'.state? number) :=
  option_rel_map (forall₂_getElem? h number) fun hCall => hCall.state

theorem Transports.isWaiting (h : D.Transports t t') (number : Nat) : t'.isWaiting number = t.isWaiting number := by
  unfold Transport.isWaiting
  match t.state? number, t'.state? number, h.state? number with
  | _, _, .some hState => simp [hState.waiting_iff]
  | _, _, .none => rfl

theorem Transports.reply? (h : D.Transports t t') (number : Nat) :
    Option.Rel D.reply (t.reply? number) (t'.reply? number) := by
  unfold Transport.reply?
  match t.state? number, t'.state? number, h.state? number with
  | _, _, .some (.answered alike) => exact .some alike
  | _, _, .some .waiting | _, _, .some .dropped | _, _, .none => exact .none

theorem Transports.send (h : D.Transports t t') (request : Request) {ready ready' : Option Reply}
    (hReady : Option.Rel D.reply ready ready') :
    D.Transports (t.send request ready) (t'.send (D.request request) ready') := by
  refine forall₂_snoc h ⟨rfl, ?_⟩
  cases hReady with
  | some alike => exact .answered alike
  | none => exact .waiting

theorem Transports.answer (h : D.Transports t t') (number : Nat) {r r' : Reply} (hReply : D.reply r r') :
    D.Transports (t.answer number r) (t'.answer number r') := by
  refine forall₂_modify h (fun a a' hCall => ?_) number
  simp only [hCall.state.waiting_iff]
  split
  · exact ⟨hCall.request, .answered hReply⟩
  · exact hCall

theorem Transports.abandon (h : D.Transports t t') (number : Nat) :
    D.Transports (t.abandon number) (t'.abandon number) := by
  refine forall₂_modify h (fun a a' hCall => ?_) number
  exact ⟨hCall.request, .dropped⟩

theorem Transports.requests (h : D.Transports t t') :
    t'.calls.map (·.request) = (t.calls.map (·.request)).map D.request := by
  rw [← List.forall₂_eq_eq_eq]
  simp only [List.forall₂_map_left_iff, List.forall₂_map_right_iff]
  exact List.Forall₂.imp (fun _ _ hCall => hCall.request) h.flip

namespace Caches

theorem usable? (h : D.Caches c d) : Option.Rel D.Held c.usable? d.usable? := by
  unfold TokenCache.usable?
  rw [h.clock]
  match c.cached, d.cached, h.cached with
  | _, _, .none => exact .none
  | _, _, .some held =>
    rw [Option.filter_some, Option.filter_some, held.isUsableAt]
    split
    · exact .some held
    · exact .none

theorem state (h : D.Caches c d) : d.state = c.state := by
  unfold TokenCache.state
  rw [h.inFlight]
  match c.usable?, d.usable?, h.usable? with
  | _, _, .some _ | _, _, .none => rfl

theorem expiresAt? (h : D.Caches c d) : d.expiresAt? = c.expiresAt? := by
  unfold TokenCache.expiresAt?
  match c.cached, d.cached, h.cached with
  | _, _, .some held => exact congrArg some held.expiresAt
  | _, _, .none => rfl

theorem inspect (h : D.Caches c d) : d.inspect = c.inspect := by
  unfold TokenCache.inspect
  rw [h.grant, h.state]

theorem callerCount (h : D.Caches c d) : d.callers.length = c.callers.length :=
  h.callers.length_eq.symm

theorem exchangeCount (h : D.Caches c d) : d.exchanges.length = c.exchanges.length :=
  h.exchanges.length_eq.symm

theorem isOwned (h : D.Caches c d) : d.isOwned = c.isOwned := by
  have hAny : ∀ {l l' : List TokenCache.Caller}, List.Forall₂ D.Caller l l' →
      (l'.any fun k => decide (k.state = .waiting)) = l.any fun k => decide (k.state = .waiting) := by
    intro l l' hAll
    induction hAll with
    | nil => rfl
    | cons hCaller _ ih => simp only [List.any_cons, ih, hCaller.state.waiting_iff]
  rw [TokenCache.isOwned, h.handles, hAny h.callers, TokenCache.isOwned]

theorem awaited? (h : D.Caches c d) (k : Nat) : d.awaited? k = c.awaited? k := by
  unfold TokenCache.awaited?
  match c.callers[k]?, d.callers[k]?, forall₂_getElem? h.callers k with
  | _, _, .some hCaller => simp only [hCaller.state.waiting_iff, hCaller.exchange]
  | _, _, .none => rfl

theorem answer? (h : D.Caches c d) (k : Nat) : Option.Rel D.Answer (c.answer? k) (d.answer? k) := by
  unfold TokenCache.answer?
  match c.callers[k]?, d.callers[k]?, forall₂_getElem? h.callers k with
  | _, _, .none => exact .none
  | some ⟨_, _⟩, some ⟨_, _⟩, .some ⟨_, hState⟩ =>
    cases hState with
    | answered answer => exact .some answer
    | waiting | cancelled => exact .none

theorem phase? (h : D.Caches c d) (e : Nat) : Option.Rel D.Phase c.exchanges[e]? d.exchanges[e]? :=
  forall₂_getElem? h.exchanges e

theorem pendingRequest? (h : D.Caches c d) : d.pendingRequest? = c.pendingRequest? := by
  unfold TokenCache.pendingRequest?
  rw [h.inFlight]
  cases c.inFlight with
  | none => rfl
  | some e =>
    simp only [Option.bind_some]
    match c.exchanges[e]?, d.exchanges[e]?, h.phase? e with
    | _, _, .none => rfl
    | _, _, .some hPhase => cases hPhase <;> rfl

theorem record (h : D.Caches c d) (facts facts' : List TokenCache.Fact) :
    D.Caches (c.record facts) (d.record facts') :=
  { h with }

theorem note (h : D.Caches c d) (notes : List Note) : D.Caches (c.note notes) (d.note notes) :=
  { h with notes := congrArg (· ++ notes) h.notes }

theorem settle (h : D.Caches c d) (e : Nat) {r r' : Exchange.Result} (hResult : D.Result r r') :
    D.Caches (c.settle e r) (d.settle e r') := by
  have hCached : Option.Rel D.Held (c.settle e r).cached (d.settle e r').cached := by
    cases hResult with
    | ok held => exact .some held
    | error => exact h.cached
  have hNotes : (d.settle e r').notes = (c.settle e r).notes :=
    congrArg₂ (· ++ ·) h.notes hResult.closingNotes
  have hFlight : (d.settle e r').inFlight = (c.settle e r).inFlight :=
    congrArg (fun x => if x = some e then none else x) h.inFlight
  exact
    { h with
      exchanges := forall₂_set h.exchanges (.settled hResult) e
      inFlight := hFlight
      cached := hCached
      notes := hNotes }

theorem breakOff (h : D.Caches c d) (e : Nat) : D.Caches (c.breakOff e) (d.breakOff e) :=
  { h with exchanges := forall₂_set h.exchanges .broken e }

theorem judge (h : D.Caches c d) (hSound : D.Sound) (e : Nat) {r r' : Reply} (hReply : D.reply r r') :
    D.Caches (c.judge e r) (d.judge e r') := by
  unfold TokenCache.judge
  rw [h.classify, h.clock]
  match Exchange.conclude c.classify c.clock.now r, Exchange.conclude c.classify c.clock.now r',
    hSound.conclude c.classify c.clock.now hReply with
  | _, _, .some hResult => exact (h.record _ _).settle e hResult
  | _, _, .none => exact (h.record _ _).breakOff e

theorem look (h : D.Caches c d) (hSound : D.Sound) (e : Nat) : D.Caches (c.look e) (d.look e) := by
  unfold TokenCache.look
  match c.exchanges[e]?, d.exchanges[e]?, h.phase? e with
  | _, _, .none => exact h
  | _, _, .some hPhase =>
    cases hPhase with
    | settled | broken | dropped => exact h
    | waiting request =>
      simp only
      match c.transport.reply? request, d.transport.reply? request, h.transport.reply? request with
      | _, _, .some hReply => exact h.judge hSound e hReply
      | _, _, .none => exact h

theorem send (h : D.Caches c d) (e : Nat) (request : Request) {ready ready' : Option Reply}
    (hReady : Option.Rel D.reply ready ready') :
    D.Caches (c.send e request ready) (d.send e (D.request request) ready') :=
  { h with transport := h.transport.send request hReady }

theorem addCaller (h : D.Caches c d) {k k' : TokenCache.Caller} (hCaller : D.Caller k k') :
    D.Caches (c.addCaller k) (d.addCaller k') :=
  { h with callers := forall₂_snoc h.callers hCaller }

theorem serve (h : D.Caches c d) {t t' : HeldToken} (hHeld : D.Held t t') : D.Caches (c.serve t) (d.serve t') := by
  have hCaller : D.Caller ⟨none, .answered (.token t.secret)⟩ ⟨none, .answered (.token t'.secret)⟩ :=
    ⟨rfl, .answered (.token hHeld.secret)⟩
  exact ((h.addCaller hCaller).note _).record _ _

theorem join (h : D.Caches c d) (e : Nat) : D.Caches (c.join e) (d.join e) := by
  have hCaller : D.Caller ⟨some e, .waiting⟩ ⟨some e, .waiting⟩ := ⟨rfl, .waiting⟩
  exact ((h.addCaller hCaller).note _).record _ _

theorem register (h : D.Caches c d) : D.Caches c.register d.register := by
  have hCaller : D.Caller ⟨some c.exchanges.length, .waiting⟩ ⟨some d.exchanges.length, .waiting⟩ :=
    ⟨congrArg some h.exchangeCount, .waiting⟩
  have hPhase : D.Phase (.waiting c.transport.nextNumber) (.waiting d.transport.nextNumber) := by
    rw [h.transport.nextNumber]
    exact .waiting _
  have hRaised : D.Caches
      { c.addCaller ⟨some c.exchanges.length, .waiting⟩ with
        exchanges := c.exchanges ++ [.waiting c.transport.nextNumber]
        inFlight := some c.exchanges.length }
      { d.addCaller ⟨some d.exchanges.length, .waiting⟩ with
        exchanges := d.exchanges ++ [.waiting d.transport.nextNumber]
        inFlight := some d.exchanges.length } :=
    { h.addCaller hCaller with
      exchanges := forall₂_snoc h.exchanges hPhase
      inFlight := congrArg some h.exchangeCount }
  exact (hRaised.note _).record _ _

theorem start (h : D.Caches c d) (hSound : D.Sound) {ready ready' : Option Reply}
    (hReady : Option.Rel D.reply ready ready') : D.Caches (c.start ready) (d.start ready') := by
  unfold TokenCache.start
  rw [h.request, h.exchangeCount]
  cases c.grant.request with
  | error e => exact h.register.settle _ (.error (hSound.config e))
  | ok request => exact h.register.send _ request hReady

theorem setState (h : D.Caches c d) (k : Nat) {s s' : TokenCache.CallerState} (hState : D.CallerState s s') :
    D.Caches (c.setState k s) (d.setState k s') := by
  refine { h with callers := forall₂_modify h.callers (fun i i' hCaller => ?_) k }
  exact ⟨hCaller.exchange, hState⟩

theorem collect (h : D.Caches c d) (k : Nat) : D.Caches (c.collect k) (d.collect k) := by
  unfold TokenCache.collect
  rw [h.awaited? k]
  cases c.awaited? k with
  | none => exact h
  | some e =>
    simp only
    match c.exchanges[e]?, d.exchanges[e]?, h.phase? e with
    | _, _, .none => exact h
    | some p, some p', .some hPhase =>
      simp only [Option.bind_some]
      match p.answer?, p'.answer?, hPhase.answer? with
      | _, _, .some hAnswer => exact h.setState k (.answered hAnswer)
      | _, _, .none => exact h

theorem resume (h : D.Caches c d) (hSound : D.Sound) (k : Nat) : D.Caches (c.resume k) (d.resume k) := by
  unfold TokenCache.resume
  rw [h.awaited? k]
  cases c.awaited? k with
  | none => exact h
  | some e => exact (h.look hSound e).collect k

theorem call (h : D.Caches c d) (hSound : D.Sound) {ready ready' : Option Reply}
    (hReady : Option.Rel D.reply ready ready') : D.Caches (c.call ready) (d.call ready') := by
  unfold TokenCache.call
  rw [h.inFlight, h.callerCount]
  match c.usable?, d.usable?, h.usable? with
  | _, _, .some hHeld => exact h.serve hHeld
  | _, _, .none =>
    simp only
    cases c.inFlight with
    | none => exact (h.start hSound hReady).resume hSound _
    | some e => exact (h.join e).resume hSound _

theorem cancel (h : D.Caches c d) (k : Nat) : D.Caches (c.cancel k) (d.cancel k) := by
  unfold TokenCache.cancel
  rw [h.awaited? k]
  cases c.awaited? k with
  | none => exact h
  | some e => exact (h.setState k .cancelled).record _ _

theorem dropPending (h : D.Caches c d) : D.Caches c.dropPending d.dropPending := by
  unfold TokenCache.dropPending
  rw [h.inFlight, h.pendingRequest?]
  split
  · exact
      { h with
        inFlight := rfl
        transport := h.transport.abandon _
        exchanges := forall₂_set h.exchanges .dropped _ }
  · exact h

theorem release (h : D.Caches c d) : D.Caches c.release d.release :=
  { h.dropPending with
    inFlight := rfl
    cached := .none }

theorem releaseUnowned (h : D.Caches c d) : D.Caches c.releaseUnowned d.releaseUnowned := by
  unfold TokenCache.releaseUnowned
  rw [h.isOwned]
  split
  · exact h
  · exact h.release

theorem clear (h : D.Caches c d) : D.Caches c.clear d.clear :=
  { h with
    cached := .none
    notes := congrArg (· ++ _) h.notes }

theorem reply (h : D.Caches c d) (request : Nat) {r r' : Reply} (hReply : D.reply r r') :
    D.Caches (c.reply request r) (d.reply request r') := by
  unfold TokenCache.reply
  rw [h.transport.isWaiting]
  split
  · exact { h with transport := h.transport.answer request hReply }
  · exact h

theorem apply (h : D.Caches c d) (hSound : D.Sound) {e e' : TokenCache.Event} (hEvent : D.Event e e') :
    D.Caches (c.apply e) (d.apply e') := by
  cases hEvent with
  | call hReady => exact h.call hSound hReady
  | resume k => exact h.resume hSound k
  | cancel k => exact h.cancel k
  | reply request hReply => exact h.reply request hReply
  | setClock now => exact { h with clock := rfl }
  | clear => exact h.clear
  | share => exact { h with handles := congrArg (· + 1) h.handles }
  | giveBack => exact { h with handles := congrArg (· - 1) h.handles }

theorem step (h : D.Caches c d) (hSound : D.Sound) {e e' : TokenCache.Event} (hEvent : D.Event e e') :
    D.Caches (c.step e) (d.step e') := by
  have hApply := h.apply hSound hEvent
  unfold TokenCache.step
  rw [h.isOwned]
  split
  · exact hApply.releaseUnowned
  · -- nobody holds the cache, so only replies and the clock still reach it
    cases hEvent with
    | reply | setClock => exact hApply
    | call | resume | cancel | clear | share | giveBack => exact h

theorem run (h : D.Caches c d) (hSound : D.Sound) {events events' : List TokenCache.Event}
    (hEvents : List.Forall₂ D.Event events events') : D.Caches (c.run events) (d.run events') := by
  induction hEvents generalizing c d with
  | nil => exact h
  | cons hEvent _ ih => exact ih (h.step hSound hEvent)

end Caches

end Disguise

end BearerTokens
