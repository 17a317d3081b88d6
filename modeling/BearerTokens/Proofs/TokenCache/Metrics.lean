import BearerTokens.Proofs.Telemetry
import BearerTokens.Proofs.TokenCache.Record
import Mathlib.Algebra.BigOperators.Group.List.Basic

/-!
# The metrics of a token cache

Every exchange that was begun is noted as an attempt, and as a success or a failure when it is settled; one that still
waits, was dropped with the cache, or panicked is noted no further. Every caller is noted by one choice: to serve it
from memory, to let it join, or to begin an exchange for it.
-/

set_option autoImplicit false

namespace BearerTokens.TokenCache

open BearerTokens.Http BearerTokens.Time

variable {c c' : TokenCache}

inductive Fate where
  | unsettled
  | succeeded
  | failed
  /-- The exchange was released with the cache. -/
  | dropped
  /-- The exchange came to no result, because its token would end after the calendar. -/
  | panicked
  deriving DecidableEq

def Phase.fate : Phase → Fate
  | .waiting _ => .unsettled
  | .settled (.ok _) => .succeeded
  | .settled (.error _) => .failed
  | .broken => .panicked
  | .dropped => .dropped

def fated (c : TokenCache) (fate : Fate) : Nat :=
  c.exchanges.countP fun p => decide (p.fate = fate)

def Phase.isUnbuilt (grant : Grant) : Phase → Bool
  | .settled (.error e) =>
    match grant.request with
    | .error fault => decide (e = .config fault)
    | .ok _ => false
  | _ => false

def unbuilt (c : TokenCache) : Nat :=
  c.exchanges.countP (Phase.isUnbuilt c.grant)

theorem length_exchanges (c : TokenCache) :
    c.exchanges.length =
      c.fated .succeeded + c.fated .failed + c.fated .unsettled + c.fated .dropped + c.fated .panicked := by
  unfold fated
  induction c.exchanges with
  | nil => rfl
  | cons p ps ih =>
    simp only [List.length_cons, List.countP_cons, ih]
    cases p.fate <;> simp <;> omega

def Phase.notes : Phase → List Note
  | .settled result => .fetch .token .attempt :: Exchange.closingNotes (some result)
  | _ => [.fetch .token .attempt]

theorem Phase.notes_counted (p : Phase) : ∀ note ∈ p.notes, note.counter?.isSome := by
  intro note hMem
  rcases p with q | (e | t) | - | -
  · cases List.mem_singleton.1 hMem
    rfl
  · simp only [notes, Exchange.closingNotes, List.mem_cons, List.not_mem_nil, or_false] at hMem
    rcases hMem with rfl | rfl <;> rfl
  · simp only [notes, Exchange.closingNotes, List.mem_cons, List.not_mem_nil, or_false] at hMem
    rcases hMem with rfl | rfl | rfl <;> rfl
  · cases List.mem_singleton.1 hMem
    rfl
  · cases List.mem_singleton.1 hMem
    rfl

structure Metered (c : TokenCache) : Prop where
  told : ∀ note : Note, note.counter?.isSome → c.notes.count note = (c.exchanges.map fun p => p.notes.count note).sum
  starts : c.notes.count (.decision .token .startFetch) = c.exchanges.length
  choices : c.notes.countP Note.isChoice = c.callers.length
  sent : c.exchanges.length = c.transport.calls.length + c.unbuilt
  unsent : ∀ fault, c.grant.request = .error fault → c.transport.calls = []

theorem metered_new (grant : Grant) (classify : Classifier) (clock : Clock) : Metered (new grant classify clock) where
  told _ _ := rfl
  starts := rfl
  choices := rfl
  sent := rfl
  unsent _ _ := rfl

/-- Nothing changes that is counted. -/
theorem Metered.frame (h : Metered c) {later : List Note} (hGrant : c'.grant = c.grant)
    (hNotes : c'.notes = c.notes ++ later)
    (hSilent : ∀ note ∈ later, note.counter? = none ∧ note.isChoice = false)
    (hExchanges : c'.exchanges = c.exchanges) (hCallers : c'.callers.length = c.callers.length)
    (hSent : c'.transport.calls.length = c.transport.calls.length) : Metered c' where
  told note hCounter := by
    rw [hNotes, hExchanges, count_append_of_uncounted (fun other hMem => (hSilent other hMem).1) hCounter]
    exact h.told note hCounter
  starts := by
    have hNone : later.count (.decision .token .startFetch) = 0 :=
      List.count_eq_zero.2 fun hMem => absurd (hSilent _ hMem).2 (by decide)
    rw [hNotes, hExchanges, List.count_append, hNone, Nat.add_zero, h.starts]
  choices := by
    have hNone : later.countP Note.isChoice = 0 :=
      List.countP_eq_zero.2 fun other hMem => Bool.eq_false_iff.1 (hSilent other hMem).2
    rw [hNotes, hCallers, List.countP_append, hNone, Nat.add_zero, h.choices]
  sent := by rw [unbuilt, hExchanges, hSent, hGrant, h.sent, unbuilt]
  unsent fault hFault := by
    rw [← List.length_eq_zero_iff, hSent, List.length_eq_zero_iff]
    exact h.unsent fault (hGrant ▸ hFault)

/-- A caller comes for whom no exchange is begun. -/
theorem Metered.choose (h : Metered c) {d : Decision} (hChoice : (Note.decision .token d).isChoice = true)
    (hOther : d ≠ .startFetch) (hGrant : c'.grant = c.grant) (hNotes : c'.notes = c.notes ++ [.decision .token d])
    (hExchanges : c'.exchanges = c.exchanges) (hCallers : c'.callers.length = c.callers.length + 1)
    (hTransport : c'.transport = c.transport) : Metered c' where
  told note hCounter := by
    rw [hNotes, hExchanges, count_append_of_uncounted (by simp [Note.counter?]) hCounter]
    exact h.told note hCounter
  starts := by
    rw [hNotes, hExchanges, List.count_append, h.starts, List.count_singleton, if_neg (by simpa using hOther),
      Nat.add_zero]
  choices := by rw [hNotes, hCallers, List.countP_append, h.choices, List.countP_singleton, if_pos hChoice]
  sent := by rw [unbuilt, hExchanges, hTransport, hGrant, h.sent, unbuilt]
  unsent := by
    rw [hTransport, hGrant]
    exact h.unsent

/-- A caller comes for whom an exchange is begun. -/
theorem Metered.begin (h : Metered c) {p : Phase} {later : List Note} (hGrant : c'.grant = c.grant)
    (hNotes : c'.notes = c.notes ++ .decision .token .startFetch :: .span .token "fetch_new_token" :: later)
    (hLater : later = p.notes) (hExchanges : c'.exchanges = c.exchanges ++ [p])
    (hCallers : c'.callers.length = c.callers.length + 1)
    (hSent : c'.transport.calls.length + (if p.isUnbuilt c.grant then 1 else 0) = c.transport.calls.length + 1)
    (hUnsent : ∀ fault, c.grant.request = .error fault → c'.transport = c.transport) : Metered c' where
  told note hCounter := by
    have hOpening : [Note.decision .token .startFetch, .span .token "fetch_new_token"].count note = 0 :=
      count_of_uncounted (by simp [Note.counter?]) hCounter
    rw [hNotes, hExchanges, List.count_append, h.told note hCounter, List.map_append, List.sum_append, hLater]
    simp only [List.count_nil, List.count_cons] at hOpening
    simp only [List.count_cons, List.map_cons, List.map_nil, List.sum_cons, List.sum_nil]
    omega
  starts := by
    rw [hNotes, hExchanges, List.count_append, h.starts, List.length_append, hLater]
    simp [count_decision_of_counted p.notes_counted]
  choices := by
    rw [hNotes, hCallers, List.countP_append, h.choices, hLater]
    simp [List.countP_cons, countP_isChoice_of_counted p.notes_counted, Note.isChoice]
  sent := by
    have hBefore := h.sent
    rw [unbuilt, hExchanges, hGrant, List.length_append, List.countP_append, List.countP_singleton]
    unfold unbuilt at hBefore
    simp only [List.length_singleton]
    omega
  unsent fault hFault := by
    rw [hGrant] at hFault
    rw [hUnsent fault hFault]
    exact h.unsent fault hFault

/-- An exchange that waits comes to an end. -/
theorem Metered.finish (h : Metered c) {e q : Nat} {p : Phase} {later : List Note}
    (hWaiting : c.exchanges[e]? = some (.waiting q)) (hBuilt : p.isUnbuilt c.grant = false)
    (hGrant : c'.grant = c.grant) (hNotes : c'.notes = c.notes ++ later)
    (hLater : p.notes = .fetch .token .attempt :: later) (hExchanges : c'.exchanges = c.exchanges.set e p)
    (hCallers : c'.callers.length = c.callers.length)
    (hSent : c'.transport.calls.length = c.transport.calls.length) : Metered c' := by
  have hCounted : ∀ note ∈ later, note.counter?.isSome := fun note hMem =>
    p.notes_counted note (hLater ▸ List.mem_cons_of_mem _ hMem)
  constructor
  · intro note hCounter
    have hSum := sum_map_set (f := fun p => p.notes.count note) hWaiting p
    have hOpening : (Phase.waiting q).notes = [.fetch .token .attempt] := rfl
    rw [hOpening, hLater, List.count_cons, List.count_cons, List.count_nil] at hSum
    rw [hNotes, hExchanges, List.count_append, h.told note hCounter]
    omega
  · rw [hNotes, hExchanges, List.count_append, h.starts, count_decision_of_counted hCounted, List.length_set,
      Nat.add_zero]
  · rw [hNotes, hCallers, List.countP_append, h.choices, countP_isChoice_of_counted hCounted, Nat.add_zero]
  · have hCount := countP_set_of_getElem? (p := Phase.isUnbuilt c.grant) hWaiting p
    have hBefore := h.sent
    have hOpen : (Phase.waiting q).isUnbuilt c.grant = false := rfl
    rw [hBuilt, hOpen] at hCount
    rw [unbuilt, hExchanges, hSent, hGrant, List.length_set]
    unfold unbuilt at hBefore
    omega
  · intro fault hFault
    rw [← List.length_eq_zero_iff, hSent, List.length_eq_zero_iff]
    exact h.unsent fault (hGrant ▸ hFault)

/-- Where no request can be built, no exchange waits. -/
theorem Metered.built_of_waiting (h : Metered c) (hRecorded : Recorded c) {e q : Nat}
    (hWaiting : c.exchanges[e]? = some (.waiting q)) (p : Phase) : p.isUnbuilt c.grant = false := by
  obtain ⟨-, hSent, -⟩ := hRecorded.phases.waiting e q hWaiting
  have hNumber := (hRecorded.requests.sent e q hSent).2
  cases hRequest : c.grant.request with
  | error fault =>
    rw [h.unsent fault hRequest] at hNumber
    cases hNumber
  | ok r => rcases p with - | (- | -) | - | - <;> simp [Phase.isUnbuilt, hRequest]

theorem Metered.start (h : Metered c) (hIdle : c.inFlight = none) (ready : Option Reply) : Metered (c.start ready) := by
  cases hRequest : c.grant.request with
  | error fault =>
    rw [start_of_error hRequest hIdle]
    refine h.begin rfl (by simp [Exchange.openingNotes]; rfl) rfl rfl (by simp) ?_ fun _ _ => rfl
    simp [Phase.isUnbuilt, hRequest]
  | ok r =>
    rw [start_of_ok hRequest]
    refine h.begin rfl rfl rfl rfl (by simp) ?_ fun fault hFault => ?_
    · simp [Phase.isUnbuilt]
    · rw [hRequest] at hFault
      cases hFault

theorem Metered.judge (h : Metered c) (hRecorded : Recorded c) {e q : Nat}
    (hWaiting : c.exchanges[e]? = some (.waiting q)) (reply : Reply) : Metered (c.judge e reply) := by
  have hBuilt := h.built_of_waiting hRecorded hWaiting
  cases hConclude : Exchange.conclude c.classify c.clock.now reply with
  | some result =>
    rw [judge_of_some hConclude (hRecorded.inFlight_of_waiting hWaiting)]
    exact h.finish hWaiting (hBuilt _) rfl rfl rfl rfl rfl rfl
  | none =>
    rw [judge_of_none hConclude]
    exact h.finish hWaiting (hBuilt _) rfl (List.append_nil _).symm rfl rfl rfl rfl

theorem Metered.release (h : Metered c) : Metered c.release := by
  by_cases hPending : ∃ e q, c.inFlight = some e ∧ c.exchanges[e]? = some (.waiting q)
  · obtain ⟨e, q, hFlying, hWaiting⟩ := hPending
    rw [release_of_waiting hFlying hWaiting]
    exact h.finish hWaiting rfl rfl (List.append_nil _).symm rfl rfl rfl (by simp)
  · rw [release_of_not_waiting fun e q hFlying hWaiting => hPending ⟨e, q, hFlying, hWaiting⟩]
    exact h.frame rfl (List.append_nil _).symm (by simp) rfl rfl rfl

theorem Metered.move (h : Metered c) (hRecorded : Recorded c) (hMove : Move c c') : Metered c' := by
  have hSame {c' : TokenCache} (hGrant : c'.grant = c.grant) (hNotes : c'.notes = c.notes)
      (hExchanges : c'.exchanges = c.exchanges) (hCallers : c'.callers.length = c.callers.length)
      (hSent : c'.transport.calls.length = c.transport.calls.length) : Metered c' :=
    h.frame hGrant (by rw [hNotes, List.append_nil]) (by simp) hExchanges hCallers hSent
  cases hMove with
  | serve =>
    exact h.choose (d := .cacheHit) rfl (by decide) rfl rfl rfl (by simp [serve, note, record, addCaller]) rfl
  | join =>
    exact h.choose (d := .joinInFlight) rfl (by decide) rfl rfl rfl (by simp [join, note, record, addCaller]) rfl
  | start _ _ hIdle => exact h.start hIdle _
  | judge hWaiting => exact h.judge hRecorded hWaiting _
  | answer => exact hSame rfl rfl rfl (by simp [setState]) rfl
  | cancel => exact hSame rfl rfl rfl (by simp [setState, record]) rfl
  | reply => exact hSame rfl rfl rfl rfl (by simp [record])
  | setClock => exact hSame rfl rfl rfl rfl rfl
  | clear => exact h.frame rfl rfl (by simp [Note.counter?, Note.isChoice]) rfl rfl rfl
  | share => exact hSame rfl rfl rfl rfl rfl
  | giveBack => exact hSame rfl rfl rfl rfl rfl
  | release => exact h.release

theorem metered_run (grant : Grant) (classify : Classifier) (clock : Clock) (events : List Event) :
    Metered ((new grant classify clock).run events) := by
  have hBoth : Recorded ((new grant classify clock).run events) ∧ Metered ((new grant classify clock).run events) :=
    run_induction (P := fun c => Recorded c ∧ Metered c) (fun hMove h => ⟨h.1.move hMove, h.2.move h.1 hMove⟩)
      ⟨recorded_new grant classify clock, metered_new grant classify clock⟩ events
  exact hBoth.2

theorem Metered.attempts (h : Metered c) : c.notes.count (.fetch .token .attempt) = c.exchanges.length := by
  have hOne (p : Phase) : p.notes.count (.fetch .token .attempt) = if true then 1 else 0 := by
    rcases p with - | (- | t) | - | - <;> simp [Phase.notes, Exchange.closingNotes]
  rw [h.told _ rfl, sum_map_eq_countP hOne, List.countP_true]

theorem Metered.successes (h : Metered c) : c.notes.count (.fetch .token .success) = c.fated .succeeded := by
  have hOne (p : Phase) :
      p.notes.count (.fetch .token .success) = if decide (p.fate = .succeeded) then 1 else 0 := by
    rcases p with - | (- | t) | - | - <;> simp [Phase.notes, Phase.fate, Exchange.closingNotes]
  rw [h.told _ rfl, sum_map_eq_countP hOne, fated]

theorem Metered.failures (h : Metered c) : c.notes.count (.fetch .token .failure) = c.fated .failed := by
  have hOne (p : Phase) : p.notes.count (.fetch .token .failure) = if decide (p.fate = .failed) then 1 else 0 := by
    rcases p with - | (- | t) | - | - <;> simp [Phase.notes, Phase.fate, Exchange.closingNotes]
  rw [h.told _ rfl, sum_map_eq_countP hOne, fated]

theorem Metered.sources (h : Metered c) : c.notes.count (.fetch .token .success) =
    c.notes.count (.expiry .jwtClaim) + c.notes.count (.expiry .expiresIn) := by
  have hOne (p : Phase) : p.notes.count (.fetch .token .success) =
      p.notes.count (.expiry .jwtClaim) + p.notes.count (.expiry .expiresIn) := by
    rcases p with - | (- | ⟨-, -, source⟩) | - | - <;>
      simp [Phase.notes, Exchange.closingNotes, List.count_cons]
    cases source <;> simp
  rw [h.told _ rfl, h.told _ rfl, h.told _ rfl, ← List.sum_map_add]
  simp only [hOne]

theorem Metered.elsewhere (h : Metered c) (outcome : FetchOutcome) : c.notes.count (.fetch .keySet outcome) = 0 := by
  have hNone (p : Phase) : p.notes.count (.fetch .keySet outcome) = if false then 1 else 0 := by
    rcases p with - | (- | t) | - | - <;> simp [Phase.notes, Exchange.closingNotes]
  rw [h.told _ rfl, sum_map_eq_countP hNone, List.countP_false]
  rfl

theorem Move.notes (hMove : Move c c') : c.notes <+: c'.notes := by
  cases hMove with
  | serve => exact List.prefix_append ..
  | join => exact List.prefix_append ..
  | @start ready _ _ hIdle =>
    cases hRequest : c.grant.request with
    | error fault =>
      rw [start_of_error hRequest hIdle]
      simp only [List.append_assoc]
      exact List.prefix_append ..
    | ok r =>
      rw [start_of_ok hRequest]
      exact List.prefix_append ..
  | @judge e q reply =>
    unfold TokenCache.judge
    split
    · exact List.prefix_append ..
    · exact List.prefix_rfl
  | clear => exact List.prefix_append ..
  | release =>
    unfold TokenCache.release dropPending
    split <;> exact List.prefix_rfl
  | _ => exact List.prefix_rfl

theorem step_notes (c : TokenCache) (event : Event) : c.notes <+: (c.step event).notes :=
  chain_induction (P := fun c' => c.notes <+: c'.notes) (step_moves c event)
    (fun hMove hPrefix => hPrefix.trans hMove.notes) List.prefix_rfl

def Event.isCall : Event → Bool
  | .call _ => true
  | _ => false

theorem length_callers_resume (c : TokenCache) (caller : Nat) :
    (c.resume caller).callers.length = c.callers.length := by
  unfold resume
  split
  · rfl
  · unfold collect
    split
    · rw [look_callers]
    · split <;> simp [look_callers, setState]

theorem length_callers_call (c : TokenCache) (ready : Option Reply) :
    (c.call ready).callers.length = c.callers.length + 1 := by
  unfold call
  split
  · simp [serve, addCaller, note, record]
  · split
    · rw [length_callers_resume]
      simp [join, addCaller, note, record]
    · rw [length_callers_resume, start_callers, List.length_append, List.length_singleton]

/-- A caller comes with each call that runs, and otherwise none. -/
theorem length_callers_step (c : TokenCache) (event : Event) :
    (c.step event).callers.length = c.callers.length + if c.isOwned && event.isCall then 1 else 0 := by
  have hReply (q : Nat) (r : Reply) : (c.reply q r).callers = c.callers := by
    unfold reply
    split <;> rfl
  unfold step
  cases hOwned : c.isOwned with
  | true =>
    simp only [if_true, releaseUnowned_callers]
    cases event with
    | call ready => exact length_callers_call c ready
    | resume caller => exact length_callers_resume c caller
    | cancel caller =>
      unfold apply cancel
      dsimp only
      split <;> simp [setState, record, Event.isCall]
    | reply q r => exact congrArg List.length (hReply q r)
    | _ => rfl
  | false =>
    cases event with
    | reply q r => exact congrArg List.length (hReply q r)
    | _ => rfl

/-- What the metrics of a token cache add up to. -/
structure Conserved (c : TokenCache) : Prop where
  /-- Attempts are successes, failures, and the exchanges that have not settled, never will because they were dropped,
  or panicked. -/
  balance : reading c.notes (.fetch .token .attempt) =
    reading c.notes (.fetch .token .success) + reading c.notes (.fetch .token .failure) +
      c.fated .unsettled + c.fated .dropped + c.fated .panicked
  /-- Every success took its expiry from somewhere. -/
  sources : reading c.notes (.fetch .token .success) =
    reading c.notes (.expiry .jwtClaim) + reading c.notes (.expiry .expiresIn)
  /-- Every attempt was decided on. -/
  starts : reading c.notes (.fetch .token .attempt) = c.notes.count (.decision .token .startFetch)
  /-- Every attempt handed a request to the transport, unless none could be built. -/
  requests : reading c.notes (.fetch .token .attempt) = c.transport.calls.length + c.unbuilt
  /-- An event notes one choice if it is a call that runs, and otherwise none. -/
  choices : ∀ event, ∃ later, (c.step event).notes = c.notes ++ later ∧
    later.countP Note.isChoice = if c.isOwned && event.isCall then 1 else 0
  /-- The other operation is not counted. -/
  elsewhere : ∀ outcome, reading c.notes (.fetch .keySet outcome) = 0

theorem Metered.conserved (h : Metered c) (hNext : ∀ event, Metered (c.step event)) : Conserved c where
  balance := by
    have hSplit := c.length_exchanges
    simp only [reading_fetch, h.attempts, h.successes, h.failures]
    omega
  sources := by simpa using h.sources
  starts := by rw [reading_fetch, h.attempts, h.starts]
  requests := by rw [reading_fetch, h.attempts, h.sent]
  choices event := by
    obtain ⟨later, hLater⟩ := step_notes c event
    refine ⟨later, hLater.symm, ?_⟩
    have hAfter := (hNext event).choices
    rw [← hLater, List.countP_append, h.choices, length_callers_step] at hAfter
    omega
  elsewhere outcome := by rw [reading_fetch, h.elsewhere]

/-- In every run, the metrics of a token cache are conserved. -/
theorem run_conserved (grant : Grant) (classify : Classifier) (clock : Clock) (events : List Event) :
    Conserved ((new grant classify clock).run events) := by
  refine (metered_run grant classify clock events).conserved fun event => ?_
  have hNext := metered_run grant classify clock (events ++ [event])
  rwa [run, List.foldl_append] at hNext

end BearerTokens.TokenCache
