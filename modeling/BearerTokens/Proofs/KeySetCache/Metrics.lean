import BearerTokens.Proofs.KeySetCache.Balance
import BearerTokens.Proofs.KeySetCache.Lanes
import BearerTokens.Proofs.Telemetry
import Mathlib.Algebra.BigOperators.Group.List.Basic

/-!
# The metrics of a key-set cache

What is noted of downloads is what the histories of all lanes tell of them: an attempt for each request that is sent
or cannot be built, a success for each set that is stored, and a failure for each download that comes to nothing. A
download that is under way, or was given up, is noted no further.
-/

set_option autoImplicit false

namespace BearerTokens.KeySetCache

open BearerTokens.Http BearerTokens.Time Relation

variable {c : KeySetCache} {url : Url} {x : Surroundings} {m m' : Moment} {l : Lane} {a : Activity} {h : History}
  {t : Instant} {f : Fact} {note : Note}

/-- What is noted of a fact in counters. -/
def Fact.notes : Fact → List Note
  | .sent .. => [.fetch .keySet .attempt]
  | .stored .. => [.fetch .keySet .success]
  | .failed _ _ none _ => [.fetch .keySet .attempt, .fetch .keySet .failure]
  | .failed _ _ (some _) _ => [.fetch .keySet .failure]
  | _ => []

def told (note : Note) (h : History) : Nat :=
  (h.map fun f => f.2.notes.count note).sum

theorem told_append (note : Note) (h later : History) : told note (h ++ later) = told note h + told note later := by
  simp [told]

def Fact.isUnbuilt : Fact → Bool
  | .failed _ _ none _ => true
  | _ => false

def Fact.isFault : Fact → Bool
  | .failed _ _ (some _) _ => true
  | _ => false

def unbuilt (h : History) : Nat :=
  h.countP (·.2.isUnbuilt)

/-- What is told is one count or another, fact by fact. -/
theorem told_eq_countP (p p' : Fact → Bool)
    (hOne : ∀ f : Fact, f.notes.count note = (if p f then 1 else 0) + if p' f then 1 else 0) (h : History) :
    told note h = h.countP (p ·.2) + h.countP (p' ·.2) := by
  unfold told
  simp only [hOne, List.sum_map_add]
  rw [sum_map_eq_countP (fun _ => rfl), sum_map_eq_countP (fun _ => rfl)]

theorem told_attempt (h : History) : told (.fetch .keySet .attempt) h = (requests h).length + unbuilt h := by
  rw [requests, List.length_filterMap_eq_countP]
  refine told_eq_countP (fun f => f.request?.isSome) Fact.isUnbuilt (fun f => ?_) h
  rcases f with _ | _ | _ | _ | ⟨_, _, _ | _, _⟩ | _ | _ | _ | _ <;>
    simp [Fact.notes, Fact.request?, Fact.isUnbuilt]

theorem told_success (h : History) : told (.fetch .keySet .success) h = (sets h).length := by
  rw [sets, List.length_filterMap_eq_countP]
  refine (told_eq_countP (fun f => f.set?.isSome) (fun _ => false) (fun f => ?_) h).trans (by simp)
  rcases f with _ | _ | _ | _ | ⟨_, _, _ | _, _⟩ | _ | _ | _ | _ <;> simp [Fact.notes, Fact.set?]

theorem told_failure (h : History) :
    told (.fetch .keySet .failure) h = h.countP (·.2.isFault) + unbuilt h := by
  refine told_eq_countP Fact.isFault Fact.isUnbuilt (fun f => ?_) h
  rcases f with _ | _ | _ | _ | ⟨_, _, _ | _, _⟩ | _ | _ | _ | _ <;>
    simp [Fact.notes, Fact.isFault, Fact.isUnbuilt]

/-- Nothing is told of tokens. -/
theorem told_elsewhere (hOther : ∀ outcome, note ≠ .fetch .keySet outcome) (h : History) : told note h = 0 := by
  unfold told
  refine List.sum_eq_zero fun count hMem => ?_
  obtain ⟨⟨t, f⟩, -, rfl⟩ := List.mem_map.1 hMem
  rcases f with _ | _ | _ | _ | ⟨_, _, _ | _, _⟩ | _ | _ | _ | _ <;>
    simp [Fact.notes, (hOther _).symm]

/-- What has been noted is what has been told since. -/
def Tells (note : Note) (m m' : Moment) : Prop :=
  m'.work.notes.count note + told note m.work.lane.history = m.work.notes.count note + told note m'.work.lane.history

theorem tells_of_added (x : Surroundings) (added : List Note) (facts : List Fact)
    (hNotes : m'.work.notes = m.work.notes ++ added)
    (hHistory : m'.work.lane.history = m.work.lane.history ++ facts.map (x.now, ·))
    (hCount : added.count note = (facts.map fun f => f.notes.count note).sum) : Tells note m m' := by
  have hTold : told note (facts.map (x.now, ·)) = (facts.map fun f => f.notes.count note).sum := by
    simp [told, Function.comp_def]
  rw [Tells, hNotes, hHistory, told_append, List.count_append, hTold]
  omega

theorem Tells.refl (note : Note) (m : Moment) : Tells note m m := rfl

theorem Tells.trans {m'' : Moment} (hFirst : Tells note m m') (hThen : Tells note m' m'') : Tells note m m'' := by
  unfold Tells at *
  omega

theorem Move.tells (hMove : Move x m m') (hCounter : note.counter?.isSome) : Tells note m m' := by
  have hSpan (op : Operation) (stage : String) : Note.span op stage ≠ note := by
    rintro rfl
    cases hCounter
  have hDecision (op : Operation) (d : Decision) : Note.decision op d ≠ note := by
    rintro rfl
    cases hCounter
  cases hMove with
  | @begin w name => exact tells_of_added x [] [.began name] (by simp [Work.record]) rfl rfl
  | @refuse w name =>
    exact tells_of_added x [] [.began name, .finished name]
      (by simp [Work.finish, Work.setCall, Work.record]) (by simp [Work.finish, Work.setCall, Work.record]) rfl
  | @hit w name job s =>
    exact tells_of_added x [.decision .keySet .cacheHit] [.found name .lookup s.number] rfl rfl
      (by simp [hDecision, Fact.notes])
  | enter =>
    exact tells_of_added x [] [] (by simp [Work.enter]) (by simp [Work.enter, Lane.modifyGuard]) rfl
  | miss =>
    exact tells_of_added x [.decision .keySet .kidMiss] [] rfl
      (by simp [Work.enter, Work.note, Lane.modifyGuard]) (by simp [hDecision])
  | queue => exact tells_of_added x [] [] (by simp [Work.setCall]) (by simp [Work.setCall]) rfl
  | @find w name job purpose g s =>
    cases purpose with
    | lookup =>
      exact tells_of_added x [] [.found name .lookup s.number]
        (by simp [Work.leave, Work.find, Work.record]) (by simp [Work.leave, Work.find, Work.record]) rfl
    | replacement stale =>
      exact tells_of_added x [.decision .keySet .joinRefetch] [.found name (.replacement stale) s.number]
        rfl (by simp [Work.leave, Work.find, Work.record, Work.note]) (by simp [hDecision, Fact.notes])
  | @unbuilt w name job purpose g e =>
    exact tells_of_added x (openingNotes ++ [.fetch .keySet .failure]) [.failed name purpose none (.config e)]
      (by simp [KeySetCache.fail, Work.leave, Work.record, Work.note])
      (by simp [KeySetCache.fail, Work.leave, Work.record, Work.note])
      (by simp [openingNotes, hSpan, Fact.notes, List.count_cons])
  | @send w name job purpose g r =>
    exact tells_of_added x openingNotes [.sent name purpose w.lane.transport.nextNumber] rfl rfl
      (by simp [openingNotes, hSpan, Fact.notes, List.count_cons])
  | wait => exact tells_of_added x [] [] (by simp [Work.setCall]) (by simp [Work.setCall]) rfl
  | @fail w name job purpose g number reply e =>
    exact tells_of_added x [.fetch .keySet .failure] [.failed name purpose (some number) e]
      (by simp [KeySetCache.fail, Work.leave, Work.record, Work.note])
      (by simp [KeySetCache.fail, Work.leave, Work.record, Work.note]) (by simp [Fact.notes])
  | @store w name job purpose g number reply set =>
    exact tells_of_added x [.fetch .keySet .success]
      [.stored name purpose number ⟨⟨w.lane.storedCount, set⟩, x.now⟩]
      (by simp [KeySetCache.store, Work.leave, Work.record, Work.note])
      (by simp [KeySetCache.store, Work.leave, Work.record, Work.note]) (by simp [Fact.notes])
  | @finish w name =>
    exact tells_of_added x [] [.finished name] (by simp [Work.finish, Work.setCall, Work.record])
      (by simp [Work.finish, Work.setCall, Work.record]) rfl
  | wake => exact Tells.refl note _
  | reread => exact Tells.refl note _
  | @cancelQueued w name =>
    exact tells_of_added x [] [.cancelled name] (by simp [Work.giveUp, Work.setCall, Work.record])
      (by simp [Work.giveUp, Work.setCall, Work.record, Lane.modifyGuard]) rfl
  | @cancelDownload w name =>
    exact tells_of_added x [] [.cancelled name] (by simp [Work.giveUp, Work.setCall, Work.record])
      (by simp [Work.giveUp, Work.setCall, Work.record, Lane.modifyGuard]) rfl
  | @reply w number => exact tells_of_added x [] [.replied number] (by simp [Work.record]) rfl rfl
  | invalidate =>
    exact tells_of_added x [] [.invalidated] (by simp [removeEntry, Work.record]) rfl rfl

theorem chain_tells (hCounter : note.counter?.isSome) (hChain : ReflTransGen (Move x) m m') : Tells note m m' := by
  induction hChain with
  | refl => exact Tells.refl note m
  | tail _ hMove ih => exact ih.trans (hMove.tells hCounter)

/-- Every event but that of the clock takes place in one lane, which goes from rest to rest by moves. -/
theorem step_within (c : KeySetCache) (event : Event) :
    (∃ now, event = .setClock now) ∨ ∃ url ready act, c.step event = c.within url ready act ∧
      ∀ x w, ReflTransGen (Move x) ⟨w, .idle⟩ ⟨act x w, .idle⟩ := by
  cases event with
  | call url name inquiry ready =>
    exact .inr ⟨url, ready, fun x => call x name inquiry, rfl, fun x w => moves_of_telling (call_moves w name inquiry)⟩
  | resume url name ready =>
    exact .inr ⟨url, ready, fun x => resume x name, rfl, fun x w => moves_of_telling (resume_moves w name)⟩
  | cancel url name =>
    exact .inr ⟨url, [], fun x => cancel x name, rfl, fun x w => moves_of_telling (cancel_moves w name)⟩
  | reply url number reply =>
    exact .inr ⟨url, [], answerRequest number reply, rfl, fun x w =>
      moves_of_telling (answerRequest_moves w number reply)⟩
  | invalidate url => exact .inr ⟨url, [], removeEntry, rfl, fun x w => .single .invalidate⟩
  | setClock now => exact .inl ⟨now, rfl⟩

def Noted (c : KeySetCache) : Prop :=
  ∀ note : Note, note.counter?.isSome → c.notes.count note = c.total fun l => told note l.history

theorem noted_empty (ttl : Int) (classify : Classifier) (clock : Clock) (checks : Checks) :
    Noted (empty ttl classify clock checks) :=
  fun _ _ => rfl

theorem Noted.step (h : Noted c) (hLanes : (c.lanes.map Prod.fst).Nodup) (event : Event) : Noted (c.step event) := by
  intro note hCounter
  rcases step_within c event with ⟨now, rfl⟩ | ⟨url, ready, act, hStep, hMoves⟩
  · exact h note hCounter
  · have hTells := chain_tells hCounter (hMoves (c.surroundings url) ⟨c.lane url, [], ready⟩)
    have hTotal := total_within hLanes (fun l => told note l.history) rfl url ready act
    have hNotes : (c.within url ready act).notes =
        c.notes ++ (act (c.surroundings url) ⟨c.lane url, [], ready⟩).notes := rfl
    rw [lane_within, if_pos rfl] at hTotal
    rw [hStep, hNotes, List.count_append, h note hCounter]
    simp only [Tells, List.count_nil] at hTells
    omega

theorem Noted.run (h : Noted c) (hLanes : (c.lanes.map Prod.fst).Nodup) (events : List Event) :
    Noted (c.run events) := by
  induction events generalizing c with
  | nil => exact h
  | cons event events ih => exact ih (h.step hLanes event) (nodup_run hLanes [event])

theorem dropped_send (transport : Transport) (r : Request) (ready : Option Reply) :
    (transport.send r ready).dropped = transport.dropped := by
  cases ready <;> simp [Transport.send, Transport.dropped, List.countP_append]

theorem dropped_answer {transport : Transport} {number : Nat} (hWaiting : transport.state? number = some .waiting)
    (reply : Reply) : (transport.answer number reply).dropped = transport.dropped := by
  obtain ⟨call, hCall, hState⟩ := Option.map_eq_some_iff.1 hWaiting
  have hCount := countP_modify (p := fun c : Http.Call => decide (c.state = .dropped))
    (f := fun c => if c.state = .waiting then { c with state := .answered reply } else c) hCall
  simpa [Transport.answer, Transport.resolve, Transport.dropped, hState] using hCount

/-- A request that is out is dropped when it is given up. -/
theorem dropped_abandon {transport : Transport} {number : Nat} (hOut : Out transport number) :
    (transport.abandon number).dropped = transport.dropped + 1 := by
  obtain ⟨state, hState, hLive⟩ := hOut
  obtain ⟨call, hCall, rfl⟩ := Option.map_eq_some_iff.1 hState
  have hCount := countP_modify (p := fun c : Http.Call => decide (c.state = .dropped))
    (f := fun c => { c with state := .dropped }) hCall
  simpa [Transport.abandon, Transport.dropped, hLive] using hCount

/-- The requests that brought no set have failed, or were dropped. -/
def WrittenOff (l : Lane) : Prop :=
  lost l.history = l.history.countP (·.2.isFault) + l.transport.dropped

theorem WrittenOff.snoc {l l' : Lane} (h : WrittenOff l) (hHistory : l'.history = l.history ++ [(t, f)])
    (hCount : f.losses (downloads l.history) + l.transport.dropped =
      (if f.isFault then 1 else 0) + l'.transport.dropped) : WrittenOff l' := by
  unfold WrittenOff at h ⊢
  rw [hHistory, lost_snoc, List.countP_append, List.countP_singleton]
  dsimp only
  omega

theorem WrittenOff.still {l l' : Lane} (h : WrittenOff l) (hHistory : l'.history = l.history)
    (hTransport : l'.transport = l.transport) : WrittenOff l' := by
  unfold WrittenOff at h ⊢
  rw [hHistory, hTransport, h]

/-- A call that waits for the guard has no download on record, and a call that downloads has one. -/
theorem Excluded.countP_downloads (h : Excluded l a) {n : CallName} {tie : Tie} (hTie : tie? l a n = some tie) :
    (downloads l.history).countP (·.1 = n) = tie.request.toList.length := by
  obtain ⟨g, request⟩ := tie
  cases request with
  | none =>
    refine List.countP_eq_zero.2 ?_
    rintro ⟨m, q⟩ hMem hSame
    obtain rfl : m = n := of_decide_eq_true hSame
    obtain ⟨g', hOther⟩ := (h.loaded.listed m q).1 hMem
    rw [hTie] at hOther
    cases hOther
  | some q =>
    have hApart : Apart l.history := h.loaded.single
    rw [hApart.eq_of_mem ((h.loaded.listed n q).2 ⟨g, hTie⟩)]
    simp

theorem WrittenOff.move (hMove : Move x m m') (hExcluded : Excluded m.work.lane m.activity)
    (hAttended : Attended m.work.lane m.activity) (h : WrittenOff m.work.lane) : WrittenOff m'.work.lane := by
  cases hMove with
  | @begin w name => exact h.snoc (t := x.now) (f := .began name) rfl rfl
  | @refuse w name =>
    have hBegun : WrittenOff (w.record x [.began name]).lane := h.snoc (t := x.now) (f := .began name) rfl rfl
    exact hBegun.snoc (t := x.now) (f := .finished name) (by simp [Work.finish, Work.setCall, Work.record])
      (by simp [Work.finish, Work.setCall, Work.record, Fact.losses, Fact.isFault])
  | @hit w name job s => exact h.snoc (t := x.now) (f := .found name .lookup s.number) rfl rfl
  | enter => exact h.still (by simp [Work.enter, Lane.modifyGuard]) (by simp [Work.enter, Lane.modifyGuard])
  | miss =>
    exact h.still (by simp [Work.enter, Work.note, Lane.modifyGuard])
      (by simp [Work.enter, Work.note, Lane.modifyGuard])
  | queue => exact h.still (by simp [Work.setCall]) (by simp [Work.setCall])
  | @find w name job purpose g s =>
    refine h.snoc (t := x.now) (f := .found name purpose s.number) ?_ ?_
    · simp [Work.leave, lane_find]
    · simp [Work.leave, lane_find, Fact.losses, Fact.isFault]
  | @unbuilt w name job purpose g e =>
    refine h.snoc (t := x.now) (f := .failed name purpose none (.config e)) ?_ ?_
    · simp [KeySetCache.fail, Work.leave, Work.record, Work.note]
    · simp [KeySetCache.fail, Work.leave, Work.record, Work.note, Fact.losses, Fact.isFault]
  | @send w name job purpose g r =>
    refine h.snoc (t := x.now) (f := .sent name purpose w.lane.transport.nextNumber) rfl ?_
    simp [Work.send, Work.record, Work.note, dropped_send, Fact.losses, Fact.isFault]
  | wait => exact h.still (by simp [Work.setCall]) (by simp [Work.setCall])
  | @fail w name job purpose g number reply e =>
    refine h.snoc (t := x.now) (f := .failed name purpose (some number) e) ?_ ?_
    · simp [KeySetCache.fail, Work.leave, Work.record, Work.note]
    · simp [KeySetCache.fail, Work.leave, Work.record, Work.note, Fact.losses, Fact.isFault]
  | @store w name job purpose g number reply set =>
    refine h.snoc (t := x.now) (f := .stored name purpose number ⟨⟨w.lane.storedCount, set⟩, x.now⟩) ?_ ?_
    · simp [KeySetCache.store, Work.leave, Work.record, Work.note]
    · simp [KeySetCache.store, Work.leave, Work.record, Work.note, Fact.losses, Fact.isFault]
  | @finish w name =>
    refine h.snoc (t := x.now) (f := .finished name) ?_ ?_
    · simp [Work.finish, Work.setCall, Work.record]
    · simp [Work.finish, Work.setCall, Work.record, Fact.losses, Fact.isFault]
  | wake => exact h.still rfl rfl
  | reread => exact h
  | @cancelQueued w name call purpose g hKnown hQueued =>
    have hTie : tie? w.lane .idle name = some ⟨g, none⟩ := by
      rw [tie?_idle, Lane.stage?_of_known hKnown, hQueued]
      rfl
    refine h.snoc (t := x.now) (f := .cancelled name) ?_ ?_
    · simp [Work.giveUp, Work.setCall, Work.record, Lane.modifyGuard]
    · simp [Work.giveUp, Work.setCall, Work.record, Lane.modifyGuard, Fact.losses, Fact.isFault,
        hExcluded.countP_downloads hTie]
  | @cancelDownload w name call purpose g number hKnown hDownloading =>
    have hTie : tie? w.lane .idle name = some ⟨g, some number⟩ := by
      rw [tie?_idle, Lane.stage?_of_known hKnown, hDownloading]
      rfl
    refine h.snoc (t := x.now) (f := .cancelled name) ?_ ?_
    · simp [Work.giveUp, Work.setCall, Work.record, Lane.modifyGuard]
    · simp [Work.giveUp, Work.setCall, Work.record, Lane.modifyGuard, Fact.losses, Fact.isFault,
        hExcluded.countP_downloads hTie, dropped_abandon (hAttended.loads name g number hTie)]
      omega
  | @reply w number reply hWaiting =>
    refine h.snoc (t := x.now) (f := .replied number) rfl ?_
    simp [Work.record, dropped_answer (Transport.isWaiting_eq_true_iff.1 hWaiting), Fact.losses, Fact.isFault]
  | invalidate => exact h.snoc (t := x.now) (f := .invalidated) rfl rfl

theorem Reached.writtenOff_run (h : Reached c) (hOff : ∀ url, WrittenOff (c.lane url)) (events : List Event)
    (url : Url) : WrittenOff ((c.run events).lane url) :=
  (run_induction (P := fun l a => Excluded l a ∧ Attended l a ∧ WrittenOff l)
    (fun hMove h => ⟨h.1.move hMove, h.2.1.move hMove h.1, h.2.2.move hMove h.1 h.2.1⟩)
    ⟨h.excluded url, h.attended url, hOff url⟩ events).2.2

def Call.isDownloading (call : Call) : Bool :=
  match call.stage with
  | .downloading .. => true
  | _ => false

def Lane.downloading (l : Lane) : Nat :=
  l.calls.countP Call.isDownloading

theorem Call.isDownloading_eq_true_iff {call : Call} :
    call.isDownloading = true ↔ ∃ purpose g q, call.stage = .downloading purpose g q := by
  unfold isDownloading
  split <;> simp_all

theorem Excluded.mem_downloads_iff (h : Excluded l .idle) {n : CallName} {q : Nat} :
    (n, q) ∈ downloads l.history ↔
      ∃ call ∈ l.calls, call.name = n ∧ ∃ purpose g, call.stage = .downloading purpose g q := by
  rw [h.loaded.listed]
  simp only [tie?_idle_eq_some_iff, Lane.stage?_eq_some_iff h.distinct]
  constructor
  · rintro ⟨g, purpose, call, hMem, hName, hStage⟩
    exact ⟨call, hMem, hName, purpose, g, hStage⟩
  · rintro ⟨call, hMem, hName, purpose, g, hStage⟩
    exact ⟨g, purpose, call, hMem, hName, hStage⟩

/-- The downloads on record are those of the calls that download. -/
theorem Excluded.length_downloads (h : Excluded l .idle) : (downloads l.history).length = l.downloading := by
  have hApart : Apart l.history := h.loaded.single
  unfold Lane.downloading
  rcases hDownloads : downloads l.history with - | ⟨⟨n, q⟩, rest⟩
  · refine (List.countP_eq_zero.2 fun call hMem hLoads => ?_).symm
    obtain ⟨purpose, g, q, hStage⟩ := Call.isDownloading_eq_true_iff.1 hLoads
    have hListed := h.mem_downloads_iff.2 ⟨call, hMem, rfl, purpose, g, hStage⟩
    rw [hDownloads] at hListed
    cases hListed
  · have hFirst : (n, q) ∈ downloads l.history := hDownloads ▸ List.mem_cons_self ..
    have hAlone := hApart.eq_of_mem hFirst
    obtain ⟨call, hMem, rfl, purpose, g, hStage⟩ := h.mem_downloads_iff.1 hFirst
    -- a call downloads exactly if it has that name
    have hSame : ∀ other ∈ l.calls, other.isDownloading = true ↔ (other.name == call.name) = true := by
      intro other hOther
      rw [beq_iff_eq]
      constructor
      · intro hLoads
        obtain ⟨purpose', g', q', hStage'⟩ := Call.isDownloading_eq_true_iff.1 hLoads
        have hListed := h.mem_downloads_iff.2 ⟨other, hOther, rfl, purpose', g', hStage'⟩
        rw [hAlone, List.mem_singleton, Prod.mk.injEq] at hListed
        exact hListed.1
      · intro hName
        obtain rfl : other = call := List.inj_on_of_nodup_map h.distinct hOther hMem hName
        exact Call.isDownloading_eq_true_iff.2 ⟨purpose, g, q, hStage⟩
    have hOnce : l.calls.countP (fun other => other.name == call.name) = (l.calls.map Call.name).count call.name := by
      rw [List.count_eq_countP, List.countP_map]
      rfl
    rw [← hDownloads, hAlone, List.countP_congr hSame, hOnce,
      List.count_eq_one_of_mem h.distinct (List.mem_map_of_mem hMem)]
    rfl

/-- What the metrics of a key-set cache add up to. -/
structure Conserved (c : KeySetCache) : Prop where
  /-- Attempts are successes, failures, the downloads under way, and those that were given up. No download panics. -/
  balance : reading c.notes (.fetch .keySet .attempt) =
    reading c.notes (.fetch .keySet .success) + reading c.notes (.fetch .keySet .failure) +
      c.total Lane.downloading + c.total fun l => l.transport.dropped
  /-- Every attempt handed a request to the transport, unless none could be built. -/
  requests : reading c.notes (.fetch .keySet .attempt) =
    (c.total fun l => l.transport.calls.length) + c.total fun l => unbuilt l.history
  /-- The other operation is not counted. -/
  elsewhere : ∀ outcome, reading c.notes (.fetch .token outcome) = 0
  unsourced : ∀ source, reading c.notes (.expiry source) = 0

theorem total_congr (h : (c.lanes.map Prod.fst).Nodup) (count count' : Lane → Nat)
    (hSame : ∀ url, count (c.lane url) = count' (c.lane url)) : c.total count = c.total count' := by
  unfold total
  refine congrArg List.sum (List.map_congr_left fun place hMem => ?_)
  obtain ⟨url, l⟩ := place
  have hLane := hSame url
  rwa [lane_of_mem h hMem] at hLane

theorem total_add (c : KeySetCache) (count count' : Lane → Nat) :
    (c.total fun l => count l + count' l) = c.total count + c.total count' :=
  List.sum_map_add

/-- In one lane, every attempt has brought a set, has failed, is under way, or was given up. -/
theorem Reached.lane_balance (h : Reached c) (hOff : WrittenOff (c.lane url)) :
    told (.fetch .keySet .attempt) (c.lane url).history =
      told (.fetch .keySet .success) (c.lane url).history + told (.fetch .keySet .failure) (c.lane url).history +
        ((c.lane url).downloading + (c.lane url).transport.dropped) := by
  have hLawful : Lawful c.ttl ([] ++ (c.lane url).history) := (h.recorded url).stocked.lawful
  have hApart : Apart ([] ++ (c.lane url).history) := (h.excluded url).loaded.single
  have hBalance := hLawful.requests_balance hApart rfl
  rw [(h.excluded url).length_downloads] at hBalance
  rw [told_attempt, told_success, told_failure, hBalance, hOff]
  omega

theorem Reached.conserved (h : Reached c) (hOff : ∀ url, WrittenOff (c.lane url)) (hNoted : Noted c) :
    Conserved c where
  balance := by
    have hTotal := total_congr h.lanes
      (fun l => told (.fetch .keySet .attempt) l.history)
      (fun l => told (.fetch .keySet .success) l.history + told (.fetch .keySet .failure) l.history +
        (l.downloading + l.transport.dropped)) fun url => h.lane_balance (hOff url)
    rw [total_add, total_add, total_add] at hTotal
    rw [reading_fetch, reading_fetch, reading_fetch, hNoted _ rfl, hNoted _ rfl, hNoted _ rfl, hTotal, ← Nat.add_assoc]
  requests := by
    have hTotal := total_congr h.lanes
      (fun l => told (.fetch .keySet .attempt) l.history)
      (fun l => l.transport.calls.length + unbuilt l.history) fun url => by
        rw [told_attempt, (h.recorded url).stocked.requests]
    rw [total_add] at hTotal
    rw [reading_fetch, hNoted _ rfl, hTotal]
  elsewhere outcome := by
    have hNone (l : Lane) : told (.fetch .token outcome) l.history = 0 := told_elsewhere (by simp) _
    rw [reading_fetch, hNoted _ rfl]
    simp [hNone, total]
  unsourced source := by
    have hNone (l : Lane) : told (.expiry source) l.history = 0 := told_elsewhere (by simp) _
    rw [reading_expiry, hNoted _ rfl]
    simp [hNone, total]

/-- In every run, the metrics of a key-set cache are conserved. -/
theorem run_conserved (ttl : Int) (classify : Classifier) (clock : Clock) (checks : Checks) (events : List Event) :
    Conserved ((empty ttl classify clock checks).run events) :=
  ((reached_empty ttl classify clock checks).run events).conserved
    ((reached_empty ttl classify clock checks).writtenOff_run (fun _ => rfl) events)
    ((noted_empty ttl classify clock checks).run List.nodup_nil events)

end BearerTokens.KeySetCache
