import BearerTokens.Proofs.Service.Lockstep
import BearerTokens.Proofs.Text.Utf8
import BearerTokens.Proofs.TokenCache.Economy
import BearerTokens.Proofs.TokenCache.FanOut
import BearerTokens.Proofs.TokenCache.Metrics
import BearerTokens.Proofs.TokenCache.Ownership

/-!
# Callers that want a header

A header is made of a token when its caller is answered. It holds the token as it is, or there is none. Whether a caller
wants one is seen by nobody else, so a token that no header can hold is kept and handed out like any other.
-/

set_option autoImplicit false

namespace BearerTokens

open BearerTokens.Http BearerTokens.Text

def Secret.IsRenderable (token : Secret) : Prop :=
  ∀ b ∈ Utf8.ofString token.expose, b = 0x09 ∨ 0x20 ≤ b ∧ b ≠ 0x7F

instance (token : Secret) : Decidable token.IsRenderable :=
  inferInstanceAs (Decidable (∀ b ∈ Utf8.ofString token.expose, b = 0x09 ∨ 0x20 ≤ b ∧ b ≠ 0x7F))

def Http.Header.IsClean (h : Header) : Prop :=
  ∀ b ∈ Utf8.ofString h.value, b ∉ [0x0D, 0x0A, 0x00]

theorem isHeaderByte_iff {b : UInt8} : isHeaderByte b = true ↔ b = 0x09 ∨ 0x20 ≤ b ∧ b ≠ 0x7F := by
  simp [isHeaderByte]

theorem Http.Header.clean_of_make {value : String} {isSensitive : Bool} {h : Header}
    (hMake : make? value isSensitive = some h) : h.IsClean := by
  obtain ⟨hBytes, hValue⟩ := Option.ite_none_right_eq_some.1 hMake
  cases hValue
  intro b hb hBad
  have hByte := List.all_eq_true.1 hBytes b hb
  simp only [List.mem_cons, List.not_mem_nil, or_false] at hBad
  obtain rfl | rfl | rfl := hBad <;> cases hByte

namespace Secret

variable {token : Secret} {h : Header} {e : Error}

theorem headerBytes_iff : (Utf8.ofString ("Bearer " ++ token.expose)).all isHeaderByte = true ↔ token.IsRenderable := by
  have hScheme : (Utf8.encode "Bearer ".toList).all isHeaderByte = true := by decide
  rw [Utf8.ofString, String.toList_append, Utf8.encode_append, List.all_append, hScheme, Bool.true_and, List.all_eq_true]
  simp only [isHeaderByte_iff]
  rfl

theorem bearer_of_renderable (hBytes : token.IsRenderable) : token.bearer = .ok ⟨"Bearer " ++ token.expose, true⟩ := by
  rw [bearer, Header.make?, if_pos (headerBytes_iff.2 hBytes)]

theorem bearer_of_not_renderable (hBytes : ¬ token.IsRenderable) : token.bearer = .error (.config .invalidHeader) := by
  rw [bearer, Header.make?, if_neg (mt headerBytes_iff.1 hBytes)]

theorem clean_of_bearer (hBearer : token.bearer = .ok h) : h.IsClean := by
  rw [bearer] at hBearer
  split at hBearer
  · rename_i hMake
    cases hBearer
    exact Header.clean_of_make hMake
  · cases hBearer

structure Renders (token : Secret) : Prop where
  ok_iff : ∀ h, token.bearer = .ok h ↔ token.IsRenderable ∧ h = ⟨"Bearer " ++ token.expose, true⟩
  error_iff : ∀ e, token.bearer = .error e ↔ ¬ token.IsRenderable ∧ e = .config .invalidHeader
  clean : ∀ h, token.bearer = .ok h → h.IsClean

theorem renders (token : Secret) : token.Renders := by
  by_cases hBytes : token.IsRenderable
  · have hBearer := bearer_of_renderable hBytes
    refine ⟨fun h => ?_, fun e => ?_, fun h => clean_of_bearer⟩
    · rw [hBearer, and_iff_right hBytes, Except.ok.injEq, eq_comm]
    · rw [hBearer]
      exact iff_of_false (by simp) fun hNot => hNot.1 hBytes
  · have hBearer := bearer_of_not_renderable hBytes
    refine ⟨fun h => ?_, fun e => ?_, fun h => clean_of_bearer⟩
    · rw [hBearer]
      exact iff_of_false (by simp) fun hOk => hBytes hOk.1
    · rw [hBearer, and_iff_right hBytes, Except.error.injEq, eq_comm]

end Secret

namespace TokenCache

variable {c : TokenCache} {k : Nat}

/-- No caller to come gets this number: one has it, or no more are let in. -/
def Taken (c : TokenCache) (k : Nat) : Prop :=
  k < c.callers.length ∨ c.isOwned = false

theorem step_unowned (hUnowned : c.isOwned = false) (event : Event) : (c.step event).isOwned = false :=
  isOwned_eq_false_iff_holders.2 (step_unheld (isOwned_eq_false_iff_holders.1 hUnowned) event)

theorem Taken.step (h : c.Taken k) (event : Event) : (c.step event).Taken k := by
  obtain hLess | hUnowned := h
  · left
    rw [length_callers_step]
    exact Nat.lt_add_right _ hLess
  · exact .inr (step_unowned hUnowned event)

theorem taken_call (c : TokenCache) (ready : Option Reply) : (c.step (.call ready)).Taken c.callers.length := by
  cases hOwned : c.isOwned with
  | true =>
    left
    rw [length_callers_step, hOwned]
    exact Nat.lt_succ_self _
  | false => exact .inr (step_unowned hOwned _)

theorem Taken.lt_of_lt_step (h : c.Taken k) {event : Event} (hk : k < (c.step event).callers.length) :
    k < c.callers.length := by
  obtain hLess | hUnowned := h
  · exact hLess
  · simpa [length_callers_step, hUnowned] using hk

theorem lt_of_answer {a : Answer} (hAnswer : c.answer? k = some a) : k < c.callers.length := by
  obtain ⟨x, hCaller⟩ := answer?_eq_some_iff.1 hAnswer
  exact (List.getElem?_eq_some_iff.1 hCaller).1

structure Untouched (c d : TokenCache) : Prop where
  transport : d.transport = c.transport
  cached : d.cached = c.cached
  inFlight : d.inFlight = c.inFlight
  exchanges : d.exchanges = c.exchanges

end TokenCache

namespace Service

variable {s t : Service} {c : TokenCache} {headers : List Nat} {k : Nat}

/-- What a caller gets that wants a header, in place of what it would get else. -/
def Outcome.rendered : Outcome → Outcome
  | .token secret =>
    match secret.bearer with
    | .ok h => .header h
    | .error e => .failure e
  | outcome => outcome

theorem ofAnswer_rendered (a : TokenCache.Answer) : Outcome.ofAnswer true a = (Outcome.ofAnswer false a).rendered := by
  cases a <;> rfl

theorem run_append (s : Service) (earlier later : List Event) : s.run (earlier ++ later) = (s.run earlier).run later :=
  List.foldl_append

theorem run_induction {P : Service → Prop} (hStep : ∀ {s : Service}, P s → ∀ event, P (s.step event)) (h : P s)
    (events : List Event) : P (s.run events) := by
  induction events generalizing s with
  | nil => exact h
  | cons event events ih => exact ih (hStep h event)

theorem contains_congr {l l' : List Nat} (h : k ∈ l ↔ k ∈ l') : l.contains k = l'.contains k := by
  rw [Bool.eq_iff_iff, List.contains_iff_mem, List.contains_iff_mem, h]

/-- Who is marked as wanting a header has come, or was not let in. -/
def Marked : Service → Prop
  | available cache headers => ∀ i ∈ headers, cache.Taken i
  | unavailable .. => True

theorem Marked.step (h : s.Marked) (event : Event) : (s.step event).Marked := by
  cases s with
  | unavailable missing callers => cases event <;> trivial
  | available c headers =>
    cases event with
    | get | invalidate | cache => exact fun i hi => (h i hi).step _
    | header ready =>
      intro i hi
      obtain hOld | hNew := List.mem_append.1 hi
      · exact (h i hOld).step _
      · rw [List.mem_singleton.1 hNew]
        exact c.taken_call ready

theorem Marked.run (h : s.Marked) (events : List Event) : (s.run events).Marked :=
  run_induction Marked.step h events

/-- Two services of which only the first knows of one caller that it wants a header. -/
inductive Apart (k : Nat) : Service → Service → Prop where
  | available {c : TokenCache} {headers headers' : List Nat} (taken : c.Taken k)
      (others : ∀ i, i ≠ k → (i ∈ headers ↔ i ∈ headers')) (self : k < c.callers.length → k ∈ headers ∧ k ∉ headers') :
      Apart k (.available c headers) (.available c headers')
  | unavailable (missing : List Required) (callers : Nat) :
      Apart k (.unavailable missing callers) (.unavailable missing callers)

namespace Apart

theorem step (h : Apart k s t) (event : Event) : Apart k (s.step event) (t.step event) := by
  cases h with
  | unavailable missing callers =>
    cases event with
    | get | header => exact .unavailable missing (callers + 1)
    | invalidate | cache => exact .unavailable missing callers
  | @available c headers headers' hTaken hOthers hSelf =>
    cases event with
    | get | invalidate | cache =>
      exact .available (hTaken.step _) hOthers fun hk => hSelf (hTaken.lt_of_lt_step hk)
    | header ready =>
      refine .available (hTaken.step _) (fun i hi => ?_) fun hk => ?_
      · rw [List.mem_append, List.mem_append, hOthers i hi]
      · -- the number that is marked in both is new, and `k` is not
        have hLess := hTaken.lt_of_lt_step hk
        obtain ⟨hIn, hOut⟩ := hSelf hLess
        refine ⟨List.mem_append_left _ hIn, fun hMem => ?_⟩
        obtain hOld | hNew := List.mem_append.1 hMem
        · exact hOut hOld
        · exact Nat.ne_of_lt hLess (List.mem_singleton.1 hNew)

theorem run (h : Apart k s t) (events : List Event) : Apart k (s.run events) (t.run events) := by
  induction events generalizing s t with
  | nil => exact h
  | cons event events ih => exact ih (h.step event)

theorem cache?_eq (h : Apart k s t) : t.cache? = s.cache? := by
  cases h <;> rfl

theorem shown_eq (h : Apart k s t) : t.shown = s.shown := by
  cases h <;> rfl

theorem outcome_of_ne (h : Apart k s t) {i : Nat} (hi : i ≠ k) : t.outcome? i = s.outcome? i := by
  cases h with
  | unavailable => rfl
  | available _ hOthers _ =>
    rw [outcome?, outcome?, contains_congr (hOthers i hi)]

theorem outcome_self (h : Apart k s t) : s.outcome? k = (t.outcome? k).map Outcome.rendered := by
  cases h with
  | unavailable missing callers =>
    rw [outcome?]
    split <;> rfl
  | @available c headers headers' _ _ hSelf =>
    rw [outcome?, outcome?]
    cases hAnswer : c.answer? k with
    | none => rfl
    | some a =>
      obtain ⟨hIn, hOut⟩ := hSelf (TokenCache.lt_of_answer hAnswer)
      rw [List.contains_iff_mem.2 hIn, Bool.eq_false_iff.2 (mt List.contains_iff_mem.1 hOut)]
      exact congrArg some (ofAnswer_rendered a)

end Apart

theorem Marked.apart (h : s.Marked) (ready : Option Reply) :
    Apart s.callers (s.step (.header ready)) (s.step (.get ready)) := by
  cases s with
  | unavailable missing callers => exact .unavailable missing (callers + 1)
  | available c headers =>
    refine .available (c.taken_call ready) (fun i hi => ?_) fun hk => ?_
    · have hOther : i ∉ [c.callers.length] := mt List.mem_singleton.1 hi
      rw [List.mem_append, or_iff_left hOther]
    · refine ⟨List.mem_append_right _ (List.mem_singleton_self _), fun hMem => ?_⟩
      -- a number that was marked before would be taken, and no call could get it now
      exact Nat.lt_irrefl _ ((h _ hMem).lt_of_lt_step hk)

theorem step_outcome_lasts {o : Outcome} (hOutcome : s.outcome? k = some o) (event : Event) :
    (s.step event).outcome? k = some o := by
  cases s with
  | unavailable missing callers =>
    obtain ⟨hLess, hSame⟩ := Option.ite_none_right_eq_some.1 hOutcome
    cases event with
    | get | header => exact (if_pos (Nat.lt_succ_of_lt hLess)).trans hSame
    | invalidate | cache => exact hOutcome
  | available c headers =>
    obtain ⟨a, hAnswer, rfl⟩ := Option.map_eq_some_iff.1 hOutcome
    have hLasts (e : TokenCache.Event) : (c.step e).answer? k = some a := TokenCache.run_answer_lasts hAnswer [e]
    cases event with
    | get | invalidate | cache => exact Option.map_eq_some_iff.2 ⟨a, hLasts _, rfl⟩
    | header ready =>
      refine Option.map_eq_some_iff.2 ⟨a, hLasts _, ?_⟩
      have hOther : k ∉ [c.callers.length] := mt List.mem_singleton.1 (Nat.ne_of_lt (TokenCache.lt_of_answer hAnswer))
      rw [contains_congr (List.mem_append.trans (or_iff_left hOther))]

theorem run_outcome_lasts {o : Outcome} (hOutcome : s.outcome? k = some o) (events : List Event) :
    (s.run events).outcome? k = some o :=
  run_induction (P := fun s => s.outcome? k = some o) step_outcome_lasts hOutcome events

theorem clean_of_outcome {h : Header} (hOutcome : s.outcome? k = some (.header h)) : h.IsClean := by
  cases s with
  | unavailable missing callers => cases (Option.ite_none_right_eq_some.1 hOutcome).2
  | available c headers =>
    obtain ⟨a, -, hOf⟩ := Option.map_eq_some_iff.1 hOutcome
    cases a with
    | failure | overflow => cases hOf
    | token secret =>
      rw [Outcome.ofAnswer] at hOf
      split at hOf
      · split at hOf
        · rename_i hBearer
          cases hOf
          exact Secret.clean_of_bearer hBearer
        · cases hOf
      · cases hOf

theorem step_header_of_usable (hOwned : c.isOwned = true) {token : HeldToken} (hUsable : c.usable? = some token)
    (ready : Option Reply) :
    (available c headers).step (.header ready) = available (c.serve token) (headers ++ [c.callers.length]) := by
  rw [step, TokenCache.step_call_of_usable hOwned hUsable]

theorem outcome_serve (token : HeldToken) :
    (available (c.serve token) (headers ++ [c.callers.length])).outcome? c.callers.length =
      some (Outcome.ofAnswer true (.token token.secret)) := by
  have hAnswer : (c.serve token).answer? c.callers.length = some (.token token.secret) :=
    TokenCache.answer?_eq_some_iff.2 ⟨none, List.getElem?_concat_length ..⟩
  rw [outcome?, hAnswer, List.contains_iff_mem.2 (List.mem_append_right _ (List.mem_singleton_self _))]
  rfl

/-- However many callers want a header of the token that is held, each has its outcome at once, and the token stays. -/
theorem run_headers_of_usable (hOwned : c.isOwned = true) {token : HeldToken} (hUsable : c.usable? = some token)
    (headers : List Nat) (calls : List (Option Reply)) :
    (∃ d, ((available c headers).run (calls.map .header)).cache? = some d ∧ d.usable? = some token ∧ c.Untouched d) ∧
      ∀ i < calls.length, ((available c headers).run (calls.map .header)).outcome? (c.callers.length + i) =
        some (Outcome.ofAnswer true (.token token.secret)) := by
  induction calls generalizing c headers with
  | nil => exact ⟨⟨c, rfl, hUsable, rfl, rfl, rfl, rfl⟩, fun i hi => absurd hi (Nat.not_lt_zero i)⟩
  | cons ready calls ih =>
    have hStill : (c.serve token).isOwned = true := TokenCache.isOwned_addCaller hOwned _
    have hRun : (available c headers).run ((ready :: calls).map .header) =
        (available (c.serve token) (headers ++ [c.callers.length])).run (calls.map .header) := by
      rw [← step_header_of_usable hOwned hUsable ready]
      rfl
    obtain ⟨⟨d, hCache, hUsable', hSame⟩, hRest⟩ := ih hStill hUsable (headers ++ [c.callers.length])
    rw [hRun]
    refine ⟨⟨d, hCache, hUsable', hSame.transport, hSame.cached, hSame.inFlight, hSame.exchanges⟩, fun i hi => ?_⟩
    cases i with
    | zero => exact run_outcome_lasts (outcome_serve token) _
    | succ i =>
      have hCount : (c.serve token).callers.length = c.callers.length + 1 := List.length_append
      have hLater := hRest i (Nat.lt_of_succ_lt_succ hi)
      rwa [hCount, Nat.add_assoc, Nat.add_comm 1 i] at hLater

/-- What depends on it that a certain caller wants a header. -/
structure Replaceable (s : Service) (before : List Event) (ready : Option Reply) (after : List Event) : Prop where
  cache : (s.run (before ++ .get ready :: after)).cache? = (s.run (before ++ .header ready :: after)).cache?
  requests : (s.run (before ++ .get ready :: after)).requests = (s.run (before ++ .header ready :: after)).requests
  shown : (s.run (before ++ .get ready :: after)).shown = (s.run (before ++ .header ready :: after)).shown
  others : ∀ caller, caller ≠ (s.run before).callers →
    (s.run (before ++ .get ready :: after)).outcome? caller = (s.run (before ++ .header ready :: after)).outcome? caller
  self : (s.run (before ++ .header ready :: after)).outcome? (s.run before).callers =
    ((s.run (before ++ .get ready :: after)).outcome? (s.run before).callers).map Outcome.rendered

theorem Marked.replaceable (h : s.Marked) (before : List Event) (ready : Option Reply) (after : List Event) :
    s.Replaceable before ready after := by
  have hApart : Apart (s.run before).callers (s.run (before ++ .header ready :: after))
      (s.run (before ++ .get ready :: after)) := by
    rw [run_append, run_append]
    exact ((h.run before).apart ready).run after
  have hCache := hApart.cache?_eq
  refine ⟨hCache, ?_, hApart.shown_eq, fun caller hOther => hApart.outcome_of_ne hOther, hApart.outcome_self⟩
  rw [requests, requests, hCache]

/-- What it takes of a service to answer callers that want a header. -/
structure Unconcerned (s : Service) : Prop where
  replaceable : ∀ before ready after, s.Replaceable before ready after
  clean : ∀ events caller h, (s.run events).outcome? caller = some (.header h) → h.IsClean
  /-- All that want a header of a token that no header can hold are refused at once and for good, and the token stays. -/
  refused : ∀ events c token, (s.run events).cache? = some c → c.isOwned = true → c.usable? = some token →
    ¬ token.secret.IsRenderable → ∀ calls : List (Option Reply),
      (∃ d, (s.run (events ++ calls.map .header)).cache? = some d ∧ d.usable? = some token ∧ c.Untouched d) ∧
        ∀ i < calls.length, ∀ after, (s.run (events ++ calls.map .header ++ after)).outcome?
          ((s.run events).callers + i) = some (.failure (.config .invalidHeader))

theorem refused_of_unrenderable {token : HeldToken} (hToken : ¬ token.secret.IsRenderable) :
    Outcome.ofAnswer true (.token token.secret) = .failure (.config .invalidHeader) := by
  rw [Outcome.ofAnswer, if_pos rfl, Secret.bearer_of_not_renderable hToken]

theorem Marked.unconcerned (h : s.Marked) : s.Unconcerned where
  replaceable := h.replaceable
  clean _ _ _ := clean_of_outcome
  refused events c token hCache hOwned hUsable hToken calls := by
    rw [run_append]
    cases hRun : s.run events with
    | unavailable missing callers =>
      rw [hRun] at hCache
      cases hCache
    | available c' headers =>
      rw [hRun] at hCache
      cases hCache
      obtain ⟨hStays, hOutcomes⟩ := run_headers_of_usable hOwned hUsable headers calls
      refine ⟨hStays, fun i hi after => ?_⟩
      rw [run_append, run_append, hRun, ← refused_of_unrenderable hToken]
      exact run_outcome_lasts (hOutcomes i hi) after

/-- Headers are free of line breaks, and to want one has no effect but on what one gets. -/
theorem headers_harmless : (∀ token : Secret, token.Renders) ∧ (∀ cache, (ofCache cache).Unconcerned) ∧
    ∀ missing callers, (unavailable missing callers).Unconcerned :=
  ⟨Secret.renders, fun _ => Marked.unconcerned (List.forall_mem_nil _), fun _ _ => Marked.unconcerned trivial⟩

/-- A service that was sent a token with a line break in it for its first caller. The second wants a header. -/
def brokenService : Service :=
  (ofCache (.new TokenCache.sampleGrant asNetworkError ⟨TokenCache.epoch⟩)).run
    [.get (some (.response ⟨200, Utf8.ofString "\x7b\"access_token\":\"a\\nb\",\"expires_in\":3600\x7d"⟩)), .header none]

example : (brokenService.cache?.bind TokenCache.usable?).map (·.secret) = some ⟨"a\nb"⟩ ∧
    brokenService.outcome? 0 = some (.token ⟨"a\nb"⟩) ∧
    brokenService.outcome? 1 = some (.failure (.config .invalidHeader)) :=
  ⟨rfl, rfl, rfl⟩

end Service

end BearerTokens
