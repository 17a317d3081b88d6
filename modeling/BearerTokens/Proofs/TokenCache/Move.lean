import BearerTokens.Proofs.TokenCache.Operations
import Mathlib.Logic.Relation

/-!
# Elementary moves of a token cache

Whatever happens to a cache, it goes through moves of twelve kinds. Each kind carries what is known of the
cache at that point, so a property that every move keeps holds after every run.
-/

set_option autoImplicit false

namespace BearerTokens.TokenCache

open BearerTokens.Http BearerTokens.Time Relation

inductive Move : TokenCache → TokenCache → Prop where
  | serve {c : TokenCache} {token : HeldToken} (owned : c.isOwned = true)
      (usable : c.usable? = some token) : Move c (c.serve token)
  | join {c : TokenCache} {exchange : Nat} (owned : c.isOwned = true) (unusable : c.usable? = none)
      (flying : c.inFlight = some exchange) : Move c (c.join exchange)
  | start {c : TokenCache} {ready : Option Reply} (owned : c.isOwned = true)
      (unusable : c.usable? = none) (idle : c.inFlight = none) : Move c (c.start ready)
  | judge {c : TokenCache} {exchange request : Nat} {reply : Reply}
      (waiting : c.exchanges[exchange]? = some (.waiting request))
      (come : c.transport.reply? request = some reply) : Move c (c.judge exchange reply)
  | answer {c : TokenCache} {caller exchange : Nat} {a : Answer}
      (awaited : c.awaited? caller = some exchange)
      (ended : c.exchanges[exchange]?.bind Phase.answer? = some a) :
      Move c (c.setState caller (.answered a))
  | cancel {c : TokenCache} {caller exchange : Nat} (awaited : c.awaited? caller = some exchange) :
      Move c ((c.setState caller .cancelled).record [.cancelled caller])
  | reply {c : TokenCache} {request : Nat} {r : Reply} (waiting : c.transport.isWaiting request = true) :
      Move c ({ c with transport := c.transport.answer request r }.record [.replied request r])
  | setClock {c : TokenCache} {now : Instant} : Move c { c with clock := c.clock.set now }
  | clear {c : TokenCache} : Move c c.clear
  | share {c : TokenCache} (owned : c.isOwned = true) : Move c { c with handles := c.handles + 1 }
  | giveBack {c : TokenCache} : Move c { c with handles := c.handles - 1 }
  | release {c : TokenCache} (unowned : c.isOwned = false) : Move c c.release

def Still (c c' : TokenCache) : Prop :=
  Move c c' ∧ c'.clock = c.clock

theorem look_moves (c : TokenCache) (exchange : Nat) : ReflTransGen Still c (c.look exchange) := by
  unfold look
  split
  · rename_i request hWaiting
    split
    · exact .refl
    · rename_i reply hCome
      exact .single ⟨.judge hWaiting hCome, judge_clock c exchange reply⟩
  · exact .refl

theorem collect_moves (c : TokenCache) (caller : Nat) : ReflTransGen Still c (c.collect caller) := by
  unfold collect
  split
  · exact .refl
  · rename_i exchange hAwaited
    split
    · exact .refl
    · rename_i a hEnded
      exact .single ⟨.answer hAwaited hEnded, rfl⟩

theorem resume_moves (c : TokenCache) (caller : Nat) : ReflTransGen Still c (c.resume caller) := by
  unfold resume
  split
  · exact .refl
  · exact (look_moves c _).trans (collect_moves _ caller)

theorem call_moves {c : TokenCache} (hOwned : c.isOwned = true) (ready : Option Reply) :
    ReflTransGen Still c (c.call ready) := by
  unfold call
  split
  · rename_i token hUsable
    exact .single ⟨.serve hOwned hUsable, rfl⟩
  · rename_i hUnusable
    split
    · rename_i exchange hFlying
      exact .head ⟨.join hOwned hUnusable hFlying, rfl⟩ (resume_moves _ _)
    · rename_i hIdle
      exact .head ⟨.start hOwned hUnusable hIdle, start_clock c ready⟩ (resume_moves _ _)

theorem cancel_moves (c : TokenCache) (caller : Nat) : ReflTransGen Still c (c.cancel caller) := by
  unfold cancel
  split
  · exact .refl
  · rename_i exchange hAwaited
    exact .single ⟨.cancel hAwaited, rfl⟩

theorem reply_moves (c : TokenCache) (request : Nat) (r : Reply) :
    ReflTransGen Still c (c.reply request r) := by
  unfold reply
  split
  · rename_i hWaiting
    exact .single ⟨.reply hWaiting, rfl⟩
  · exact .refl

theorem releaseUnowned_moves (c : TokenCache) : ReflTransGen Still c c.releaseUnowned := by
  unfold releaseUnowned
  split
  · exact .refl
  · rename_i hUnowned
    exact .single ⟨.release (Bool.eq_false_iff.2 hUnowned), release_clock c⟩

theorem apply_moves {c : TokenCache} (hOwned : c.isOwned = true) {event : Event}
    (hEvent : ∀ now, event ≠ .setClock now) : ReflTransGen Still c (c.apply event) := by
  cases event with
  | call ready => exact call_moves hOwned ready
  | resume caller => exact resume_moves c caller
  | cancel caller => exact cancel_moves c caller
  | reply request r => exact reply_moves c request r
  | setClock now => exact absurd rfl (hEvent now)
  | clear => exact .single ⟨.clear, rfl⟩
  | share => exact .single ⟨.share hOwned, rfl⟩
  | giveBack => exact .single ⟨.giveBack, rfl⟩

theorem step_still (c : TokenCache) {event : Event} (hEvent : ∀ now, event ≠ .setClock now) :
    ReflTransGen Still c (c.step event) := by
  unfold step
  split
  · rename_i hOwned
    exact (apply_moves hOwned hEvent).trans (releaseUnowned_moves _)
  · split
    · exact reply_moves c _ _
    · exact absurd rfl (hEvent _)
    · exact .refl

/-- Every event is a chain of moves. -/
theorem step_moves (c : TokenCache) (event : Event) : ReflTransGen Move c (c.step event) := by
  by_cases hEvent : ∃ now, event = .setClock now
  · obtain ⟨now, rfl⟩ := hEvent
    rw [step_setClock]
    exact .single .setClock
  · have hStill := step_still c fun now h => hEvent ⟨now, h⟩
    exact ReflTransGen.mono (fun _ _ hMove => hMove.1) _ _ hStill

theorem chain_induction {R : TokenCache → TokenCache → Prop} {P : TokenCache → Prop}
    {c c' : TokenCache} (hChain : ReflTransGen R c c') (keep : ∀ {c c' : TokenCache}, R c c' → P c → P c')
    (h : P c) : P c' := by
  induction hChain with
  | refl => exact h
  | tail _ hMove ih => exact keep hMove ih

theorem run_cons (c : TokenCache) (event : Event) (events : List Event) :
    c.run (event :: events) = (c.step event).run events := rfl

theorem run_moves (c : TokenCache) (events : List Event) : ReflTransGen Move c (c.run events) := by
  induction events generalizing c with
  | nil => exact .refl
  | cons event events ih => exact (step_moves c event).trans (ih _)

/-- What every move keeps holds after every run. -/
theorem run_induction {P : TokenCache → Prop} (keep : ∀ {c c' : TokenCache}, Move c c' → P c → P c')
    {c : TokenCache} (h : P c) (events : List Event) : P (c.run events) :=
  chain_induction (run_moves c events) keep h

end BearerTokens.TokenCache
