import BearerTokens.Proofs.KeySetCache.Content
import BearerTokens.Proofs.KeySetCache.Lanes
import BearerTokens.Proofs.KeySetCache.Transparency

/-!
# Independent URLs

URLs share a cache, its time to live and its clock, and nothing else: what happens at one leaves the lane of another
as it is, and a run takes the same course at a URL whether the events at another happen in it or not.
-/

set_option autoImplicit false

namespace BearerTokens.KeySetCache

open BearerTokens.Http BearerTokens.Time

variable {c c' : KeySetCache} {url u v : Url}

structure SameAt (url : Url) (c c' : KeySetCache) : Prop where
  surroundings : c.surroundings url = c'.surroundings url
  lane : c.lane url = c'.lane url

theorem SameAt.refl (url : Url) (c : KeySetCache) : SameAt url c c := ⟨rfl, rfl⟩

/-- An event elsewhere cannot be seen. -/
theorem SameAt.elsewhere (h : SameAt url c c') {event : Event} (hUrl : event.url? = some u) (hOther : u ≠ url) :
    SameAt url (c.step event) c' where
  surroundings := by
    rw [← h.surroundings]
    cases event with
    | setClock now => cases hUrl
    | _ => rfl
  lane := by
    rw [step_other, h.lane]
    rw [hUrl]
    exact fun hSame => hOther (Option.some.inj hSame)

/-- An event has the same effect in both. -/
theorem SameAt.step (h : SameAt url c c') (event : Event) : SameAt url (c.step event) (c'.step event) := by
  have hWithin (target : Url) (ready : List Reply) (act : Surroundings → Work → Work) :
      SameAt url (c.within target ready act) (c'.within target ready act) := by
    refine ⟨h.surroundings, ?_⟩
    rw [lane_within, lane_within]
    split
    · rename_i hTarget
      subst hTarget
      rw [h.surroundings, h.lane]
    · exact h.lane
  cases event with
  | call target name inquiry ready => exact hWithin target ready fun x => KeySetCache.call x name inquiry
  | resume target name ready => exact hWithin target ready fun x => resume x name
  | cancel target name => exact hWithin target [] fun x => cancel x name
  | reply target number reply => exact hWithin target [] (answerRequest number reply)
  | invalidate target => exact hWithin target [] removeEntry
  | setClock now =>
    have hShared := h.surroundings
    simp only [KeySetCache.surroundings, Surroundings.mk.injEq, true_and] at hShared
    refine ⟨?_, h.lane⟩
    simp only [KeySetCache.step, KeySetCache.surroundings, Clock.set, hShared]

/-- Leaving out events elsewhere from a run makes no difference to what it comes to. -/
theorem SameAt.run (h : SameAt url c c') (hOther : u ≠ url) {keep : Event → Bool} (events : List Event)
    (hElsewhere : ∀ event ∈ events, keep event = false → event.url? = some u) :
    SameAt url (c.run events) (c'.run (events.filter keep)) := by
  induction events generalizing c c' with
  | nil => exact h
  | cons event events ih =>
    have hRest : ∀ later ∈ events, keep later = false → later.url? = some u :=
      fun later hMem => hElsewhere later (List.mem_cons_of_mem _ hMem)
    cases hKeep : keep event with
    | true =>
      rw [List.filter_cons_of_pos hKeep]
      exact ih (h.step event) hRest
    | false =>
      rw [List.filter_cons_of_neg (Bool.eq_false_iff.1 hKeep)]
      exact ih (h.elsewhere (hElsewhere event (List.mem_cons_self ..) hKeep) hOther) hRest

/-- What happens at `u` is nothing to `v`. -/
structure Independent (start : KeySetCache) (events : List Event) (u v : Url) : Prop where
  /-- A step at `u` leaves alone the entry of `v`, its guards, the calls that hold them, wait for them or are over,
  and its requests. -/
  kept : ∀ event, event.url? = some u → ((start.run events).step event).lane v = (start.run events).lane v
  /-- A step at `u` blocks no call at `v`, and sets none free. -/
  unblocked : ∀ event, event.url? = some u → ∀ name,
    (v, name) ∈ ((start.run events).step event).runnable ↔ (v, name) ∈ (start.run events).runnable
  /-- What happens at `v` next happens just the same after a step at `u`, whose outcome does not depend on it either. -/
  commutes : ∀ event event', event.url? = some u → event'.url? = some v → ∀ url,
    (((start.run events).step event).step event').lane url = (((start.run events).step event').step event).lane url
  /-- Without any or all of the events at `u`, the run leaves behind the same entry, guards, calls, answers and
  requests at `v`. -/
  erased : ∀ keep : Event → Bool, (∀ event ∈ events, keep event = false → event.url? = some u) →
    (start.run (events.filter keep)).lane v = (start.run events).lane v

theorem lane_step_comm {event event' : Event} (hUrl : event.url? = some u) (hUrl' : event'.url? = some v)
    (hOther : u ≠ v) (url : Url) :
    ((c.step event).step event').lane url = ((c.step event').step event).lane url := by
  by_cases hv : v = url
  · subst hv
    have hSame := (SameAt.refl v c).elsewhere hUrl hOther
    rw [(hSame.step event').lane, ((SameAt.refl v _).elsewhere hUrl hOther).lane]
  · have hSame := (SameAt.refl url c).elsewhere hUrl' hv
    rw [(hSame.step event).lane, ((SameAt.refl url _).elsewhere hUrl' hv).lane]

/-- In every run, different URLs are independent of each other. -/
theorem run_independent (ttl : Int) (classify : Classifier) (clock : Clock) (checks : Checks) (events : List Event)
    (u v : Url) (hOther : u ≠ v) : Independent (empty ttl classify clock checks) events u v := by
  have hReached := (reached_empty ttl classify clock checks).run events
  have hKept {event : Event} (hUrl : event.url? = some u) :=
    (SameAt.refl v ((empty ttl classify clock checks).run events)).elsewhere hUrl hOther
  refine ⟨fun event hUrl => (hKept hUrl).lane, fun event hUrl name => ?_,
    fun event event' hUrl hUrl' => lane_step_comm hUrl hUrl' hOther, fun keep hElsewhere => ?_⟩
  · rw [mem_runnable_iff (hReached.step event).lanes, mem_runnable_iff hReached.lanes, (hKept hUrl).lane]
  · exact ((SameAt.refl v _).run hOther events hElsewhere).lane.symm

def otherUrl : Url :=
  ⟨"https", some ⟨"", none, .domain "id.example.org", none⟩, .segments ["keys"], none, none⟩

/-- Fetches at two URLs, in each of which one call waits for the guard that another holds. One URL loses its entry and
the call that downloads, while the other gets its reply. -/
def sideBySide : List Event :=
  [.call sampleUrl "a" .fetch [], .call otherUrl "a" .fetch [], .call otherUrl "b" .fetch [],
    .call sampleUrl "b" .fetch [], .cancel sampleUrl "a", .reply otherUrl 0 emptySetReply, .invalidate sampleUrl,
    .resume otherUrl "a" [], .resume sampleUrl "b" []]

theorem sideBySide_independent : sampleUrl ≠ otherUrl ∧
    (((new defaultTtl asNetworkError ⟨⟨0, by decide, by decide⟩⟩ 0).run sideBySide).lane otherUrl).entry.isSome ∧
    Independent (new defaultTtl asNetworkError ⟨⟨0, by decide, by decide⟩⟩ 0) sideBySide sampleUrl otherUrl :=
  ⟨by decide, by decide +kernel, run_independent _ _ _ _ _ _ _ (by decide)⟩

end BearerTokens.KeySetCache
