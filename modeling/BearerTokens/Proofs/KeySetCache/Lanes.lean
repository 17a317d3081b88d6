import BearerTokens.Proofs.KeySetCache.Reclaim
import BearerTokens.Proofs.KeySetCache.Waiting

/-!
# The lanes of a cache together

What a cache says of all its lanes at once, told lane by lane: which calls would get on, and what is counted over all
URLs.
-/

set_option autoImplicit false

namespace BearerTokens.KeySetCache

open BearerTokens.Http BearerTokens.Time

variable {c : KeySetCache} {url : Url} {l : Lane}

theorem lane_of_mem (h : (c.lanes.map Prod.fst).Nodup) (hMem : (url, l) ∈ c.lanes) : c.lane url = l := by
  have hFound := find?_of_mem Prod.fst h hMem
  rw [lane, lookup_eq_find?, hFound, Option.map_some, Option.getD_some]

/-- A URL with no lane of its own has an empty one. -/
theorem mem_lanes_or_empty (c : KeySetCache) (url : Url) : (url, c.lane url) ∈ c.lanes ∨ c.lane url = .empty := by
  rw [lane, lookup_eq_find?]
  cases hFound : c.lanes.find? (·.1 == url) with
  | none => exact .inr rfl
  | some place =>
    have hUrl : place.1 = url := beq_iff_eq.1 (List.find?_some (p := fun p : Url × Lane => p.1 == url) hFound)
    exact .inl (hUrl ▸ List.mem_of_find?_eq_some hFound)

structure Reached (c : KeySetCache) : Prop where
  lanes : (c.lanes.map Prod.fst).Nodup
  excluded : ∀ url, Excluded (c.lane url) .idle
  attended : ∀ url, Attended (c.lane url) .idle
  recorded : ∀ url, Recorded (c.surroundings url) (c.lane url) .idle

theorem reached_empty (ttl : Int) (classify : Classifier) (clock : Clock) (checks : Checks) :
    Reached (empty ttl classify clock checks) :=
  ⟨List.nodup_nil, fun _ => excluded_empty, fun _ => attended_empty, fun _ => recorded_empty⟩

theorem Reached.run (h : Reached c) (events : List Event) : Reached (c.run events) where
  lanes := nodup_run h.lanes events
  excluded url := run_induction Excluded.move (h.excluded url) events
  attended url :=
    (run_induction (P := fun l a => Excluded l a ∧ Attended l a) (fun hMove h => ⟨h.1.move hMove, h.2.move hMove h.1⟩)
      ⟨h.excluded url, h.attended url⟩ events).2
  recorded url := run_keeps (P := Recorded) Recorded.move (fun now hRest => hRest.tick now) (h.recorded url) events

theorem Reached.step (h : Reached c) (event : Event) : Reached (c.step event) :=
  h.run [event]

theorem mem_runnable_iff (h : (c.lanes.map Prod.fst).Nodup) {name : CallName} :
    (url, name) ∈ c.runnable ↔
      ∃ call ∈ (c.lane url).calls, (c.lane url).isRunnable call = true ∧ call.name = name := by
  simp only [runnable, List.mem_flatMap, List.mem_map, List.mem_filter, Prod.mk.injEq]
  constructor
  · rintro ⟨⟨url', l⟩, hMem, call, ⟨hCall, hRunnable⟩, rfl, hName⟩
    rw [lane_of_mem h hMem]
    exact ⟨call, hCall, hRunnable, hName⟩
  · rintro ⟨call, hCall, hRunnable, hName⟩
    rcases mem_lanes_or_empty c url with hMem | hEmpty
    · exact ⟨_, hMem, call, ⟨hCall, hRunnable⟩, rfl, hName⟩
    · rw [hEmpty] at hCall
      cases hCall

theorem quiet_of_runnable_eq_nil (h : (c.lanes.map Prod.fst).Nodup) (hNone : c.runnable = []) (url : Url) :
    (c.lane url).Quiet := by
  intro call hMem
  refine Bool.eq_false_iff.2 fun hRunnable => ?_
  have hListed := (mem_runnable_iff h).2 ⟨call, hMem, hRunnable, rfl⟩
  rw [hNone] at hListed
  cases hListed

def total (c : KeySetCache) (count : Lane → Nat) : Nat :=
  (c.lanes.map fun place => count place.2).sum

theorem total_setLane (h : (c.lanes.map Prod.fst).Nodup) {count : Lane → Nat} (hEmpty : count .empty = 0)
    (url : Url) (l : Lane) : (c.setLane url l).total count + count (c.lane url) = c.total count + count l := by
  have hSum := sum_place Prod.fst (fun place => count place.2) h (url, l)
  have hHere : ((c.lanes.find? (·.1 == url)).map fun place => count place.2).getD 0 = count (c.lane url) := by
    rw [lane, lookup_eq_find?]
    cases c.lanes.find? (·.1 == url) with
    | none => exact hEmpty.symm
    | some place => rfl
  rw [hHere] at hSum
  exact hSum

theorem total_within (h : (c.lanes.map Prod.fst).Nodup) (count : Lane → Nat) (hEmpty : count .empty = 0)
    (url : Url) (ready : List Reply) (act : Surroundings → Work → Work) :
    (c.within url ready act).total count + count (c.lane url) =
      c.total count + count ((c.within url ready act).lane url) := by
  rw [lane_within, if_pos rfl]
  exact total_setLane h hEmpty url _

end BearerTokens.KeySetCache
