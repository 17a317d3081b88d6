import BearerTokens.Proofs.KeySetCache.Rejection
import BearerTokens.Proofs.KeySetCache.Turns

/-!
# Pacing of downloads

Under a clock that never goes back, a fetch stores a set no sooner than the time to live after every set that was
stored before and not invalidated since. The entry may be checked, the guard waited for, the request sent and the
reply read at four instants, with other calls in between; but nothing is stored between the sending and the reading,
and the entry was too old at the sending.
-/

set_option autoImplicit false

namespace BearerTokens.KeySetCache

open BearerTokens.Http BearerTokens.Time

def Event.clockAfter (now : Instant) : Event → Instant
  | .setClock t => t
  | _ => now

def NeverBack (now : Instant) : List Event → Prop
  | [] => True
  | event :: events => now ≤ event.clockAfter now ∧ NeverBack (event.clockAfter now) events

instance decidableNeverBack : (now : Instant) → (events : List Event) → Decidable (NeverBack now events)
  | _, [] => .isTrue trivial
  | now, event :: events =>
    have : Decidable (NeverBack (event.clockAfter now) events) := decidableNeverBack _ events
    inferInstanceAs (Decidable (now ≤ event.clockAfter now ∧ NeverBack (event.clockAfter now) events))

theorem step_clock (c : KeySetCache) (event : Event) :
    (c.step event).clock.now = event.clockAfter c.clock.now := by
  cases event <;> rfl

theorem ttl_step (c : KeySetCache) (event : Event) : (c.step event).ttl = c.ttl := by
  cases event <;> rfl

theorem ttl_run (c : KeySetCache) (events : List Event) : (c.run events).ttl = c.ttl := by
  induction events generalizing c with
  | nil => rfl
  | cons event events ih => exact (ih (c.step event)).trans (ttl_step c event)

variable {c : KeySetCache} {url : Url} {h : History} {ttl : Int}

/-- A history that is told in the order of the clock. -/
structure Timely (h : History) (now : Instant) : Prop where
  ordered : h.Pairwise fun earlier later => earlier.1 ≤ later.1
  past : ∀ p ∈ h, p.1 ≤ now

theorem timely_nil (now : Instant) : Timely [] now := ⟨.nil, by simp⟩

theorem Timely.adds {x : Surroundings} {p : Fact → Prop} {h' : History} (hTimely : Timely h x.now)
    (hAdds : Adds x p h h') : Timely h' x.now := by
  obtain ⟨later, rfl, hLater⟩ := hAdds
  have hNow {f : Instant × Fact} (hf : f ∈ later) : f.1 = x.now := (hLater f hf).1
  refine ⟨List.pairwise_append.2 ⟨hTimely.ordered, ?_, fun f hf g hg => ?_⟩, fun f hf => ?_⟩
  · refine pairwise_of_split fun before f mid g after hSplit => ?_
    rw [hNow (f := f) (by simp [hSplit]), hNow (f := g) (by simp [hSplit])]
    exact Int.le_refl _
  · rw [hNow hg]
    exact hTimely.past f hf
  · rcases List.mem_append.1 hf with hOld | hNew
    · exact hTimely.past f hOld
    · rw [hNow hNew]
      exact Int.le_refl _

theorem Timely.run (hTimely : Timely (c.lane url).history c.clock.now) {events : List Event}
    (hForward : NeverBack c.clock.now events) :
    Timely ((c.run events).lane url).history (c.run events).clock.now := by
  induction events generalizing c with
  | nil => exact hTimely
  | cons event events ih =>
    have hTold := hTimely.adds (x := c.surroundings url) (step_adds c url event)
    refine ih (c := c.step event) ⟨hTold.ordered, fun p hp => ?_⟩ ?_
    · rw [step_clock]
      exact Int.le_trans (hTold.past p hp) hForward.1
    · rw [step_clock]
      exact hForward.2

/-- How far apart sets are stored. -/
structure Paced (ttl : Int) (h : History) : Prop where
  /-- Every set that a fetch stores is stored at least the time to live after every set that was stored earlier and
  not invalidated since. -/
  fetched : ∀ before t' n' purpose' q' e' after t n q e later,
    h = before ++ (t', .stored n' purpose' q' e') :: (after ++ (t, .stored n .lookup q e) :: later) →
    ¬ Happened after .invalidated → e'.fetchedAt = t' ∧ e.fetchedAt = t ∧ t'.nanos ≤ t.nanos - ttl
  /-- So where nothing is replaced and nothing is invalidated, any two sets are stored that far apart. -/
  apart : (∀ n stale q e, ¬ Happened h (.stored n (.replacement stale) q e)) → ¬ Happened h .invalidated →
    h.Pairwise fun earlier later =>
      earlier.2.set?.isSome → later.2.set?.isSome → earlier.1.nanos ≤ later.1.nanos - ttl

theorem Lawful.fetched_apart {before after later : History} {t' t : Instant} {n' n : CallName} {purpose' : Purpose}
    {q' q : Nat} {e' e : Entry}
    (hLawful : Lawful ttl (before ++ (t', .stored n' purpose' q' e') :: (after ++ (t, .stored n .lookup q e) :: later)))
    (hApart : Apart (before ++ (t', .stored n' purpose' q' e') :: (after ++ (t, .stored n .lookup q e) :: later)))
    (hOrdered : (before ++ (t', .stored n' purpose' q' e') :: (after ++ (t, .stored n .lookup q e) :: later)).Pairwise
      fun earlier later => earlier.1 ≤ later.1)
    (hKept : ¬ Happened after .invalidated) : t'.nanos ≤ t.nanos - ttl := by
  have hSplit : before ++ (t', .stored n' purpose' q' e') :: (after ++ (t, .stored n .lookup q e) :: later) =
      (before ++ (t', .stored n' purpose' q' e') :: after) ++ (t, .stored n .lookup q e) :: later := by simp
  rw [hSplit] at hLawful hApart
  obtain ⟨mid, t₀, rest, rfl, s, m, p, r, known, hMem, -, hStale⟩ :=
    hLawful.split.known_when_sent hApart.split hKept hLawful.allows.1
  -- the entry that was known at the sending was stored after the earlier set, and was too old by then
  have hFetched : known.fetchedAt = s := by
    have hStored := List.mem_append_left ((t₀, .sent n .lookup q) :: rest) hMem
    exact hLawful.split.fetchedAt_eq (List.mem_append_right before hStored)
  have hAfter : t'.nanos ≤ s.nanos := by
    rcases List.mem_cons.1 hMem with hSame | hLater
    · cases hSame
      exact Int.le_refl _
    · have hOrder := rel_of_pairwise hOrdered (b := (s, .stored m p r known)) (by simp [hLater])
      exact hOrder
  have hBefore : t₀.nanos ≤ t.nanos := by
    have hSent : before ++ (t', .stored n' purpose' q' e') :: (mid ++ (t₀, .sent n .lookup q) :: rest ++
        (t, .stored n .lookup q e) :: later) = (before ++ (t', .stored n' purpose' q' e') :: mid) ++
        (t₀, .sent n .lookup q) :: (rest ++ (t, .stored n .lookup q e) :: later) := by simp
    rw [hSent] at hOrdered
    have hOrder := rel_of_pairwise hOrdered (List.mem_append_right rest List.mem_cons_self)
    exact hOrder
  have hOld : ¬ t₀.nanos - s.nanos < ttl := by
    rw [← hFetched]
    exact hStale
  omega

theorem paced_of_lawful (hLawful : Lawful ttl h) (hApart : Apart h)
    (hOrdered : h.Pairwise fun earlier later => earlier.1 ≤ later.1) : Paced ttl h := by
  constructor
  · rintro before t' n' purpose' q' e' after t n q e later rfl hKept
    refine ⟨hLawful.allows.2.2, ?_, hLawful.fetched_apart hApart hOrdered hKept⟩
    rw [List.append_cons, ← List.append_assoc] at hLawful
    exact hLawful.allows.2.2
  · intro hFetches hKept
    refine pairwise_of_split fun before earlier mid later after hSplit hFirst hSecond => ?_
    obtain ⟨t', f'⟩ := earlier
    obtain ⟨t, f⟩ := later
    cases f' with
    | stored n' purpose' q' e' =>
      cases f with
      | stored n purpose q e =>
        cases purpose with
        | lookup =>
          rw [hSplit] at hLawful hApart hOrdered
          refine hLawful.fetched_apart hApart hOrdered fun hBetween => hKept ?_
          obtain ⟨s, hMem⟩ := hBetween
          exact ⟨s, by simp [hSplit, hMem]⟩
        | replacement stale => exact absurd ⟨t, by simp [hSplit]⟩ (hFetches n stale q e)
      | _ => cases hSecond
    | _ => cases hFirst

/-- In every run under a clock that never goes back, the sets of a URL are fetched at the pace of the time to live. -/
theorem run_paced (ttl : Int) (classify : Classifier) (clock : Clock) (checks : Checks) (events : List Event)
    (url : Url) (hForward : NeverBack clock.now events) :
    Paced ttl (((empty ttl classify clock checks).run events).lane url).history := by
  have hNew : Timely ((empty ttl classify clock checks).lane url).history clock.now := timely_nil clock.now
  have hTimely := hNew.run hForward
  have hRecorded := recorded_run ttl classify clock checks events url
  have hTtl : ((empty ttl classify clock checks).run events).ttl = ttl := ttl_run _ events
  have hLawful := hRecorded.stocked.lawful
  rw [KeySetCache.surroundings, hTtl] at hLawful
  have hExcluded := excluded_run ttl classify clock checks events url
  exact paced_of_lawful hLawful hExcluded.loaded.single hTimely.ordered

def expired : Instant := ⟨defaultTtl, by decide, by decide⟩

def fetchTwice : List Event :=
  [.call sampleUrl "a" .fetch [emptySetReply], .setClock expired,
    .call sampleUrl "b" .fetch [emptySetReply]]

theorem fetchTwice_paced : NeverBack ⟨0, by decide, by decide⟩ fetchTwice ∧
    ((((new defaultTtl asNetworkError ⟨⟨0, by decide, by decide⟩⟩ 0).run fetchTwice).lane sampleUrl).history.filter
      (·.2.set?.isSome)).map (·.1.nanos) = [0, defaultTtl] ∧
    Paced defaultTtl
      (((new defaultTtl asNetworkError ⟨⟨0, by decide, by decide⟩⟩ 0).run fetchTwice).lane sampleUrl).history :=
  ⟨by decide, by decide +kernel, run_paced _ _ _ _ _ _ (by decide)⟩

end BearerTokens.KeySetCache
