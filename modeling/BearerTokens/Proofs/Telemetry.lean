import BearerTokens.Telemetry
import Mathlib.Data.List.Basic

/-!
# Counters and notes

Each counter has a note of its own, and reads how often that was noted.
-/

set_option autoImplicit false

namespace BearerTokens

/-- What the counter of a note reads. A counter that was never incremented is not listed. -/
def reading (notes : List Note) (note : Note) : Nat :=
  (note.counter?.bind fun key => (counters notes).lookup key).getD 0

def Note.isChoice : Note → Bool
  | .decision .token .cacheHit | .decision .token .joinInFlight | .decision .token .startFetch => true
  | _ => false

variable {notes : List Note} {note note' : Note} {key : String}

/-- No two notes increment one counter. -/
theorem Note.counter?_inj (h : note.counter? = some key) (h' : note'.counter? = some key) : note = note' := by
  have hSame : note.counter? = note'.counter? := h.trans h'.symm
  cases note with
  | fetch op outcome =>
    cases note' with
    | fetch op' outcome' =>
      revert hSame
      cases op <;> cases outcome <;> cases op' <;> cases outcome' <;> decide
    | expiry source' =>
      revert hSame
      cases op <;> cases outcome <;> cases source' <;> decide
    | _ => cases h'
  | expiry source =>
    cases note' with
    | fetch op' outcome' =>
      revert hSame
      cases source <;> cases op' <;> cases outcome' <;> decide
    | expiry source' =>
      revert hSame
      cases source <;> cases source' <;> decide
    | _ => cases h'
  | _ => cases h

theorem lookup_map_eq_getD {keys : List String} {f : String → Nat} (hAbsent : key ∉ keys → f key = 0) :
    ((keys.map fun k => (k, f k)).lookup key).getD 0 = f key := by
  induction keys with
  | nil => exact (hAbsent List.not_mem_nil).symm
  | cons k keys ih =>
    rw [List.map_cons, List.lookup_cons]
    by_cases hk : key = k
    · simp [hk]
    · simp only [beq_false_of_ne hk]
      exact ih fun hMem => hAbsent fun hHere => (List.mem_cons.1 hHere).elim hk hMem

/-- A counter reads how often its note was noted. -/
theorem reading_eq_count (hCounter : note.counter? = some key) : reading notes note = notes.count note := by
  have hCount : (notes.filterMap Note.counter?).count key = notes.count note := by
    rw [List.count_filterMap, List.count_eq_countP]
    refine List.countP_congr fun other _ => ?_
    rw [beq_iff_eq, beq_iff_eq]
    constructor
    · exact fun hOther => Note.counter?_inj hOther hCounter
    · rintro rfl
      exact hCounter
  rw [reading, hCounter, Option.bind_some]
  refine (lookup_map_eq_getD fun hAbsent => ?_).trans hCount
  rw [List.mem_eraseDups] at hAbsent
  exact List.count_eq_zero.2 hAbsent

theorem count_of_uncounted {later : List Note} (hUncounted : ∀ other ∈ later, other.counter? = none)
    (hCounter : note.counter?.isSome) : later.count note = 0 := by
  refine List.count_eq_zero.2 fun hMem => ?_
  rw [hUncounted note hMem] at hCounter
  cases hCounter

/-- What has no counter makes no counter read more. -/
theorem count_append_of_uncounted {later : List Note} (hUncounted : ∀ other ∈ later, other.counter? = none)
    (hCounter : note.counter?.isSome) : (notes ++ later).count note = notes.count note := by
  rw [List.count_append, count_of_uncounted hUncounted hCounter, Nat.add_zero]

theorem count_decision_of_counted {later : List Note} (hCounted : ∀ other ∈ later, other.counter?.isSome)
    (op : Operation) (d : Decision) : later.count (.decision op d) = 0 := by
  refine List.count_eq_zero.2 fun hMem => ?_
  cases hCounted _ hMem

theorem countP_isChoice_of_counted {later : List Note} (hCounted : ∀ other ∈ later, other.counter?.isSome) :
    later.countP Note.isChoice = 0 := by
  refine List.countP_eq_zero.2 fun other hMem hChoice => ?_
  have hSome := hCounted other hMem
  cases other with
  | decision op d => cases hSome
  | _ => cases hChoice

@[simp] theorem reading_fetch (notes : List Note) (op : Operation) (outcome : FetchOutcome) :
    reading notes (.fetch op outcome) = notes.count (.fetch op outcome) :=
  reading_eq_count rfl

@[simp] theorem reading_expiry (notes : List Note) (source : ExpirySource) :
    reading notes (.expiry source) = notes.count (.expiry source) :=
  reading_eq_count rfl

end BearerTokens
