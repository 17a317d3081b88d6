/-!
# Instants

A point in time is a number of nanoseconds since the Unix epoch, within the years -9999 to 9999.
Differences are whole nanoseconds; moving past either end of the calendar gives no instant.
-/

set_option autoImplicit false

namespace BearerTokens.Time

def second : Int := 1000000000

def earliest : Int := -377705116800 * second

def latest : Int := 253402300800 * second - 1

@[ext] structure Instant where
  nanos : Int
  earliest_le : earliest ≤ nanos
  le_latest : nanos ≤ latest
  deriving DecidableEq, Repr

namespace Instant

def ofNanos? (nanos : Int) : Option Instant :=
  if h : earliest ≤ nanos ∧ nanos ≤ latest then some ⟨nanos, h.1, h.2⟩ else none

def ofSeconds? (seconds : Int) : Option Instant :=
  ofNanos? (seconds * second)

def add? (t : Instant) (delta : Int) : Option Instant :=
  ofNanos? (t.nanos + delta)

def sub? (t : Instant) (delta : Int) : Option Instant :=
  ofNanos? (t.nanos - delta)

def since (t s : Instant) : Int :=
  t.nanos - s.nanos

instance : LT Instant := ⟨fun s t => s.nanos < t.nanos⟩

instance : LE Instant := ⟨fun s t => s.nanos ≤ t.nanos⟩

instance (s t : Instant) : Decidable (s < t) := inferInstanceAs (Decidable (s.nanos < t.nanos))

instance (s t : Instant) : Decidable (s ≤ t) := inferInstanceAs (Decidable (s.nanos ≤ t.nanos))

theorem ofNanos?_eq_some_iff {n : Int} {t : Instant} : ofNanos? n = some t ↔ t.nanos = n := by
  obtain ⟨m, h₁, h₂⟩ := t
  unfold ofNanos?
  split
  · simp [eq_comm]
  · rename_i h
    constructor
    · intro h'; cases h'
    · rintro rfl; exact absurd ⟨h₁, h₂⟩ h

theorem ofNanos?_nanos (t : Instant) : ofNanos? t.nanos = some t :=
  ofNanos?_eq_some_iff.2 rfl

end Instant

end BearerTokens.Time
