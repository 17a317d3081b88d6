import BearerTokens.Time.Instant

/-!
# Clocks moved by hand

A clock that shows one instant until it is told otherwise. It may be set back; it never leaves the calendar.
-/

set_option autoImplicit false

namespace BearerTokens.Time

structure Clock where
  now : Instant
  deriving DecidableEq, Repr

namespace Clock

def set (_ : Clock) (now : Instant) : Clock := ⟨now⟩

def advance? (c : Clock) (delta : Int) : Option Clock :=
  (c.now.add? delta).map Clock.mk

end Clock

end BearerTokens.Time
