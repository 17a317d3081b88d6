/-!
# Guards

A lock with a queue. Whoever comes while it is free takes it, even past those that wait; letting go of it wakes
the one that has waited longest. If the lock is taken again before the woken one looks, it goes to the end of
the queue.

What depends on how long things last is left out: a lock can have a fair mode, in which a waiter that has been
passed over for more than half a millisecond shuts newcomers out until it has had its turn. Here nobody ever waits
that long, and newcomers may pass at any time.
-/

set_option autoImplicit false

namespace BearerTokens

abbrev CallName := String

structure Guard where
  holder : Option CallName
  /-- The longest wait first. -/
  waiters : List CallName
  /-- Whether the first waiter has been woken and has not looked yet. -/
  isWaking : Bool
  deriving DecidableEq, Repr

namespace Guard

def free : Guard := ⟨none, [], false⟩

/-- The waiter that is to look next. -/
def woken? (g : Guard) : Option CallName :=
  if g.isWaking then g.waiters.head? else none

def enter (g : Guard) (name : CallName) : Guard :=
  match g.holder with
  | none => { g with holder := some name }
  | some _ => { g with waiters := g.waiters ++ [name] }

def look (g : Guard) (name : CallName) : Guard :=
  { g with waiters := g.waiters.erase name, isWaking := false }.enter name

def wake (g : Guard) : Guard :=
  { g with isWaking := !g.waiters.isEmpty }

def release (g : Guard) : Guard :=
  { g with holder := none }.wake

/-- Takes a call out, whether it holds the guard or waits. A wake-up that it had passes to the next. -/
def forget (g : Guard) (name : CallName) : Guard :=
  if g.holder = some name then g.release
  else if g.woken? = some name then { g with waiters := g.waiters.erase name }.wake
  else { g with waiters := g.waiters.erase name }

end Guard

end BearerTokens
