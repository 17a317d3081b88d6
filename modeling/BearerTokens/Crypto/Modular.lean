/-!
# Numbers modulo a number

Powers by repeated squaring, which serve for multiples on a curve as well, and division modulo a prime.
-/

set_option autoImplicit false

namespace BearerTokens.Crypto

def repeated {α : Type} (op : α → α → α) (unit : α) (n : Nat) (a : α) : α :=
  if h : n = 0 then unit
  else
    let half := repeated op unit (n / 2) (op a a)
    if n % 2 = 1 then op half a else half
termination_by n
decreasing_by omega

def powerMod (n base exponent : Nat) : Nat :=
  repeated (fun a b => a * b % n) (1 % n) exponent base

def reduce (n : Nat) (a : Int) : Nat :=
  (a % n).toNat

/-- Division modulo a prime, where the inverse of a number is a power of it. -/
def divideMod (p : Nat) (a b : Int) : Nat :=
  reduce p (a * powerMod p (reduce p b) (p - 2))

end BearerTokens.Crypto
