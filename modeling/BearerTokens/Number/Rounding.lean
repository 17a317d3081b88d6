/-!
# Rounded quotients

Quotients of natural numbers rounded to the nearest whole number, in the two ways of breaking a tie
that the library uses. Both stay within half a unit of the exact quotient.
-/

set_option autoImplicit false

namespace BearerTokens.Number

/-- The nearest whole number to `num / den`; a tie goes to the even neighbour. -/
def divHalfEven (num den : Nat) : Nat :=
  let q := num / den
  let r := num % den
  if 2 * r < den then q
  else if den < 2 * r then q + 1
  else q + q % 2

def divHalfUp (num den : Nat) : Nat :=
  (2 * num + den) / (2 * den)

theorem divHalfEven_of_dvd {num den : Nat} (hden : 0 < den) (h : den ∣ num) :
    divHalfEven num den = num / den := by
  have hr : num % den = 0 := Nat.mod_eq_zero_of_dvd h
  simp [divHalfEven, hr, hden]

end BearerTokens.Number
