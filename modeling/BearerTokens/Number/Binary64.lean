import BearerTokens.Number.Rounding

/-!
# Binary floating point of 64 bits

A number is its word. `parts` reads a word as an exact dyadic value, and `ofRatio` gives the word
nearest to an exact quotient, so every operation here is arithmetic on whole numbers.
-/

set_option autoImplicit false

namespace BearerTokens.Number

structure Binary64 where
  bits : UInt64
  deriving DecidableEq, Repr

namespace Binary64

/-- The value of a word: a finite one is `± mantissa · 2 ^ exponent`. -/
inductive Parts where
  | nan
  | infinite (negative : Bool)
  | finite (negative : Bool) (mantissa : Nat) (exponent : Int)
  deriving DecidableEq, Repr

def parts (x : Binary64) : Parts :=
  let word : Nat := x.bits.toNat
  let negative := decide (Nat.pow 2 63 ≤ word)
  let biased : Nat := word / Nat.pow 2 52 % 2048
  let fraction : Nat := word % Nat.pow 2 52
  if biased = 2047 then
    if fraction = 0 then .infinite negative else .nan
  else if biased = 0 then .finite negative fraction (-1074)
  else .finite negative (Nat.pow 2 52 + fraction) ((biased : Int) - 1075)

def ratio (mantissa : Nat) (exponent : Int) : Nat × Nat :=
  if 0 ≤ exponent then (mantissa * Nat.pow 2 exponent.toNat, 1)
  else (mantissa, Nat.pow 2 (-exponent).toNat)

/-- The exponent of the last place kept of `num / den`: 53 bits, or the least there is. -/
def lastPlace (num den : Nat) : Int :=
  let k := (num.log2 : Int) - den.log2
  let (n, d) := if 0 ≤ k then (num, den * Nat.pow 2 k.toNat) else (num * Nat.pow 2 (-k).toNat, den)
  max (if d ≤ n then k - 52 else k - 53) (-1074)

/-- The word nearest to `num / den`, ties to the even mantissa; too large a quotient is infinite. -/
def ofRatio (num den : Nat) : Binary64 :=
  if num = 0 then ⟨0⟩
  else
    let e := lastPlace num den
    let mantissa :=
      if 0 ≤ e then divHalfEven num (den * Nat.pow 2 e.toNat)
      else divHalfEven (num * Nat.pow 2 (-e).toNat) den
    ⟨UInt64.ofNat (min ((e + 1074).toNat * Nat.pow 2 52 + mantissa) (2047 * Nat.pow 2 52))⟩

def ofNat (n : Nat) : Binary64 :=
  ofRatio n 1

def neg (x : Binary64) : Binary64 :=
  ⟨x.bits ^^^ 0x8000000000000000⟩

def signed (negative : Bool) (x : Binary64) : Binary64 :=
  if negative then x.neg else x

def isFinite (x : Binary64) : Bool :=
  match x.parts with
  | .finite .. => true
  | _ => false

def magnitude? (x : Binary64) : Option (Nat × Nat) :=
  match x.parts with
  | .finite _ m e => some (ratio m e)
  | _ => none

def isNegative (x : Binary64) : Bool :=
  decide (Nat.pow 2 63 ≤ x.bits.toNat)

/-- The rounded product of a finite number with a natural number that is itself rounded first. -/
def mulNat (x : Binary64) (n : Nat) : Binary64 :=
  match x.magnitude?, (ofNat n).magnitude? with
  | some (a, b), some (c, d) => signed x.isNegative (ofRatio (a * c) (b * d))
  | _, _ => x

def divNat (x : Binary64) (n : Nat) : Binary64 :=
  match x.magnitude?, (ofNat n).magnitude? with
  | some (a, b), some (c, d) => signed x.isNegative (ofRatio (a * d) (b * c))
  | _, _ => x

/-- The nearest whole number to a finite number, ties away from zero. -/
def round? (x : Binary64) : Option Int :=
  x.magnitude?.map fun (num, den) =>
    if x.isNegative then -(divHalfUp num den : Int) else (divHalfUp num den : Int)

end Binary64

end BearerTokens.Number
