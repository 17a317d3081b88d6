/-!
# Punycode

Text of any script in letters, digits and hyphens. What stands before the last hyphen is taken as it is; the
rest says, in numbers of one or more digits, which characters go in between and where. The characters come in
ascending order, so a number counts all the places passed since the one before it. The base of the digits
adapts itself to the size of the numbers.
-/

set_option autoImplicit false

namespace BearerTokens.Text.Punycode

def digit? (c : Char) : Option Nat :=
  if 'a' ≤ c ∧ c ≤ 'z' then some (c.toNat - 97)
  else if '0' ≤ c ∧ c ≤ '9' then some (c.toNat - 22)
  else none

def threshold (k bias : Nat) : Nat :=
  if k ≤ bias then 1 else if bias + 26 ≤ k then 26 else k - bias

def scale (delta k : Nat) : Nat × Nat :=
  if 455 < delta then scale (delta / 35) (k + 36) else (delta, k)

def adapt (delta count : Nat) (isFirst : Bool) : Nat :=
  let delta := if isFirst then delta / 700 else delta / 2
  let (delta, k) := scale (delta + delta / count) 0
  k + 36 * delta / (delta + 38)

/-- A reading on its way: the characters so far, the least that may be inserted next, how far the places for it
have been passed, at the start of the number that is being read and by now, and the weight and place of the next
digit. -/
structure State where
  output : List Char
  code : Nat := 128
  passed : Nat := 0
  start : Nat := 0
  bias : Nat := 72
  weight : Nat := 1
  k : Nat := 36

def State.insert? (s : State) : Option State :=
  let count := s.output.length + 1
  let code := s.code + s.passed / count
  let place := s.passed % count
  if code.isValidChar then
    some
      { output := s.output.take place ++ Char.ofNat code :: s.output.drop place
        code := code
        passed := place + 1
        start := place + 1
        bias := adapt (s.passed - s.start) count (s.start = 0) }
  else none

/-- One digit more. Numbers and weights have 32 bits. -/
def State.push? (s : State) (c : Char) : Option State :=
  (digit? c).bind fun d =>
    let s := { s with passed := s.passed + d * s.weight }
    let t := threshold s.k s.bias
    if Nat.pow 2 32 ≤ s.passed then none
    else if d < t then s.insert?
    else if Nat.pow 2 32 ≤ s.weight * (36 - t) then none
    else some { s with weight := s.weight * (36 - t), k := s.k + 36 }

/-- What stands before the last hyphen, unless nothing does, and the digits. -/
def split (s : List Char) : List Char × List Char :=
  let digits := (s.reverse.takeWhile (· ≠ '-')).reverse
  let plain := s.take (s.length - digits.length - 1)
  if plain.isEmpty then ([], s) else (plain, digits)

def decode? (s : List Char) : Option (List Char) :=
  let (plain, digits) := split s
  match digits.foldlM State.push? { output := plain } with
  | some s => if s.k = 36 then some s.output else none
  | none => none

end BearerTokens.Text.Punycode
