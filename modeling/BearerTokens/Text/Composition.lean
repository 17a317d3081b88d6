import BearerTokens.Text.CompositionTable

/-!
# Composition

Letters with marks have one spelling in which as much as can be is put together: a text is taken apart, the marks
behind each letter are ordered by their classes, and letters and marks are joined again from the left. Syllables
of Hangul are taken apart and joined by arithmetic.
-/

set_option autoImplicit false

namespace BearerTokens.Text

def markClass (c : Char) : Nat :=
  match markClasses.dropWhile fun (_, last, _) => decide (last < c.toNat) with
  | (first, _, n) :: _ => if first ≤ c.toNat then n else 0
  | [] => 0

namespace Hangul

def firstSyllable : Nat := 0xAC00
def firstLead : Nat := 0x1100
def firstVowel : Nat := 0x1161

def noTail : Nat := 0x11A7

def leads : Nat := 19
def vowels : Nat := 21
def tails : Nat := 28

def apart? (n : Nat) : Option (Nat × Nat) :=
  let index := n - firstSyllable
  if n < firstSyllable ∨ leads * vowels * tails ≤ index then none
  else if index % tails = 0 then some (firstLead + index / tails / vowels, firstVowel + index / tails % vowels)
  else some (n - index % tails, noTail + index % tails)

def joined? (a b : Nat) : Option Nat :=
  if firstLead ≤ a ∧ a < firstLead + leads ∧ firstVowel ≤ b ∧ b < firstVowel + vowels then
    some (firstSyllable + ((a - firstLead) * vowels + (b - firstVowel)) * tails)
  else if firstSyllable ≤ a ∧ a < firstSyllable + leads * vowels * tails ∧ (a - firstSyllable) % tails = 0 ∧
      noTail < b ∧ b < noTail + tails then
    some (a + (b - noTail))
  else none

end Hangul

def apart? (c : Char) : Option (Char × Char) :=
  let found :=
    match Hangul.apart? c.toNat with
    | some pair => some pair
    | none => composites.lookup c.toNat
  found.map fun (a, b) => (Char.ofNat a, Char.ofNat b)

def joined? (a b : Char) : Option Char :=
  let found : Option Nat :=
    match Hangul.joined? a.toNat b.toNat with
    | some n => some n
    | none => (composites.find? fun letter => letter.2 == (a.toNat, b.toNat)).map Prod.fst
  found.map Char.ofNat

/-- What a character is made of, in at most `n` steps. Only its first part can be taken apart further. -/
def partsIn : Nat → Char → List Char
  | 0, c => [c]
  | n + 1, c =>
    match apart? c with
    | some (a, b) => partsIn n a ++ [b]
    | none => [c]

/-- No character takes more than two steps. -/
def parts (c : Char) : List Char :=
  partsIn 2 c

/-- Puts a character in front of ordered ones. A mark moves past those of lower classes. -/
def place (c : Char) : List Char → List Char
  | [] => [c]
  | d :: rest =>
    if 0 < markClass d ∧ markClass d < markClass c then d :: place c rest else c :: d :: rest

/-- Text on its way: what is done, newest first, the last letter, and the marks behind it, newest first. -/
structure Composing where
  done : List Char
  letter : Option Char
  marks : List Char

namespace Composing

def text (t : Composing) : List Char :=
  t.marks ++ t.letter.toList ++ t.done

def keep (t : Composing) (c : Char) : Composing :=
  if markClass c = 0 then ⟨t.text, some c, []⟩ else { t with marks := c :: t.marks }

/-- A character joins the last letter unless a mark stands between that is not of a lower class. -/
def push (t : Composing) (c : Char) : Composing :=
  match t.letter.bind (joined? · c) with
  | some d => if t.marks.all (markClass · < markClass c) then { t with letter := some d } else t.keep c
  | none => t.keep c

end Composing

def composed (s : List Char) : List Char :=
  (((s.flatMap parts).foldr place []).foldl Composing.push ⟨[], none, []⟩).text.reverse

end BearerTokens.Text
