import BearerTokens.Text.Composition
import BearerTokens.Text.Punycode
import BearerTokens.Url.Direction

/-!
# Labels of hosts

A host name is made of labels. A label of another script is written in ASCII behind four characters that mark
it, and it is proper only if what it stands for is a label of that script in its one spelling. Both have to be
short enough.
-/

set_option autoImplicit false

namespace BearerTokens.Label

open BearerTokens.Text

/-- A character that keeps the letters beside it from joining. -/
def nonJoiner : Char := '\u200C'

def joiner : Char := '\u200D'

def isMark (c : Char) : Bool :=
  nonspacingMarks.contain c || spacingMarks.contain c

/-- Marks, and the one letter that letters join across. -/
def isJoinedAcross (c : Char) : Bool :=
  nonspacingMarks.contain c || c.toNat = 0x1E94B

def joins (kind : Ranges) (s : List Char) : Bool :=
  match s.dropWhile isJoinedAcross with
  | c :: _ => kind.contain c
  | [] => false

/-- The class of the marks that take the vowel from the letter before them. -/
def virama : Nat := 9

/-- Whether a character may stand between those `before` it, last first, and those `after` it. The two joiners
may stand where they make a difference. -/
def mayStand (before : List Char) (c : Char) (after : List Char) : Bool :=
  if c = nonJoiner ∨ c = joiner then
    match before with
    | p :: _ =>
      decide (markClass p = virama) ||
        (decide (c = nonJoiner) && joins joiningNext before && joins joiningPrevious after)
    | [] => false
  else decide (c.toNat < 0x80) || letters.contain c

def allMayStand (before : List Char) : List Char → Bool
  | [] => true
  | c :: after => mayStand before c after && allMayStand (c :: before) after

/-- Whether a text is a label that cannot be written without a mark. -/
def isForeign (s : List Char) : Bool :=
  s.any (fun c => decide (0x80 ≤ c.toNat)) && decide (s.length ≤ 1000) && !(s.head?.any isMark) &&
    allMayStand [] s && composed s == s

/-- What a label in lower case stands for, if it is proper. -/
def meaning? : List Char → Option (List Char)
  | 'x' :: 'n' :: '-' :: '-' :: code =>
    if code.length ≤ 2000 then (Punycode.decode? code).filter isForeign else none
  | label => some label

def areProper (labels : List (List Char)) : Bool :=
  (labels.mapM meaning?).any areOrderly

end BearerTokens.Label
