import BearerTokens.Url.LabelTable

/-!
# Directions in labels

A name that holds letters written from right to left must keep to rules by which its labels are shown apart: each
label has the direction of its first character, which is a letter, and ends in a letter of that direction or a
digit, but for marks.
-/

set_option autoImplicit false

namespace BearerTokens.Label

open BearerTokens.Text

inductive Direction where
  | left
  | right
  | arabicDigit
  | europeanDigit
  | neutral
  | mark
  deriving DecidableEq, Repr

namespace Direction

def of (c : Char) : Direction :=
  if c.toNat < 0x80 then
    if c.isAlpha then .left else if c.isDigit then .europeanDigit else .neutral
  else if rightLetters.contain c then .right
  else if arabicDigits.contain c then .arabicDigit
  else if europeanDigits.contain c then .europeanDigit
  else if neutralSigns.contain c then .neutral
  else if nonspacingMarks.contain c && !leftMarks.contain c then .mark
  else .left

def isRightward (d : Direction) : Bool :=
  d = .right || d = .arabicDigit

def isOrderly (ds : List Direction) : Bool :=
  let last := (ds.reverse.dropWhile (· = .mark)).head?
  match ds.head? with
  | none => true
  | some .left =>
    !ds.any isRightward && (last = some .left || last = some .europeanDigit)
  | some .right =>
    !ds.contains .left && !(ds.contains .europeanDigit && ds.contains .arabicDigit) &&
      (last = some .right || last = some .europeanDigit || last = some .arabicDigit)
  | some _ => false

end Direction

def areOrderly (labels : List (List Char)) : Bool :=
  let directions := labels.map (·.map Direction.of)
  !(directions.any (·.any Direction.isRightward)) || directions.all Direction.isOrderly

end BearerTokens.Label
