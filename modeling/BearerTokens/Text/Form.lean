import BearerTokens.Text.Percent
import BearerTokens.Text.Split

/-!
# Form bodies

`application/x-www-form-urlencoded`: pairs joined by `&`, names and values by `=`. Letters, digits and
`*-._` stay, a space becomes `+`, and every other byte is percent-encoded.
-/

set_option autoImplicit false

namespace BearerTokens.Text.Form

def stays (c : Char) : Bool :=
  c.isAlphanum || c == '*' || c == '-' || c == '.' || c == '_'

def encodePart (s : List Char) : List Char :=
  s.flatMap fun c => if c = ' ' then ['+'] else Percent.encode stays [c]

def encodePair (p : String × String) : List Char :=
  encodePart p.1.toList ++ '=' :: encodePart p.2.toList

def encode (pairs : List (String × String)) : String :=
  String.ofList (['&'].intercalate (pairs.map encodePair))

def decodePart (s : List Char) : String :=
  Utf8.toStringLossy (Percent.decode (Utf8.encode (s.map fun c => if c = '+' then ' ' else c)))

def decodePair (s : List Char) : String × String :=
  (decodePart (s.takeWhile (· ≠ '=')), decodePart ((s.dropWhile (· ≠ '=')).drop 1))

/-- The pairs of a form body; empty pieces carry none. -/
def decode (body : String) : List (String × String) :=
  ((splitWhere (· == '&') body.toList).filter fun piece => !piece.isEmpty).map decodePair

end BearerTokens.Text.Form
