import BearerTokens.Json.Reader
import BearerTokens.Telemetry
import BearerTokens.Text.Base64Url
import BearerTokens.Time.Instant

/-!
# Expiry of tokens

When a token ends: at the instant that its own `exp` claim names, if it has one that can be read, and else
a span after now that the endpoint told, limited to ten years.
-/

set_option autoImplicit false

namespace BearerTokens.Expiry

open BearerTokens.Json BearerTokens.Number BearerTokens.Text BearerTokens.Time

/-- How long before its expiry a token is no longer handed out. -/
def buffer : Int := 60 * second

def maxSeconds : Nat := 315360000

/-- The middle one of exactly three parts between dots. -/
def payload? (token : List Char) : Option (List Char) :=
  match token.dropWhile (· ≠ '.') with
  | [] => none
  | _ :: rest =>
    match rest.dropWhile (· ≠ '.') with
    | [] => none
    | _ :: signature => if signature.contains '.' then none else some (rest.takeWhile (· ≠ '.'))

def withoutPadding (s : List Char) : List Char :=
  (s.reverse.dropWhile (· = '=')).reverse

/-- The claims of a token, when its payload is an object. Nothing is verified. -/
def claims? (token : String) : Option Members :=
  match payload? token.toList with
  | none => none
  | some payload =>
    match Base64Url.decode (withoutPadding payload) with
    | none => none
    | some bytes =>
      match document (value depthLimit) bytes with
      | .ok (.object members) => some members
      | _ => none

/-- Whole milliseconds of a number of seconds, the product rounded as a float and then to the nearest
integer. -/
def millis? (seconds : Binary64) : Option Int :=
  (seconds.mulNat 1000).round?

def nanosOfMillis? (millis : Int) : Option Int :=
  let nanos := millis * 1000000
  if -Int.pow 2 127 ≤ nanos ∧ nanos < Int.pow 2 127 then some nanos else none

/-- An integer that fits 64 bits with its sign names whole seconds, any other number milliseconds. -/
def instantOf? : Number → Option Instant
  | .natural n =>
    if n < Nat.pow 2 63 then Instant.ofSeconds? n else fromFloat (.ofNat n)
  | .negative n => Instant.ofSeconds? (-n)
  | .real x => fromFloat x
where
  fromFloat (x : Binary64) : Option Instant :=
    if x.isFinite then ((millis? x).bind nanosOfMillis?).bind Instant.ofNanos? else none

def readClaim? (token : String) : Option Instant :=
  match (claims? token).bind (·.last? "exp") with
  | some (.number n) => instantOf? n
  | _ => none

/-- The instant of the `exp` claim, if the buffer can be taken from it. -/
def ofClaim? (token : String) : Option Instant :=
  (readClaim? token).filter fun t => (t.sub? buffer).isSome

/-- Nanoseconds of a number of seconds: nothing for a number that is missing, negative or no number, at most
ten years, and rounded to the nearest nanosecond, ties to even. -/
def spanNanos (expiresIn : Option Binary64) : Nat :=
  match expiresIn with
  | none => 0
  | some x =>
    match x.parts with
    | .finite false m e =>
      let (num, den) := Binary64.ratio m e
      if maxSeconds * den ≤ num then maxSeconds * 1000000000
      else divHalfEven (num * 1000000000) den
    | _ => 0

/-- The expiry of a token received at `now`, and where it comes from. There is none if the span leads past
the end of the calendar. -/
def derive (token : String) (expiresIn : Option Binary64) (now : Instant) :
    Option (Instant × ExpirySource) :=
  match ofClaim? token with
  | some t => some (t, .jwtClaim)
  | none => (now.add? (spanNanos expiresIn)).map (·, .expiresIn)

end BearerTokens.Expiry
