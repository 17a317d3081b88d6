import BearerTokens.Error
import BearerTokens.Json.Reader
import BearerTokens.Jwt.Algorithm

/-!
# Registered claims

The five claims of a token that are checked: when it ends, from when it is valid, whom it is about, who issued
it and for whom. A claim of the wrong kind counts as not made, unless its kind is so wrong that the whole
payload is refused.
-/

set_option autoImplicit false

namespace BearerTokens.Jwt

open BearerTokens.Json BearerTokens.Number

structure Claims where
  expires : Option Nat
  notBefore : Option Nat
  subject : Option String
  issuers : Option (List String)
  audiences : Option (List String)
  deriving DecidableEq, Repr

namespace Claims

/-- A number of seconds: not negative, rounded to a whole number, and below `2 ^ 64`. -/
def seconds? : Number → Option Nat
  | .natural n => some n
  | .negative _ => none
  | .real x =>
    match x.magnitude?, x.round? with
    | some (num, den), some n =>
      if (x.isNegative = false ∨ num = 0) ∧ num < Nat.pow 2 64 * den then some n.toNat else none
    | _, _ => none

/-- How the value of one claim is taken; `none` refuses the payload. -/
abbrev Reading (α : Type) := Value → Option (Option α)

def time : Reading Nat
  | .number n => some (seconds? n)
  | .array (_ :: _) => none
  | .object (_ :: _) => none
  | _ => some none

def name : Reading String
  | .string s => some (some s)
  | .array _ => none
  | .object _ => none
  | _ => some none

def names : Reading (List String)
  | .string s => some (some [s])
  | .array items => some (items.mapM Value.string?)
  | _ => some none

/-- A claim that is missing is not made; one that is repeated refuses the payload. -/
def member {α : Type} (reading : Reading α) (members : Members) (key : String) : Option (Option α) :=
  match members.filter (·.1 == key) with
  | [] => some none
  | [m] => reading m.2
  | _ => none

/-- The claims of a payload. An array lists the five claims in order. -/
def ofValue? : Value → Option Claims
  | .object members =>
    match member time members "exp", member time members "nbf", member name members "sub",
      member names members "iss", member names members "aud" with
    | some e, some n, some s, some i, some a => some ⟨e, n, s, i, a⟩
    | _, _, _, _, _ => none
  | .array [e, n, s, i, a] =>
    match time e, time n, name s, names i, names a with
    | some e, some n, some s, some i, some a => some ⟨e, n, s, i, a⟩
    | _, _, _, _, _ => none
  | _ => none

end Claims

/-- What is asked of a token besides its signature. -/
structure Validation where
  algorithms : List Algorithm
  /-- Seconds by which clocks may disagree. -/
  leeway : Nat
  checksExpiry : Bool
  checksNotBefore : Bool
  checksAudience : Bool
  audiences : Option (List String)
  issuers : Option (List String)
  subject : Option String
  required : List String
  deriving DecidableEq, Repr

namespace Validation

def isMade (claims : Claims) (claim : String) : Bool :=
  if claim = "exp" then claims.expires.isSome
  else if claim = "nbf" then claims.notBefore.isSome
  else if claim = "sub" then claims.subject.isSome
  else if claim = "iss" then claims.issuers.isSome
  else if claim = "aud" then claims.audiences.isSome
  else true

def overlaps (a b : List String) : Bool :=
  a.any b.contains

def fails {α β : Type} (checked : Bool) (claim : Option α) (expected : Option β)
    (test : α → β → Bool) : Bool :=
  match claim, expected with
  | some a, some b => checked && !test a b
  | _, _ => false

/-- Seconds are counted in 64 bits and come round at either end. -/
def seconds (n : Int) : Nat :=
  (n % Int.pow 2 64).toNat

/-- A token that ended before this second has ended too long ago. -/
def earliestEnd (v : Validation) (now : Nat) : Nat :=
  seconds (now - v.leeway)

def latestStart (v : Validation) (now : Nat) : Nat :=
  seconds (now + v.leeway)

/-- Checks claims at `now`, in seconds since the epoch. -/
def check (v : Validation) (claims : Claims) (now : Nat) : Except TokenError Unit :=
  match v.required.find? fun claim => !isMade claims claim with
  | some claim => .error (.missingClaim claim)
  | none =>
    if fails v.checksExpiry claims.expires (some now) fun e n => decide (v.earliestEnd n ≤ e) then
      .error .expired
    else if fails v.checksNotBefore claims.notBefore (some now) fun b n =>
        decide (b ≤ v.latestStart n) then
      .error .immature
    else if fails true claims.subject v.subject (· == ·) then .error .invalidSubject
    else if fails true claims.issuers v.issuers overlaps then .error .invalidIssuer
    else if v.checksAudience && claims.audiences.isSome &&
        (v.audiences.isNone || fails true claims.audiences v.audiences overlaps) then
      .error .invalidAudience
    else .ok ()

end Validation

end BearerTokens.Jwt
