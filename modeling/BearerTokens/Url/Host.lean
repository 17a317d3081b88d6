import BearerTokens.Text.Percent
import BearerTokens.Text.Split
import BearerTokens.Url.Basic
import BearerTokens.Url.Label

/-!
# Reading hosts

Names, IPv4 numbers in their many spellings, and IPv6 pieces. What name the bytes of a host stand for is left open: a
name is in ASCII, and how letters of other scripts are brought there depends on tables that are not part of a reader
of URLs.
-/

set_option autoImplicit false

namespace BearerTokens

open BearerTokens.Text

inductive UrlError where
  | relativeWithoutBase
  | emptyHost
  | invalidPort
  | invalidIpv4
  | invalidIpv6
  | invalidDomain
  | invalidDomainCharacter
  deriving DecidableEq, Repr

def UrlError.message : UrlError → String
  | .relativeWithoutBase => "relative URL without a base"
  | .emptyHost => "empty host"
  | .invalidPort => "invalid port number"
  | .invalidIpv4 => "invalid IPv4 address"
  | .invalidIpv6 => "invalid IPv6 address"
  | .invalidDomain => "invalid international domain name"
  | .invalidDomainCharacter => "invalid domain character"

namespace Host

def digitIn? (base : Nat) (c : Char) : Option Nat :=
  (Percent.hexValue? c).bind fun d => if d < base then some d else none

/-- A number in a base; `none` where a digit is foreign. -/
def numeral? (base : Nat) (digits : List Char) : Option Nat :=
  digits.foldl
    (fun n c =>
      match n, digitIn? base c with
      | some n, some d => some (n * base + d)
      | _, _ => none)
    (some 0)

/-- One part of an address: hexadecimal after `0x`, octal after `0`, else decimal. -/
def ipv4Part? : List Char → Option Nat
  | [] => none
  | ['0'] => some 0
  | '0' :: 'x' :: digits => numeral? 16 digits
  | '0' :: 'X' :: digits => numeral? 16 digits
  | '0' :: digits => numeral? 8 digits
  | digits => numeral? 10 digits

def properLabels (name : List Char) : List (List Char) :=
  let ls := splitWhere (· == '.') name
  if ls.getLast? = some [] then ls.dropLast else ls

/-- Whether a name must be read as an address: its last label is a number, if only by its spelling. -/
def endsInNumber (name : List Char) : Bool :=
  match (properLabels name).getLast? with
  | some l => (!l.isEmpty && l.all Char.isDigit) || (ipv4Part? l).isSome
  | none => false

/-- The first parts are bytes, and the last one fills the places that are left. -/
def ipv4? (name : List Char) : Option Nat :=
  let parts := properLabels name
  if 4 < parts.length then none
  else
    match parts.mapM ipv4Part? with
    | none => none
    | some numbers =>
      match numbers.getLast? with
      | none => none
      | some last =>
        let front := numbers.dropLast
        if front.all (· ≤ 255) ∧ last < Nat.pow 256 (4 - front.length) then
          some (front.foldl (fun n b => n * 256 + b) 0 * Nat.pow 256 (4 - front.length) + last)
        else none

def decimalByte? (s : List Char) : Option (Nat × List Char) :=
  let digits := s.takeWhile Char.isDigit
  let rest := s.dropWhile Char.isDigit
  match digits with
  | [] => none
  | '0' :: _ :: _ => none
  | _ =>
    if 3 < digits.length then none
    else (numeral? 10 digits).bind fun n => if n ≤ 255 then some (n, rest) else none

def embeddedIpv4? (s : List Char) : Option (List Nat) :=
  match decimalByte? s with
  | some (a, '.' :: s) =>
    match decimalByte? s with
    | some (b, '.' :: s) =>
      match decimalByte? s with
      | some (c, '.' :: s) =>
        match decimalByte? s with
        | some (d, []) => some [a * 256 + b, c * 256 + d]
        | _ => none
      | _ => none
    | _ => none
  | _ => none

/-- The pieces read so far, newest first, and how many of them stand before the two colons. -/
structure Ipv6Pieces where
  pieces : List Nat
  gap : Option Nat

/-- The pieces from a place where a piece or the second of two colons may stand. -/
def ipv6From (fuel : Nat) (state : Ipv6Pieces) (s : List Char) : Option Ipv6Pieces :=
  match fuel, s with
  | _, [] => some state
  | 0, _ => none
  | fuel + 1, ':' :: rest =>
    if state.pieces.length = 8 ∨ state.gap.isSome then none
    else ipv6From fuel { state with gap := some state.pieces.length } rest
  | fuel + 1, s =>
    if 8 ≤ state.pieces.length + (if state.gap.isSome then 1 else 0) then none
    else
      let digits := (s.take 4).takeWhile fun c => (Percent.hexValue? c).isSome
      let rest := s.drop digits.length
      let push (n : Nat) : Ipv6Pieces := { state with pieces := n :: state.pieces }
      match numeral? 16 digits, rest with
      | some n, [] => some (push n)
      | some n, ':' :: rest => if rest.isEmpty then none else ipv6From fuel (push n) rest
      | _, '.' :: _ =>
        if digits.isEmpty ∨ 6 < state.pieces.length + (if state.gap.isSome then 1 else 0) then none
        else (embeddedIpv4? s).map fun two => { state with pieces := two.reverse ++ state.pieces }
      | _, _ => none

/-- Zeros fill the gap; without one there must be eight pieces. -/
def Ipv6Pieces.full? (p : Ipv6Pieces) : Option (List Nat) :=
  let pieces := p.pieces.reverse
  match p.gap with
  | some n =>
    if pieces.length < 8 then
      some (pieces.take n ++ List.replicate (8 - pieces.length) 0 ++ pieces.drop n)
    else none
  | none => if pieces.length = 8 then some pieces else none

def ipv6? (s : List Char) : Option (List Nat) :=
  match s with
  | ':' :: ':' :: rest => (ipv6From s.length ⟨[], some 0⟩ rest).bind (·.full?)
  | ':' :: _ => none
  | [] => none
  | [_] => none
  | _ => (ipv6From s.length ⟨[], none⟩ s).bind (·.full?)

/-- Characters that no name may hold once its percent-encoding is undone. -/
def forbiddenInDomain (c : Char) : Bool :=
  c.toNat ≤ 0x20 || 0x7F ≤ c.toNat || "#/:<>?@[\\]^|%".toList.contains c

def forbiddenInPlainHost (c : Char) : Bool :=
  "\x00\t\n\r #/:<>?@[\\]^|".toList.contains c

def bracketed? (s : List Char) : Option (Except UrlError Host) :=
  match s with
  | '[' :: rest =>
    if rest.getLast? = some ']' then
      match ipv6? rest.dropLast with
      | some pieces => some (.ok (.ipv6 pieces))
      | none => some (.error .invalidIpv6)
    else some (.error .invalidIpv6)
  | _ => none

end Host

/-- The name, in ASCII, that bytes stand for. -/
abbrev ToAscii : Type := List UInt8 → Option (List Char)

/-- The names that are spelled in ASCII. Letters of other scripts are in them only as labels that spell them so. -/
def ToAscii.plain : ToAscii := fun bytes =>
  match Utf8.decode? bytes with
  | none => none
  | some decoded =>
    let name := decoded.map Char.toLower
    if name.any Host.forbiddenInDomain || !Label.areProper (splitWhere (· == '.') name) then none else some name

namespace Host

/-- The host of a URL whose scheme has rules for hosts. -/
def parse (toAscii : ToAscii) (s : List Char) : Except UrlError Host :=
  match bracketed? s with
  | some r => r
  | none =>
    match toAscii (Percent.decode (Utf8.encode s)) with
    | none => .error .invalidDomain
    | some name =>
      if name.isEmpty then .error .emptyHost
      else if endsInNumber name then
        match ipv4? name with
        | some address => .ok (.ipv4 address)
        | none => .error .invalidIpv4
      else .ok (.domain (String.ofList name))

def isControl (c : Char) : Bool :=
  c.toNat < 0x20 || c.toNat == 0x7F

def parsePlain (s : List Char) : Except UrlError Host :=
  match bracketed? s with
  | some r => r
  | none =>
    if s.any forbiddenInPlainHost then .error .invalidDomainCharacter
    else .ok (.domain (String.ofList (Percent.encode (fun c => !isControl c) s)))

end Host

end BearerTokens
