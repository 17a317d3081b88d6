import BearerTokens.Text.Utf8

/-!
# Percent encoding

A byte is written as itself or as `%` and two upper-case hexadecimal digits; which bytes stay is the
caller's choice.
-/

set_option autoImplicit false

namespace BearerTokens.Text.Percent

def hexDigit (n : Nat) : Char :=
  if n < 10 then Char.ofNat (n + 48) else Char.ofNat (n + 55)

def hexValue? (c : Char) : Option Nat :=
  if '0' ≤ c ∧ c ≤ '9' then some (c.toNat - 48)
  else if 'A' ≤ c ∧ c ≤ 'F' then some (c.toNat - 55)
  else if 'a' ≤ c ∧ c ≤ 'f' then some (c.toNat - 87)
  else none

def encodeByte (b : UInt8) : List Char :=
  ['%', hexDigit (b.toNat / 16), hexDigit (b.toNat % 16)]

/-- ASCII characters that `keep` admits stay; every byte of any other character is encoded. -/
def encode (keep : Char → Bool) (s : List Char) : List Char :=
  s.flatMap fun c =>
    if c.toNat < 0x80 ∧ keep c = true then [c]
    else (String.utf8EncodeChar c).flatMap encodeByte

/-- A `%` that two hexadecimal digits do not follow stands for itself. -/
def decodeFrom (done : List UInt8) : List UInt8 → List UInt8
  | [] => done.reverse
  | 0x25 :: a :: b :: rest =>
    match hexValue? (Char.ofNat a.toNat), hexValue? (Char.ofNat b.toNat) with
    | some x, some y => decodeFrom (UInt8.ofNat (x * 16 + y) :: done) rest
    | _, _ => decodeFrom (0x25 :: done) (a :: b :: rest)
  | b :: rest => decodeFrom (b :: done) rest

def decode (bytes : List UInt8) : List UInt8 :=
  decodeFrom [] bytes

end BearerTokens.Text.Percent
