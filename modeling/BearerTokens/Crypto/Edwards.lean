import BearerTokens.Crypto.Modular
import BearerTokens.Crypto.Sha2

/-!
# Signatures over the Edwards curve

The curve whose points solve `y² - x² = 1 + d x² y²` modulo `2²⁵⁵ - 19`. A point is written as its `y`, in
little-endian order, and the lowest bit of its `x`, which is the highest bit of the last byte. Where a key is
read, a `y` that is not reduced counts as its remainder, and a zero `x` has either sign.
-/

set_option autoImplicit false

namespace BearerTokens.Crypto.Edwards

def prime : Nat := 0x7FFFFFFFFFFFFFFFFFFFFFFFFFFFFFFFFFFFFFFFFFFFFFFFFFFFFFFFFFFFFFED

def order : Nat := 0x1000000000000000000000000000000014DEF9DEA2F79CD65812631A5CF5D3ED

def constant : Nat := divideMod prime (-121665) 121666

structure Point where
  x : Nat
  y : Nat
  deriving DecidableEq, Repr

def zero : Point := ⟨0, 1⟩

def add (p q : Point) : Point :=
  let (x₁, y₁, x₂, y₂) : Int × Int × Int × Int := (p.x, p.y, q.x, q.y)
  let t := reduce prime (constant * x₁ * x₂ * y₁ * y₂)
  ⟨divideMod prime (x₁ * y₂ + x₂ * y₁) (1 + t), divideMod prime (y₁ * y₂ + x₁ * x₂) (1 - t)⟩

def negate (p : Point) : Point :=
  ⟨reduce prime (-p.x), p.y⟩

def multiple : Nat → Point → Point :=
  repeated add zero

def ofLittleEndian (bytes : List UInt8) : Nat :=
  Hash.ofBigEndian bytes.reverse

def encode (p : Point) : List UInt8 :=
  (Hash.bigEndian 32 (p.y + p.x % 2 * Nat.pow 2 255)).reverse

/-- A root of `u / v`, if there is one: a power of both, or that times a root of minus one. -/
def root? (u v : Int) : Option Nat :=
  let x := reduce prime (u * powerMod prime (reduce prime (u * v)) ((prime - 5) / 8))
  let square := reduce prime (v * x * x)
  if square = reduce prime u then some x
  else if square = reduce prime (-u) then some (x * powerMod prime 2 ((prime - 1) / 4) % prime)
  else none

def decode? (bytes : List UInt8) : Option Point :=
  let n := ofLittleEndian bytes
  let y := reduce prime (n % Nat.pow 2 255 : Nat)
  let square : Int := y * y
  (root? (square - 1) (constant * square + 1)).map fun x =>
    let p : Point := ⟨x, y⟩
    if x % 2 = n / Nat.pow 2 255 then p else negate p

def generator : Point :=
  (decode? (0x58 :: List.replicate 31 0x66)).getD zero

def verify (key message signature : List UInt8) : Bool :=
  let r := signature.take 32
  let s := ofLittleEndian (signature.drop 32)
  if key.length = 32 ∧ signature.length = 64 ∧ s < order then
    match decode? key with
    | some a =>
      let h := ofLittleEndian (Hash.sha512.digest (r ++ key ++ message)) % order
      encode (add (multiple s generator) (multiple h (negate a))) == r
    | none => false
  else false

end BearerTokens.Crypto.Edwards
