import BearerTokens.Crypto.Modular
import BearerTokens.Crypto.Sha2

/-!
# Signatures over elliptic curves

The curves with 256 and 384 bits whose points solve `y² = x³ - 3x + b` modulo a prime, each with the hash
function that goes with it. A key is a point, and a signature a pair of numbers, all written big-endian at full
length.
-/

set_option autoImplicit false

namespace BearerTokens.Crypto

inductive Curve where
  | p256
  | p384
  deriving DecidableEq, Repr

namespace Curve

def hash : Curve → Hash
  | .p256 => .sha256
  | .p384 => .sha384

def size : Curve → Nat
  | .p256 => 32
  | .p384 => 48

def prime : Curve → Nat
  | .p256 => 0xFFFFFFFF00000001000000000000000000000000FFFFFFFFFFFFFFFFFFFFFFFF
  | .p384 =>
    0xFFFFFFFFFFFFFFFFFFFFFFFFFFFFFFFFFFFFFFFFFFFFFFFFFFFFFFFFFFFFFFFEFFFFFFFF0000000000000000FFFFFFFF

def constant : Curve → Int
  | .p256 => 0x5AC635D8AA3A93E7B3EBBD55769886BC651D06B0CC53B0F63BCE3C3E27D2604B
  | .p384 =>
    0xB3312FA7E23EE7E4988E056BE3F82D19181D9C6EFE8141120314088F5013875AC656398D8A2ED19D2A85C8EDD3EC2AEF

def order : Curve → Nat
  | .p256 => 0xFFFFFFFF00000000FFFFFFFFFFFFFFFFBCE6FAADA7179E84F3B9CAC2FC632551
  | .p384 =>
    0xFFFFFFFFFFFFFFFFFFFFFFFFFFFFFFFFFFFFFFFFFFFFFFFFC7634D81F4372DDF581A0DB248B0A77AECEC196ACCC52973

inductive Point where
  | infinity
  | affine (x y : Nat)
  deriving DecidableEq, Repr

def generator : Curve → Point
  | .p256 =>
    .affine 0x6B17D1F2E12C4247F8BCE6E563A440F277037D812DEB33A0F4A13945D898C296
      0x4FE342E2FE1A7F9B8EE7EB4A7C0F9E162BCE33576B315ECECBB6406837BF51F5
  | .p384 =>
    .affine
      0xAA87CA22BE8B05378EB1C71EF320AD746E1D3B628BA79B9859F741E082542A385502F25DBF55296C3A545E3872760AB7
      0x3617DE4A96262C6F5D9E98BF9292DC29F8F41DBD289A147CE9DA3113B5F0B8C00A60B1CE1D7E819D7A431D7C90EA0E5F

/-- The point that a line meets which has a slope and goes through two points. -/
def third (c : Curve) (slope x₁ y₁ x₂ : Int) : Point :=
  let x := slope * slope - x₁ - x₂
  .affine (reduce c.prime x) (reduce c.prime (slope * (x₁ - x) - y₁))

def add (c : Curve) : Point → Point → Point
  | .infinity, q => q
  | p, .infinity => p
  | .affine x₁ y₁, .affine x₂ y₂ =>
    if x₁ ≠ x₂ then c.third (divideMod c.prime ((y₂ : Int) - y₁) ((x₂ : Int) - x₁)) x₁ y₁ x₂
    else if (y₁ + y₂) % c.prime = 0 then .infinity
    else c.third (divideMod c.prime (3 * (x₁ * x₁) - 3) (2 * y₁)) x₁ y₁ x₂

def multiple (c : Curve) : Nat → Point → Point :=
  repeated c.add .infinity

def pair? (c : Curve) (bytes : List UInt8) : Option (Nat × Nat) :=
  if bytes.length = 2 * c.size then
    some (Hash.ofBigEndian (bytes.take c.size), Hash.ofBigEndian (bytes.drop c.size))
  else none

def point? (c : Curve) (bytes : List UInt8) : Option Point :=
  match c.pair? bytes with
  | some (x, y) =>
    let (x', y') : Int × Int := (x, y)
    if x < c.prime ∧ y < c.prime ∧
        reduce c.prime (y' * y') = reduce c.prime (x' * x' * x' - 3 * x' + c.constant) then
      some (.affine x y)
    else none
  | none => none

/-- Both numbers of a signature lie between zero and the order. -/
def signature? (c : Curve) (bytes : List UInt8) : Option (Nat × Nat) :=
  (c.pair? bytes).filter fun (r, s) => decide (0 < r ∧ r < c.order ∧ 0 < s ∧ s < c.order)

def verify (c : Curve) (key message signature : List UInt8) : Bool :=
  match c.point? key, c.signature? signature with
  | some q, some (r, s) =>
    let e := Hash.ofBigEndian (c.hash.digest message)
    let u := divideMod c.order e s
    let v := divideMod c.order r s
    match c.add (c.multiple u c.generator) (c.multiple v q) with
    | .affine x _ => x % c.order == r
    | .infinity => false
  | _, _ => false

end Curve

end BearerTokens.Crypto
