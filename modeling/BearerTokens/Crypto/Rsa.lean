import BearerTokens.Crypto.Modular
import BearerTokens.Crypto.Sha2

/-!
# RSA signatures

A signature is a number below the modulus whose power by the public exponent encodes the digest of the
message, in the plain padding of PKCS #1 or in the randomised one. Keys that are too short, too long or not
odd verify nothing.
-/

set_option autoImplicit false

namespace BearerTokens.Crypto

structure RsaKey where
  modulus : Nat
  exponent : Nat
  /-- The length of the modulus in bytes. -/
  size : Nat
  deriving DecidableEq, Repr

namespace RsaKey

/-- A key from the big-endian bytes of its two numbers, which have no leading zeros. The modulus has 2048 to
8192 bits, rounded up to whole bytes, and the exponent at most 33. -/
def make? (modulus exponent : List UInt8) : Option RsaKey :=
  let n := ofNumber modulus
  let e := ofNumber exponent
  if isPlain modulus ∧ isPlain exponent ∧ 256 ≤ modulus.length ∧ modulus.length ≤ 1024 ∧
      exponent.length ≤ 5 ∧ n % 2 = 1 ∧ e % 2 = 1 ∧ 3 ≤ e ∧ e < Nat.pow 2 33 then
    some ⟨n, e, modulus.length⟩
  else none
where
  isPlain (bytes : List UInt8) : Bool :=
    match bytes with
    | [] => false
    | b :: _ => b != 0
  ofNumber (bytes : List UInt8) : Nat :=
    Hash.ofBigEndian bytes

def open? (key : RsaKey) (signature : List UInt8) : Option (List UInt8) :=
  let s := Hash.ofBigEndian signature
  if signature.length = key.size ∧ s < key.modulus then
    some (Hash.bigEndian key.size (powerMod key.modulus s key.exponent))
  else none

end RsaKey

/-- What names a hash function in front of its digest. -/
def digestInfo (h : Hash) : List UInt8 :=
  let (total, number) : UInt8 × UInt8 :=
    match h with
    | .sha256 => (0x31, 0x01)
    | .sha384 => (0x41, 0x02)
    | .sha512 => (0x51, 0x03)
  [0x30, total, 0x30, 0x0D, 0x06, 0x09, 0x60, 0x86, 0x48, 0x01, 0x65, 0x03, 0x04, 0x02, number,
    0x05, 0x00, 0x04, UInt8.ofNat h.size]

def plainPadding (h : Hash) (size : Nat) (message : List UInt8) : List UInt8 :=
  let tail := digestInfo h ++ h.digest message
  0x00 :: 0x01 :: List.replicate (size - tail.length - 3) 0xFF ++ 0x00 :: tail

def verifyPlain (h : Hash) (key : RsaKey) (message signature : List UInt8) : Bool :=
  match key.open? signature with
  | some opened => opened == plainPadding h key.size message
  | none => false

def mask (h : Hash) (seed : List UInt8) (size : Nat) : List UInt8 :=
  ((List.range ((size + h.size - 1) / h.size)).flatMap fun i =>
    h.digest (seed ++ Hash.bigEndian 4 i)).take size

def firstByteMask (bits : Nat) : UInt8 :=
  UInt8.ofNat (255 / Nat.pow 2 ((8 - bits % 8) % 8))

/-- Whether `encoded` holds the digest of a message with a salt as long as the digest. -/
def isRandomisedPadding (h : Hash) (bits : Nat) (message encoded : List UInt8) : Bool :=
  let dataSize := encoded.length - h.size - 1
  let masked := encoded.take dataSize
  let code := (encoded.drop dataSize).take h.size
  let data := List.zipWith (· ^^^ ·) masked (mask h code dataSize)
  let data :=
    match data with
    | b :: rest => (b &&& firstByteMask bits) :: rest
    | [] => []
  let zeros := dataSize - h.size - 1
  let salt := data.drop (zeros + 1)
  encoded.getLast? == some 0xBC &&
    (masked.headD 0 &&& ~~~firstByteMask bits) == 0 &&
    data.take (zeros + 1) == List.replicate zeros 0 ++ [0x01] &&
    code == h.digest (List.replicate 8 0 ++ h.digest message ++ salt)

/-- The encoded message has one bit less than the modulus; a byte that it leaves free is zero. -/
def verifyRandomised (h : Hash) (key : RsaKey) (message signature : List UInt8) : Bool :=
  let bits := key.modulus.log2
  match key.open? signature with
  | some opened =>
    let spare := key.size - (bits + 7) / 8
    opened.take spare == List.replicate spare 0 &&
      isRandomisedPadding h bits message (opened.drop spare)
  | none => false

end BearerTokens.Crypto
