/-!
# Secure hashes

The SHA-2 functions with digests of 256, 384 and 512 bits, over words of any size. Their constants are the
leading fraction bits of the square and cube roots of the first primes, and are computed as such.
-/

set_option autoImplicit false

namespace BearerTokens.Crypto

/-- Adds lower and lower powers of two to `r` while the `k`-th power stays at most `n`. -/
def refineRoot (k n : Nat) : Nat → Nat → Nat
  | 0, r => r
  | bit + 1, r => refineRoot k n bit (if Nat.pow (r + Nat.pow 2 bit) k ≤ n then r + Nat.pow 2 bit else r)

/-- The first 64 bits after the point of the `k`-th root of a number below 512. -/
def rootFraction (k n : Nat) : Nat :=
  refineRoot k (n * Nat.pow 2 (64 * k)) 73 0 % Nat.pow 2 64

def isPrime (n : Nat) : Bool :=
  decide (2 ≤ n) && (List.range n).all fun d => decide (d < 2) || n % d != 0

def primes : List Nat :=
  (List.range 410).filter isPrime

def cubeRootFractions : List Nat :=
  primes.map (rootFraction 3)

def squareRootFractions : List Nat :=
  (primes.take 16).map (rootFraction 2)

inductive Hash where
  | sha256
  | sha384
  | sha512
  deriving DecidableEq, Repr

namespace Hash

def wordBytes : Hash → Nat
  | .sha256 => 4
  | .sha384 | .sha512 => 8

def size : Hash → Nat
  | .sha256 => 32
  | .sha384 => 48
  | .sha512 => 64

def blockSize (h : Hash) : Nat :=
  16 * h.wordBytes

abbrev Word (h : Hash) : Type := BitVec (8 * h.wordBytes)

def leading (h : Hash) (fraction : Nat) : h.Word :=
  BitVec.ofNat _ (fraction / Nat.pow 2 (64 - 8 * h.wordBytes))

def roundConstants : (h : Hash) → List h.Word
  | .sha256 => (cubeRootFractions.take 64).map (leading .sha256)
  | .sha384 => cubeRootFractions.map (leading .sha384)
  | .sha512 => cubeRootFractions.map (leading .sha512)

def initial : (h : Hash) → List h.Word
  | .sha256 => (squareRootFractions.take 8).map (leading .sha256)
  | .sha384 => (squareRootFractions.drop 8).map (leading .sha384)
  | .sha512 => (squareRootFractions.take 8).map (leading .sha512)

/-- Distances of the four mixing functions. The third one of the last two shifts instead of rotating. -/
structure Distances where
  bigZero : Nat × Nat × Nat
  bigOne : Nat × Nat × Nat
  smallZero : Nat × Nat × Nat
  smallOne : Nat × Nat × Nat

def distances : Hash → Distances
  | .sha256 => ⟨(2, 13, 22), (6, 11, 25), (7, 18, 3), (17, 19, 10)⟩
  | .sha384 | .sha512 => ⟨(28, 34, 39), (14, 18, 41), (1, 8, 7), (19, 61, 6)⟩

def mixBig {w : Nat} (d : Nat × Nat × Nat) (x : BitVec w) : BitVec w :=
  x.rotateRight d.1 ^^^ x.rotateRight d.2.1 ^^^ x.rotateRight d.2.2

def mixSmall {w : Nat} (d : Nat × Nat × Nat) (x : BitVec w) : BitVec w :=
  x.rotateRight d.1 ^^^ x.rotateRight d.2.1 ^^^ (x >>> d.2.2)

structure Registers (w : Nat) where
  a : BitVec w
  b : BitVec w
  c : BitVec w
  d : BitVec w
  e : BitVec w
  f : BitVec w
  g : BitVec w
  h : BitVec w

namespace Registers

variable {w : Nat}

def ofList (state : List (BitVec w)) : Registers w :=
  let word (i : Nat) := state.getD i 0
  ⟨word 0, word 1, word 2, word 3, word 4, word 5, word 6, word 7⟩

def toList (r : Registers w) : List (BitVec w) :=
  [r.a, r.b, r.c, r.d, r.e, r.f, r.g, r.h]

def advance (d : Distances) (r : Registers w) (constant word : BitVec w) : Registers w :=
  let choice := (r.e &&& r.f) ^^^ (~~~r.e &&& r.g)
  let majority := (r.a &&& r.b) ^^^ (r.a &&& r.c) ^^^ (r.b &&& r.c)
  let t₁ := r.h + mixBig d.bigOne r.e + choice + constant + word
  let t₂ := mixBig d.bigZero r.a + majority
  ⟨t₁ + t₂, r.a, r.b, r.c, r.d + t₁, r.e, r.f, r.g⟩

end Registers

def slide {w : Nat} (d : Distances) (window : List (BitVec w)) : List (BitVec w) :=
  let word (i : Nat) := window.getD i 0
  window.drop 1 ++ [mixSmall d.smallOne (word 14) + word 9 + mixSmall d.smallZero (word 1) + word 0]

def compress {w : Nat} (d : Distances) (constants state block : List (BitVec w)) : List (BitVec w) :=
  let last :=
    constants.foldl
      (fun (r, window) constant => (r.advance d constant (window.headD 0), slide d window))
      (Registers.ofList state, block)
  List.zipWith (· + ·) state last.1.toList

def bigEndian (size n : Nat) : List UInt8 :=
  (List.range size).map fun i => UInt8.ofNat (n / Nat.pow 256 (size - 1 - i))

def ofBigEndian (bytes : List UInt8) : Nat :=
  bytes.foldl (fun n b => n * 256 + b.toNat) 0

def pieces (size : Nat) : Nat → List UInt8 → List (List UInt8)
  | 0, _ => []
  | count + 1, bytes => bytes.take size :: pieces size count (bytes.drop size)

/-- A message followed by a one bit, zero bits and its own length. -/
def padded (h : Hash) (message : List UInt8) : List UInt8 :=
  let used := message.length + 1 + 2 * h.wordBytes
  let zeros := (h.blockSize - used % h.blockSize) % h.blockSize
  message ++ 0x80 :: List.replicate zeros 0 ++ bigEndian (2 * h.wordBytes) (8 * message.length)

def words (h : Hash) (block : List UInt8) : List h.Word :=
  (pieces h.wordBytes 16 block).map fun bytes => BitVec.ofNat _ (ofBigEndian bytes)

def digest (h : Hash) (message : List UInt8) : List UInt8 :=
  let bytes := h.padded message
  let constants := h.roundConstants
  let state :=
    (pieces h.blockSize (bytes.length / h.blockSize) bytes).foldl
      (fun state block => compress h.distances constants state (h.words block)) h.initial
  (state.flatMap fun word => bigEndian h.wordBytes word.toNat).take h.size

end Hash

end BearerTokens.Crypto
