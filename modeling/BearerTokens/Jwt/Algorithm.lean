import BearerTokens.Crypto.Edwards
import BearerTokens.Crypto.EllipticCurve
import BearerTokens.Crypto.Hmac
import BearerTokens.Crypto.Rsa
import BearerTokens.KeySet.Key
import BearerTokens.Text.Base64Url

/-!
# Signature algorithms

The algorithms that a signed token may name, by family, and keys made ready for them. A symmetric signature is
compared in its text encoding; every other one is decoded first. The coordinates of a point need only have the
right length together.
-/

set_option autoImplicit false

namespace BearerTokens.Jwt

open BearerTokens.Crypto BearerTokens.Text

inductive Family where
  | hmac
  | ellipticCurve
  | rsa
  | edwardsCurve
  deriving DecidableEq, Repr

inductive Algorithm where
  | hmac (h : Hash)
  | rsaPlain (h : Hash)
  | rsaRandomised (h : Hash)
  | ellipticCurve (c : Curve)
  | edwardsCurve
  deriving DecidableEq, Repr

namespace Algorithm

def family : Algorithm → Family
  | .hmac _ => .hmac
  | .rsaPlain _ | .rsaRandomised _ => .rsa
  | .ellipticCurve _ => .ellipticCurve
  | .edwardsCurve => .edwardsCurve

def table : List (String × Algorithm) :=
  [("HS256", .hmac .sha256), ("HS384", .hmac .sha384), ("HS512", .hmac .sha512),
    ("ES256", .ellipticCurve .p256), ("ES384", .ellipticCurve .p384),
    ("RS256", .rsaPlain .sha256), ("RS384", .rsaPlain .sha384), ("RS512", .rsaPlain .sha512),
    ("PS256", .rsaRandomised .sha256), ("PS384", .rsaRandomised .sha384),
    ("PS512", .rsaRandomised .sha512), ("EdDSA", .edwardsCurve)]

def ofName? (name : String) : Option Algorithm :=
  table.lookup name

end Algorithm

inductive VerifyingKey where
  | secret (bytes : List UInt8)
  | rsa (modulus exponent : List UInt8)
  | point (x y : List UInt8)
  | edwards (x : List UInt8)
  deriving DecidableEq, Repr

namespace VerifyingKey

def family : VerifyingKey → Family
  | .secret _ => .hmac
  | .rsa .. => .rsa
  | .point .. => .ellipticCurve
  | .edwards _ => .edwardsCurve

def bytes? (text : String) : Option (List UInt8) :=
  Base64Url.decode text.toList

/-- There is none if the material is not properly encoded. -/
def ofMaterial? : KeyMaterial → Option VerifyingKey
  | .symmetric encoded => (bytes? encoded).map .secret
  | .rsa modulus exponent =>
    match bytes? modulus, bytes? exponent with
    | some n, some e => some (.rsa n e)
    | _, _ => none
  | .ellipticCurve x y =>
    match bytes? x, bytes? y with
    | some x, some y => some (.point x y)
    | _, _ => none
  | .edwardsCurve x => (bytes? x).map .edwards

def verifyRsa (verify : RsaKey → Bool) (modulus exponent : List UInt8) : Bool :=
  match RsaKey.make? modulus exponent with
  | some key => verify key
  | none => false

/-- Whether a signature, as it is written in a token, belongs to a message; `none` if it is not properly
encoded. None does whose algorithm is of another family than the key. -/
def verifies? (key : VerifyingKey) (algorithm : Algorithm) (message : List UInt8)
    (signature : List Char) : Option Bool :=
  match algorithm, key with
  | .hmac h, .secret k => some (Base64Url.encode (hmac h k message) == signature)
  | .rsaPlain h, .rsa n e =>
    (Base64Url.decode signature).map fun s => verifyRsa (verifyPlain h · message s) n e
  | .rsaRandomised h, .rsa n e =>
    (Base64Url.decode signature).map fun s => verifyRsa (verifyRandomised h · message s) n e
  | .ellipticCurve c, .point x y => (Base64Url.decode signature).map (c.verify (x ++ y) message)
  | .edwardsCurve, .edwards x => (Base64Url.decode signature).map (Edwards.verify x message)
  | _, _ => (Base64Url.decode signature).map fun _ => false

end VerifyingKey

end BearerTokens.Jwt
