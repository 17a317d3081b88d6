import BearerTokens.Jwt.Claims
import BearerTokens.Jwt.Header

/-!
# Verification

A token is checked with one key in a fixed order: the key material, the algorithms that are accepted, the
header, the signature, the payload, the claims. Checked against a whole key set, the key is the first one with
the key id of the header.
-/

set_option autoImplicit false

namespace BearerTokens.Jwt

open BearerTokens.Json BearerTokens.Text

/-- Some algorithm must be accepted, and all that are must be of the family of the key. -/
def checkAlgorithms (validation : Validation) (key : VerifyingKey) : Except TokenError Unit :=
  if validation.algorithms.isEmpty then .error .missingAlgorithm
  else if validation.algorithms.all fun a => decide (a.family = key.family) then .ok ()
  else .error .invalidAlgorithm

def authenticate (token : String) (key : VerifyingKey) (validation : Validation) :
    Except TokenError Parts :=
  match checkAlgorithms validation key with
  | .error e => .error e
  | .ok () =>
    match Parts.ofToken? token with
    | none => .error .invalidToken
    | some parts =>
      match Header.ofPart parts.header with
      | .error e => .error e
      | .ok header =>
        if validation.algorithms.contains header.algorithm then
          match key.verifies? header.algorithm parts.message parts.signature with
          | none => .error .base64
          | some true => .ok parts
          | some false => .error .invalidSignature
        else .error .invalidAlgorithm

def decode (token : String) (key : VerifyingKey) (validation : Validation) (now : Nat) :
    Except TokenError Value :=
  match authenticate token key validation with
  | .error e => .error e
  | .ok parts =>
    match Base64Url.decode parts.payload with
    | none => .error .base64
    | some bytes =>
      match document (value depthLimit) bytes with
      | .error _ => .error .json
      | .ok payload =>
        match Claims.ofValue? payload with
        | none => .error .json
        | some claims => (validation.check claims now).map fun () => payload

/-- How a token is checked with a published key. -/
abbrev Check : Type := Key → String → Validation → Except TokenError Value

def verifyWith (now : Nat) : Check := fun key token validation =>
  match VerifyingKey.ofMaterial? key.material with
  | none => .error .base64
  | some key => decode token key validation now

def keyId (token : String) : Except KeySetError String :=
  match header token with
  | .error e => .error (.verification e)
  | .ok h =>
    match h.keyId with
    | some kid => .ok kid
    | none => .error .missingKeyId

def verifyAgainst (check : Check) (set : KeySet) (token : String) (validation : Validation) :
    Except KeySetError Value :=
  match keyId token with
  | .error e => .error e
  | .ok kid =>
    match set.find? kid with
    | none => .error (.unknownKey kid)
    | some key => (check key token validation).mapError .verification

end BearerTokens.Jwt
