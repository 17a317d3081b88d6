import BearerTokens.Error
import BearerTokens.Jwt.Algorithm
import BearerTokens.Text.Utf8

/-!
# Token headers

A signed token is three texts joined by dots. The first one encodes a header, a record that names the
algorithm and, as a rule, the key. Dots beyond the second count as part of the header.
-/

set_option autoImplicit false

namespace BearerTokens.Jwt

open BearerTokens.Json BearerTokens.Text

structure Parts where
  header : List Char
  payload : List Char
  signature : List Char
  deriving DecidableEq, Repr

def splitLast (s : List Char) : Option (List Char × List Char) :=
  let r := s.reverse
  match r.dropWhile (· ≠ '.') with
  | [] => none
  | _ :: front => some (front.reverse, (r.takeWhile (· ≠ '.')).reverse)

namespace Parts

def ofToken? (token : String) : Option Parts :=
  match splitLast token.toList with
  | none => none
  | some (message, signature) =>
    (splitLast message).map fun (header, payload) => ⟨header, payload, signature⟩

def message (p : Parts) : List UInt8 :=
  Utf8.encode (p.header ++ '.' :: p.payload)

end Parts

structure Header where
  algorithm : Algorithm
  keyId : Option String
  deriving DecidableEq, Repr

namespace Header

inductive Field where
  | type
  | algorithm
  | contentType
  | keySetUrl
  | key
  | keyId
  | certificateUrl
  | certificates
  | fingerprint
  | longFingerprint
  deriving DecidableEq, Repr

def Field.valueType : Field → Type
  | .algorithm => Algorithm
  | .key => Option Key
  | .certificates => Option (List String)
  | _ => Option String

def Field.names : List (String × Field) :=
  [("typ", .type), ("alg", .algorithm), ("cty", .contentType), ("jku", .keySetUrl), ("jwk", .key),
    ("kid", .keyId), ("x5u", .certificateUrl), ("x5c", .certificates), ("x5t", .fingerprint),
    ("x5t#S256", .longFingerprint)]

/-- An algorithm is written as its name, or as an object whose one member has that name and is null. -/
def readAlgorithm : Reader Algorithm := fun s =>
  match value (depthLimit - 1) s with
  | .error e => .error e
  | .ok (v, rest) =>
    let name? : Option String :=
      match v with
      | .string name => some name
      | .object [(name, .null)] => some name
      | _ => none
    match name?.bind Algorithm.ofName? with
    | some algorithm => .ok (algorithm, rest)
    | none => .error (.mismatch none)

def Field.read : (f : Field) → Reader f.valueType
  | .algorithm => readAlgorithm
  | .key => nullable (Key.read (depthLimit - 2))
  | .certificates => nullable (list text)
  | .type => nullable text
  | .contentType => nullable text
  | .keySetUrl => nullable text
  | .keyId => nullable text
  | .certificateUrl => nullable text
  | .fingerprint => nullable text
  | .longFingerprint => nullable text

def schema : Schema Field Field.valueType where
  field? name := Field.names.lookup name
  positions := Field.names.map (·.2)
  needed := [.algorithm]
  neededByPosition := Field.names.map (·.2)
  read := Field.read

def ofGiven? (given : Given Field.valueType) : Option Header :=
  (given.get? .algorithm).map fun (algorithm : Algorithm) => ⟨algorithm, (given.get? .keyId).getD none⟩

def ofPart (header : List Char) : Except TokenError Header :=
  match Base64Url.decode header with
  | none => .error .base64
  | some bytes =>
    match document schema.reader bytes with
    | .error _ => .error .json
    | .ok given =>
      match ofGiven? given with
      | some h => .ok h
      | none => .error .json

end Header

def header (token : String) : Except TokenError Header :=
  match Parts.ofToken? token with
  | none => .error .invalidToken
  | some p => Header.ofPart p.header

end BearerTokens.Jwt
