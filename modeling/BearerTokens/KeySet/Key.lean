import BearerTokens.Json.Record

/-!
# Keys and key sets

A key as it is published: an object with some descriptive members, and the material of one of four families.
A key set is a list of keys; one that is at fault spoils the whole set. Keys are found by their key id.
-/

set_option autoImplicit false

namespace BearerTokens

open BearerTokens.Json

/-- What a key consists of, still in its text encoding. -/
inductive KeyMaterial where
  | ellipticCurve (x y : String)
  | rsa (modulus exponent : String)
  | symmetric (secret : String)
  | edwardsCurve (x : String)
  deriving DecidableEq, Repr

structure Key where
  id : Option String
  material : KeyMaterial
  deriving DecidableEq, Repr

namespace Key

def values (members : Members) (name : String) : List Value :=
  (members.filter (·.1 == name)).map (·.2)

/-- A member that may be missing or null, and else must pass a test; it must not be repeated. -/
def isOptional (test : Value → Bool) (members : Members) (name : String) : Bool :=
  match values members name with
  | [] => true
  | [.null] => true
  | [v] => test v
  | _ => false

def isText (v : Value) : Bool :=
  v.string?.isSome

def isTexts : Value → Bool
  | .array items => items.all isText
  | _ => false

/-- A choice is written as its name, or as an object whose one member has that name and an empty value. -/
def isChoice (empty : Value → Bool) (names : List String) : Value → Bool
  | .string s => names.contains s
  | .object [(name, v)] => names.contains name && empty v
  | _ => false

def isNull : Value → Bool
  | .null => true
  | _ => false

def isNullOrEmpty : Value → Bool
  | .null => true
  | .object [] => true
  | _ => false

def algorithmNames : List String :=
  ["HS256", "HS384", "HS512", "ES256", "ES384", "RS256", "RS384", "RS512", "PS256", "PS384", "PS512",
    "EdDSA", "RSA1_5", "RSA-OAEP", "RSA-OAEP-256"]

def curveNames : List String :=
  ["P-256", "P-384", "P-521", "Ed25519"]

def hasProperDescription (members : Members) : Bool :=
  ["use", "kid", "x5u", "x5t", "x5t#S256"].all (isOptional isText members) &&
    ["key_ops", "x5c"].all (isOptional isTexts members) &&
    isOptional (isChoice isNullOrEmpty algorithmNames) members "alg"

def text? (members : Members) (name : String) : Option String :=
  match values members name with
  | [.string s] => some s
  | _ => none

def chooses (members : Members) (name : String) (choices : List String) : Bool :=
  match values members name with
  | [v] => isChoice isNull choices v
  | _ => false

def ellipticCurve? (members : Members) : Option KeyMaterial :=
  if chooses members "kty" ["EC"] && chooses members "crv" curveNames then
    match text? members "x", text? members "y" with
    | some x, some y => some (.ellipticCurve x y)
    | _, _ => none
  else none

def rsa? (members : Members) : Option KeyMaterial :=
  if chooses members "kty" ["RSA"] then
    match text? members "n", text? members "e" with
    | some n, some e => some (.rsa n e)
    | _, _ => none
  else none

def symmetric? (members : Members) : Option KeyMaterial :=
  if chooses members "kty" ["oct"] then (text? members "k").map .symmetric else none

def edwardsCurve? (members : Members) : Option KeyMaterial :=
  if chooses members "kty" ["OKP"] && chooses members "crv" curveNames then
    (text? members "x").map .edwardsCurve
  else none

/-- The material of the first family whose members are all there. -/
def material? (members : Members) : Option KeyMaterial :=
  [ellipticCurve?, rsa?, symmetric?, edwardsCurve?].findSome? (· members)

def ofMembers? (members : Members) : Option Key :=
  if hasProperDescription members then
    (material? members).map fun material => ⟨text? members "kid", material⟩
  else none

/-- A key whose members may nest `depth` levels. It is judged when all its members have been read. -/
def read (depth : Nat) : Reader Key := fun s =>
  match skipBlanks s with
  | 0x7B :: rest =>
    match members (collecting (value depth)) [] rest with
    | .error e => .error e
    | .ok (ms, rest) =>
      match ofMembers? ms.reverse with
      | some key => .ok (key, rest)
      | none => .error (.mismatch none)
  | s => .error (unexpected s)

end Key

structure KeySet where
  keys : List Key
  deriving DecidableEq, Repr

namespace KeySet

def find? (set : KeySet) (kid : String) : Option Key :=
  set.keys.find? fun key => key.id == some kid

def ids (set : KeySet) : List (Option String) :=
  set.keys.map (·.id)

/-- The key set and the list in it take up two levels of nesting, a key the third. -/
def schema : Schema Unit fun _ => List Key where
  field? name := if name = "keys" then some () else none
  positions := [()]
  needed := [()]
  neededByPosition := [()]
  read _ := list (Key.read (depthLimit - 3))

def read : Reader KeySet := fun s =>
  match schema.reader s with
  | .error e => .error e
  | .ok (given, rest) =>
    match given.get? () with
    | some keys => .ok (⟨keys⟩, rest)
    | none => .error (.mismatch none)

def parse (body : Bytes) : Except Fault KeySet :=
  document read body

end KeySet

end BearerTokens
