import BearerTokens.Error
import BearerTokens.Secret

/-!
# Token responses

The body of a successful answer from a token endpoint. It is read as one record; what follows the record is
not looked at.
-/

set_option autoImplicit false

namespace BearerTokens

open BearerTokens.Json BearerTokens.Number

structure TokenResponse where
  accessToken : Secret
  tokenType : Option String
  expiresIn : Option Binary64
  scope : Option String
  deriving DecidableEq

namespace TokenResponse

inductive Field where
  | accessToken
  | tokenType
  | expiresIn
  | scope
  deriving DecidableEq, Repr

def Field.type : Field → Type
  | .accessToken => Secret
  | .tokenType => Option String
  | .expiresIn => Option Binary64
  | .scope => Option String

def Field.ofName? (name : String) : Option Field :=
  if name = "access_token" then some .accessToken
  else if name = "token_type" then some .tokenType
  else if name = "expires_in" then some .expiresIn
  else if name = "scope" then some .scope
  else none

def Field.read : (f : Field) → Reader f.type
  | .accessToken => Secret.read
  | .tokenType => nullable text
  | .expiresIn => nullable float
  | .scope => nullable text

def schema : Schema Field Field.type where
  field? := Field.ofName?
  positions := [.accessToken, .tokenType, .expiresIn, .scope]
  needed := [.accessToken]
  neededByPosition := [.accessToken]
  read := Field.read

def ofGiven? (given : Given Field.type) : Option TokenResponse :=
  (given.get? .accessToken).map fun (accessToken : Secret) =>
    { accessToken := accessToken
      tokenType := (given.get? .tokenType).getD none
      expiresIn := (given.get? .expiresIn).getD none
      scope := (given.get? .scope).getD none }

def read (body : Bytes) : Except Misread TokenResponse :=
  match schema.record body with
  | .error e => .error e
  | .ok (given, _) =>
    match ofGiven? given with
    | some r => .ok r
    | none => .error ⟨.mismatch none, .record⟩

def parse (status : Nat) (body : Bytes) : Except EndpointError TokenResponse :=
  match read body with
  | .error e => .error (.malformedResponse e status)
  | .ok r => if r.accessToken.isEmpty then .error .emptyAccessToken else .ok r

end TokenResponse

end BearerTokens
