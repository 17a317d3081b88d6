import BearerTokens.Error
import BearerTokens.Grant.Settings
import BearerTokens.Text.Form
import BearerTokens.Url.Inspect
import BearerTokens.Url.Parser

/-!
# Client-credentials grants

The checked parameters of a grant, its form body, and the request that asks the token endpoint for it.
Settings resolve to a grant or to the first error in a fixed order: a missing setting, the URL, its
scheme, a scope.
-/

set_option autoImplicit false

namespace BearerTokens

open BearerTokens.Http BearerTokens.Text

structure Grant where
  clientId : String
  clientSecret : Secret
  tokenUrl : Url
  scopes : Scopes
  deriving DecidableEq

namespace Grant

def isWebScheme (scheme : String) : Bool :=
  scheme == "http" || scheme == "https"

/-- Checks the parameters of a grant; nothing is trimmed here. -/
def make (clientId : String) (clientSecret : Secret) (tokenUrl : Url) (scopes : List String) :
    Except ConfigError Grant :=
  if clientId.isEmpty then .error (.missingField Required.clientId.name)
  else if clientSecret.isEmpty then .error (.missingField Required.clientSecret.name)
  else if !isWebScheme tokenUrl.scheme then .error (.unsupportedScheme tokenUrl.text)
  else
    match Scopes.ofList scopes with
    | .error e => .error (.invalidScope e)
    | .ok scopes => .ok ⟨clientId, clientSecret, tokenUrl, scopes⟩

/-- The pairs of the form; the scope is among them only if there is one. -/
def pairs (g : Grant) : List (String × String) :=
  [("grant_type", "client_credentials"), ("client_id", g.clientId),
    ("client_secret", g.clientSecret.expose)] ++
  (g.scopes.requestValue?.map fun scope => ("scope", scope)).toList

def form (g : Grant) : String :=
  Form.encode g.pairs

def inspect (g : Grant) : String :=
  "ClientCredentialsConfig \x7b client_id: " ++ quoted g.clientId ++
    ", client_secret: " ++ g.clientSecret.inspect ++
    ", token_url: " ++ g.tokenUrl.inspect ++
    ", scopes: " ++ g.scopes.inspect ++ " \x7d"

/-- The request for a token. The URL must also do as a request target. -/
def request (g : Grant) : Except ConfigError Request :=
  match Target.parse g.tokenUrl.text with
  | .error e => .error (.request e)
  | .ok target =>
    .ok
      { method := .post
        target := target
        headers :=
          [("accept", "application/json"), ("content-type", "application/x-www-form-urlencoded")]
        body := g.form }

end Grant

namespace Settings

/-- The grant that the settings describe. Client id and URL are trimmed, the secret is not. -/
def resolve (s : Settings) (toAscii : ToAscii := .plain) : Except ConfigError Grant :=
  match s.missing with
  | r :: _ => .error (.missingField r.name)
  | [] =>
    match s.clientId, s.clientSecret, s.tokenUrl with
    | some clientId, some clientSecret, some tokenUrl =>
      match Url.parse (trim tokenUrl) toAscii with
      | .error e => .error (.invalidTokenUrl e)
      | .ok url => Grant.make (trim clientId) clientSecret url (s.scopes.getD [])
    | _, _, _ => .error .notConfigured

end Settings

end BearerTokens
