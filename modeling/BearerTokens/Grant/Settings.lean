import BearerTokens.Json.Record
import BearerTokens.Secret
import BearerTokens.Text.Blank
import BearerTokens.Text.Quoted

/-!
# Settings

The client-credentials block of an application's configuration, as it is written there: every setting may
be missing, and each may be spelled in camel case or in snake case.
-/

set_option autoImplicit false

namespace BearerTokens

open BearerTokens.Json BearerTokens.Text

/-- The settings that a grant cannot do without, in the order in which they are reported. -/
inductive Required where
  | clientId
  | clientSecret
  | tokenUrl
  deriving DecidableEq, Repr

def Required.name : Required → String
  | .clientId => "clientId"
  | .clientSecret => "clientSecret"
  | .tokenUrl => "tokenUrl"

def Required.all : List Required := [.clientId, .clientSecret, .tokenUrl]

structure Settings where
  clientId : Option String
  clientSecret : Option Secret
  tokenUrl : Option String
  scopes : Option (List String)
  deriving DecidableEq

namespace Settings

inductive Field where
  | clientId
  | clientSecret
  | tokenUrl
  | scopes
  deriving DecidableEq, Repr

def Field.type : Field → Type
  | .clientId => Option String
  | .clientSecret => Option Secret
  | .tokenUrl => Option String
  | .scopes => Option (List String)

def Field.ofName? (name : String) : Option Field :=
  if name = "clientId" ∨ name = "client_id" then some .clientId
  else if name = "clientSecret" ∨ name = "client_secret" then some .clientSecret
  else if name = "tokenUrl" ∨ name = "token_url" then some .tokenUrl
  else if name = "scopes" then some .scopes
  else none

def Field.read : (f : Field) → Reader f.type
  | .clientId => nullable text
  | .clientSecret => nullable Secret.read
  | .tokenUrl => nullable text
  | .scopes => nullable (list text)

def schema : Schema Field Field.type where
  field? := Field.ofName?
  positions := [.clientId, .clientSecret, .tokenUrl, .scopes]
  needed := []
  neededByPosition := []
  read := Field.read

def ofGiven (given : Given Field.type) : Settings where
  clientId := (given.get? .clientId).getD none
  clientSecret := (given.get? .clientSecret).getD none
  tokenUrl := (given.get? .tokenUrl).getD none
  scopes := (given.get? .scopes).getD none

def read : Reader Settings := fun s =>
  (schema.reader s).map fun (given, s) => (ofGiven given, s)

def get? (s : Settings) : Required → Option String
  | .clientId => s.clientId
  | .clientSecret => s.clientSecret.map (·.expose)
  | .tokenUrl => s.tokenUrl

def isBlank (value : Option String) : Bool :=
  match value with
  | some text => text.toList.all Text.isBlank
  | none => true

def missing (s : Settings) : List Required :=
  Required.all.filter fun r => isBlank (s.get? r)

def isComplete (s : Settings) : Bool :=
  s.missing.isEmpty

def inspect (s : Settings) : String :=
  "ClientCredentialsSettings \x7b client_id: " ++ orNone (s.clientId.map quoted) ++
    ", client_secret: " ++ orNone (s.clientSecret.map Secret.inspect) ++
    ", token_url: " ++ orNone (s.tokenUrl.map quoted) ++
    ", scopes: " ++ orNone (s.scopes.map fun l => bracketed (l.map quoted)) ++ " \x7d"

end Settings

end BearerTokens
