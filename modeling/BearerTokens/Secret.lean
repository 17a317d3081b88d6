import BearerTokens.Json.Reader

/-!
# Secrets

A client secret or an access token. Its value is read only through `expose`; every text made for people
shows a fixed stand-in.
-/

set_option autoImplicit false

namespace BearerTokens

structure Secret where
  expose : String
  deriving DecidableEq

namespace Secret

def isEmpty (s : Secret) : Bool :=
  s.expose.isEmpty

def display (_ : Secret) : String := "<redacted>"

def inspect (_ : Secret) : String := "TokenSecret(\"<redacted>\")"

def inspectLines (_ : Secret) : String := "TokenSecret(\n    \"<redacted>\",\n)"

def read : Json.Reader Secret := fun s =>
  (Json.text s).map fun (value, s) => (⟨value⟩, s)

end Secret

end BearerTokens
