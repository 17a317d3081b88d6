import BearerTokens.Http.Message
import BearerTokens.Json.Record
import BearerTokens.Scopes
import BearerTokens.Url.Host

/-!
# Errors

Every cause for which a call can fail, in four families: configuration, transport, token endpoint, and
key sets with the tokens checked against them. Transport and endpoint errors may pass on a later attempt.
-/

set_option autoImplicit false

namespace BearerTokens

open BearerTokens.Http BearerTokens.Json

inductive ConfigError where
  | notConfigured
  | missingField (field : String)
  | invalidTokenUrl (cause : UrlError)
  | unsupportedScheme (url : String)
  | invalidScope (cause : ScopeError)
  | clientBuild (cause : String)
  | request (cause : TargetError)
  | invalidHeader
  deriving DecidableEq, Repr

inductive TransportError where
  | network (target cause : String)
  | io (target cause : String)
  | other (target message : String)
  deriving DecidableEq, Repr

inductive EndpointError where
  | status (code : Nat) (body : String)
  | malformedResponse (cause : Misread) (code : Nat)
  | emptyAccessToken
  deriving DecidableEq, Repr

/-- Why a signed token is not accepted. -/
inductive TokenError where
  | invalidToken
  | base64
  | json
  | missingAlgorithm
  | invalidAlgorithm
  | invalidSignature
  | missingClaim (name : String)
  | expired
  | immature
  | invalidSubject
  | invalidIssuer
  | invalidAudience
  deriving DecidableEq, Repr

inductive KeySetError where
  | status (url : String) (code : Nat)
  | malformed (url : String) (cause : Fault)
  | missingKeyId
  | unknownKey (kid : String)
  | verification (cause : TokenError)
  deriving DecidableEq, Repr

inductive Error where
  | config (e : ConfigError)
  | transport (e : TransportError)
  | endpoint (e : EndpointError)
  | keySet (e : KeySetError)
  deriving DecidableEq, Repr

/-- What lies behind an error. -/
inductive Cause where
  | text (message : String)
  | misread (fault : Fault) (place : Option Place)
  | token (e : TokenError)
  deriving DecidableEq, Repr

def ConfigError.message : ConfigError → String
  | .notConfigured => "Client credentials not configured."
  | .missingField field => "Client credentials setting `" ++ field ++ "` is missing."
  | .invalidTokenUrl _ => "Token URL is invalid."
  | .unsupportedScheme url => "Token URL must use http or https: " ++ url ++ "."
  | .invalidScope _ => "Configured scopes are invalid."
  | .clientBuild _ => "HTTP client could not be constructed."
  | .request _ => "HTTP request could not be constructed."
  | .invalidHeader => "Header value is invalid."

def ConfigError.causes : ConfigError → List Cause
  | .invalidTokenUrl cause => [.text cause.message]
  | .invalidScope cause => [.text cause.message]
  | .clientBuild cause => [.text cause]
  | .request cause => [.text cause.message]
  | .invalidHeader => [.text "failed to parse header value"]
  | _ => []

def TransportError.message : TransportError → String
  | .network target _ => "Network error occurred while calling " ++ target ++ "."
  | .io target _ => "I/O error occurred while calling " ++ target ++ "."
  | .other target message =>
    "HTTP client error occurred while calling " ++ target ++ ": " ++ message ++ "."

def TransportError.causes : TransportError → List Cause
  | .network _ cause => [.text cause]
  | .io _ cause => [.text cause]
  | .other .. => []

def EndpointError.message : EndpointError → String
  | .status code body => "Token request failed: status " ++ statusLine code ++ ": " ++ body
  | .malformedResponse _ code =>
    "Token endpoint returned malformed JSON (status " ++ toString code ++ ")."
  | .emptyAccessToken => "Token endpoint returned an empty access token."

def EndpointError.causes : EndpointError → List Cause
  | .malformedResponse cause _ => [.misread cause.fault (some cause.place)]
  | _ => []

def KeySetError.message : KeySetError → String
  | .status url code => "JWKS request to " ++ url ++ " failed: status " ++ statusLine code ++ "."
  | .malformed url _ => "JWKS document at " ++ url ++ " is malformed."
  | .missingKeyId => "Token header does not carry a key id."
  | .unknownKey kid => "No JWKS key matches key id `" ++ kid ++ "`."
  | .verification _ => "Token verification failed."

def KeySetError.causes : KeySetError → List Cause
  | .malformed _ cause => [.misread cause none]
  | .verification cause => [.token cause]
  | _ => []

namespace Error

def message : Error → String
  | .config e => e.message
  | .transport e => e.message
  | .endpoint e => e.message
  | .keySet e => e.message

/-- The chain of causes, the error itself left out. -/
def causes : Error → List Cause
  | .config e => e.causes
  | .transport e => e.causes
  | .endpoint e => e.causes
  | .keySet e => e.causes

def isRetryable : Error → Bool
  | .transport _ => true
  | .endpoint _ => true
  | _ => false

end Error

end BearerTokens
