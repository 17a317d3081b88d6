import BearerTokens.Http.Status
import BearerTokens.Http.Target

/-!
# Requests and replies

A request as it is handed to a transport, and what the transport gives back: a response with any status,
or a failure of its own.
-/

set_option autoImplicit false

namespace BearerTokens.Http

inductive Method where
  | get
  | post
  deriving DecidableEq, Repr

def Method.name : Method → String
  | .get => "GET"
  | .post => "POST"

structure Request where
  method : Method
  target : Target
  headers : List (String × String)
  body : String
  deriving DecidableEq, Repr

structure Response where
  status : Nat
  body : List UInt8
  deriving DecidableEq, Repr

/-- Why a transport has no response: the network, the operating system, a reason in words, or a request
it could not build. -/
inductive Failure where
  | network (cause : String)
  | io (cause : String)
  | other (message : String)
  | request (cause : TargetError)
  deriving DecidableEq, Repr

inductive Reply where
  | response (r : Response)
  | failure (f : Failure)
  deriving DecidableEq, Repr

inductive Endpoint where
  | token
  | keySet
  deriving DecidableEq, Repr

def Endpoint.name : Endpoint → String
  | .token => "token endpoint"
  | .keySet => "JWKS endpoint"

end BearerTokens.Http
