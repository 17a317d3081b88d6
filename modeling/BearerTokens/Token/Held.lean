import BearerTokens.Token.Expiry
import BearerTokens.Token.Response

/-!
# Held tokens

An access token together with the instant at which it ends. It is handed out only while more than the
buffer is left of its time.
-/

set_option autoImplicit false

namespace BearerTokens

open BearerTokens.Time

structure HeldToken where
  secret : Secret
  expiresAt : Instant
  source : ExpirySource
  deriving DecidableEq

namespace HeldToken

/-- Whether the token may be handed out. One that ends within the first minute of the calendar never is. -/
def isUsableAt (t : HeldToken) (now : Instant) : Bool :=
  match t.expiresAt.sub? Expiry.buffer with
  | some limit => decide (now < limit)
  | none => false

/-- The token of a response that came at `now`; there is none if its time leads out of the calendar. -/
def ofResponse? (r : TokenResponse) (now : Instant) : Option HeldToken :=
  (Expiry.derive r.accessToken.expose r.expiresIn now).map fun (expiresAt, source) =>
    ⟨r.accessToken, expiresAt, source⟩

end HeldToken

end BearerTokens
