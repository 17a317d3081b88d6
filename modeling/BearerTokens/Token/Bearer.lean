import BearerTokens.Error
import BearerTokens.Http.Header
import BearerTokens.Secret

/-!
# Bearer headers

The value of an authorization header that carries a token. It is marked as sensitive.
-/

set_option autoImplicit false

namespace BearerTokens

open BearerTokens.Http

/-- There is no header for a token that no header value can hold. -/
def Secret.bearer (token : Secret) : Except Error Header :=
  match Header.make? ("Bearer " ++ token.expose) true with
  | some h => .ok h
  | none => .error (.config .invalidHeader)

end BearerTokens
