import BearerTokens.Grant.Basic
import BearerTokens.Http.Transport
import BearerTokens.Telemetry
import BearerTokens.Text.Utf8
import BearerTokens.Token.Held

/-!
# Exchanges

One exchange asks the token endpoint for a token and judges the reply: a transport failure is passed on, a
status that tells no success is an error with the body as text, and any other body must be a token response.
An exchange comes to no result at all when the token's time would lead out of the calendar.
-/

set_option autoImplicit false

namespace BearerTokens.Exchange

open BearerTokens.Http BearerTokens.Text BearerTokens.Time

abbrev Result := Except Error HeldToken

/-- The result of a reply that came at `now`. -/
def conclude (classify : Classifier) (now : Instant) (reply : Reply) : Option Result :=
  match reply.result classify .token with
  | .error e => some (.error e)
  | .ok r =>
    if isSuccess r.status then
      match TokenResponse.parse r.status r.body with
      | .error e => some (.error (.endpoint e))
      | .ok t => (HeldToken.ofResponse? t now).map .ok
    else some (.error (.endpoint (.status r.status (Utf8.toStringLossy r.body))))

def openingNotes : List Note :=
  [.span .token "fetch_new_token", .fetch .token .attempt]

def closingNotes : Option Result → List Note
  | some (.ok t) => [.expiry t.source, .fetch .token .success]
  | some (.error _) => [.fetch .token .failure]
  | none => []

/-- What one exchange did: the request it sent, if one could be built, its result and its notes. -/
structure Report where
  request : Option Request
  result : Option Result
  notes : List Note

def run (grant : Grant) (classify : Classifier) (now : Instant) (reply : Reply) : Report :=
  let (request, result) : Option Request × Option Result :=
    match grant.request with
    | .error e => (none, some (.error (.config e)))
    | .ok request => (some request, conclude classify now reply)
  ⟨request, result, openingNotes ++ closingNotes result⟩

end BearerTokens.Exchange
