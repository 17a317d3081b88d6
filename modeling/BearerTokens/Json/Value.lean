import BearerTokens.Json.Lexical

/-!
# JSON values

A value keeps the members of an object as they were written, repeated names included; looking one up
gives the last of them.
-/

set_option autoImplicit false

namespace BearerTokens.Json

inductive Value where
  | null
  | bool (b : Bool)
  | number (n : Number)
  | string (s : String)
  | array (items : List Value)
  | object (members : List (String × Value))

abbrev Members := List (String × Value)

def Members.last? (members : Members) (name : String) : Option Value :=
  (members.reverse.find? fun m => m.1 == name).map (·.2)

/-- The members that a lookup can reach: of equal names, the last one. -/
def Members.distinct (members : Members) : Members :=
  members.foldr (fun m kept => if kept.any (·.1 == m.1) then kept else m :: kept) []

def Value.string? : Value → Option String
  | .string s => some s
  | _ => none

end BearerTokens.Json
