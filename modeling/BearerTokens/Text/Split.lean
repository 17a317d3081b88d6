/-!
# Splitting texts

The pieces of a text between separating characters. Joined again they give the text, so there is always at
least one piece.
-/

set_option autoImplicit false

namespace BearerTokens.Text

def splitWhere (separates : Char → Bool) (s : List Char) : List (List Char) :=
  s.foldr
    (fun c pieces =>
      if separates c then [] :: pieces
      else match pieces with
        | [] => [[c]]
        | piece :: more => (c :: piece) :: more)
    [[]]

end BearerTokens.Text
