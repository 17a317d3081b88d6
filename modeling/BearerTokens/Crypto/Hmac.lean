import BearerTokens.Crypto.Sha2

/-!
# Keyed hashes

The authentication code of a message under a secret key: two nested hashes, each over the key combined with
a pad of its own.
-/

set_option autoImplicit false

namespace BearerTokens.Crypto

/-- A key as long as a block; a longer one is hashed first. -/
def blockKey (h : Hash) (key : List UInt8) : List UInt8 :=
  let key := if h.blockSize < key.length then h.digest key else key
  key ++ List.replicate (h.blockSize - key.length) 0

def hmac (h : Hash) (key message : List UInt8) : List UInt8 :=
  let key := blockKey h key
  h.digest (key.map (· ^^^ 0x5C) ++ h.digest (key.map (· ^^^ 0x36) ++ message))

end BearerTokens.Crypto
