import BearerTokens.Text.Utf8

/-!
# Header values

A header value is a text whose encoded bytes hold no control character but the tab.
-/

set_option autoImplicit false

namespace BearerTokens.Http

open BearerTokens.Text

structure Header where
  value : String
  isSensitive : Bool
  deriving DecidableEq, Repr

def isHeaderByte (b : UInt8) : Bool :=
  b == 0x09 || (decide (0x20 ≤ b) && b != 0x7F)

namespace Header

def make? (value : String) (isSensitive : Bool) : Option Header :=
  if (Utf8.ofString value).all isHeaderByte then some ⟨value, isSensitive⟩ else none

def size (h : Header) : Nat :=
  h.value.utf8ByteSize

def isAscii (h : Header) : Bool :=
  (Utf8.ofString h.value).all fun b => decide (b < 0x80)

def inspect (h : Header) : String :=
  if h.isSensitive then "Sensitive" else h.value

end Header

end BearerTokens.Http
