/-!
# UTF-8

Encoding of characters, and a reader that goes byte by byte and yields one item for every character
and for every maximal ill-formed stretch. Strict and lenient decoding are two views of that reader.
-/

set_option autoImplicit false

namespace BearerTokens.Text.Utf8

def encode (s : List Char) : List UInt8 :=
  s.flatMap String.utf8EncodeChar

def ofString (s : String) : List UInt8 :=
  encode s.toList

/-- Where the reader stands: between characters, or owing `left` continuation bytes of which the next
lies in `[low, high]`. -/
inductive State where
  | idle
  | within (left : Nat) (low high : UInt8) (bits : Nat)
  deriving DecidableEq, Repr

def State.start (b : UInt8) : Option State :=
  if b < 0xC2 then none
  else if b < 0xE0 then some (.within 1 0x80 0xBF (b.toNat - 0xC0))
  else if b = 0xE0 then some (.within 2 0xA0 0xBF 0)
  else if b = 0xED then some (.within 2 0x80 0x9F 0xD)
  else if b < 0xF0 then some (.within 2 0x80 0xBF (b.toNat - 0xE0))
  else if b = 0xF0 then some (.within 3 0x90 0xBF 0)
  else if b < 0xF4 then some (.within 3 0x80 0xBF (b.toNat - 0xF0))
  else if b = 0xF4 then some (.within 3 0x80 0x8F 4)
  else none

/-- A byte read between characters: the items it completes and the state after it. -/
def first (b : UInt8) : List (Option Char) × State :=
  if b < 0x80 then ([some (Char.ofNat b.toNat)], .idle)
  else match State.start b with
    | some s => ([], s)
    | none => ([none], .idle)

/-- One byte. A byte that cannot continue a character closes it as ill-formed and starts afresh. -/
def step : State → UInt8 → List (Option Char) × State
  | .idle, b => first b
  | .within left low high bits, b =>
    if low ≤ b ∧ b ≤ high then
      let bits := bits * 64 + (b.toNat - 0x80)
      if left ≤ 1 then ([some (Char.ofNat bits)], .idle)
      else ([], .within (left - 1) 0x80 0xBF bits)
    else
      let (items, s) := first b
      (none :: items, s)

def run (done : List (Option Char)) : State → List UInt8 → List (Option Char)
  | .idle, [] => done
  | .within .., [] => none :: done
  | s, b :: rest =>
    let (items, s') := step s b
    run (items.reverse ++ done) s' rest

/-- A character for each well-formed stretch, `none` for each maximal ill-formed one. -/
def items (bytes : List UInt8) : List (Option Char) :=
  (run [] .idle bytes).reverse

def decode? (bytes : List UInt8) : Option (List Char) :=
  (items bytes).mapM id

/-- U+FFFD stands for each maximal ill-formed stretch. -/
def decodeLossy (bytes : List UInt8) : List Char :=
  (items bytes).map (·.getD '\uFFFD')

def toString? (bytes : List UInt8) : Option String :=
  (decode? bytes).map String.ofList

def toStringLossy (bytes : List UInt8) : String :=
  String.ofList (decodeLossy bytes)

end BearerTokens.Text.Utf8
