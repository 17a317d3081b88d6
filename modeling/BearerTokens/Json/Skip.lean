import BearerTokens.Json.Reader

/-!
# Passing over a value

The value of an unknown member is scanned, not read: brackets must pair and tokens must be well formed,
but strings need not be UTF-8, numbers may be of any size, and nesting has no limit.
-/

set_option autoImplicit false

namespace BearerTokens.Json

def skipString : Bytes → Except Fault Bytes
  | [] => .error .truncated
  | [0x5C] => .error .truncated
  | 0x5C :: 0x75 :: a :: b :: c :: d :: rest =>
    if (unit? a b c d).isSome then skipString rest else .error .malformed
  | 0x5C :: 0x75 :: _ => .error .truncated
  | 0x5C :: b :: rest => if (escape? b).isSome then skipString rest else .error .malformed
  | b :: rest =>
    if b = 0x22 then .ok rest
    else if b < 0x20 then .error .malformed
    else skipString rest

def skipDigits : Bytes → Except Fault Bytes
  | [] => .error .malformed
  | b :: rest => if isDigit b then .ok (rest.dropWhile isDigit) else .error .malformed

def skipSign : Bytes → Bytes
  | 0x2B :: rest => rest
  | 0x2D :: rest => rest
  | s => s

def skipExponent : Bytes → Except Fault Bytes
  | b :: rest => if isExponentMark b then skipDigits (skipSign rest) else .ok (b :: rest)
  | [] => .ok []

def skipFraction : Bytes → Except Fault Bytes
  | 0x2E :: rest => (skipDigits rest).bind skipExponent
  | s => skipExponent s

def skipUnsigned : Bytes → Except Fault Bytes
  | 0x30 :: d :: rest => if isDigit d then .error .malformed else skipFraction (d :: rest)
  | s => (skipDigits s).bind skipFraction

def skipScalar (b : UInt8) (rest : Bytes) : Except Fault Bytes :=
  if b = 0x6E then word ull rest
  else if b = 0x74 then word rue rest
  else if b = 0x66 then word alse rest
  else if b = 0x22 then skipString rest
  else if b = 0x2D then skipUnsigned rest
  else if isDigit b then skipUnsigned (b :: rest)
  else .error .malformed

/-- An array or object that has been opened and not yet closed. -/
inductive Bracket where
  | square
  | curly
  deriving DecidableEq, Repr

def Bracket.closing : Bracket → UInt8
  | .square => 0x5D
  | .curly => 0x7D

inductive Expecting where
  | value
  | name
  | firstElement (of : Bracket)
  | separator
  deriving DecidableEq, Repr

def skipName (rest : Bytes) : Except Fault Bytes :=
  (skipString rest).bind colon

/-- One token of the scan: the brackets still open, what is expected then, and the rest. -/
def skipToken (openBrackets : List Bracket) (expecting : Expecting) (b : UInt8) (rest : Bytes) :
    Except Fault (List Bracket × Expecting × Bytes) :=
  let value : Except Fault (List Bracket × Expecting × Bytes) :=
    if b = 0x5B then .ok (.square :: openBrackets, .firstElement .square, rest)
    else if b = 0x7B then .ok (.curly :: openBrackets, .firstElement .curly, rest)
    else (skipScalar b rest).map fun rest => (openBrackets, .separator, rest)
  let name : Except Fault (List Bracket × Expecting × Bytes) :=
    if b = 0x22 then (skipName rest).map fun rest => (openBrackets, .value, rest)
    else .error .malformed
  match expecting with
  | .value => value
  | .name => name
  | .firstElement bracket =>
    if b = bracket.closing then .ok (openBrackets.tail, .separator, rest)
    else match bracket with
      | .square => value
      | .curly => name
  | .separator =>
    match openBrackets with
    | [] => .error .malformed
    | bracket :: outer =>
      if b = 0x2C then
        .ok (openBrackets, if bracket = .curly then .name else .value, rest)
      else if b = bracket.closing then .ok (outer, .separator, rest)
      else .error .malformed

/-- The scan ends where a value is complete and no bracket is open. -/
def skipFrom : Nat → List Bracket → Expecting → Bytes → Except Fault Bytes
  | _, [], .separator, s => .ok s
  | 0, _, _, _ => .error .malformed
  | fuel + 1, openBrackets, expecting, s =>
    match skipBlanks s with
    | [] => .error .truncated
    | b :: rest =>
      match skipToken openBrackets expecting b rest with
      | .error e => .error e
      | .ok (openBrackets, expecting, rest) => skipFrom fuel openBrackets expecting rest

/-- Past a value. Every token takes at least one byte, so the length bounds their number. -/
def skipValue (s : Bytes) : Except Fault Bytes :=
  skipFrom (s.length + 1) [] .value s

end BearerTokens.Json
