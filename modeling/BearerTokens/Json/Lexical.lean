import BearerTokens.Number.Binary64
import BearerTokens.Text.Utf8

/-!
# Lexical rules of JSON

Blanks, literal words, strings and numbers of a document that is read byte by byte. Each reader returns
what it read and the rest of the document, or the first fault it meets.
-/

set_option autoImplicit false

namespace BearerTokens.Json

open BearerTokens.Number BearerTokens.Text

abbrev Bytes := List UInt8

/-- Why a document is refused: it is not JSON, it is JSON of another shape than asked for, or it ends
inside a value. -/
inductive Fault where
  | malformed
  | mismatch (detail : Option String)
  | truncated
  deriving DecidableEq, Repr

abbrev Reader (α : Type) := Bytes → Except Fault (α × Bytes)

/-- Space, tab, line feed and carriage return; nothing else separates tokens. -/
def isBlankByte (b : UInt8) : Bool :=
  b == 0x20 || b == 0x09 || b == 0x0A || b == 0x0D

def skipBlanks (s : Bytes) : Bytes :=
  s.dropWhile isBlankByte

def word : Bytes → Bytes → Except Fault Bytes
  | [], s => .ok s
  | _ :: _, [] => .error .truncated
  | w :: ws, b :: s => if b = w then word ws s else .error .malformed

def ull : Bytes := [0x75, 0x6C, 0x6C]

def rue : Bytes := [0x72, 0x75, 0x65]

def alse : Bytes := [0x61, 0x6C, 0x73, 0x65]

def hexDigit? (b : UInt8) : Option Nat :=
  if 0x30 ≤ b ∧ b ≤ 0x39 then some (b.toNat - 0x30)
  else if 0x41 ≤ b ∧ b ≤ 0x46 then some (b.toNat - 0x37)
  else if 0x61 ≤ b ∧ b ≤ 0x66 then some (b.toNat - 0x57)
  else none

def unit? (a b c d : UInt8) : Option Nat :=
  match hexDigit? a, hexDigit? b, hexDigit? c, hexDigit? d with
  | some a, some b, some c, some d => some (((a * 16 + b) * 16 + c) * 16 + d)
  | _, _, _, _ => none

/-- The byte that a one-letter escape stands for. -/
def escape? (b : UInt8) : Option UInt8 :=
  if b = 0x22 ∨ b = 0x5C ∨ b = 0x2F then some b
  else if b = 0x62 then some 0x08
  else if b = 0x66 then some 0x0C
  else if b = 0x6E then some 0x0A
  else if b = 0x72 then some 0x0D
  else if b = 0x74 then some 0x09
  else none

def isHigh (n : Nat) : Bool :=
  decide (0xD800 ≤ n ∧ n ≤ 0xDBFF)

def isLow (n : Nat) : Bool :=
  decide (0xDC00 ≤ n ∧ n ≤ 0xDFFF)

def pushScalar (n : Nat) (done : Bytes) : Bytes :=
  (String.utf8EncodeChar (Char.ofNat n)).reverse ++ done

/-- The bytes of a string after its opening quote, read up to the closing one. `high` is the first unit
of a surrogate pair, when the second one must follow at once. -/
def stringFrom (done : Bytes) (high : Option Nat) : Bytes → Except Fault (Bytes × Bytes)
  | [] => .error .truncated
  | [0x5C] => .error .truncated
  | 0x5C :: 0x75 :: a :: b :: c :: d :: rest =>
    match unit? a b c d, high with
    | none, _ => .error .malformed
    | some n, some h =>
      if isLow n then
        stringFrom (pushScalar ((h - 0xD800) * 0x400 + (n - 0xDC00) + 0x10000) done) none rest
      else .error .malformed
    | some n, none =>
      if isLow n then .error .malformed
      else if isHigh n then stringFrom done (some n) rest
      else stringFrom (pushScalar n done) none rest
  | 0x5C :: 0x75 :: _ => .error .truncated
  | 0x5C :: b :: rest =>
    match escape? b, high with
    | some x, none => stringFrom (x :: done) none rest
    | _, _ => .error .malformed
  | b :: rest =>
    if high.isSome then .error .malformed
    else if b = 0x22 then .ok (done.reverse, rest)
    else if b < 0x20 then .error .malformed
    else stringFrom (b :: done) none rest

def string (s : Bytes) : Except Fault (String × Bytes) :=
  match stringFrom [] none s with
  | .error e => .error e
  | .ok (bytes, rest) =>
    match Utf8.toString? bytes with
    | some text => .ok (text, rest)
    | none => .error .malformed

/-- A number as written: integers that fit 64 bits stay whole, every other one is the nearest float. -/
inductive Number where
  | natural (n : Nat)
  | negative (n : Nat)
  | real (x : Binary64)
  deriving DecidableEq, Repr

def Number.toBinary64 : Number → Binary64
  | .natural n => .ofNat n
  | .negative n => (Binary64.ofNat n).neg
  | .real x => x

def isDigit (b : UInt8) : Bool :=
  decide (0x30 ≤ b ∧ b ≤ 0x39)

def digitValue (b : UInt8) : Nat :=
  b.toNat - 0x30

/-- Appends digits to a significand until it would need more than 64 bits; also counts those used. -/
def absorb (significand used : Nat) : Bytes → Nat × Nat
  | [] => (significand, used)
  | d :: ds =>
    let next := significand * 10 + digitValue d
    if next < Nat.pow 2 64 then absorb next (used + 1) ds else (significand, used)

/-- The float for `significand · 10 ^ exponent`, rounded at each step; none when it is too large. -/
def scaled? (significand : Nat) (exponent : Int) : Option Binary64 :=
  let f := Binary64.ofNat significand
  if 0 ≤ exponent then
    if exponent ≤ 308 then
      let g := f.mulNat (Nat.pow 10 exponent.toNat)
      if g.isFinite then some g else none
    else if significand = 0 then some f
    else none
  else
    let n := (-exponent).toNat
    if n ≤ 308 then some (f.divNat (Nat.pow 10 n))
    else if n ≤ 616 then some ((f.divNat (Nat.pow 10 308)).divNat (Nat.pow 10 (n - 308)))
    else some ⟨0⟩

def real (negative : Bool) (significand : Nat) (exponent : Int) (rest : Bytes) :
    Except Fault (Number × Bytes) :=
  match scaled? significand exponent with
  | some x => .ok (.real (Binary64.signed negative x), rest)
  | none => .error .malformed

def digitsValue (ds : Bytes) : Nat :=
  ds.foldl (fun n d => n * 10 + digitValue d) 0

def exponentDigits (negative below : Bool) (significand : Nat) (exponent : Int) (s : Bytes) :
    Except Fault (Number × Bytes) :=
  let digits := s.takeWhile isDigit
  let rest := s.dropWhile isDigit
  if digits.isEmpty then
    if s.isEmpty then .error .truncated else .error .malformed
  else
    let n := digitsValue digits
    if below then
      if n < Nat.pow 2 31 then real negative significand (exponent - n) rest
      else real negative 0 0 rest
    else if n < Nat.pow 2 31 then real negative significand (exponent + n) rest
    else if significand = 0 then real negative 0 0 rest
    else .error .malformed

def exponentPart (negative : Bool) (significand : Nat) (exponent : Int) : Bytes →
    Except Fault (Number × Bytes)
  | 0x2B :: s => exponentDigits negative false significand exponent s
  | 0x2D :: s => exponentDigits negative true significand exponent s
  | s => exponentDigits negative false significand exponent s

def isExponentMark (b : UInt8) : Bool :=
  b == 0x65 || b == 0x45

def fractionPart (negative : Bool) (significand dropped : Nat) (s : Bytes) :
    Except Fault (Number × Bytes) :=
  let digits := s.takeWhile isDigit
  let rest := s.dropWhile isDigit
  if digits.isEmpty then
    if s.isEmpty then .error .truncated else .error .malformed
  else
    let (significand, used) := absorb significand 0 digits
    let exponent : Int := (dropped : Int) - used
    match rest with
    | b :: more =>
      if isExponentMark b then exponentPart negative significand exponent more
      else real negative significand exponent rest
    | [] => real negative significand exponent []

def whole (negative : Bool) (n : Nat) : Number :=
  if negative = false then .natural n
  else if n = 0 ∨ Nat.pow 2 63 < n then .real (Binary64.ofNat n).neg
  else .negative n

/-- What follows the digits of the whole part, of which the last `dropped` did not fit. -/
def afterWhole (negative : Bool) (significand dropped : Nat) (s : Bytes) :
    Except Fault (Number × Bytes) :=
  let plain : Except Fault (Number × Bytes) :=
    if dropped = 0 then .ok (whole negative significand, s) else real negative significand dropped s
  match s with
  | b :: rest =>
    if b = 0x2E then fractionPart negative significand dropped rest
    else if isExponentMark b then exponentPart negative significand dropped rest
    else plain
  | [] => plain

/-- The digits of a number, after its sign. A leading zero stands alone. -/
def unsigned (negative : Bool) : Bytes → Except Fault (Number × Bytes)
  | [] => .error .truncated
  | b :: rest =>
    if b = 0x30 then
      match rest with
      | d :: _ => if isDigit d then .error .malformed else afterWhole negative 0 0 rest
      | [] => afterWhole negative 0 0 rest
    else if isDigit b then
      let digits := b :: rest.takeWhile isDigit
      let (significand, used) := absorb 0 0 digits
      afterWhole negative significand (digits.length - used) (rest.dropWhile isDigit)
    else .error .malformed

def number : Bytes → Except Fault (Number × Bytes)
  | 0x2D :: rest => unsigned true rest
  | s => unsigned false s

end BearerTokens.Json
