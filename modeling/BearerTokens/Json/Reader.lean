import BearerTokens.Json.Value

/-!
# Readers of JSON documents

Arrays and objects element by element, values of any kind up to a nesting limit, and the typed readers
for texts, numbers, lists and nullable values. A value of the wrong kind is a mismatch, unless its own
first token is already at fault.
-/

set_option autoImplicit false

namespace BearerTokens.Json

open BearerTokens.Number

def depthLimit : Nat := 127

inductive Next where
  | closed (rest : Bytes)
  | more (rest : Bytes)

def nextElement (first : Bool) (s : Bytes) : Except Fault Next :=
  match skipBlanks s with
  | [] => .error .truncated
  | b :: rest =>
    if b = 0x5D then .ok (.closed rest)
    else if first then .ok (.more (b :: rest))
    else if b = 0x2C then
      match skipBlanks rest with
      | [] => .error .truncated
      | c :: rest => if c = 0x5D then .error .malformed else .ok (.more (c :: rest))
    else .error .malformed

def nextKey (first : Bool) (s : Bytes) : Except Fault Next :=
  match skipBlanks s with
  | [] => .error .truncated
  | b :: rest =>
    if b = 0x7D then .ok (.closed rest)
    else if first then if b = 0x22 then .ok (.more rest) else .error .malformed
    else if b = 0x2C then
      match skipBlanks rest with
      | [] => .error .truncated
      | c :: rest => if c = 0x22 then .ok (.more rest) else .error .malformed
    else .error .malformed

def colon (s : Bytes) : Except Fault Bytes :=
  match skipBlanks s with
  | [] => .error .truncated
  | b :: rest => if b = 0x3A then .ok rest else .error .malformed

def elementsFrom {α : Type} (item : Reader α) (done : List α) (first : Bool) :
    Nat → Reader (List α)
  | 0, _ => .error .malformed
  | fuel + 1, s =>
    match nextElement first s with
    | .error e => .error e
    | .ok (.closed rest) => .ok (done.reverse, rest)
    | .ok (.more s) =>
      match item s with
      | .error e => .error e
      | .ok (x, s) => elementsFrom item (x :: done) false fuel s

/-- Every element takes at least one byte, so the length of the document bounds their number. -/
def elements {α : Type} (item : Reader α) (s : Bytes) : Except Fault (List α × Bytes) :=
  elementsFrom item [] true (s.length + 1) s

/-- How the members of an object are taken in: `allow` may refuse a name before its colon is read, and
`take` reads the value that follows. Faults outside values are reported through `between` (looking for a
name) and `atColon`. -/
structure MemberRules (ε σ : Type) where
  between : Fault → ε
  atColon : Fault → ε
  allow : σ → String → Except ε Unit
  take : σ → String → Bytes → Except ε (σ × Bytes)

def membersFrom {ε σ : Type} (rules : MemberRules ε σ) (state : σ) (first : Bool) :
    Nat → Bytes → Except ε (σ × Bytes)
  | 0, _ => .error (rules.between .malformed)
  | fuel + 1, s =>
    match nextKey first s with
    | .error e => .error (rules.between e)
    | .ok (.closed rest) => .ok (state, rest)
    | .ok (.more s) =>
      match string s with
      | .error e => .error (rules.between e)
      | .ok (name, s) =>
        match rules.allow state name with
        | .error e => .error e
        | .ok () =>
          match colon s with
          | .error e => .error (rules.atColon e)
          | .ok s =>
            match rules.take state name s with
            | .error e => .error e
            | .ok (state, s) => membersFrom rules state false fuel s

def members {ε σ : Type} (rules : MemberRules ε σ) (state : σ) (s : Bytes) :
    Except ε (σ × Bytes) :=
  membersFrom rules state true (s.length + 1) s

def collecting (item : Reader Value) : MemberRules Fault Members where
  between := id
  atColon := id
  allow _ _ := .ok ()
  take state name s := (item s).map fun (v, s) => ((name, v) :: state, s)

/-- A value; `inner` reads what it contains, where nesting is still allowed. -/
def valueWith (inner : Option (Reader Value)) (s : Bytes) : Except Fault (Value × Bytes) :=
  match skipBlanks s with
  | [] => .error .truncated
  | b :: rest =>
    if b = 0x6E then (word ull rest).map (.null, ·)
    else if b = 0x74 then (word rue rest).map (.bool true, ·)
    else if b = 0x66 then (word alse rest).map (.bool false, ·)
    else if b = 0x22 then (string rest).map fun (x, s) => (.string x, s)
    else if b = 0x2D ∨ isDigit b = true then (number (b :: rest)).map fun (x, s) => (.number x, s)
    else if b = 0x5B then
      match inner with
      | none => .error .malformed
      | some item => (elements item rest).map fun (xs, s) => (.array xs, s)
    else if b = 0x7B then
      match inner with
      | none => .error .malformed
      | some item => (members (collecting item) [] rest).map fun (ms, s) => (.object ms.reverse, s)
    else .error .malformed

def value : Nat → Reader Value
  | 0 => valueWith none
  | depth + 1 => valueWith (some (value depth))

def unexpected (s : Bytes) : Fault :=
  let mismatchUnless {α : Type} (r : Except Fault α) : Fault :=
    match r with
    | .error e => e
    | .ok _ => .mismatch none
  match s with
  | [] => .truncated
  | b :: rest =>
    if b = 0x6E then mismatchUnless (word ull rest)
    else if b = 0x74 then mismatchUnless (word rue rest)
    else if b = 0x66 then mismatchUnless (word alse rest)
    else if b = 0x22 then mismatchUnless (string rest)
    else if b = 0x2D ∨ isDigit b = true then mismatchUnless (number s)
    else if b = 0x5B ∨ b = 0x7B then .mismatch none
    else .malformed

def text : Reader String := fun s =>
  match skipBlanks s with
  | 0x22 :: rest => string rest
  | s => .error (unexpected s)

def float : Reader Binary64 := fun s =>
  match skipBlanks s with
  | [] => .error .truncated
  | b :: rest =>
    if b = 0x2D ∨ isDigit b = true then (number (b :: rest)).map fun (x, s) => (x.toBinary64, s)
    else .error (unexpected (b :: rest))

def list {α : Type} (item : Reader α) : Reader (List α) := fun s =>
  match skipBlanks s with
  | 0x5B :: rest => elements item rest
  | s => .error (unexpected s)

def nullable {α : Type} (item : Reader α) : Reader (Option α) := fun s =>
  match skipBlanks s with
  | 0x6E :: rest => (word ull rest).map (none, ·)
  | s => (item s).map fun (x, s) => (some x, s)

def document {α : Type} (read : Reader α) (s : Bytes) : Except Fault α :=
  match read s with
  | .error e => .error e
  | .ok (x, rest) => if (skipBlanks rest).isEmpty then .ok x else .error .malformed

end BearerTokens.Json
