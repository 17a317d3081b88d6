import BearerTokens.Json.Skip

/-!
# Records

A record is a fixed set of named fields. It is read from an object, whatever the order of its members and
with unknown ones passed over, or from an array that lists the fields by position. A field given twice, or
a needed one left out, is a mismatch. Every fault carries the place where it was met.
-/

set_option autoImplicit false

namespace BearerTokens.Json

/-- Where in a record a fault was met. -/
inductive Place where
  | record
  | betweenMembers
  | member (name : String)
  | element (index : Nat)
  deriving DecidableEq, Repr

def Place.path : Place → String
  | .record => "."
  | .betweenMembers => "?"
  | .member name => name
  | .element index => "[" ++ toString index ++ "]"

structure Misread where
  fault : Fault
  place : Place
  deriving DecidableEq, Repr

/-- The fields of a record: how each is spelled, in which order an array lists them, which must be given
in an object and which in an array, and how the value of each is read. -/
structure Schema (φ : Type) (β : φ → Type) where
  field? : String → Option φ
  positions : List φ
  needed : List φ
  neededByPosition : List φ
  read : (f : φ) → Reader (β f)

/-- The fields that were given, each with its value. -/
abbrev Given {φ : Type} (β : φ → Type) := List (Sigma β)

namespace Given

variable {φ : Type} {β : φ → Type} [DecidableEq φ]

def has (given : Given β) (f : φ) : Bool :=
  given.any fun g => decide (g.1 = f)

def get? (given : Given β) (f : φ) : Option (β f) :=
  match given with
  | [] => none
  | ⟨g, v⟩ :: rest => if h : g = f then some (h ▸ v) else get? rest f

end Given

namespace Schema

variable {φ : Type} {β : φ → Type} [DecidableEq φ]

def tagged {α : Type} (place : Place) (r : Except Fault α) : Except Misread α :=
  r.mapError (⟨·, place⟩)

/-- Members in the order in which they come, newest first. -/
def memberRules (schema : Schema φ β) : MemberRules Misread (Given β) where
  between e := ⟨e, .betweenMembers⟩
  atColon e := ⟨e, .record⟩
  allow given name :=
    match schema.field? name with
    | some f => if given.has f then .error ⟨.mismatch none, .record⟩ else .ok ()
    | none => .ok ()
  take given name s :=
    match schema.field? name with
    | some f => (tagged (.member name) (schema.read f s)).map fun (v, s) => (⟨f, v⟩ :: given, s)
    | none => (tagged (.member name) (skipValue s)).map (given, ·)

def endElements (s : Bytes) : Except Fault Bytes :=
  match skipBlanks s with
  | [] => .error .truncated
  | b :: rest => if b = 0x5D then .ok rest else .error .malformed

def byPosition (schema : Schema φ β) (given : Given β) (index : Nat) :
    List φ → Bytes → Except Misread (Given β × Bytes)
  | [], s => (tagged .record (endElements s)).map (given, ·)
  | f :: fs, s =>
    match tagged .record (nextElement (index == 0) s) with
    | .error e => .error e
    | .ok (.closed rest) =>
      if (f :: fs).any (schema.neededByPosition.contains ·) then .error ⟨.mismatch none, .record⟩
      else .ok (given, rest)
    | .ok (.more s) =>
      match tagged (.element index) (schema.read f s) with
      | .error e => .error e
      | .ok (v, s) => byPosition schema (⟨f, v⟩ :: given) (index + 1) fs s

def byName (schema : Schema φ β) (s : Bytes) : Except Misread (Given β × Bytes) :=
  match members schema.memberRules [] s with
  | .error e => .error e
  | .ok (given, rest) =>
    if schema.needed.all given.has then .ok (given, rest) else .error ⟨.mismatch none, .record⟩

def record (schema : Schema φ β) (s : Bytes) : Except Misread (Given β × Bytes) :=
  match skipBlanks s with
  | 0x5B :: rest => schema.byPosition [] 0 schema.positions rest
  | 0x7B :: rest => schema.byName rest
  | s => .error ⟨unexpected s, .record⟩

def reader (schema : Schema φ β) : Reader (Given β) := fun s =>
  (schema.record s).mapError (·.fault)

end Schema

end BearerTokens.Json
