import BearerTokens.Json.Record
import BearerTokens.Json.Writer
import BearerTokens.Text.Blank
import BearerTokens.Text.Quoted

/-!
# Scopes

An ordered list of scopes in which no entry is empty or holds a blank, so that joining them with single
spaces loses nothing.
-/

set_option autoImplicit false

namespace BearerTokens

open BearerTokens.Json BearerTokens.Text

inductive ScopeError where
  | empty
  | containsWhitespace (scope : String)
  deriving DecidableEq, Repr

def ScopeError.message : ScopeError → String
  | .empty => "Scope entries cannot be empty."
  | .containsWhitespace scope => "Scope contains whitespace: " ++ scope ++ "."

def ScopeError.of? (scope : String) : Option ScopeError :=
  if scope.isEmpty then some .empty
  else if scope.toList.any isBlank then some (.containsWhitespace scope)
  else none

structure Scopes where
  toList : List String
  valid : ∀ scope ∈ toList, ScopeError.of? scope = none

namespace Scopes

instance : DecidableEq Scopes := fun a b =>
  if h : a.toList = b.toList then isTrue (by cases a; cases b; simp_all)
  else isFalse fun e => h (e ▸ rfl)

def empty : Scopes := ⟨[], by simp⟩

/-- The first entry at fault, in order, refuses the list. -/
def ofList (scopes : List String) : Except ScopeError Scopes :=
  match h : scopes.findSome? ScopeError.of? with
  | some e => .error e
  | none => .ok ⟨scopes, List.findSome?_eq_none_iff.1 h⟩

def size (s : Scopes) : Nat :=
  s.toList.length

def isEmpty (s : Scopes) : Bool :=
  s.toList.isEmpty

def joined (s : Scopes) : String :=
  " ".intercalate s.toList

/-- The value of the `scope` parameter of a grant; an empty list has none. -/
def requestValue? (s : Scopes) : Option String :=
  if s.isEmpty then none else some s.joined

def json (s : Scopes) : String :=
  String.ofList (writeStrings s.toList)

def inspect (s : Scopes) : String :=
  "ScopeList(" ++ bracketed (s.toList.map quoted) ++ ")"

def read : Reader Scopes := fun doc =>
  match list text doc with
  | .error e => .error e
  | .ok (scopes, rest) =>
    match ofList scopes with
    | .ok s => .ok (s, rest)
    | .error e => .error (.mismatch (some e.message))

end Scopes

namespace ScopeError

/-- The name of the case, alone or, with the entry at fault, as the only member of an object. -/
def json : ScopeError → String
  | .empty => String.ofList (writeString "Empty")
  | .containsWhitespace scope =>
    String.ofList ("\x7b\"ContainsWhitespace\":\x7b\"scope\":".toList ++ writeString scope ++
      "\x7d\x7d".toList)

def schema : Schema Unit (fun _ => String) where
  field? name := if name = "scope" then some () else none
  positions := [()]
  needed := [()]
  neededByPosition := [()]
  read _ := text

def readCase (name : String) : Reader ScopeError := fun s =>
  if name = "Empty" then
    match skipBlanks s with
    | 0x6E :: rest => (word ull rest).map (.empty, ·)
    | s => .error (unexpected s)
  else if name = "ContainsWhitespace" then
    match schema.reader s with
    | .error e => .error e
    | .ok (given, rest) =>
      match given.get? () with
      | some scope => .ok (.containsWhitespace scope, rest)
      | none => .error (.mismatch none)
  else .error (.mismatch none)

def isCase (name : String) : Bool :=
  name == "Empty" || name == "ContainsWhitespace"

def readName : Reader String := fun s =>
  match skipBlanks s with
  | [] => .error .truncated
  | b :: rest => if b = 0x22 then string rest else .error .malformed

def readTagged : Reader ScopeError := fun s =>
  match readName s with
  | .error e => .error e
  | .ok (name, s) =>
    if isCase name then
      match colon s with
      | .error e => .error e
      | .ok s =>
        match readCase name s with
        | .error e => .error e
        | .ok (e, s) =>
          match skipBlanks s with
          | [] => .error .truncated
          | b :: rest => if b = 0x7D then .ok (e, rest) else .error .malformed
    else .error (.mismatch none)

def read : Reader ScopeError := fun s =>
  match skipBlanks s with
  | [] => .error .truncated
  | b :: rest =>
    if b = 0x7B then readTagged rest
    else if b = 0x22 then
      match string rest with
      | .error e => .error e
      | .ok (name, rest) =>
        if name = "Empty" then .ok (.empty, rest) else .error (.mismatch none)
    else .error .malformed

end ScopeError

end BearerTokens
