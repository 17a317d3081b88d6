/-!
# Request targets

What a request can be sent to. A target is an authority behind a scheme, with a path and query, or a path
alone, or an authority alone. The rules are those of RFC 3986 with some leniency, and they differ from
the rules by which URLs are read: not every URL is a target.
-/

set_option autoImplicit false

namespace BearerTokens.Http

inductive TargetError where
  | empty
  | tooLong
  | schemeTooLong
  | invalidCharacter
  | invalidAuthority
  | invalidFormat
  deriving DecidableEq, Repr

def TargetError.message : TargetError → String
  | .empty => "empty string"
  | .tooLong => "uri too long"
  | .schemeTooLong => "scheme too long"
  | .invalidCharacter => "invalid uri character"
  | .invalidAuthority => "invalid authority"
  | .invalidFormat => "invalid format"

/-- The longest target, in bytes, fragment included. -/
def maxTargetLength : Nat := 65534

structure Target where
  scheme : Option String
  authority : Option String
  path : String
  query : Option String
  deriving DecidableEq, Repr

def endsTargetAuthority (c : Char) : Bool :=
  c == '/' || c == '?' || c == '#'

def inAuthority (c : Char) : Bool :=
  c.isAlphanum || "!$&'()*+,-.:;=@[]_~".toList.contains c

/-- What counts about the part of an authority that has been read. -/
structure AuthorityScan where
  colons : Nat := 0
  opened : Bool := false
  closed : Bool := false
  percent : Bool := false
  justAt : Bool := false

def maxColons : Nat := 8

/-- Colons and percent signs before an `@` or inside brackets do not count. -/
def AuthorityScan.push (a : AuthorityScan) (c : Char) : Except TargetError AuthorityScan :=
  if c = ':' then
    if maxColons ≤ a.colons then .error .invalidAuthority
    else .ok { a with colons := a.colons + 1, justAt := false }
  else if c = '[' then
    if a.percent ∨ a.opened then .error .invalidAuthority
    else .ok { a with opened := true, justAt := false }
  else if c = ']' then
    if a.opened = false ∨ a.closed then .error .invalidAuthority
    else .ok { a with closed := true, colons := 0, percent := false, justAt := false }
  else if c = '@' then .ok { a with colons := 0, percent := false, justAt := true }
  else if c = '%' then .ok { a with percent := true, justAt := false }
  else if inAuthority c then .ok { a with justAt := false }
  else .error .invalidCharacter

def AuthorityScan.isProper (a : AuthorityScan) : Bool :=
  a.opened == a.closed && decide (a.colons ≤ 1) && !a.justAt && !a.percent

def checkAuthority (s : List Char) : Except TargetError Unit :=
  match s.foldlM AuthorityScan.push {} with
  | .error e => .error e
  | .ok a => if a.isProper then .ok () else .error .invalidAuthority

def inTargetPath (c : Char) : Bool :=
  let n := c.toNat
  n == 0x21 || n == 0x22 || (0x24 ≤ n && n ≤ 0x3B) || n == 0x3D || (0x40 ≤ n && n ≤ 0x5F) ||
    (0x61 ≤ n && n != 0x7F)

def inTargetQuery (c : Char) : Bool :=
  let n := c.toNat
  n == 0x21 || (0x24 ≤ n && n ≤ 0x3B) || n == 0x3D || (0x3F ≤ n && n != 0x7F)

def pathAndQuery (s : List Char) : Except TargetError (String × Option String) :=
  let body := s.takeWhile (· ≠ '#')
  let path := body.takeWhile (· ≠ '?')
  let query := (body.dropWhile (· ≠ '?')).drop 1
  if path.all inTargetPath ∧ query.all inTargetQuery then
    .ok (String.ofList path, if body.contains '?' then some (String.ofList query) else none)
  else .error .invalidCharacter

def inTargetScheme (c : Char) : Bool :=
  c.isAlphanum || c == '+' || c == '-' || c == '.' || c == '~'

/-- The scheme before `://`, and what follows; one of the two may be empty, but not both. -/
def splitScheme (s : List Char) : Option (List Char × List Char) :=
  match s.dropWhile inTargetScheme with
  | ':' :: '/' :: '/' :: rest =>
    let scheme := s.takeWhile inTargetScheme
    if scheme.isEmpty ∧ rest.isEmpty then none else some (scheme, rest)
  | _ => none

/-- The two schemes of the web are written in lower case. -/
def targetScheme (scheme : List Char) : String :=
  let lower := String.ofList (scheme.map Char.toLower)
  if lower = "http" ∨ lower = "https" then lower else String.ofList scheme

def maxSchemeLength : Nat := 64

def absoluteTarget (scheme rest : List Char) : Except TargetError Target :=
  if maxSchemeLength < scheme.length then .error .schemeTooLong
  else if rest.isEmpty then .error .empty
  else
    let authority := rest.takeWhile fun c => !endsTargetAuthority c
    match checkAuthority authority with
    | .error e => .error e
    | .ok () =>
      if authority.isEmpty then .error .invalidFormat
      else
        (pathAndQuery (rest.dropWhile fun c => !endsTargetAuthority c)).map fun (path, query) =>
          ⟨some (targetScheme scheme), some (String.ofList authority), path, query⟩

/-- A target without a scheme is an authority and nothing else. -/
def authorityTarget (s : List Char) : Except TargetError Target :=
  match checkAuthority (s.takeWhile fun c => !endsTargetAuthority c) with
  | .error e => .error e
  | .ok () =>
    if s.any endsTargetAuthority then
      .error (if s.length = 1 then .invalidCharacter else .invalidFormat)
    else .ok ⟨none, some (String.ofList s), "", none⟩

def Target.parse (text : String) : Except TargetError Target :=
  if maxTargetLength < text.utf8ByteSize then .error .tooLong
  else
    match text.toList with
    | [] => .error .empty
    | ['*'] => .ok ⟨none, none, "*", none⟩
    | '/' :: rest =>
      (pathAndQuery ('/' :: rest)).map fun (path, query) => ⟨none, none, path, query⟩
    | s =>
      match splitScheme s with
      | some (scheme, rest) => absoluteTarget scheme rest
      | none => authorityTarget s

/-- A path that is missing behind a scheme is the root. -/
def Target.text (t : Target) : String :=
  (match t.scheme with
    | some scheme => scheme ++ "://"
    | none => "") ++
  t.authority.getD "" ++
  (if t.path.isEmpty ∧ t.scheme.isSome then "/" else t.path) ++
  match t.query with
  | some query => "?" ++ query
  | none => ""

end BearerTokens.Http
