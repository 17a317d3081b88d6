/-!
# URLs

A URL in its parsed form, and its one written form. Texts inside are already percent-encoded.
-/

set_option autoImplicit false

namespace BearerTokens

/-- A host: a name, an IPv4 address as one number, or the eight pieces of an IPv6 address. A URL whose
scheme has no rules for hosts may leave the name empty. -/
inductive Host where
  | domain (name : String)
  | ipv4 (address : Nat)
  | ipv6 (pieces : List Nat)
  deriving DecidableEq, Repr

structure Authority where
  username : String
  password : Option String
  host : Host
  port : Option Nat
  deriving DecidableEq, Repr

/-- A path is a list of segments, each led by a slash, or, in a URL that has no hierarchy, plain text. -/
inductive UrlPath where
  | segments (items : List String)
  | plain (text : String)
  deriving DecidableEq, Repr

structure Url where
  scheme : String
  authority : Option Authority
  path : UrlPath
  query : Option String
  fragment : Option String
  deriving DecidableEq, Repr

namespace Host

def empty : Host := .domain ""

def dotted (address : Nat) : String :=
  ".".intercalate ([16777216, 65536, 256, 1].map fun place => toString (address / place % 256))

def lowerHex (n : Nat) : String :=
  String.ofList (Nat.toDigits 16 n)

/-- Start and length of the first longest run of zero pieces. -/
def longestZeros (pieces : List Nat) : Nat × Nat :=
  (List.range pieces.length).foldl
    (fun best i =>
      let run := ((pieces.drop i).takeWhile (· == 0)).length
      if best.2 < run then (i, run) else best)
    (0, 0)

/-- Pieces in hexadecimal; two colons stand for the first longest run of at least two zeros. -/
def colonHex (pieces : List Nat) : String :=
  let (start, length) := longestZeros pieces
  if length < 2 then ":".intercalate (pieces.map lowerHex)
  else
    ":".intercalate ((pieces.take start).map lowerHex) ++ "::" ++
      ":".intercalate ((pieces.drop (start + length)).map lowerHex)

def text : Host → String
  | .domain name => name
  | .ipv4 address => dotted address
  | .ipv6 pieces => "[" ++ colonHex pieces ++ "]"

end Host

namespace Authority

def userinfo (a : Authority) : String :=
  match a.password with
  | some password => a.username ++ ":" ++ password ++ "@"
  | none => if a.username.isEmpty then "" else a.username ++ "@"

def text (a : Authority) : String :=
  a.userinfo ++ a.host.text ++
    match a.port with
    | some port => ":" ++ toString port
    | none => ""

end Authority

namespace UrlPath

def text : UrlPath → String
  | .segments items => String.join (items.map ("/" ++ ·))
  | .plain text => text

def isPlain : UrlPath → Bool
  | .plain _ => true
  | .segments _ => false

end UrlPath

namespace Url

def needsDot (u : Url) : Bool :=
  match u.authority, u.path with
  | none, .segments ("" :: _ :: _) => true
  | _, _ => false

/-- Everything after the scheme and its colon, up to the query. A path that could be taken for an
authority is led by a dot segment. -/
def hierarchy (u : Url) : String :=
  match u.authority with
  | some a => "//" ++ a.text ++ u.path.text
  | none => (if u.needsDot then "/." else "") ++ u.path.text

def withoutFragment (u : Url) : String :=
  u.scheme ++ ":" ++ u.hierarchy ++
    match u.query with
    | some query => "?" ++ query
    | none => ""

def text (u : Url) : String :=
  u.withoutFragment ++
    match u.fragment with
    | some fragment => "#" ++ fragment
    | none => ""

def defaultPort? (scheme : String) : Option Nat :=
  if scheme = "http" ∨ scheme = "ws" then some 80
  else if scheme = "https" ∨ scheme = "wss" then some 443
  else if scheme = "ftp" then some 21
  else none

def origin (u : Url) : String :=
  u.scheme ++ "://" ++
    match u.authority with
    | some a =>
      a.host.text ++
        match a.port with
        | some port => ":" ++ toString port
        | none => ""
    | none => ""

def keySetPath : String := "/.well-known/jwks.json"

/-- The place of the key set beside a token endpoint: the well-known path, no query, no fragment. A dot segment
that led the path stays. A plain path may not begin with a slash, which is therefore encoded. -/
def keySetUrl (u : Url) : Url :=
  { u with
    path :=
      match u.path with
      | .segments _ => .segments ((if u.needsDot then ["."] else []) ++ [".well-known", "jwks.json"])
      | .plain _ => .plain ("%2F" ++ (keySetPath.drop 1).toString)
    query := none
    fragment := none }

end Url

end BearerTokens
