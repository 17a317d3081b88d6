import BearerTokens.Url.Host

/-!
# Reading URLs

An absolute URL from any text: blanks at the ends and line breaks inside are dropped, the scheme decides
how the rest is taken apart, dot segments are resolved, and every part is percent-encoded by its own rule.

A segment of a letter and a colon, or a bar, may name the drive of a file system. No double dot removes it,
whatever the scheme. In a URL of a file it has more to it: a drive right behind the slashes is taken for the
start of the path, and behind a host it takes the place of the host.
-/

set_option autoImplicit false

namespace BearerTokens

open BearerTokens.Text

/-- The three ways in which a scheme's URLs are taken apart. -/
inductive SchemeKind where
  | file
  | special
  | other
  deriving DecidableEq, Repr

def SchemeKind.of (scheme : String) : SchemeKind :=
  if scheme = "file" then .file
  else if (Url.defaultPort? scheme).isSome then .special
  else .other

/-- Special schemes take a backslash for a slash. -/
def SchemeKind.isSpecial : SchemeKind → Bool
  | .other => false
  | _ => true

namespace Url

def staysInFragment (c : Char) : Bool :=
  !Host.isControl c && !" \"<>`".toList.contains c

def staysInPath (c : Char) : Bool :=
  staysInFragment c && !"#?\x7b\x7d".toList.contains c

def staysInUserinfo (c : Char) : Bool :=
  staysInPath c && !"/:;=@[\\]^|".toList.contains c

def staysInQuery (special : Bool) (c : Char) : Bool :=
  !Host.isControl c && !" \"#<>".toList.contains c && !(special && c == '\'')

def encoded (keep : Char → Bool) (s : List Char) : String :=
  String.ofList (Percent.encode keep s)

def isEdge (c : Char) : Bool :=
  c.toNat ≤ 0x20

def isLineBreak (c : Char) : Bool :=
  c == '\t' || c == '\n' || c == '\r'

def trim (s : String) : List Char :=
  ((s.toList.dropWhile isEdge).reverse.dropWhile isEdge).reverse

/-- Tabs and line breaks do not count, wherever they stand. -/
def visible (s : List Char) : List Char :=
  s.filter fun c => !isLineBreak c

def inScheme (c : Char) : Bool :=
  c.isAlphanum || c == '+' || c == '-' || c == '.'

def scheme? (s : List Char) : Option (String × List Char) :=
  match s with
  | [] => none
  | c :: _ =>
    if c.isAlpha then
      match s.dropWhile inScheme with
      | ':' :: rest => some (String.ofList ((s.takeWhile inScheme).map Char.toLower), rest)
      | _ => none
    else none

def isSlash (special : Bool) (c : Char) : Bool :=
  c == '/' || (special && c == '\\')

def endsAuthority (special : Bool) (c : Char) : Bool :=
  isSlash special c || c == '?' || c == '#'

def splitUserinfo (s : List Char) : Option (List Char × List Char) :=
  if s.contains '@' then
    let after := (s.reverse.takeWhile (· ≠ '@')).reverse
    some (s.take (s.length - after.length - 1), after)
  else none

/-- The length of a host, which a colon outside brackets ends. -/
def hostLength (bracketed : Bool) : List Char → Nat
  | [] => 0
  | c :: rest =>
    if c = ':' ∧ bracketed = false then 0
    else 1 + hostLength (if c = '[' then true else if c = ']' then false else bracketed) rest

def endsPort (c : Char) : Bool :=
  c == '/' || c == '\\' || c == '?' || c == '#'

/-- The digits after a colon. A port that is missing, or is the scheme's own, is not kept. -/
def port (scheme : String) (s : List Char) : Except UrlError (Option Nat × List Char) :=
  let digits := s.takeWhile Char.isDigit
  let rest := s.dropWhile Char.isDigit
  let n := digits.foldl (fun n c => n * 10 + (c.toNat - 48)) 0
  if 65535 < n then .error .invalidPort
  else
    match rest with
    | c :: _ => if endsPort c then .ok (kept digits n, rest) else .error .invalidPort
    | [] => .ok (kept digits n, [])
where
  kept (digits : List Char) (n : Nat) : Option Nat :=
    if digits.isEmpty ∨ defaultPort? scheme = some n then none else some n

/-- User name and password; an empty password is none. -/
def credentials (userinfo : List Char) : String × Option String :=
  let name := userinfo.takeWhile (· ≠ ':')
  let password := (userinfo.dropWhile (· ≠ ':')).drop 1
  (encoded staysInUserinfo name,
    if password.isEmpty then none else some (encoded staysInUserinfo password))

def authorityOf (toAscii : ToAscii) (scheme : String) (special : Bool) (s : List Char) :
    Except UrlError (Authority × List Char) :=
  let whole := s.takeWhile fun c => !endsAuthority special c
  let after := s.dropWhile fun c => !endsAuthority special c
  let (userinfo, place) := (splitUserinfo whole).getD ([], whole)
  if whole.contains '@' ∧ userinfo.isEmpty ∧ place.isEmpty ∧ !after.isEmpty then .error .emptyHost
  else
    let length := hostLength false place
    let name := place.take length
    let rest := place.drop length
    let (username, password) := credentials userinfo
    if name.isEmpty ∧ (special ∨ !rest.isEmpty) then .error .emptyHost
    else
      match if special then Host.parse toAscii name else Host.parsePlain name with
      | .error e => .error e
      | .ok host =>
        match rest with
        | ':' :: rest =>
          match port scheme rest with
          | .error e => .error e
          | .ok (port, rest) => .ok (⟨username, password, host, port⟩, rest ++ after)
        | _ =>
          if name.isEmpty ∧ (username ≠ "" ∨ password.isSome) then .error .emptyHost
          else .ok (⟨username, password, host, none⟩, after)

def dots : List Char → Option Nat
  | [] => some 0
  | '.' :: rest => (dots rest).map (· + 1)
  | '%' :: '2' :: 'e' :: rest => (dots rest).map (· + 1)
  | '%' :: '2' :: 'E' :: rest => (dots rest).map (· + 1)
  | _ => none

/-- A letter and a colon or bar, up to the end or a backslash. -/
def isDrive : List Char → Bool
  | [c, d] => c.isAlpha && (d == ':' || d == '|')
  | c :: d :: '\\' :: _ => c.isAlpha && (d == ':' || d == '|')
  | _ => false

/-- What a double dot leaves of the segments before it, newest first. -/
def shorten : List String → List String
  | [] => []
  | s :: done => if isDrive s.toList then s :: done else done

/-- A drive and what a line break parts from it. -/
def partedDrive? (piece : List Char) : Option (List Char × List Char) :=
  match visible piece, (piece.dropWhile (· ≠ ':')).drop 1 with
  | c :: ':' :: d :: rest, b :: _ =>
    if c.isAlpha && isLineBreak b then some ([c, ':'], d :: rest) else none
  | _, _ => none

def segment (piece : List Char) : String :=
  encoded staysInPath piece

/-- Resolves dot segments; a last one leaves an empty segment behind. `done` is newest first. A drive that
opens the path of a file and is parted from what follows becomes a segment of its own. -/
def resolve (kind : SchemeKind) (done : List String) : List (List Char) → List String
  | [] => done.reverse
  | piece :: more =>
    match if kind = .file ∧ done = [] then partedDrive? piece else none with
    | some (drive, rest) => resolve kind [segment rest, segment drive] more
    | none =>
      let piece := visible piece
      match dots piece with
      | some 2 => resolve kind (if more.isEmpty then "" :: shorten done else shorten done) more
      | some 1 => resolve kind (if more.isEmpty then "" :: done else done) more
      | _ => resolve kind (segment piece :: done) more

def pieces (kind : SchemeKind) (s : List Char) : List (List Char) :=
  splitWhere (isSlash kind.isSpecial) s

def afterSlash? (special : Bool) (s : List Char) : Option (List Char) :=
  match s.dropWhile isLineBreak with
  | c :: rest => if isSlash special c then some rest else none
  | [] => none

def segmentsOf (kind : SchemeKind) (s : List Char) : List String :=
  resolve kind [] (pieces kind ((afterSlash? kind.isSpecial s).getD s))

def withoutLeadingEmpty : List String → List String
  | "" :: s :: rest => withoutLeadingEmpty (s :: rest)
  | segments => segments

def filePath (pieces : List (List Char)) : UrlPath :=
  .segments (withoutLeadingEmpty (resolve .file [] pieces))

def opensWithDrive : List (List Char) → Bool
  | piece :: _ => isDrive (visible piece)
  | [] => false

def spellDrive : List (List Char) → List (List Char)
  | piece :: more =>
    match visible piece with
    | [c, d] => (if isDrive [c, d] then [c, ':'] else [c, d]) :: more
    | _ => piece :: more
  | [] => []

def endsPath (c : Char) : Bool :=
  c == '?' || c == '#'

def queryAndFragment (special : Bool) (s : List Char) : Option String × Option String :=
  let fragmentOf (s : List Char) : Option String :=
    match s with
    | '#' :: rest => some (encoded staysInFragment rest)
    | _ => none
  match s with
  | '?' :: rest =>
    (some (encoded (staysInQuery special) (rest.takeWhile (· ≠ '#'))),
      fragmentOf (rest.dropWhile (· ≠ '#')))
  | _ => (none, fragmentOf s)

def assemble (scheme : String) (kind : SchemeKind) (authority : Option Authority)
    (path : List Char → UrlPath) (s : List Char) : Url :=
  let (query, fragment) := queryAndFragment kind.isSpecial (visible (s.dropWhile fun c => !endsPath c))
  ⟨scheme, authority, path (s.takeWhile fun c => !endsPath c), query, fragment⟩

def fileOn (host : Host) (path : List (List Char) → UrlPath) (s : List Char) : Url :=
  assemble "file" .file (some ⟨"", none, host, none⟩) (fun s => path (pieces .file s)) s

/-- A path behind a host. A drive leaves no room for the host. -/
def fileBehind (host : Host) (s : List Char) : Url :=
  let s := (afterSlash? true s).getD s
  if opensWithDrive (pieces .file (s.takeWhile fun c => !endsPath c)) then
    fileOn .empty (fun ps => filePath (spellDrive ps)) s
  else fileOn host filePath s

def fileBehindSlashes (toAscii : ToAscii) (s : List Char) : Except UrlError Url :=
  let name := visible (s.takeWhile fun c => !endsAuthority true c)
  let after := s.dropWhile fun c => !endsAuthority true c
  let localFile := fileOn .empty filePath ((afterSlash? true after).getD after)
  if isDrive name then .ok (fileOn .empty (fun ps => filePath (spellDrive ps)) s)
  else if name.isEmpty then .ok localFile
  else
    match Host.parse toAscii name with
    | .error e => .error e
    | .ok host => .ok (if host = .domain "localhost" then localFile else fileBehind host after)

/-- Everything after the scheme of a file's URL, line breaks included. -/
def parseFile (toAscii : ToAscii) (s : List Char) : Except UrlError Url :=
  match afterSlash? true s with
  | none => .ok (fileOn .empty (fun ps => filePath (spellDrive ps)) s)
  | some rest =>
    match afterSlash? true rest with
    | none => .ok (fileOn .empty filePath rest)
    | some rest => fileBehindSlashes toAscii rest

/-- The path behind an authority; without a special scheme it may be missing. -/
def pathBehind (kind : SchemeKind) (s : List Char) : UrlPath :=
  .segments (if s.isEmpty ∧ kind = .other then [] else segmentsOf kind s)

def parseHierarchical (toAscii : ToAscii) (scheme : String) (kind : SchemeKind) (s : List Char) :
    Except UrlError Url :=
  match authorityOf toAscii scheme kind.isSpecial s with
  | .error e => .error e
  | .ok (authority, rest) => .ok (assemble scheme kind (some authority) (pathBehind kind) rest)

def plainPath (s : List Char) : UrlPath :=
  .plain (encoded (fun c => !Host.isControl c) s)

def parse (text : String) (toAscii : ToAscii := .plain) : Except UrlError Url :=
  match scheme? (visible (trim text)) with
  | none => .error .relativeWithoutBase
  | some (scheme, rest) =>
    match SchemeKind.of scheme, rest with
    | .file, _ => parseFile toAscii (((trim text).dropWhile (· ≠ ':')).drop 1)
    | .special, rest => parseHierarchical toAscii scheme .special (rest.dropWhile (isSlash true))
    | .other, '/' :: '/' :: rest => parseHierarchical toAscii scheme .other rest
    | .other, '/' :: rest =>
      .ok (assemble scheme .other none (fun s => .segments (segmentsOf .other s)) ('/' :: rest))
    | .other, rest => .ok (assemble scheme .other none plainPath rest)

end Url

end BearerTokens
