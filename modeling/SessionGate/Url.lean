import SessionGate.Base64
import SessionGate.Text.Case
import SessionGate.Text.Integer
import SessionGate.Text.Percent
import SessionGate.Url.Address
import SessionGate.Url.Label

/-!
# URLs

A URL names a server and what is asked of it. `Url.read?` takes a text apart and brings the parts
into a normal form: scheme and host in lower case, no port that the scheme has anyway, no segments
that lead nowhere, and percent signs for characters that may not stand in their part. `Url.text`
puts the parts together again.

## URLs that name no server

A URL without a scheme or without a host is a reference. It may be read, but it leads to no server:
what is asked for is all that is left of it, which is `Url.destination`.
-/

namespace SessionGate

open Text

/-- A URL in its normal form. Scheme, user and host are empty where they are missing. -/
structure Url where
  scheme : List Char := []
  user : List Char := []
  host : List Char := []
  port : Option Int := none
  path : List Char := []
  query : Option (List Char) := none
  fragment : Option (List Char) := none
  deriving DecidableEq, Repr

namespace Url

/-! ## Parts -/

/-- What stands before the first of some marks, and the rest from the mark on. -/
def spanUntil (marks : List Char) (cs : List Char) : List Char × List Char :=
  (cs.takeWhile (!marks.contains ·), cs.dropWhile (!marks.contains ·))

/-- The scheme and what follows its colon; a colon at the beginning ends an empty scheme. -/
def spanScheme (cs : List Char) : List Char × List Char :=
  let isInner (c : Char) : Bool := c.isAlphanum || c == '+' || c == '.' || c == '-'
  let name := if cs.head?.any Char.isAlpha then cs.takeWhile isInner else []
  match cs.drop name.length with
  | ':' :: rest => (name, rest)
  | _ => ([], cs)

/-- The authority after two slashes, and the rest. -/
def spanAuthority : List Char → List Char × List Char
  | '/' :: '/' :: rest => spanUntil ['/', '?', '#'] rest
  | cs => ([], cs)

/-- The part after a mark, if the text begins with it, and the rest from the next mark on. -/
def spanMarked (mark : Char) (next : List Char) : List Char → Option (List Char) × List Char
  | [] => (none, [])
  | c :: rest =>
    if c = mark then
      let (part, rest) := spanUntil next rest
      (some part, rest)
    else (none, c :: rest)

/-- The host and what follows it. Brackets hold a host with colons. -/
def spanHost (cs : List Char) : List Char × List Char :=
  match cs, cutLast? ']' cs with
  | '[' :: _, some (inside, rest) => (inside ++ [']'], rest)
  | _, _ => spanUntil [':', '@'] cs

/-- The user, the host and the port of an authority. -/
def authorityParts (cs : List Char) : List Char × List Char × List Char :=
  let (user, place) := (cutLast? '@' cs).getD ([], cs)
  let (host, rest) := spanHost place
  (user, host, if rest.head? = some ':' then rest.drop 1 else rest)

/-! ## Safe characters -/

/-- Printable characters but for some. -/
def isPrintableBut (excluded : List Char) (c : Char) : Bool :=
  ' ' ≤ c && c ≤ '~' && !excluded.contains c

def unsafeInFragment : List Char := [' ', '"', '<', '>', '\x60']

def unsafeInQuery : List Char := [' ', '"', '#', '<', '>']

def unsafeInPath : List Char := unsafeInQuery ++ ['?', '\x60', '\x7b', '\x7d']

def unsafeInUser : List Char := unsafeInPath ++ ['/', ';', '=', '@', '[', '\\', ']', '^', '|']

/-- The marks that are safe in a host. -/
def safeInHost : List Char :=
  "!$&'()*+,;=".toList ++ ['"', '\x60', '\x7b', '\x7d', '%', '|', '\\']

/-! ## Normal forms -/

/-- The marks that are taken for a point between labels. -/
def labelPoints : List Char := ['.', '。', '．', '｡']

/-- The longest host name, not counting a point at its end. -/
def hostSizeLimit : Nat := 253

/-- A host name in ASCII; a point may end it. -/
def hostToAscii? (cs : List Char) : Option (List Char) :=
  let labels := splitOn '.' (cs.map fun c ↦ if labelPoints.contains c then '.' else c)
  let (labels, ending) :=
    if labels.getLast? = some [] then (labels.dropLast, ['.']) else (labels, [])
  match labels.mapM Label.toAscii? with
  | some (first :: rest) =>
    let name := ['.'].intercalate (first :: rest)
    if name.length ≤ hostSizeLimit then some (name ++ ending) else none
  | _ => none

/-- A host in its normal form, which is without brackets. -/
def normalHost? (cs : List Char) : Option (List Char) :=
  if cs.isEmpty then some []
  else if Address.isLikeVersion4 cs then if Address.isVersion4 cs then some cs else none
  else if cs.head? = some '[' ∧ cs.getLast? = some ']' ∧ 2 ≤ cs.length then
    let address := (cs.drop 1).dropLast
    if Address.isVersion6 address then some address else none
  else
    let name := lowerChars [] cs
    if cs.all (·.toNat < 128) then some (Percent.quote safeInHost.contains name)
    else hostToAscii? name

def schemePorts : List (List Char × Int) :=
  [("ftp".toList, 21), ("http".toList, 80), ("https".toList, 443), ("ws".toList, 80),
    ("wss".toList, 443)]

/-- The port, unless it is the one of the scheme, which is looked up as it was written. -/
def normalPort? (scheme port : List Char) : Option (Option Int) :=
  if port.isEmpty then some none
  else
    match readInteger (String.ofList port) with
    | .ok n => some (if schemePorts.lookup scheme = some n then none else some n)
    | .error _ => none

/-- Adds a segment of a path: one point leads nowhere, and two points lead back. -/
def addSegment (path : List (List Char)) (segment : List Char) : List (List Char) :=
  if segment = ['.'] then path
  else if segment = ['.', '.'] then if path = [[]] then path else path.dropLast
  else path ++ [segment]

/-- A path without segments of points. -/
def normalPath (cs : List Char) : List Char :=
  ['/'].intercalate ((splitOn '/' cs).foldl addSegment [])

/-- Whether a path fits to what stands before it: after an authority it begins with a slash, and
after nothing neither with two slashes nor with a colon. -/
def pathFits (hasScheme hasAuthority : Bool) (path : List Char) : Bool :=
  if hasAuthority then path.isEmpty || path.head? == some '/'
  else hasScheme || !(['/', '/'].isPrefixOf path || path.head? == some ':')

/-! ## Reading -/

/-- The longest text that is read. -/
def sizeLimit : Nat := 65536

def isControl (c : Char) : Bool :=
  c < ' ' || c == '\x7f'

def read? (s : String) : Option Url := do
  let cs := s.toList
  let (scheme, rest) := spanScheme cs
  let (authority, rest) := spanAuthority rest
  let (path, rest) := spanUntil ['?', '#'] rest
  let (query, rest) := spanMarked '?' ['#'] rest
  let (fragment, _) := spanMarked '#' [] rest
  let (user, host, port) := authorityParts authority
  let host ← normalHost? host
  let port ← normalPort? scheme port
  let hasScheme := !scheme.isEmpty
  let hasAuthority := !user.isEmpty || !host.isEmpty || port.isSome
  if sizeLimit < cs.length || cs.any isControl || !pathFits hasScheme hasAuthority path then none
  else
    let path := if hasScheme || hasAuthority then normalPath path else path
    return {
      scheme := scheme.map Char.toLower
      user := Percent.quote (isPrintableBut unsafeInUser) user
      host, port
      path := Percent.quote (isPrintableBut unsafeInPath) path
      query := query.map (Percent.quote (isPrintableBut unsafeInQuery))
      fragment := fragment.map (Percent.quote (isPrintableBut unsafeInFragment)) }

/-! ## Texts that are no URL -/

/-- The URL that a text is; one with surrogates is none. -/
def ofText? (t : Text) : Option Url :=
  t.string?.bind read?

/-- The user in the authority of a text. -/
def userPoints (ps : List CodePoint) : List CodePoint :=
  let (cs, others) := CodePoint.spanChars ps
  match CodePoint.ofChars (spanScheme cs).2 ++ others with
  | .char '/' :: .char '/' :: rest =>
    let marks := CodePoint.ofChars ['/', '?', '#']
    ((cutLast? (.char '@') (rest.takeWhile (!marks.contains ·))).map Prod.fst).getD []
  | _ => []

/-- The text with every surrogate replaced by a character that may stand in no host. -/
def withoutLone (ps : List CodePoint) : String :=
  String.ofList (ps.map fun p ↦ p.char?.getD '\uFFFD')

/-- Whether a text is refused only when its parts are written in bytes. The user is written before
host, port and path are looked at. -/
def isUnwritable : Text → Bool
  | .plain _ => false
  | .loose t =>
    let s := withoutLone t.points
    let hasForm := s.length ≤ sizeLimit && !s.toList.any isControl
    hasForm && ((userPoints t.points).any CodePoint.isLone || (read? s).isSome)

/-! ## Writing -/

/-- A part with its mark, if it is there. -/
def marked (mark : Char) (part : Option (List Char)) : List Char :=
  (part.map (mark :: ·)).getD []

def authority (u : Url) : List Char :=
  (if u.user.isEmpty then [] else u.user ++ ['@']) ++
    (if u.host.contains ':' then '[' :: u.host ++ [']'] else u.host) ++
    marked ':' (u.port.map fun n ↦ (toString n).toList)

def text (u : Url) : String :=
  String.ofList ((if u.scheme.isEmpty then [] else u.scheme ++ [':']) ++
    (if u.authority.isEmpty then [] else '/' :: '/' :: u.authority) ++ u.path ++
    marked '?' u.query ++ marked '#' u.fragment)

/-! ## Destinations -/

def isAbsolute (u : Url) : Bool :=
  !u.scheme.isEmpty && !u.host.isEmpty

/-- The URL on a server, of which a reference takes everything but path and query. -/
def on (base u : Url) : Url :=
  if u.isAbsolute then u
  else
    let path := '/' :: u.path.dropWhile (· = '/')
    { base with
      path := if base.scheme.isEmpty then path else normalPath path
      query := u.query
      fragment := none }

def destination (u : Url) : Url :=
  on {} u

/-- What is asked of the server, in the characters that are meant. -/
def decodedPath (u : Url) : List Char :=
  Percent.unquote (if u.path.isEmpty then ['/'] else u.path)

/-- The authorization by the name and the password in the URL, if it has one of them. -/
def basicAuthorization? (u : Url) : Option String :=
  let (name, password) := (cut? ':' u.user).getD (u.user, [])
  let credentials := encodeUtf8 (Percent.unquote name ++ ':' :: Percent.unquote password)
  if name.isEmpty && password.isEmpty then none
  else
    let letters := (Base64.encodeStandard credentials).map fun b ↦ Char.ofNat b.toNat
    some ("Basic " ++ String.ofList letters)

end Url

end SessionGate
