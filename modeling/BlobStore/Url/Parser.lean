import BlobStore.Text.Blank
import BlobStore.Text.Cut
import BlobStore.Url.Address
import BlobStore.Url.Domain
import BlobStore.Url.Fault
import BlobStore.Url.Percent

/-!
# URLs

Absolute URLs as the WHATWG URL standard reads them. The schemes http, https, ws, wss, ftp and
file are special: their host is a domain or an address and a backslash counts as a slash. Under
any other scheme the host is a text of its own in which only a few characters are refused.
-/

namespace BlobStore

/-- Credentials, host and port. -/
structure Authority where
  /-- The credentials as they are written, with the `@` that ends them. -/
  userinfo : String
  /-- Empty when the URL names no host. -/
  host : String
  port : Option Nat
  deriving DecidableEq, Repr

structure Url where
  scheme : String
  authority : Option Authority
  path : String
  query : Option String
  fragment : Option String
  deriving DecidableEq, Repr

namespace Url

inductive SchemeKind where
  | file
  | special
  | other
  deriving DecidableEq

def schemeKind (scheme : String) : SchemeKind :=
  if scheme = "file" then .file
  else if ["http", "https", "ws", "wss", "ftp"].contains scheme then .special
  else .other

def SchemeKind.isSpecial : SchemeKind → Bool
  | .other => false
  | _ => true

def defaultPort (scheme : String) : Option Nat :=
  if scheme = "http" ∨ scheme = "ws" then some 80
  else if scheme = "https" ∨ scheme = "wss" then some 443
  else if scheme = "ftp" then some 21
  else none

/-- Whether a character ends the authority. -/
def endsAuthority (kind : SchemeKind) (c : Char) : Bool :=
  c = '/' || c = '?' || c = '#' || (kind.isSpecial && c = '\\')

/-- Controls and blanks around a URL do not count, nor do tabs and line ends inside it. -/
def clean (text : List Char) : List Char :=
  (Text.trimBy (·.toNat ≤ 0x20) text).filter fun c => c ≠ '\t' && c ≠ '\n' && c ≠ '\r'

/-- The scheme, in lower case, and what follows its colon. -/
def takeScheme? (text : List Char) : Option (String × List Char) := do
  let (scheme, rest) ← Text.cutAt ':' text
  let first ← scheme.head?
  if first.isAlpha && scheme.all fun c => c.isAlphanum || c = '+' || c = '-' || c = '.' then
    some (String.ofList (scheme.map Char.toLower), rest)
  else none

/-- The credentials end at the last `@` of the authority. -/
def cutLastAt (authority : List Char) : Option (List Char × List Char) :=
  (Text.cutAt '@' authority.reverse).map fun p => (p.2.reverse, p.1.reverse)

def encode (set : EncodeSet) (text : List Char) : String :=
  percentEncode set (String.ofList text)

/-- Credentials as written: an empty password loses its colon, and nothing at all is written for
credentials that are empty. -/
private def userinfoText (credentials : List Char) : String :=
  let (user, password) := (Text.cutAt ':' credentials).getD (credentials, [])
  let shown := encode .userinfo user ++
    (if password.isEmpty then "" else ":" ++ encode .userinfo password)
  if shown.isEmpty then "" else shown ++ "@"

/-- The host ends at a colon that is not inside square brackets. -/
def splitHost : Bool → List Char → List Char × List Char
  | _, [] => ([], [])
  | bracketed, c :: rest =>
    if c = ':' && !bracketed then ([], c :: rest)
    else
      let (host, after) := splitHost (c = '[' || (bracketed && c ≠ ']')) rest
      (c :: host, after)

def bracketedHost (host : List Char) : Except UrlFault String :=
  if host.getLast? = some ']' then
    match readIpv6? (host.drop 1).dropLast with
    | some pieces => .ok ("[" ++ ipv6Text pieces ++ "]")
    | none => .error .invalidIpv6
  else .error .invalidIpv6

/-- Characters refused in the host of a scheme that is not special. -/
def isForbiddenInHost (c : Char) : Bool :=
  c.toNat = 0 || " #/:<>?@[\\]^|".toList.contains c

def otherHost (host : List Char) : Except UrlFault String :=
  if host.head? = some '[' then bracketedHost host
  else if host.any isForbiddenInHost then .error .invalidHostCharacter
  else .ok (encode .controls host)

private def specialHost (host : List Char) : Except UrlFault String :=
  if host.head? = some '[' then bracketedHost host
  else match asciiDomain? host with
    | none => .error .invalidDomain
    | some [] => .error .emptyHost
    | some domain =>
      if endsInNumber domain then
        match readIpv4? domain with
        | some address => .ok (ipv4Text address)
        | none => .error .invalidIpv4
      else .ok (String.ofList domain)

/-- The text after the host: nothing, or a colon and a number of 16 bits. A backslash ends the
number under every scheme, and what it begins is not read. -/
private def readPort (scheme : String) (text : List Char) :
    Except UrlFault (Option Nat × List Char) :=
  let digits := (text.drop 1).takeWhile (· ≠ '\\')
  if digits.all Char.isDigit then
    let n := Text.valueOf 10 digits
    if 65535 < n then .error .invalidPort
    else
      .ok (if digits.isEmpty ∨ defaultPort scheme = some n then none else some n,
        (text.drop 1).dropWhile (· ≠ '\\'))
  else .error .invalidPort

/-- Credentials, host and port, and what is left behind them. -/
def readAuthority (scheme : String) (kind : SchemeKind) (text : List Char)
    (isLast : Bool) : Except UrlFault (Authority × List Char) := do
  let (credentials, hostAndPort) := (cutLastAt text).getD ([], text)
  if text.head? = some '@' && credentials.isEmpty && hostAndPort.isEmpty && !isLast then
    throw .emptyHost
  let userinfo := userinfoText credentials
  let (host, after) := splitHost false hostAndPort
  if kind = .special && host.isEmpty then throw .emptyHost
  let shown ← if kind = .other then otherHost host else specialHost host
  if shown.isEmpty && !after.isEmpty then throw .emptyHost
  let (port, rest) ← readPort scheme after
  if shown.isEmpty && !userinfo.isEmpty then throw .emptyHost
  return ({ userinfo, host := shown, port }, rest)

private def isDot (segment : List Char) : Bool :=
  [".", "%2e"].contains (Text.lowercase (String.ofList segment))

private def isDoubleDot (segment : List Char) : Bool :=
  ["..", "%2e.", ".%2e", "%2e%2e"].contains (Text.lowercase (String.ofList segment))

/-- The segments of a path with those that mean "here" and "one up" worked in. -/
private def resolve (done : List (List Char)) : List (List Char) → List (List Char)
  | [] => done
  | segment :: rest =>
    let marker := if rest.isEmpty then [[]] else []
    if isDoubleDot segment then resolve (done.dropLast ++ marker) rest
    else if isDot segment then resolve (done ++ marker) rest
    else resolve (done ++ [segment]) rest

/-- The segments of a path as they are written. -/
private def segments (kind : SchemeKind) (text : List Char) : List (List Char) :=
  let slashed := if kind.isSpecial then text.map fun c => if c = '\\' then '/' else c else text
  (if slashed.head? = some '/' then slashed.drop 1 else slashed).splitOn '/'

/-- A path of segments; empty when nothing follows the authority and the scheme is not special. -/
private def segmentedPath (kind : SchemeKind) (text : List Char) : String :=
  if text.isEmpty then if kind.isSpecial then "/" else ""
  else "/" ++ String.intercalate "/" ((resolve [] (segments kind text)).map (encode .path))

private def isDriveLetter (text : List Char) : Bool :=
  match text with
  | [letter, mark] => letter.isAlpha && (mark = ':' || mark = '|')
  | _ => false

/-- Whether a drive comes to stand first in a path, below which so many segments are kept already. -/
private def startsAtDrive (kept : Nat) : List (List Char) → Bool
  | [] => false
  | segment :: rest =>
    if isDoubleDot segment then startsAtDrive (kept - 1) rest
    else if isDot segment then startsAtDrive kept rest
    else (kept = 0 && isDriveLetter segment) || startsAtDrive (kept + 1) rest

/-- The host and the path of a file. A drive takes the place of a host. -/
private def readFileAuthority (text path : List Char) : Except UrlFault (Authority × List Char) := do
  if isDriveLetter text then return ({ userinfo := "", host := "", port := none }, text ++ path)
  let host ← if text.isEmpty then pure "" else specialHost text
  let drive := startsAtDrive 0 (segments .file path)
  return ({ userinfo := "", host := if host = "localhost" || drive then "" else host, port := none }, path)

private def startsWithSlash (kind : SchemeKind) (text : List Char) : Bool :=
  text.head?.any fun c => c = '/' || (kind.isSpecial && c = '\\')

/-- Authority and path. `isLast` tells that neither a query nor a fragment follows. -/
def readHierarchy (scheme : String) (text : List Char) (isLast : Bool) :
    Except UrlFault (Option Authority × String) := do
  let kind := schemeKind scheme
  let split (text : List Char) :=
    (text.takeWhile (!endsAuthority kind ·), text.dropWhile (!endsAuthority kind ·))
  match kind with
  | .special =>
    let (authority, path) := split (text.dropWhile fun c => c = '/' || c = '\\')
    let (authority, rest) ← readAuthority scheme kind authority (isLast && path.isEmpty)
    return (some authority, segmentedPath kind (rest ++ path))
  | .file =>
    if startsWithSlash kind text && startsWithSlash kind (text.drop 1) then
      let (authority, path) := split (text.drop 2)
      let (authority, path) ← readFileAuthority authority path
      return (some authority, segmentedPath kind path)
    else return (some { userinfo := "", host := "", port := none }, segmentedPath kind text)
  | .other =>
    match ['/', '/'].isPrefixOf? text with
    | some rest =>
      let (authority, path) := split rest
      let (authority, rest) ← readAuthority scheme kind authority (isLast && path.isEmpty)
      return (some authority, segmentedPath kind (rest ++ path))
    | none =>
      if text.head? = some '/' then return (none, segmentedPath kind text)
      else return (none, encode .controls text)

/-- What is in front of a sign, and what is behind it as it is encoded. -/
def cutOff (sign : Char) (set : EncodeSet) (text : List Char) : List Char × Option String :=
  match Text.cutAt sign text with
  | some (front, back) => (front, some (encode set back))
  | none => (text, none)

def parse (input : String) : Except UrlFault Url := do
  let text := clean input.toList
  match takeScheme? text with
  | none => throw .relativeWithoutBase
  | some (scheme, rest) =>
    let (rest, fragment) := cutOff '#' .fragment rest
    let (rest, query) :=
      cutOff '?' (if (schemeKind scheme).isSpecial then .specialQuery else .query) rest
    let (authority, path) ← readHierarchy scheme rest (fragment.isNone && query.isNone)
    return { scheme, authority, path, query, fragment }

/-- The host; empty when the URL names none. -/
def host (u : Url) : String := (u.authority.map (·.host)).getD ""

private def authorityText (a : Authority) : String :=
  "//" ++ a.userinfo ++ a.host ++ ((a.port.map fun n => s!":{n}").getD "")

/-- The URL in its normal form. Where no authority keeps a path from looking like one, `/.` stands
in front of it. -/
def text (u : Url) : String :=
  let authority := match u.authority with
    | some a => authorityText a
    | none => if ['/', '/'].isPrefixOf u.path.toList then "/." else ""
  u.scheme ++ ":" ++ authority ++ u.path ++ ((u.query.map ("?" ++ ·)).getD "") ++
    ((u.fragment.map ("#" ++ ·)).getD "")

def queryPairs (u : Url) : List (String × String) := formPairs (u.query.getD "")

end Url

end BlobStore
