import BlobStore.Text.Cut

/-!
# Addresses of calls

The strict form of an address over HTTP that a call may go to. Other than a URL it is not mended: a
character out of place makes it no address.
-/

namespace BlobStore.Http

structure Uri where
  /-- In lower case. -/
  scheme : String
  /-- The host with its port, as it is written. -/
  authority : String
  /-- Starts with a slash. -/
  path : String
  query : Option String
  deriving DecidableEq, Repr

namespace Uri

/-- How many bytes an address may have. -/
def maxSize : Nat := 65534

/-! ## Authorities -/

/-- The characters of an authority apart from those that divide it. -/
private def isAuthorityCharacter (c : Char) : Bool := c.isAlphanum || "!$&'()*+,-.;=_~".toList.contains c

/-- What an authority has shown so far, since the last part that takes any number of colons. -/
private structure Shown where
  colons : Nat
  percent : Bool
  /-- A square bracket, anywhere. -/
  opened : Bool
  closed : Bool

private def Shown.next? (s : Shown) (c : Char) : Option Shown :=
  if c = ':' then if 8 ≤ s.colons then none else some { s with colons := s.colons + 1 }
  else if c = '%' then some { s with percent := true }
  else if c = '@' then some { s with colons := 0, percent := false }
  else if c = '[' then if s.percent || s.opened then none else some { s with opened := true }
  else if c = ']' then
    if s.opened && !s.closed then some { s with closed := true, colons := 0, percent := false } else none
  else if isAuthorityCharacter c then some s
  else none

/-- Whether a text can stand between the slashes in front and the path. Percent signs are only allowed
in credentials and inside brackets. -/
def isAuthority (text : List Char) : Bool :=
  !text.isEmpty && text.getLast? ≠ some '@' &&
    (text.foldlM Shown.next? ⟨0, false, false, false⟩).any fun s =>
      s.opened = s.closed && s.colons ≤ 1 && !s.percent

/-! ## Paths and queries -/

def isPathCharacter (c : Char) : Bool := '!' ≤ c && !"#<>?\x60".toList.contains c

def isQueryCharacter (c : Char) : Bool := '!' ≤ c && !"\"#<>".toList.contains c

/-! ## Reading -/

/-- The scheme in lower case and what follows its slashes. -/
private def takeScheme? (s : String) : Option (String × List Char) := do
  let (scheme, rest) ← Text.cutWord? "://" s
  let scheme := Text.lowercase scheme
  if scheme = "http" ∨ scheme = "https" then some (scheme, rest.toList) else none

private def endsAuthority (c : Char) : Bool := c = '/' || c = '?' || c = '#'

/-- Reads an address; a fragment at its end does not count. -/
def parse? (s : String) : Option Uri := do
  if maxSize < s.utf8ByteSize then none
  let (scheme, rest) ← takeScheme? s
  let authority := rest.takeWhile (!endsAuthority ·)
  let rest := rest.dropWhile (!endsAuthority ·)
  let rest := ((Text.cutAt '#' rest).map (·.1)).getD rest
  let (path, query) := match Text.cutAt '?' rest with
    | some (path, query) => (path, some query)
    | none => (rest, none)
  if isAuthority authority && path.all isPathCharacter && query.all (·.all isQueryCharacter) then
    some
      { scheme, authority := String.ofList authority
        path := if path.isEmpty then "/" else String.ofList path
        query := query.map String.ofList }
  else none

/-- The address up to the query, of something below the path: one slash parts it from the path. -/
def below (u : Uri) (name : String) : String :=
  let path := u.path.toList
  let path := if path.getLast? = some '/' then path.dropLast else path
  u.scheme ++ "://" ++ u.authority ++ String.ofList path ++ "/" ++ name

end Uri

end BlobStore.Http
