import ToolHost.Decimal.Whole
import ToolHost.Http.Host

/-!
# Addresses

An address of the web: scheme, authority, path, query and fragment. Reading one brings it into its
plain form: scheme and host in lower case, no port that goes without saying, no dots in the path,
and characters that may not stand in an address written by their octets.
-/
namespace ToolHost.Http

structure Url where
  scheme : List Char := []
  /-- User and password. -/
  user : List Char := []
  /-- The host; one with colons stands between brackets in the text. -/
  host : List Char := []
  port : Option Int := none
  path : List Char := []
  query : Option (List Char) := none
  fragment : Option (List Char) := none
  deriving DecidableEq, Repr

namespace Url

/-- Cuts before the first character of a kind; without one there is no second part. -/
def cutAt (isCut : Char → Bool) (s : List Char) : List Char × Option (List Char) :=
  (s.takeWhile (!isCut ·), (s.dropWhile (!isCut ·)).tail?)

/-- The names of a path without single dots, each double dot taking the name before it away. -/
def withoutDots (path : List Char) : List Char :=
  let parts := Text.cut '/' path
  if !parts.any fun p => p = ['.'] || p = ['.', '.'] then path
  else
    let kept := parts.foldl (fun out p =>
      if p = ['.'] then out
      else if p = ['.', '.'] then (if out = [] || out = [[]] then out else out.tail)
      else p :: out) []
    List.intercalate ['/'] kept.reverse

/-- The port that goes without saying. -/
def defaultPort? (scheme : String) : Option Int :=
  match scheme with
  | "http" | "ws" => some 80
  | "https" | "wss" => some 443
  | "ftp" => some 21
  | _ => none

/-- The port that a text names; one that goes without saying for the scheme, in the letters in which
that is written, is none. -/
def readPort (scheme text : List Char) : Except UrlFault (Option Int) :=
  if text.isEmpty then .ok none
  else
    match Decimal.readWhole? 10 text with
    | none => .error (.malformed ("Invalid port: " ++ Text.quoted (String.ofList text)))
    | some n => .ok (if some n = defaultPort? (String.ofList scheme) then none else some n)

/-- An authority in its parts: user, host and port. The user ends with the last `@`, and a host
between brackets may hold colons. -/
def splitAuthority (s : List Char) : List Char × List Char × List Char :=
  let place := (s.reverse.takeWhile (· != '@')).reverse
  let user := s.take (s.length - place.length - 1)
  let bracketed := (place.reverse.dropWhile (· != ']')).reverse
  let host :=
    if place.head? = some '[' && !bracketed.isEmpty then bracketed
    else place.takeWhile (· != ':')
  let behind := place.drop host.length
  (user, host, if behind.head? = some ':' then behind.tail else behind)

/-- Whether a text can be the scheme of an address. -/
def isScheme (s : List Char) : Bool :=
  match s with
  | [] => true
  | c :: rest => c.isAlpha && rest.all fun c => c.isAlphanum || "+-.".toList.contains c

/-- The parts of an address as they are written. -/
structure Parts where
  scheme : List Char := []
  authority : List Char := []
  path : List Char := []
  query : Option (List Char) := none
  fragment : Option (List Char) := none
  deriving DecidableEq, Repr

/-- Cuts a text into the parts of an address. -/
def Parts.ofText (s : List Char) : Parts :=
  let (scheme, s) :=
    match cutAt (· == ':') s with
    | (scheme, some rest) => if isScheme scheme then (scheme, rest) else ([], s)
    | (_, none) => ([], s)
  let (s, fragment) := cutAt (· == '#') s
  let (s, query) := cutAt (· == '?') s
  let (authority, path) :=
    match s with
    | '/' :: '/' :: more => (more.takeWhile (· != '/'), more.dropWhile (· != '/'))
    | _ => ([], s)
  { scheme, authority, path, query, fragment }

/-- Why a path cannot stand in an address. -/
def pathFault? (path : List Char) (hasScheme hasAuthority : Bool) : Option String :=
  if hasAuthority && !path.isEmpty && path.head? != some '/' then
    some "For absolute URLs, path must be empty or begin with '/'"
  else if hasScheme || hasAuthority then none
  else if path.take 2 = ['/', '/'] then
    some "Relative URLs cannot have a path starting with '//'"
  else if path.head? = some ':' then
    some "Relative URLs cannot have a path starting with ':'"
  else none

/-- Brings an address into its plain form. -/
def ofFields (p : Parts) (user host port : List Char) : Except UrlFault Url := do
  let user ← escape (printableBut "\"#<>?`\x7b\x7d/;=@[\\]^|") user
  let host ← Host.read host
  let port ← readPort p.scheme port
  let hasAuthority := !user.isEmpty || !host.isEmpty || port.isSome
  match pathFault? p.path (!p.scheme.isEmpty) hasAuthority with
  | some what => .error (.malformed what)
  | none =>
    let path := if !p.scheme.isEmpty || hasAuthority then withoutDots p.path else p.path
    return {
      scheme := p.scheme.map Char.toLower, user, host, port
      path := ← escape (printableBut "\"#<>?`\x7b\x7d") path
      query := ← p.query.mapM (escape (printableBut "\"#<>"))
      fragment := ← p.fragment.mapM (escape (printableBut "\"<>`")) }

def ofParts (p : Parts) : Except UrlFault Url :=
  let (user, host, port) := splitAuthority p.authority
  ofFields p user host port

/-- The most characters that an address may have. -/
def sizeLimit : Nat := 65536

def isControl (c : Char) : Bool := c.toNat < 0x20 || c.toNat = 0x7f

/-- Reads an address. -/
def read (s : String) : Except UrlFault Url :=
  let cs := s.toList
  if sizeLimit < cs.length then .error (.malformed "URL too long")
  else
    match cs.find? isControl with
    | some c =>
      .error (.malformed ("Invalid non-printable ASCII character in URL, " ++
        Text.quoted (String.singleton c) ++ " at position " ++
        toString (cs.takeWhile (!isControl ·)).length ++ "."))
    | none => ofParts (.ofText cs)

def authority (u : Url) : List Char :=
  (if u.user.isEmpty then [] else u.user ++ ['@']) ++
    (if u.host.contains ':' then '[' :: u.host ++ [']'] else u.host) ++
    match u.port with
    | none => []
    | some p => ':' :: (toString p).toList

/-- The address as it is written. -/
def text (u : Url) : String :=
  String.ofList <|
    (if u.scheme.isEmpty then [] else u.scheme ++ [':']) ++
    (if u.authority.isEmpty then [] else '/' :: '/' :: u.authority) ++ u.path ++
    (match u.query with | none => [] | some q => '?' :: q) ++
    (match u.fragment with | none => [] | some f => '#' :: f)

def isAbsolute (u : Url) : Bool := !u.scheme.isEmpty && !u.host.isEmpty

/-- The parts of an address. -/
def parts (u : Url) : Parts :=
  { scheme := u.scheme, authority := u.authority, path := u.path, query := u.query
    fragment := u.fragment }

/-- The address with another host. -/
def withHost (u : Url) (host : List Char) : Except UrlFault Url :=
  let (user, _, port) := splitAuthority u.authority
  ofFields u.parts user (if host.contains ':' then '[' :: host ++ [']'] else host) port

/-- The address with another fragment, given plainly. -/
def withFragment (u : Url) (fragment : List Char) : Except UrlFault Url :=
  if fragment.any isControl then .error (.malformed "Invalid fragment")
  else ofParts { u.parts with fragment := some fragment }

end Url

end ToolHost.Http
