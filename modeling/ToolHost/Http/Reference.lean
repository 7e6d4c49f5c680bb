import ToolHost.Http.Url

/-!
# References

An address may be given as seen from another one: what it lacks is taken from there, and its path
goes on from the directory of the other path. Only some schemes have addresses that are seen from
others, and only some have parameters behind the path.
-/
namespace ToolHost.Http

/-- The parts of an address that references are about. What is empty is not there. -/
structure Reference where
  scheme : List Char
  authority : List Char
  path : List Char
  parameters : List Char
  query : List Char
  fragment : List Char
  deriving DecidableEq, Repr

namespace Reference

/-- Schemes whose addresses can be seen from others. -/
def relativeSchemes : List String :=
  ["", "ftp", "http", "gopher", "nntp", "imap", "wais", "file", "https", "shttp", "mms", "prospero",
    "rtsp", "rtsps", "rtspu", "sftp", "svn", "svn+ssh", "ws", "wss"]

/-- Schemes whose addresses have an authority. -/
def authoritySchemes : List String :=
  ["", "ftp", "http", "gopher", "nntp", "telnet", "imap", "wais", "file", "mms", "https", "shttp",
    "snews", "prospero", "rtsp", "rtsps", "rtspu", "rsync", "svn", "svn+ssh", "sftp", "nfs", "git",
    "git+ssh", "ws", "wss"]

/-- Schemes whose paths end with parameters. -/
def parameterSchemes : List String :=
  ["", "ftp", "hdl", "prospero", "http", "imap", "https", "shttp", "rtsp", "rtsps", "rtspu", "sip",
    "sips", "mms", "sftp", "tel"]

def isAmong (scheme : List Char) (schemes : List String) : Bool :=
  schemes.contains (String.ofList scheme)

/-- A path without the parameters of its last name, and the parameters. -/
def splitParameters (path : List Char) : List Char × List Char :=
  let last := (path.reverse.takeWhile (· != '/')).reverse
  let (name, parameters) := Url.cutAt (· == ';') last
  (path.take (path.length - last.length) ++ name, parameters.getD [])

/-- The reference that a text is; without a scheme it has that of the address from which it is
seen. -/
def ofText (s : String) (scheme : List Char) : Reference :=
  let p := Url.Parts.ofText s.toList
  let scheme := if p.scheme.isEmpty then scheme else p.scheme.map Char.toLower
  let (path, parameters) :=
    if isAmong scheme parameterSchemes then splitParameters p.path else (p.path, [])
  { scheme, authority := p.authority, path, parameters
    query := p.query.getD [], fragment := p.fragment.getD [] }

/-- The address as it is written. -/
def text (r : Reference) : String :=
  let path := r.path ++ if r.parameters.isEmpty then [] else ';' :: r.parameters
  let place :=
    if r.authority.isEmpty && (r.scheme.isEmpty || !isAmong r.scheme authoritySchemes) &&
        path.take 2 != ['/', '/'] then path
    else
      '/' :: '/' :: r.authority ++
        if path.isEmpty || path.head? = some '/' then path else '/' :: path
  String.ofList <|
    (if r.scheme.isEmpty then [] else r.scheme ++ [':']) ++ place ++
    (if r.query.isEmpty then [] else '?' :: r.query) ++
    (if r.fragment.isEmpty then [] else '#' :: r.fragment)

/-- The path that one path is, seen from another. -/
def joinedPath (base path : List Char) : List Char :=
  let names := Text.cut '/' path
  let names :=
    if path.head? = some '/' then names
    else
      let above := Text.cut '/' base
      let all := (if above.getLast? = some [] then above else above.dropLast) ++ names
      all.take 1 ++ ((all.drop 1).dropLast.filter (!·.isEmpty)) ++ (all.drop 1).getLast?.toList
  let kept := names.foldl (fun out n =>
    if n = ['.', '.'] then out.tail else if n = ['.'] then out else n :: out) []
  let endsOpen := names.getLast? = some ['.'] || names.getLast? = some ['.', '.']
  let path := List.intercalate ['/'] (if endsOpen then [] :: kept else kept).reverse
  if path.isEmpty then ['/'] else path

/-- An address as seen from another one. -/
def join (base s : String) : String :=
  let whole := ofText base []
  let r := ofText s whole.scheme
  if s = "" then base
  else if r.scheme != whole.scheme || !isAmong r.scheme relativeSchemes then s
  else if isAmong r.scheme authoritySchemes && !r.authority.isEmpty then r.text
  else
    let r :=
      if isAmong r.scheme authoritySchemes then { r with authority := whole.authority } else r
    if r.path.isEmpty && r.parameters.isEmpty then
      { r with
        path := whole.path, parameters := whole.parameters
        query := if r.query.isEmpty then whole.query else r.query }.text
    else { r with path := joinedPath whole.path r.path }.text

end Reference

end ToolHost.Http
