import ToolHost.Failure
import ToolHost.Http.Coding
import ToolHost.Http.Reference
import ToolHost.Machine.FileTree

/-!
# Fetching over the web

A request is sent to an address; as long as the answer refers to another address, the next request
goes there, up to a limit. What was received in the end is a response or the report of a fault.
-/
namespace ToolHost.Http

structure Response where
  status : Nat
  headers : List (String × String) := []
  body : Machine.Bytes := []
  deriving DecidableEq, Repr

namespace Response

/-- The values of a header, in order; the case of its name does not matter. -/
def values (r : Response) (name : String) : List String :=
  (r.headers.filter fun h => h.1.toList.map Char.toLower = name.toList.map Char.toLower).map (·.2)

/-- The value of a header. Several values are one with commas. -/
def header? (r : Response) (name : String) : Option String :=
  match r.values name with
  | [] => none
  | vs => some (", ".intercalate vs)

def isSuccess (r : Response) : Bool := 200 ≤ r.status && r.status ≤ 299

/-- Where the response refers to. -/
def target? (r : Response) : Option String :=
  if [301, 302, 303, 307, 308].contains r.status then r.header? "Location" else none

/-- Whether all headers are in ASCII. -/
def isPlain (r : Response) : Bool :=
  r.headers.all fun (name, value) =>
    name.toList.all (·.toNat < 128) && value.toList.all (·.toNat < 128)

/-- The response with its body as it was before it was compressed. -/
def decoded (r : Response) : Except String Response :=
  (Coding.decodeAll (Coding.ofHeader (r.values "Content-Encoding")) r.body).map fun body =>
    { r with body }

end Response

/-- What comes back for a request. -/
inductive Reply
  | response (r : Response)
  /-- The exchange failed; the kind of fault and what was said about it. -/
  | fault (kind message : String)
  deriving DecidableEq, Repr

/-- What the web answers at an address. -/
abbrev Network := String → Reply

/-- How fetching an address ends. -/
inductive Outcome
  | response (url : String) (r : Response)
  | fault (reason : String)
  | broken (b : Breakdown)
  deriving DecidableEq, Repr

/-- The most references that are followed. -/
def redirectLimit : Nat := 20

/-- The kind of fault for an address that cannot be understood. -/
def badUrlKind : String := "InvalidURL"

def UrlFault.breakdown : UrlFault → Breakdown
  | .malformed _ => .badUrl
  | .unwritable => .notAscii

/-- Whether an address says what kind it is of: a colon comes before any slash. -/
def hasKind (url : String) : Bool :=
  let kind := url.toList.takeWhile fun c => c != '/' && c != ':'
  !kind.isEmpty && url.toList[kind.length]? = some ':'

/-- What a request brings: a response whose body can be read. -/
def answer (network : Network) (url : String) : Except Outcome Response :=
  match network url with
  | .fault kind message =>
    .error (if kind = badUrlKind then .broken .badUrl
      else .fault (if message = "" then kind else message))
  | .response r =>
    if !r.isPlain then .error (.broken .notAscii)
    else
      match r.decoded with
      | .error message => .error (.fault message)
      | .ok r => if hasKind url then .ok r else .error (.broken .badValue)

/-- Where a reference leads from an address. One without a host is on the same one, and the fragment
stays if there is no new one. -/
def referred (url : Url) (target : String) : Except Outcome Url := do
  let broken {α : Type} (x : Except UrlFault α) : Except Outcome α :=
    x.mapError fun f => .broken f.breakdown
  let next ←
    match Url.read target with
    | .ok u => .ok u
    | .error (.malformed what) =>
      .error (.fault ("Invalid URL in location header: " ++ what ++ "."))
    | .error f => .error (.broken f.breakdown)
  let next ←
    if !next.scheme.isEmpty && next.host.isEmpty then broken (next.withHost url.host) else .ok next
  let next ←
    if next.isAbsolute then .ok next else broken (Url.read (Reference.join url.text next.text))
  match url.fragment with
  | none | some [] => .ok next
  | some fragment =>
    if next.fragment.all List.isEmpty then broken (next.withFragment (unescaped fragment))
    else .ok next

/-- Sends requests until something is received that refers to no other address. Gives the
addresses asked, in order. -/
def follow (network : Network) : Nat → Url → List String × Outcome
  | left, url =>
    let text := url.text
    match answer network text with
    | .error outcome => ([text], outcome)
    | .ok r =>
      match r.target? with
      | none => ([text], .response text r)
      | some target =>
        match referred url target, left with
        | .error outcome, _ => ([text], outcome)
        | .ok _, 0 => ([text], .fault "Exceeded maximum allowed redirects.")
        | .ok next, left + 1 =>
          let (asked, outcome) := follow network left next
          (text :: asked, outcome)

/-- The address that a first request goes to: one without scheme or host keeps its path only. -/
def firstTarget (u : Url) : Url :=
  if u.isAbsolute then u
  else { path := '/' :: u.path.dropWhile (· == '/'), query := u.query }

/-- Fetches what is at an address. -/
def fetch (network : Network) (url : String) : List String × Outcome :=
  match Url.read url with
  | .error f => ([], .broken f.breakdown)
  | .ok u => follow network redirectLimit (firstTarget u)

/-- The phrase that belongs to a status. -/
def reasonPhrase (status : Nat) : String :=
  match status with
  | 100 => "Continue"
  | 101 => "Switching Protocols"
  | 102 => "Processing"
  | 103 => "Early Hints"
  | 200 => "OK"
  | 201 => "Created"
  | 202 => "Accepted"
  | 203 => "Non-Authoritative Information"
  | 204 => "No Content"
  | 205 => "Reset Content"
  | 206 => "Partial Content"
  | 207 => "Multi-Status"
  | 208 => "Already Reported"
  | 226 => "IM Used"
  | 300 => "Multiple Choices"
  | 301 => "Moved Permanently"
  | 302 => "Found"
  | 303 => "See Other"
  | 304 => "Not Modified"
  | 305 => "Use Proxy"
  | 307 => "Temporary Redirect"
  | 308 => "Permanent Redirect"
  | 400 => "Bad Request"
  | 401 => "Unauthorized"
  | 402 => "Payment Required"
  | 403 => "Forbidden"
  | 404 => "Not Found"
  | 405 => "Method Not Allowed"
  | 406 => "Not Acceptable"
  | 407 => "Proxy Authentication Required"
  | 408 => "Request Timeout"
  | 409 => "Conflict"
  | 410 => "Gone"
  | 411 => "Length Required"
  | 412 => "Precondition Failed"
  | 413 => "Request Entity Too Large"
  | 414 => "Request-URI Too Long"
  | 415 => "Unsupported Media Type"
  | 416 => "Requested Range Not Satisfiable"
  | 417 => "Expectation Failed"
  | 418 => "I'm a teapot"
  | 421 => "Misdirected Request"
  | 422 => "Unprocessable Entity"
  | 423 => "Locked"
  | 424 => "Failed Dependency"
  | 425 => "Too Early"
  | 426 => "Upgrade Required"
  | 428 => "Precondition Required"
  | 429 => "Too Many Requests"
  | 431 => "Request Header Fields Too Large"
  | 451 => "Unavailable For Legal Reasons"
  | 500 => "Internal Server Error"
  | 501 => "Not Implemented"
  | 502 => "Bad Gateway"
  | 503 => "Service Unavailable"
  | 504 => "Gateway Timeout"
  | 505 => "HTTP Version Not Supported"
  | 506 => "Variant Also Negotiates"
  | 507 => "Insufficient Storage"
  | 508 => "Loop Detected"
  | 510 => "Not Extended"
  | 511 => "Network Authentication Required"
  | _ => ""

end ToolHost.Http
