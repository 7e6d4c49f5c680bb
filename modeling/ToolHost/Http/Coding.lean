import ToolHost.Deflate.Stream
import ToolHost.Text.Blank
import ToolHost.Text.Lines

/-!
# Content codings

The body of a response may be compressed, even several times; a header names the codings in the
order in which they were applied. Codings that are not known are passed over. What is called
deflate is wrapped by right, but is taken without its wrapping, too.
-/
namespace ToolHost.Http

inductive Coding
  | identity
  | deflate
  | gzip
  deriving DecidableEq, Repr

namespace Coding

def ofName? (name : List Char) : Option Coding :=
  match String.ofList ((Text.trim name).map Char.toLower) with
  | "identity" => some identity
  | "deflate" => some deflate
  | "gzip" => some gzip
  | _ => none

/-- The codings that the values of a header name. -/
def ofHeader (values : List String) : List Coding :=
  (values.flatMap fun v => Text.cut ',' v.toList).filterMap ofName?

/-- Takes a coding off; nothing is not compressed. A message tells why that cannot be done. -/
def decode (c : Coding) (octets : List UInt8) : Except String (List UInt8) :=
  if octets.isEmpty then .ok []
  else
    match c with
    | identity => .ok octets
    | gzip => Deflate.decompress .gzip octets
    | deflate =>
      match Deflate.decompress .zlib octets with
      | .ok plain => .ok plain
      | .error _ => Deflate.decompress .bare octets

/-- Takes codings off, the latest first. -/
def decodeAll (cs : List Coding) (octets : List UInt8) : Except String (List UInt8) :=
  cs.reverse.foldlM (fun octets c => c.decode octets) octets

end Coding

end ToolHost.Http
