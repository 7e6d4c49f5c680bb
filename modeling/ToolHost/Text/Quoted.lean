import ToolHost.Text.Half
import ToolHost.Text.Printable

/-!
# Quoted texts

A text inside a message stands between single quotes, or between double ones if it holds a single
quote and no double one. What is not printable is written by its code point.
-/
namespace ToolHost.Text

/-- The last `width` hexadecimal digits of `n`, lower case. -/
def hexDigits (width n : Nat) : List Char :=
  let digits := Nat.toDigits 16 n
  List.replicate (width - digits.length) '0' ++ digits

/-- One character of a quoted text. -/
def quoteChar (quote c : Char) : List Char :=
  if c = quote || c = '\\' then ['\\', c]
  else if c = '\n' then ['\\', 'n']
  else if c = '\r' then ['\\', 'r']
  else if c = '\t' then ['\\', 't']
  else if isPrintable c then [c]
  else if c.toNat < 0x100 then '\\' :: 'x' :: hexDigits 2 c.toNat
  else
    let n := (halfOf? c).getD c.toNat
    if n < 0x10000 then '\\' :: 'u' :: hexDigits 4 n else '\\' :: 'U' :: hexDigits 8 n

/-- The quote for a text. -/
def quoteFor (s : List Char) : Char :=
  if s.contains '\'' && !s.contains '"' then '"' else '\''

/-- The text between quotes, on one line. -/
def quoted (s : String) : String :=
  let quote := quoteFor s.toList
  String.ofList (quote :: s.toList.flatMap (quoteChar quote) ++ [quote])

/-- Octets between quotes behind a `b`; those that are no printable ASCII characters are written by
their numbers. -/
def quotedOctets (octets : List UInt8) : String :=
  let chars := octets.map fun b => Char.ofNat b.toNat
  let quote := quoteFor chars
  let write (c : Char) : List Char :=
    if c.toNat < 0x80 then quoteChar quote c else '\\' :: 'x' :: hexDigits 2 c.toNat
  String.ofList ('b' :: quote :: chars.flatMap write ++ [quote])

end ToolHost.Text
