import ToolHost.Text.Quoted
import ToolHost.Text.Utf8

/-!
# Escaping in addresses

Characters that may not stand in a part of an address are written by their octets; octets that are
written so already are left as they are.
-/
namespace ToolHost.Http

/-- Why a text is no address. -/
inductive UrlFault
  | malformed (message : String)
  /-- A character has no octets. -/
  | unwritable
  deriving DecidableEq, Repr

def isHexDigit (c : Char) : Bool :=
  c.isDigit || 'a' ≤ c && c ≤ 'f' || 'A' ≤ c && c ≤ 'F'

def isUnreserved (c : Char) : Bool := c.isAlphanum || "-._~".toList.contains c

def octetText (b : UInt8) : List Char :=
  '%' :: (Text.hexDigits 2 b.toNat).map Char.toUpper

/-- The octets that stand for a character. -/
def escapeChar (c : Char) : Except UrlFault (List Char) :=
  if (Text.halfOf? c).isSome then .error .unwritable
  else .ok ((Text.Utf8.encode (String.singleton c)).flatMap octetText)

/-- Escapes all but what may stand in the text. -/
def escape (isAllowed : Char → Bool) : List Char → Except UrlFault (List Char)
  | '%' :: a :: b :: rest =>
    if isHexDigit a && isHexDigit b then (escape isAllowed rest).map ('%' :: a :: b :: ·)
    else do
      let first ← if isAllowed '%' then .ok ['%'] else escapeChar '%'
      return first ++ (← escape isAllowed (a :: b :: rest))
  | c :: rest => do
    let first ← if isUnreserved c || isAllowed c then .ok [c] else escapeChar c
    return first ++ (← escape isAllowed rest)
  | [] => .ok []

/-- The printable characters of ASCII but for some, and the blank. -/
def printableBut (others : String) (c : Char) : Bool :=
  0x21 ≤ c.toNat && c.toNat < 0x7F && !others.toList.contains c

def hexNumber (c : Char) : Nat :=
  if c.isDigit then c.toNat - 48 else c.toLower.toNat - 87

/-- The octets of a text in which some are written by their numbers. -/
def unescapedOctets : List Char → List UInt8
  | '%' :: a :: b :: rest =>
    if isHexDigit a && isHexDigit b then
      (hexNumber a * 16 + hexNumber b).toUInt8 :: unescapedOctets rest
    else '%'.toNat.toUInt8 :: unescapedOctets (a :: b :: rest)
  | c :: rest => Text.Utf8.encode (String.singleton c) ++ unescapedOctets rest
  | [] => []

/-- A text with what is escaped in it put plainly. -/
def unescaped (s : List Char) : List Char := (Text.Utf8.decode (unescapedOctets s))

end ToolHost.Http
