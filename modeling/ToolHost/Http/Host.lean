import ToolHost.Http.Domain
import ToolHost.Http.Escape

/-!
# Hosts

The host of an address is a number of four octets, a number of eight groups between brackets, or a
name. What looks like a number has to be one.
-/
namespace ToolHost.Http.Host

/-- Whether a text is a group of decimal digits that says an octet, without zeros before it. -/
def isOctet (s : List Char) : Bool :=
  !s.isEmpty && s.length ≤ 3 && s.all Char.isDigit && (s = ['0'] || s.head? != some '0') &&
    s.foldl (fun n c => n * 10 + (c.toNat - 48)) 0 ≤ 255

/-- Whether a text is a number of four octets. -/
def isQuad (s : List Char) : Bool :=
  let parts := Text.cut '.' s
  parts.length = 4 && parts.all isOctet

def isGroup (s : List Char) : Bool := !s.isEmpty && s.length ≤ 4 && s.all isHexDigit

/-- Whether so many groups can stand before or behind a gap: none, written as an empty one at the
end of the text, or only full ones. -/
def areGroups (parts : List (List Char)) (isEmptyAtEnd : Bool) : Option Nat :=
  if isEmptyAtEnd then (if parts.length = 1 then some 0 else none)
  else if parts.all isGroup then some parts.length else none

/-- Whether parts between colons are a number of eight groups. One gap may stand for zeros. -/
def areEight (parts : List (List Char)) : Bool :=
  let inner := parts.drop 1 |>.dropLast
  match inner.findIdx? (·.isEmpty) with
  | none => parts.length = 8 && parts.all isGroup
  | some i =>
    let before := parts.take (i + 1)
    let behind := parts.drop (i + 2)
    if (inner.filter List.isEmpty).length ≠ 1 then false
    else
      match areGroups before (before.head? = some []),
          areGroups behind (behind.getLast? = some []) with
      | some n, some m => n + m < 8
      | _, _ => false

/-- Whether a text is a number of eight groups; the last two may be four octets, and the name of a
zone may follow behind a percent sign. -/
def isEightGroups (s : List Char) : Bool :=
  let address := s.takeWhile (· != '%')
  let isZoned :=
    match s.drop address.length with
    | [] => true
    | _ :: zone => !zone.isEmpty && !zone.contains '%'
  let parts := Text.cut ':' address
  let last := parts.getLastD []
  if !isZoned || parts.length < 3 then false
  else if last.contains '.' then isQuad last && areEight (parts.dropLast ++ [['0'], ['0']])
  else areEight parts

/-- Where a reader of four numbers may stand: how many are still to begin, and whether it is inside
one. Between two numbers any character may stand, be it a digit. -/
def quadStep (places : List (Nat × Bool)) (c : Char) : List (Nat × Bool) :=
  (places.flatMap fun (runs, isIn) =>
    (if c.isDigit then [(if isIn then runs else runs - 1, true)] else []) ++
      (if isIn && runs != 0 then [(runs, false)] else [])).eraseDups

/-- Whether a text looks like four numbers with a character between each two. -/
def looksLikeQuad (s : List Char) : Bool := (s.foldl quadStep [(4, false)]).contains (0, true)

/-- Characters that may stand in a name besides the unreserved ones. -/
def isNameSign (c : Char) : Bool := "!$&'()*+,;=\"`\x7b\x7d%|\\".toList.contains c

/-- The host that a text is, without brackets. -/
def read (s : List Char) : Except UrlFault (List Char) :=
  let fault (what : String) : Except UrlFault (List Char) :=
    .error (.malformed (what ++ Text.quoted (String.ofList s)))
  if s.isEmpty then .ok []
  else if looksLikeQuad s then
    if isQuad s then .ok s else fault "Invalid IPv4 address: "
  else if s.head? = some '[' && s.getLast? = some ']' then
    let inner := s.tail.dropLast
    if isEightGroups inner then .ok inner else fault "Invalid IPv6 address: "
  else if s.all (·.toNat < 128) then escape isNameSign (s.map Char.toLower)
  else
    match Domain.ascii? (Text.small s) with
    | some name => .ok name
    | none => fault "Invalid IDNA hostname: "

end ToolHost.Http.Host
