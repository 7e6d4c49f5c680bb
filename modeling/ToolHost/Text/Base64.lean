/-!
# Octets in 64 letters

Three octets are written as four letters, the last group filled up with equals signs. Other
characters are skipped, and reading ends with the sign that fills up a group.
-/
namespace ToolHost.Text.Base64

/-- The six bits of a letter. -/
def bits? (c : Char) : Option Nat :=
  let n := c.toNat
  if 65 ≤ n && n ≤ 90 then some (n - 65)
  else if 97 ≤ n && n ≤ 122 then some (n - 71)
  else if 48 ≤ n && n ≤ 57 then some (n + 4)
  else if c = '+' then some 62
  else if c = '/' then some 63
  else none

/-- Reads on after `count` letters of a group, of which `left` holds the bits that make no octet
yet, and after `pads` equals signs in the group. -/
def decodeFrom (count left pads : Nat) : List Char → Option (List UInt8)
  | [] => if count = 0 then some [] else none
  | c :: rest =>
    if c = '=' then
      if count ≥ 2 && count + pads + 1 ≥ 4 then some []
      else decodeFrom count left (pads + 1) rest
    else
      match bits? c with
      | none => decodeFrom count left pads rest
      | some b =>
        match count with
        | 0 => decodeFrom 1 b 0 rest
        | 1 => (decodeFrom 2 (b % 16) 0 rest).map (UInt8.ofNat (left * 4 + b / 16) :: ·)
        | 2 => (decodeFrom 3 (b % 4) 0 rest).map (UInt8.ofNat (left * 16 + b / 4) :: ·)
        | _ => (decodeFrom 0 0 0 rest).map (UInt8.ofNat (left * 64 + b) :: ·)

/-- The octets that a text writes; none if its last group is not complete. -/
def decode (s : List Char) : Option (List UInt8) := decodeFrom 0 0 0 s

end ToolHost.Text.Base64
