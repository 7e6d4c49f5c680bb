/-!
# Reading bits

Compressed data is a sequence of bits, the lowest bit of an octet first. Reading it ends early when
the data does, or when it cannot be right; what has been written until then is kept.
-/
namespace ToolHost.Deflate

/-- Why reading ended early. -/
inductive Halt
  /-- There is no more data. -/
  | truncated
  /-- The data cannot be right. -/
  | fault (message : String)
  deriving DecidableEq, Repr

/-- How far the work has come. -/
structure Progress where
  octets : List UInt8
  /-- How many bits of the first octet have been read. -/
  used : Nat := 0
  output : Array UInt8 := #[]
  deriving DecidableEq, Repr

abbrev Decoding := EStateM Halt Progress

namespace Decoding

/-- Ends because the data is wrong. -/
def corrupt {α : Type} (what : String) : Decoding α :=
  throw (.fault ("Error -3 while decompressing data: " ++ what))

def bit : Decoding Nat := do
  let p ← get
  match p.octets with
  | [] => throw .truncated
  | o :: rest =>
    set { p with
      octets := if p.used = 7 then rest else p.octets
      used := if p.used = 7 then 0 else p.used + 1 }
    return (o.toNat >>> p.used) % 2

/-- A number of so many bits, the lowest first. -/
def bits : Nat → Decoding Nat
  | 0 => return 0
  | n + 1 => do
    let low ← bit
    let high ← bits n
    return low + 2 * high

/-- Leaves the rest of an octet that has been begun. -/
def align : Decoding Unit :=
  modify fun p => if p.used = 0 then p else { p with octets := p.octets.tail, used := 0 }

/-- The next octets as they are. -/
def take : Nat → Decoding (List UInt8)
  | 0 => return []
  | n + 1 => do
    let o ← bits 8
    return o.toUInt8 :: (← take n)

/-- A number of so many octets, the lowest first. -/
def number (octets : Nat) : Decoding Nat := bits (8 * octets)

def write (o : UInt8) : Decoding Unit :=
  modify fun p => { p with output := p.output.push o }

/-- Writes again what was written some octets before. -/
def copy (distance : Nat) : Nat → Decoding Unit
  | 0 => return ()
  | n + 1 => do
    let written := (← get).output
    write (written.getD (written.size - distance) 0)
    copy distance n

end Decoding

end ToolHost.Deflate
