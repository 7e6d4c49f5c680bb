import ToolHost.Deflate.Inflate

/-!
# Streams of compressed data

Compressed data may be wrapped: a header says how it is compressed, and a checksum follows it. What
stands behind the wrapping is not looked at. Data that breaks off gives what there is of it.
-/
namespace ToolHost.Deflate

open Decoding

/-- The kinds of wrapping. -/
inductive Wrapping
  | bare
  | zlib
  | gzip
  deriving DecidableEq, Repr

/-- A step of the cyclic redundancy check over one bit. -/
def crcStep (crc : UInt32) : UInt32 :=
  if crc &&& 1 = 1 then (crc >>> 1) ^^^ 0xEDB88320 else crc >>> 1

def crcOctet (crc : UInt32) (o : UInt8) : UInt32 :=
  (List.range 8).foldl (fun c _ => crcStep c) (crc ^^^ o.toUInt32)

/-- The cyclic redundancy check of some octets. -/
def crc (octets : List UInt8) : Nat :=
  (octets.foldl crcOctet 0xFFFFFFFF ^^^ 0xFFFFFFFF).toNat

/-- The two sums of some octets, in one number. -/
def adler (octets : List UInt8) : Nat :=
  let (a, b) := octets.foldl (fun (a, b) o =>
    let a := (a + o.toNat) % 65521
    (a, (b + a) % 65521)) (1, 0)
  b * 65536 + a

def writtenOctets : Decoding (List UInt8) := do return (← get).output.toList

def zlibStream : Decoding Unit := do
  let method ← bits 8
  let flags ← bits 8
  if (method * 256 + flags) % 31 ≠ 0 then corrupt "incorrect header check"
  if method % 16 ≠ 8 then corrupt "unknown compression method"
  if 7 < method / 16 then corrupt "invalid window size"
  if flags / 32 % 2 = 1 then
    let _ ← number 4
    throw (.fault "Error 2 while decompressing data")
  inflate
  align
  let check := (← take 4).foldl (fun n o => n * 256 + o.toNat) 0
  if check ≠ adler (← writtenOctets) then corrupt "incorrect data check"

/-- Passes over a text that ends with a zero. -/
def skipText : Nat → Decoding Unit
  | 0 => throw .truncated
  | fuel + 1 => do
    if (← bits 8) ≠ 0 then skipText fuel

/-- The header behind its first two octets; the third says the method, the fourth what follows. -/
def gzipHeader (all : List UInt8) : Decoding Unit := do
  let method ← bits 8
  let flags ← bits 8
  if method ≠ 8 then corrupt "unknown compression method"
  if 32 ≤ flags then corrupt "unknown header flags set"
  let _ ← number 6
  if flags / 4 % 2 = 1 then
    let _ ← take (← number 2)
  if flags / 8 % 2 = 1 then skipText all.length
  if flags / 16 % 2 = 1 then skipText all.length
  if flags / 2 % 2 = 1 then
    let header := all.take (all.length - (← get).octets.length)
    if (← number 2) ≠ crc header % 65536 then corrupt "header crc mismatch"

def gzipStream : Decoding Unit := do
  let all := (← get).octets
  if (← number 2) ≠ 0x8b1f then corrupt "incorrect header check"
  gzipHeader all
  inflate
  align
  let written ← writtenOctets
  if (← number 4) ≠ crc written then corrupt "incorrect data check"
  if (← number 4) ≠ written.length % 4294967296 then corrupt "incorrect length check"

/-- What is compressed in some octets; a message if they cannot be right. -/
def decompress (w : Wrapping) (octets : List UInt8) : Except String (List UInt8) :=
  let stream := match w with | .bare => inflate | .zlib => zlibStream | .gzip => gzipStream
  match stream.run { octets } with
  | .ok _ p | .error .truncated p => .ok p.output.toList
  | .error (.fault message) _ => .error message

end ToolHost.Deflate
