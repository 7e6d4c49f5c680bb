import ToolHost.Deflate.Code

/-!
# Inflating

Compressed data comes in blocks. A block is stored as it is, or written in two prefix codes: one
for octets and the lengths of repetitions, and one for their distances. The codes are fixed, or
stand at the beginning of the block.
-/
namespace ToolHost.Deflate

open Decoding

/-- The least repetition that a symbol stands for, and how many bits add to it. -/
def lengthBases : Array (Nat × Nat) := #[
  (3, 0), (4, 0), (5, 0), (6, 0), (7, 0), (8, 0), (9, 0), (10, 0), (11, 1), (13, 1), (15, 1),
  (17, 1), (19, 2), (23, 2), (27, 2), (31, 2), (35, 3), (43, 3), (51, 3), (59, 3), (67, 4),
  (83, 4), (99, 4), (115, 4), (131, 5), (163, 5), (195, 5), (227, 5), (258, 0)]

/-- The least distance that a symbol stands for, and how many bits add to it. -/
def distanceBases : Array (Nat × Nat) := #[
  (1, 0), (2, 0), (3, 0), (4, 0), (5, 1), (7, 1), (9, 2), (13, 2), (17, 3), (25, 3), (33, 4),
  (49, 4), (65, 5), (97, 5), (129, 6), (193, 6), (257, 7), (385, 7), (513, 8), (769, 8), (1025, 9),
  (1537, 9), (2049, 10), (3073, 10), (4097, 11), (6145, 11), (8193, 12), (12289, 12), (16385, 13),
  (24577, 13)]

def fixedLiterals : Code :=
  .ofLengths (List.replicate 144 8 ++ List.replicate 112 9 ++ List.replicate 24 7 ++
    List.replicate 8 8)

def fixedDistances : Code := .ofLengths (List.replicate 30 5)

/-- A number in a range that a symbol stands for. -/
def extended (bases : Array (Nat × Nat)) (symbol : Nat) (fault : String) : Decoding Nat :=
  match bases[symbol]? with
  | none => corrupt fault
  | some (base, more) => return base + (← bits more)

/-- Reads a repetition whose length has been read, and writes it. -/
def repetition (distances : Code) (length : Nat) : Decoding Unit := do
  match ← distances.read with
  | none => corrupt "invalid distance code"
  | some symbol =>
    let distance ← extended distanceBases symbol "invalid distance code"
    if (← get).output.size < distance then corrupt "invalid distance too far back"
    copy distance length

/-- Reads a block in two codes up to its end. Every symbol takes a bit at the least, so that the
bits there are suffice for fuel. -/
def symbols (literals distances : Code) : Nat → Decoding Unit
  | 0 => throw .truncated
  | fuel + 1 => do
    match ← literals.read with
    | none => corrupt "invalid literal/length code"
    | some symbol =>
      if symbol = 256 then return ()
      if symbol < 256 then write symbol.toUInt8
      else
        repetition distances
          (← extended lengthBases (symbol - 257) "invalid literal/length code")
      symbols literals distances fuel

/-- Writes a stored block. -/
def stored : Decoding Unit := do
  align
  let size ← number 2
  let check ← number 2
  if size + check ≠ 65535 then corrupt "invalid stored block lengths"
  go size
where
  go : Nat → Decoding Unit
    | 0 => return ()
    | n + 1 => do
      write (← bits 8).toUInt8
      go n

/-- The order in which the lengths of the code for lengths are written. -/
def lengthOrder : List Nat :=
  [16, 17, 18, 0, 8, 7, 9, 6, 10, 5, 11, 4, 12, 3, 13, 2, 14, 1, 15]

/-- Reads so many numbers of three bits. -/
def smallNumbers : Nat → Decoding (List Nat)
  | 0 => return []
  | n + 1 => do return (← bits 3) :: (← smallNumbers n)

/-- Reads lengths of code words until there are enough; `lengths` are those that have been read,
reversed. -/
def codeLengths (code : Code) (wanted : Nat) : Nat → List Nat → Decoding (List Nat)
  | 0, lengths => return lengths.reverse
  | fuel + 1, lengths =>
    if wanted ≤ lengths.length then return lengths.reverse
    else do
      let symbol := (← code.read).getD 0
      let add (value count : Nat) : Decoding (List Nat) :=
        if wanted < lengths.length + count then corrupt "invalid bit length repeat"
        else codeLengths code wanted fuel (List.replicate count value ++ lengths)
      match symbol with
      | 16 =>
        let more ← bits 2
        match lengths with
        | [] => corrupt "invalid bit length repeat"
        | last :: _ => add last (3 + more)
      | 17 => add 0 (3 + (← bits 3))
      | 18 => add 0 (11 + (← bits 7))
      | n => add n 1

/-- Reads the codes at the beginning of a block. -/
def codes : Decoding (Code × Code) := do
  let literals := 257 + (← bits 5)
  let distances := 1 + (← bits 5)
  let count := 4 + (← bits 4)
  if 286 < literals || 30 < distances then corrupt "too many length or distance symbols"
  let written := lengthOrder.zip (← smallNumbers count)
  let code := Code.ofLengths ((List.range 19).map fun i => (written.lookup i).getD 0)
  if !code.isComplete false then corrupt "invalid code lengths set"
  let lengths ← codeLengths code (literals + distances) (literals + distances) []
  if lengths.getD 256 0 = 0 then corrupt "invalid code -- missing end-of-block"
  let first := Code.ofLengths (lengths.take literals)
  if !first.isComplete true then corrupt "invalid literal/lengths set"
  let second := Code.ofLengths (lengths.drop literals)
  if !second.isComplete true then corrupt "invalid distances set"
  return (first, second)

/-- Reads blocks up to the last one. -/
def blocks : Nat → Decoding Unit
  | 0 => throw .truncated
  | fuel + 1 => do
    let isLast ← bit
    match ← bits 2 with
    | 0 => stored
    | 1 => symbols fixedLiterals fixedDistances fuel
    | 2 =>
      let (literals, distances) ← codes
      symbols literals distances fuel
    | _ => corrupt "invalid block type"
    if isLast = 0 then blocks fuel

/-- Reads compressed data up to the end of its last block. -/
def inflate : Decoding Unit := do
  blocks (8 * (← get).octets.length + 1)

end ToolHost.Deflate
