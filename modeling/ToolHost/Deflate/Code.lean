import ToolHost.Deflate.Bits

/-!
# Prefix codes

A prefix code is given by the lengths of its code words: shorter words come first, and words of one
length in the order of their symbols.
-/
namespace ToolHost.Deflate

/-- A prefix code. -/
structure Code where
  /-- How many code words there are of each length, from one on. -/
  counts : List Nat
  /-- The symbols in the order of their code words. -/
  symbols : Array Nat
  deriving DecidableEq, Repr

namespace Code

/-- The greatest length of a code word. -/
def longest : Nat := 15

/-- The code whose symbols have code words of these lengths; zero stands for none. -/
def ofLengths (lengths : List Nat) : Code :=
  let numbered := lengths.zipIdx
  let ofLength (n : Nat) : List Nat := (numbered.filter (·.1 = n)).map (·.2)
  let groups := (List.range longest).map fun i => ofLength (i + 1)
  let counts := (groups.map List.length).reverse.dropWhile (· = 0)
  { counts := if counts.isEmpty then [0] else counts.reverse, symbols := groups.flatten.toArray }

/-- What is left of the code words of the last length, none if there are too many words. -/
def room : Nat → List Nat → Option Nat
  | left, [] => some left
  | left, count :: rest => if count ≤ 2 * left then room (2 * left - count) rest else none

/-- Whether the code has a word for whatever comes. A code may do with a single word of one bit, or
none, if it is not yet to be used. -/
def isComplete (c : Code) (mayBeSingle : Bool) : Bool :=
  c.counts = [0] ||
    match room 1 c.counts with
    | none => false
    | some left => left = 0 || (mayBeSingle && c.counts.length = 1)

/-- Reads a symbol: `code` is what has been read, `first` the first code word of the length, and
`index` the number of shorter ones. -/
def readFrom (symbols : Array Nat) (code first index : Nat) : List Nat → Decoding (Option Nat)
  | [] => return none
  | count :: rest => do
    let code := code + (← Decoding.bit)
    if code < first + count then return symbols[index + (code - first)]?
    else readFrom symbols (2 * code) (2 * (first + count)) (index + count) rest

/-- Reads a symbol; none if no code word comes. -/
def read (c : Code) : Decoding (Option Nat) := readFrom c.symbols 0 0 0 c.counts

end Code

end ToolHost.Deflate
