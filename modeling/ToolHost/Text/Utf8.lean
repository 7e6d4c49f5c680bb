/-!
# UTF-8, octet by octet

A decoder that takes its octets in any portions and never refuses one. Octets that begin a
character but cannot be completed to one count together as a single U+FFFD, and so does every
octet that cannot begin a character.
-/
namespace ToolHost.Text.Utf8

/-- A character of which octets are still missing. -/
structure Partial where
  /-- How many octets are missing, less one. -/
  owed : Nat
  /-- Least value of the next octet. -/
  low : UInt8
  /-- Greatest value of the next octet. -/
  high : UInt8
  /-- The code point bits read so far. -/
  bits : Nat
  deriving DecidableEq, Repr

/-- Where the decoder stands: between characters, or inside one. -/
abbrev State := Option Partial

/-- What is shown in place of octets that are no character. -/
def replacement : Char := '\uFFFD'

/-- What an octet between characters does. -/
def first (b : UInt8) : State × List Char :=
  let n := b.toNat
  if n < 0x80 then (none, [Char.ofNat n])
  else if n < 0xC2 then (none, [replacement])
  else if n < 0xE0 then (some ⟨0, 0x80, 0xBF, n - 0xC0⟩, [])
  else if n = 0xE0 then (some ⟨1, 0xA0, 0xBF, 0⟩, [])
  else if n = 0xED then (some ⟨1, 0x80, 0x9F, 0xD⟩, [])
  else if n < 0xF0 then (some ⟨1, 0x80, 0xBF, n - 0xE0⟩, [])
  else if n = 0xF0 then (some ⟨2, 0x90, 0xBF, 0⟩, [])
  else if n < 0xF4 then (some ⟨2, 0x80, 0xBF, n - 0xF0⟩, [])
  else if n = 0xF4 then (some ⟨2, 0x80, 0x8F, 4⟩, [])
  else (none, [replacement])

/-- What the next octet does: continue the character under way, or give it up and start anew. -/
def step (s : State) (b : UInt8) : State × List Char :=
  match s with
  | none => first b
  | some p =>
    if p.low ≤ b && b ≤ p.high then
      let bits := p.bits * 64 + (b.toNat - 0x80)
      match p.owed with
      | 0 => (none, [Char.ofNat bits])
      | owed + 1 => (some ⟨owed, 0x80, 0xBF, bits⟩, [])
    else
      let (s, out) := first b
      (s, replacement :: out)

/-- The characters completed by a portion of octets, and where the decoder stands after it. -/
def feed : State → List UInt8 → State × List Char
  | s, [] => (s, [])
  | s, b :: rest =>
    let (s, out) := step s b
    let (s, more) := feed s rest
    (s, out ++ more)

/-- What the end of the octets adds: a character under way is given up. -/
def finish (s : State) : List Char :=
  if s.isSome then [replacement] else []

/-- The whole text of a sequence of octets. -/
def decode (octets : List UInt8) : List Char :=
  let (s, out) := feed none octets
  out ++ finish s

/-- The octets of a text. -/
def encode (s : String) : List UInt8 :=
  s.toUTF8.data.toList

@[simp] theorem feed_nil (s : State) : feed s [] = (s, []) := rfl

theorem feed_append (s : State) (a b : List UInt8) :
    feed s (a ++ b) =
      ((feed (feed s a).1 b).1, (feed s a).2 ++ (feed (feed s a).1 b).2) := by
  induction a generalizing s with
  | nil => simp
  | cons x a ih => simp [feed, ih]

end ToolHost.Text.Utf8
