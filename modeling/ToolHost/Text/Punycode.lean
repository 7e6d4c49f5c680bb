/-!
# Punycode

A text written in ASCII: first its ASCII characters, then, behind a hyphen, where the others go.
They are inserted in the order of their code points; each number is the distance from the place of
one insertion to that of the next, in digits whose base depends on the numbers before.
-/
namespace ToolHost.Text.Punycode

def digit (n : Nat) : Char := Char.ofNat (if n < 26 then 97 + n else 22 + n)

/-- The threshold of a digit: a digit below it is the last one. -/
def threshold (place bias : Nat) : Nat := max 1 (min 26 (place - bias))

/-- A number in digits from a place on. -/
def numberFrom (bias : Nat) : Nat → Nat → Nat → List Char
  | 0, _, _ => []
  | fuel + 1, place, n =>
    let t := threshold place bias
    if n < t then [digit n]
    else digit (t + (n - t) % (36 - t)) :: numberFrom bias fuel (place + 36) ((n - t) / (36 - t))

def number (bias n : Nat) : List Char := numberFrom bias (n + 1) 36 n

/-- The bias for the next number: it follows the size of the last one. -/
def adapted (delta count : Nat) (isFirst : Bool) : Nat :=
  let delta := if isFirst then delta / 700 else delta / 2
  shrink delta 0 (delta + delta / count)
where
  shrink : Nat → Nat → Nat → Nat
    | 0, k, d => k + 36 * d / (d + 38)
    | fuel + 1, k, d => if d ≤ 455 then k + 36 * d / (d + 38) else shrink fuel (k + 36) (d / 35)

structure State where
  /-- The code points below this one have been inserted. -/
  next : Nat := 128
  delta : Nat := 0
  bias : Nat := 72
  /-- How many characters are in place. -/
  placed : Nat
  output : List Char := []
  deriving DecidableEq, Repr

/-- Passes over a character in the round of a code point, and inserts it if it is its turn. -/
def State.pass (basic : Nat) (s : State) (c : Char) : State :=
  if c.toNat < s.next then { s with delta := s.delta + 1 }
  else if c.toNat = s.next then
    { s with
      output := s.output ++ number s.bias s.delta
      bias := adapted s.delta (s.placed + 1) (s.placed = basic)
      delta := 0
      placed := s.placed + 1 }
  else s

/-- The round of the least code point that has not been inserted. -/
def State.round (text : List Char) (basic : Nat) (s : State) (least : Nat) : State :=
  let s := { s with delta := s.delta + (least - s.next) * (s.placed + 1), next := least }
  let s := text.foldl (State.pass basic) s
  { s with delta := s.delta + 1, next := least + 1 }

/-- A text in ASCII. -/
def encode (text : List Char) : List Char :=
  let basic := text.filter (·.toNat < 128)
  let others := ((text.map Char.toNat).filter (128 ≤ ·)).mergeSort.eraseDups
  let s := others.foldl (State.round text basic.length) { placed := basic.length }
  (if basic.isEmpty then [] else basic ++ ['-']) ++ s.output

/-! Reading. -/

def digitValue? (c : Char) : Option Nat :=
  let c := c.toLower
  if c.isLower then some (c.toNat - 97) else if c.isDigit then some (c.toNat - 22) else none

/-- Reads a number and gives what follows it; `weight` is that of the next digit. -/
def readNumber? (bias place value weight : Nat) : List Char → Option (Nat × List Char)
  | [] => none
  | c :: rest =>
    (digitValue? c).bind fun d =>
      let t := threshold place bias
      let value := value + d * weight
      if d < t then some (value, rest)
      else readNumber? bias (place + 36) value (weight * (36 - t)) rest

/-- Inserts characters as numbers tell. Every number has a digit, so that there are no more numbers
than digits. -/
def insert? (fuel : Nat) (text : List Char) (next place bias : Nat) (isFirst : Bool)
    (digits : List Char) : Option (List Char) :=
  match fuel, digits with
  | _, [] => some text
  | 0, _ => none
  | fuel + 1, digits =>
    (readNumber? bias 36 0 1 digits).bind fun (delta, rest) =>
      let size := text.length + 1
      let next := next + (place + delta) / size
      let place := (place + delta) % size
      if 0x10FFFF < next then none
      else
        insert? fuel (text.take place ++ Char.ofNat next :: text.drop place) next (place + 1)
          (adapted delta size isFirst) false rest

/-- The text that is written in ASCII. -/
def decode? (s : List Char) : Option (List Char) :=
  let digits := (s.reverse.takeWhile (· != '-')).reverse
  insert? digits.length (s.take (s.length - digits.length - 1)) 128 0 72 true digits

end ToolHost.Text.Punycode
