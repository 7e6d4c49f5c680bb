/-!
# Halves of pairs

A text can be written with one half of a surrogate pair alone, which is no character. Such a half
is kept as a character at the end of the last private plane, so that every text is a string.
-/
namespace ToolHost.Text

/-- How far a half is moved. -/
def halfOffset : Nat := 0x100000

/-- The character in place of a half of a pair. -/
def half? (n : Nat) : Option Char :=
  if 0xD800 ≤ n && n ≤ 0xDFFF then some (Char.ofNat (halfOffset + n)) else none

/-- The half of a pair that a character stands for. -/
def halfOf? (c : Char) : Option Nat :=
  let n := c.toNat
  if halfOffset + 0xD800 ≤ n && n ≤ halfOffset + 0xDFFF then some (n - halfOffset) else none

example : (half? 0xD83D).bind halfOf? = some 0xD83D := by decide

end ToolHost.Text
