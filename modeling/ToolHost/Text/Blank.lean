/-!
# Blank characters

White space in the sense of Unicode, with the separators 28 to 31 of ASCII counted in.
Words are the maximal runs free of it.
-/
namespace ToolHost.Text

/-- White space, line and field separators included. -/
def isBlank (c : Char) : Bool :=
  let n := c.toNat
  (9 ≤ n && n ≤ 13) || (28 ≤ n && n ≤ 32) || n == 0x85 || n == 0xA0 || n == 0x1680 ||
    (0x2000 ≤ n && n ≤ 0x200A) || n == 0x2028 || n == 0x2029 || n == 0x202F || n == 0x205F ||
    n == 0x3000

theorem isBlank_of_isWhitespace {c : Char} (h : c.isWhitespace = true) : isBlank c = true := by
  simp only [Char.isWhitespace, Bool.or_eq_true, decide_eq_true_eq] at h
  rcases h with ((h | h) | h) | h <;> subst h <;> decide

/-- White space without the separators 28 to 31, as it may stand around a number. -/
def isSpacing (c : Char) : Bool :=
  isBlank c && !(28 ≤ c.toNat && c.toNat ≤ 31)

/-- The text without the characters of a class at its two ends. -/
def trimBy (inClass : Char → Bool) (s : List Char) : List Char :=
  ((s.dropWhile inClass).reverse.dropWhile inClass).reverse

/-- The text without the blanks at its two ends. -/
def trim (s : List Char) : List Char := trimBy isBlank s

/-- The maximal runs without a blank, in order. -/
def words (s : List Char) : List (List Char) :=
  go s []
where
  /-- `word` is the run under way, reversed. -/
  go : List Char → List Char → List (List Char)
    | [], word => if word.isEmpty then [] else [word.reverse]
    | c :: rest, word =>
      if isBlank c then
        if word.isEmpty then go rest [] else word.reverse :: go rest []
      else go rest (c :: word)

end ToolHost.Text
