/-!
# Lines

Two ways to cut a text into lines: at every line boundary of Unicode (a carriage return followed
by a line feed is one), and at one separating character.
-/
namespace ToolHost.Text

/-- Every character that ends a line. -/
def isLineEnd (c : Char) : Bool :=
  let n := c.toNat
  (10 ≤ n && n ≤ 13) || (28 ≤ n && n ≤ 30) || n == 0x85 || n == 0x2028 || n == 0x2029

/-- The lines of a text without their ends. A text that ends with a line end has no empty line
after it. -/
def lines (s : List Char) : List (List Char) :=
  go s []
where
  /-- `line` is the line under way, reversed. -/
  go : List Char → List Char → List (List Char)
    | [], line => if line.isEmpty then [] else [line.reverse]
    | '\r' :: '\n' :: rest, line => line.reverse :: go rest []
    | c :: rest, line => if isLineEnd c then line.reverse :: go rest [] else go rest (c :: line)

/-- The pieces between the occurrences of `sep`: always one more than there are separators. -/
def cut (sep : Char) : List Char → List (List Char)
  | [] => [[]]
  | c :: rest =>
    if c = sep then [] :: cut sep rest
    else
      match cut sep rest with
      | [] => [[c]]
      | piece :: pieces => (c :: piece) :: pieces

theorem cut_ne_nil (sep : Char) (s : List Char) : cut sep s ≠ [] := by
  cases s with
  | nil => simp [cut]
  | cons c rest =>
    simp only [cut]
    split
    · simp
    · split <;> simp

theorem length_cut (sep : Char) (s : List Char) : (cut sep s).length = s.count sep + 1 := by
  induction s with
  | nil => rfl
  | cons c rest ih =>
    simp only [cut, List.count_cons, beq_iff_eq]
    by_cases h : c = sep
    · simp [h, ih]
    · simp only [h, if_false]
      split
      · next h' => exact absurd h' (cut_ne_nil sep rest)
      · next h' => rw [h'] at ih; simpa using ih

end ToolHost.Text
