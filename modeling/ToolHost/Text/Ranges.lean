/-!
# Character ranges

A property of characters is a table of closed intervals of code points.
-/
namespace ToolHost.Text

/-- Whether a code point lies in one of the intervals. -/
def inRanges (ranges : Array (Nat × Nat)) (n : Nat) : Bool :=
  ranges.any fun r => r.1 ≤ n && n ≤ r.2

end ToolHost.Text
