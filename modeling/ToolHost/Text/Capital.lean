/-!
# Capital forms

The capital form of a text, so far as it can lead to a word of ASCII letters. Some letters have a
capital form of several letters; letters whose capital form leaves ASCII are kept as they are, and
no word of ASCII letters holds one.
-/
namespace ToolHost.Text

def capital (c : Char) : List Char :=
  match c with
  | 'ß' => ['S', 'S']
  | 'ı' => ['I']
  | 'ſ' => ['S']
  | 'ﬀ' => ['F', 'F']
  | 'ﬁ' => ['F', 'I']
  | 'ﬂ' => ['F', 'L']
  | 'ﬃ' => ['F', 'F', 'I']
  | 'ﬄ' => ['F', 'F', 'L']
  | 'ﬅ' => ['S', 'T']
  | 'ﬆ' => ['S', 'T']
  | c => [c.toUpper]

def capitals (s : String) : String :=
  String.ofList (s.toList.flatMap capital)

end ToolHost.Text
