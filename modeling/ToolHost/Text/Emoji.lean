import ToolHost.Text.EmojiTable
import ToolHost.Text.Small

/-!
# Emoji in a text

A short name between two colons stands for an emoji; behind a hyphen the name may say that the
emoji is to look like text or like an emoji. A name that is not known stays as it is.
-/
namespace ToolHost.Text

/-- A name without the choice of a look at its end, and the character that makes the choice. -/
def emojiLook (name : List Char) : List Char × List Char :=
  match name.reverse with
  | 't' :: 'x' :: 'e' :: 't' :: '-' :: rest => (rest.reverse, ['\ufe0e'])
  | 'i' :: 'j' :: 'o' :: 'm' :: 'e' :: '-' :: rest => (rest.reverse, ['\ufe0f'])
  | _ => (name, [])

/-- What stands for a name between two colons. -/
def emojiOf (name : List Char) : List Char :=
  let (bare, look) := emojiLook name
  match emojis.get? (String.ofList (small bare)) with
  | some emoji => emoji ++ look
  | none => ':' :: name ++ [':']

/-- A text with the names of emoji replaced; `name` holds what has been read since a colon,
reversed. -/
def withEmojiFrom (name : Option (List Char)) : List Char → List Char
  | [] => (name.map fun n => ':' :: n.reverse).getD []
  | c :: rest =>
    match name with
    | none => if c = ':' then withEmojiFrom (some []) rest else c :: withEmojiFrom none rest
    | some n =>
      if c = ':' then emojiOf n.reverse ++ withEmojiFrom none rest
      else if isBlank c then ':' :: n.reverse ++ c :: withEmojiFrom none rest
      else withEmojiFrom (some (c :: n)) rest

def withEmoji (s : List Char) : List Char := withEmojiFrom none s

end ToolHost.Text
