import ToolHost.Text.Blank

/-!
# Constants

A tag may name something to call and the arguments of the call. The arguments are constants:
numbers, quoted texts, truth values, and groups of constants.
-/
namespace ToolHost.Terminal

def isWordChar (c : Char) : Bool :=
  c.isAlphanum || c = '_' || (0xAA ≤ c.toNat && !Text.isBlank c)

/-- What follows a quoted text whose opening quotation mark has been read. -/
def behindQuote? (mark : Char) : List Char → Option (List Char)
  | [] => none
  | '\\' :: _ :: rest => behindQuote? mark rest
  | c :: rest => if c = mark then some rest else if c = '\n' then none else behindQuote? mark rest

/-- What follows a number or a name. -/
def behindWord? (s : List Char) : Option (List Char) :=
  let word := s.takeWhile fun c => isWordChar c || c = '.'
  let rest := s.drop word.length
  let isNumber := match word with
    | '0' :: d :: _ => !d.isDigit
    | '.' :: d :: _ => d.isDigit
    | d :: _ => d.isDigit
    | [] => false
  if isNumber || ["True", "False", "None", "..."].contains (String.ofList word) then some rest
  else none

mutual

/-- What follows a constant. -/
def behindConstant? (fuel : Nat) (s : List Char) : Option (List Char) :=
  match fuel, s.dropWhile Text.isBlank with
  | 0, _ | _, [] => none
  | fuel + 1, c :: rest =>
    match c with
    | '(' => behindGroup? fuel ')' rest
    | '\x7b' => behindGroup? fuel '\x7d' rest
    | '\'' | '"' => behindQuote? c rest
    | '-' | '+' => behindWord? (rest.dropWhile Text.isBlank)
    | _ => behindWord? (c :: rest)

/-- What follows a group of constants whose opening bracket has been read. -/
def behindGroup? (fuel : Nat) (close : Char) (s : List Char) : Option (List Char) :=
  match fuel, s.dropWhile Text.isBlank with
  | 0, _ | _, [] => none
  | fuel + 1, c :: rest =>
    if c = close then some rest
    else
      match behindConstant? fuel (c :: rest) with
      | none => none
      | some rest =>
        match rest.dropWhile Text.isBlank with
        | [] => none
        | d :: rest =>
          if d = close then some rest
          else if d = ',' || (d = ':' && close = '\x7d') then behindGroup? fuel close rest
          else none

end

/-- Whether a text is a constant, or several between commas. -/
def isConstant (s : List Char) : Bool :=
  behindGroup? (2 * s.length + 3) ')' (s ++ [')']) = some []

/-- The arguments of a call: what stands between brackets behind a name, or none. A text that is
no call is taken as it is. -/
def callArguments (s : List Char) : List Char :=
  let rest := s.dropWhile fun c => isWordChar c || c = '.'
  match rest with
  | [] => "()".toList
  | _ =>
    if rest.head? = some '(' && rest.getLast? = some ')' && !rest.contains '\n' then rest else s

end ToolHost.Terminal
