import ToolHost.Decimal.Whole
import ToolHost.Terminal.Style

/-!
# Graphic rendition

The parameters of a sequence that selects graphic rendition, and what each of them changes in the
style that holds from there on.
-/
namespace ToolHost.Terminal

/-- One change of the current style. -/
inductive Change
  | reset
  | attributes (settings : List (Attribute × Bool))
  | foreground (c : Color)
  | background (c : Color)
  deriving DecidableEq, Repr

namespace Change

/-- The style after the change; settings are laid over what holds already. -/
def apply : Change → Style → Style
  | reset, _ => none
  | attributes settings, s =>
    some (settings.foldl (fun l (a, on) => l.setFlag a on) s.look)
  | foreground c, s => some { s.look with fg := some c }
  | background c, s => some { s.look with bg := some c }

open Attribute in
/-- The change that a parameter of its own stands for. -/
def ofCode? (n : Nat) : Option Change :=
  match n with
  | 0 => some reset
  | 1 => on bold | 2 => on dim | 3 => on italic | 4 => on underline | 5 => on blink
  | 6 => on blink2 | 7 => on Attribute.reverse | 8 => on conceal | 9 => on strike
  | 21 => on underline2
  | 22 => some (attributes [(dim, false), (bold, false)])
  | 23 => off italic | 24 => off underline | 25 => off blink | 26 => off blink2
  | 27 => off Attribute.reverse | 28 => off conceal | 29 => off strike
  | 39 => some (foreground .default) | 49 => some (background .default)
  | 51 => on frame | 52 => on encircle | 53 => on overline
  | 54 => some (attributes [(frame, false), (encircle, false)])
  | 55 => off overline
  | n =>
    if 30 ≤ n && n ≤ 37 then some (foreground (.indexed (n - 30)))
    else if 40 ≤ n && n ≤ 47 then some (background (.indexed (n - 40)))
    else if 90 ≤ n && n ≤ 97 then some (foreground (.indexed (n - 82)))
    else if 100 ≤ n && n ≤ 107 then some (background (.indexed (n - 92)))
    else none
where
  on (a : Attribute) : Option Change := some (attributes [(a, true)])
  off (a : Attribute) : Option Change := some (attributes [(a, false)])

/-- The changes a list of parameters asks for. A colour in the foreground (38) or background (48)
takes a kind and its arguments from the parameters that follow; if they run out, what was taken
is lost. Unknown parameters mean nothing. -/
def ofCodes : List Nat → List Change
  | [] => []
  | 38 :: 5 :: n :: rest => foreground (.indexed n) :: ofCodes rest
  | 38 :: 2 :: r :: g :: b :: rest => foreground (.rgb r g b) :: ofCodes rest
  | 48 :: 5 :: n :: rest => background (.indexed n) :: ofCodes rest
  | 48 :: 2 :: r :: g :: b :: rest => background (.rgb r g b) :: ofCodes rest
  | [38, 5] => []
  | [38, 2] => []
  | [38, 2, _] => []
  | [38, 2, _, _] => []
  | [48, 5] => []
  | [48, 2] => []
  | [48, 2, _] => []
  | [48, 2, _, _] => []
  | 38 :: _ :: rest => ofCodes rest
  | 48 :: _ :: rest => ofCodes rest
  | n :: rest =>
    match ofCode? n with
    | some c => c :: ofCodes rest
    | none => ofCodes rest

end Change

/-- The value of one parameter, at most 255: nothing written is 0, and what is no number is no
parameter. -/
def parameter? (s : List Char) : Option Nat :=
  (s.mapM Text.digitValue?).map fun ds => min 255 (ds.foldl (fun n d => n * 10 + d) 0)

/-- Whether a parameter can be read: a number must not have too many digits. -/
def isReadable (s : List Char) : Bool :=
  s.length ≤ Decimal.mostDigits || !s.all fun c => (Text.digitValue? c).isSome

/-- The parameters of a rendition sequence, from the text between its introducer and its end. -/
def parameters (s : List Char) : List Nat :=
  (Text.cut ';' s).filterMap parameter?

/-- The style after a rendition sequence. -/
def Style.render (s : Style) (params : List Char) : Style :=
  (Change.ofCodes (parameters params)).foldl (fun s c => c.apply s) s

end ToolHost.Terminal
