/-!
# Styles of terminal text

A style says which attributes are switched on or off, which colours are chosen, and where the text
links to. No style at all is different from a style that chooses nothing: only the latter is an
instruction about the text it covers.
-/
namespace ToolHost.Terminal

inductive Attribute
  | bold | dim | italic | underline | blink | blink2 | reverse | conceal | strike
  | underline2 | frame | encircle | overline
  deriving DecidableEq, Repr

namespace Attribute

/-- The attributes in their order of display. -/
def all : List Attribute :=
  [bold, dim, italic, underline, blink, blink2, reverse, conceal, strike,
    underline2, frame, encircle, overline]

def index : Attribute → Fin 13
  | bold => 0 | dim => 1 | italic => 2 | underline => 3 | blink => 4 | blink2 => 5 | reverse => 6
  | conceal => 7 | strike => 8 | underline2 => 9 | frame => 10 | encircle => 11 | overline => 12

theorem index_inj {a b : Attribute} : (a.index : Nat) = b.index ↔ a = b := by
  revert b
  cases a <;> (intro b; cases b <;> decide)

def name : Attribute → String
  | bold => "bold" | dim => "dim" | italic => "italic" | underline => "underline"
  | blink => "blink" | blink2 => "blink2" | reverse => "reverse" | conceal => "conceal"
  | strike => "strike" | underline2 => "underline2" | frame => "frame" | encircle => "encircle"
  | overline => "overline"

/-- The code that switches the attribute on. -/
def code : Attribute → Nat
  | bold => 1 | dim => 2 | italic => 3 | underline => 4 | blink => 5 | blink2 => 6 | reverse => 7
  | conceal => 8 | strike => 9 | underline2 => 21 | frame => 51 | encircle => 52 | overline => 53

end Attribute

inductive Color
  /-- The terminal's own colour. -/
  | default
  /-- An entry of the palette of 256. -/
  | indexed (n : Nat)
  | rgb (r g b : Nat)
  deriving DecidableEq, Repr

/-- The choices a style makes; `none` leaves a matter open. -/
structure Look where
  flags : Vector (Option Bool) 13 := Vector.replicate 13 none
  fg : Option Color := none
  bg : Option Color := none
  link : Option (List Char) := none
  deriving DecidableEq, Repr

namespace Look

/-- Whether the attribute is on, off, or left open. -/
def flag (l : Look) (a : Attribute) : Option Bool := l.flags[a.index]

def setFlag (l : Look) (a : Attribute) (on : Bool) : Look :=
  { l with flags := l.flags.set a.index (some on) }

theorem flag_setFlag (l : Look) (a b : Attribute) (on : Bool) :
    (l.setFlag a on).flag b = if a = b then some on else l.flag b := by
  simp only [flag, setFlag, Fin.getElem_fin, Vector.getElem_set, Attribute.index_inj]

end Look

/-- No style, or the choices of one. -/
abbrev Style := Option Look

/-- The look to which a further instruction is added. -/
def Style.look (s : Style) : Look := s.getD {}

/-- A stretch of text in one style. -/
structure Run where
  chars : List Char
  style : Style
  deriving DecidableEq, Repr

/-- Text with styles: its runs, one after another. -/
abbrev StyledText := List Run

/-- A style over a stretch of characters, by offsets. -/
structure Span where
  start : Nat
  stop : Nat
  look : Look
  deriving DecidableEq, Repr

namespace StyledText

/-- The characters alone. -/
def plain (t : StyledText) : List Char := t.flatMap (·.chars)

/-- Every character with its style. -/
def cells (t : StyledText) : List (Char × Style) :=
  t.flatMap fun r => r.chars.map (·, r.style)

/-- The styled stretches, from the given offset on; a stretch may be empty. -/
def spansFrom (offset : Nat) : StyledText → List Span
  | [] => []
  | r :: rest =>
    let stop := offset + r.chars.length
    match r.style with
    | none => spansFrom stop rest
    | some look => ⟨offset, stop, look⟩ :: spansFrom stop rest

def spans (t : StyledText) : List Span := spansFrom 0 t

@[simp] theorem plain_nil : plain [] = [] := rfl

@[simp] theorem plain_cons (r : Run) (t : StyledText) : plain (r :: t) = r.chars ++ plain t := rfl

@[simp] theorem plain_append (s t : StyledText) : plain (s ++ t) = plain s ++ plain t := by
  simp [plain]

@[simp] theorem cells_append (s t : StyledText) : cells (s ++ t) = cells s ++ cells t := by
  simp [cells]

@[simp] theorem map_fst_cells (t : StyledText) : t.cells.map Prod.fst = t.plain := by
  induction t with
  | nil => rfl
  | cons r t ih =>
    simp only [cells, plain, List.flatMap_cons, List.map_append] at ih ⊢
    rw [ih]
    simp [Function.comp_def]

end StyledText

end ToolHost.Terminal
