import ToolHost.Text.Digit
import ToolHost.Text.Half
import ToolHost.Yaml.Cursor

/-!
# Scalars as they are written

The four ways to write a scalar: plain, between single or double quotes, and as a block of
indented lines. Line breaks inside a scalar are folded: one alone is a space, of several the first
is dropped.
-/
namespace ToolHost.Yaml

/-- A text and the place behind it. -/
abbrev Scanned := Except Error (List Char × Cursor)

/-- Line breaks between the lines of a quoted scalar, with the blanks around them. -/
def quotedBreaks : Nat → Cursor → Scanned
  | 0, c => .ok ([], c)
  | fuel + 1, c =>
    if c.atSeparator then .error .malformed
    else
      let c := c.skip fun ch => ch = ' ' || ch = '\t'
      if isBreak c.peek then
        let (br, c) := c.lineBreak
        (quotedBreaks fuel c).map fun (more, c) => (br ++ more, c)
      else .ok ([], c)

/-- One line break and those after it, folded. -/
def foldBreaks (first breaks : List Char) : List Char :=
  (if first != ['\n'] then first else if breaks.isEmpty then [' '] else []) ++ breaks

/-- Blanks inside a quoted scalar, folded if a line ends there. -/
def quotedSpaces (c : Cursor) : Scanned :=
  let (blanks, c) := c.take fun ch => ch = ' ' || ch = '\t'
  if c.atEnd then .error .malformed
  else if isBreak c.peek then
    let (br, c) := c.lineBreak
    (quotedBreaks c.rest.length c).map fun (more, c) => (foldBreaks br more, c)
  else .ok (blanks, c)

/-- The character that a letter behind a backslash stands for. -/
def escape? (c : Char) : Option Char :=
  match c with
  | '0' => some '\x00' | 'a' => some '\x07' | 'b' => some '\x08' | 't' => some '\t'
  | '\t' => some '\t' | 'n' => some '\n' | 'v' => some '\x0b' | 'f' => some '\x0c'
  | 'r' => some '\r' | 'e' => some '\x1b' | ' ' => some ' ' | '"' => some '"'
  | '\\' => some '\\' | '/' => some '/' | 'N' => some '\u0085' | '_' => some '\u00a0'
  | 'L' => some '\u2028' | 'P' => some '\u2029'
  | _ => none

/-- How many hexadecimal digits follow a letter behind a backslash. -/
def escapeWidth? (c : Char) : Option Nat :=
  match c with
  | 'x' => some 2
  | 'u' => some 4
  | 'U' => some 8
  | _ => none

def hexValue? (c : Char) : Option Nat :=
  let n := c.toNat
  if 48 ≤ n && n ≤ 57 then some (n - 48)
  else if 97 ≤ n && n ≤ 102 then some (n - 87)
  else if 65 ≤ n && n ≤ 70 then some (n - 55)
  else none

/-- What follows a backslash between double quotes. -/
def escapeSequence (c : Cursor) : Scanned :=
  let ch := c.peek
  match escape? ch, escapeWidth? ch with
  | some x, _ => .ok ([x], c.next)
  | none, some width =>
    let c := c.next
    match (c.rest.take width).mapM hexValue? with
    | some digits =>
      let n := Text.numeral 16 digits
      if digits.length < width then .error .malformed
      else if n > 0x7FFFFFFF then .error .tooLarge
      else if n > 0x10FFFF then .error .noSuchValue
      else .ok ([(Text.half? n).getD (Char.ofNat n)], c.forward width)
    | none => .error .malformed
  | none, none =>
    if isBreak ch then
      let c := c.lineBreak.2
      quotedBreaks c.rest.length c
    else .error .malformed

/-- Characters that mean something inside quotes. -/
def isQuotedSpecial (c : Char) : Bool :=
  c = '\'' || c = '"' || c = '\\' || isGap c

/-- Reads a quoted scalar up to and including the closing quote. -/
def quotedText (quote : Char) : Nat → Cursor → Scanned
  | 0, _ => .error .malformed
  | fuel + 1, c =>
    let (chars, c) := c.take fun ch => !isQuotedSpecial ch
    let ch := c.peek
    let continued (r : Scanned) : Scanned := do
      let (text, c) ← r
      let (more, c) ← quotedText quote fuel c
      return (chars ++ text ++ more, c)
    if c.atEnd then .error .malformed
    else if ch = quote then
      if quote = '\'' && c.peekAt 1 = '\'' then continued (.ok (['\''], c.forward 2))
      else .ok (chars, c.next)
    else if ch = '\'' || ch = '"' then continued (.ok ([ch], c.next))
    else if ch = '\\' then
      if quote = '"' then continued (escapeSequence c.next) else continued (.ok ([ch], c.next))
    else continued (quotedSpaces c)

/-- Line breaks inside a plain scalar. Gives none where a separator of documents ends it. -/
def plainBreaks : Nat → Cursor → Option (List Char) × Cursor
  | 0, c => (some [], c)
  | fuel + 1, c =>
    let c := c.skip (· == ' ')
    if isBreak c.peek then
      let (br, c) := c.lineBreak
      if c.atSeparator then (none, c)
      else
        let (more, c) := plainBreaks fuel c
        (more.map (br ++ ·), c)
    else (some [], c)

/-- Spaces inside a plain scalar, folded if a line ends there; tells whether one does. -/
def plainSpaces (c : Cursor) : List Char × Bool × Cursor :=
  let (spaces, c) := c.take (· == ' ')
  if isBreak c.peek then
    let (br, c) := c.lineBreak
    if c.atSeparator then ([], true, c)
    else
      match plainBreaks c.rest.length c with
      | (none, c) => ([], true, c)
      | (some breaks, c) => (foldBreaks br breaks, true, c)
  else (spaces, false, c)

/-- Brackets and the comma, which end a plain scalar inside brackets. -/
def isFlowIndicator (c : Char) : Bool :=
  c = ',' || c = '[' || c = ']' || c = '\x7b' || c = '\x7d'

/-- The characters of a plain scalar up to a blank or to what ends it. -/
def plainWord (inFlow : Bool) : List Char → List Char
  | [] => []
  | ch :: rest =>
    let follower := rest.headD '\x00'
    if isGap ch then []
    else if ch = ':' && (isGap follower || (inFlow && isFlowIndicator follower)) then []
    else if inFlow && (isFlowIndicator ch || ch = '?') then []
    else ch :: plainWord inFlow rest

/-- Reads a plain scalar whose further lines stand at column `indent` or beyond. Tells whether it
took line breaks behind its last word. -/
def plainText (inFlow : Bool) (indent : Int) : Nat → Cursor → List Char × Bool × Cursor
  | 0, c => ([], false, c)
  | fuel + 1, c =>
    let word := if c.peek = '#' then [] else plainWord inFlow c.rest
    if word.isEmpty then ([], false, c)
    else
      let (spaces, broken, c) := plainSpaces (c.forward word.length)
      if spaces.isEmpty || c.peek = '#' || (!inFlow && (c.column : Int) < indent) then
        (word, broken, c)
      else
        match plainText inFlow indent fuel c with
        | ([], _, c) => (word, broken, c)
        | (more, brokenLater, c) => (word ++ spaces ++ more, brokenLater, c)

/-- What becomes of the line breaks at the end of a block scalar. -/
inductive Chomping
  | clip
  | strip
  | keep
  deriving DecidableEq, Repr

def chomping? (c : Char) : Option Chomping :=
  match c with
  | '+' => some .keep
  | '-' => some .strip
  | _ => none

/-- The header of a block scalar: its chomping and, if given, its indentation. -/
def blockHeader (c : Cursor) : Except Error (Chomping × Option Nat × Cursor) := do
  let digit? (ch : Char) : Option Nat := if ch.isDigit then some (ch.toNat - 48) else none
  let (chomping, indentation, c) :=
    match chomping? c.peek, digit? c.peek with
    | some k, _ =>
      match digit? c.next.peek with
      | some d => (k, some d, c.forward 2)
      | none => (k, none, c.next)
    | none, some d =>
      match chomping? c.next.peek with
      | some k => (k, some d, c.forward 2)
      | none => (.clip, some d, c.next)
    | none, none => (.clip, none, c)
  if indentation = some 0 || !isSpaceOrEnd c.peek then throw .malformed
  let c := c.skip (· == ' ')
  let c := if c.peek = '#' then c.skip (!isBreakOrEnd ·) else c
  if !isBreakOrEnd c.peek then throw .malformed
  return (chomping, indentation, c.lineBreak.2)

/-- Empty lines before the first line of a block scalar, and the deepest column seen. -/
def blockStart : Nat → Nat → Cursor → List Char × Nat × Cursor
  | 0, deepest, c => ([], deepest, c)
  | fuel + 1, deepest, c =>
    if c.peek = ' ' then
      let c := c.next
      blockStart fuel (max deepest c.column) c
    else if isBreak c.peek then
      let (br, c) := c.lineBreak
      let (more, deepest, c) := blockStart fuel deepest c
      (br ++ more, deepest, c)
    else ([], deepest, c)

/-- Spaces up to a column. -/
def skipIndent (indent : Nat) : Nat → Cursor → Cursor
  | 0, c => c
  | fuel + 1, c =>
    if c.column < indent && c.peek = ' ' then skipIndent indent fuel c.next else c

/-- Empty lines inside a block scalar. -/
def blockBreaks (indent : Nat) : Nat → Cursor → List Char × Cursor
  | 0, c => ([], c)
  | fuel + 1, c =>
    let c := skipIndent indent indent c
    if isBreak c.peek then
      let (br, c) := c.lineBreak
      let (more, c) := blockBreaks indent fuel c
      (br ++ more, c)
    else ([], c)

/-- The lines of a block scalar at column `indent`, after the given empty lines. -/
def blockLines (folded : Bool) (chomping : Chomping) (indent : Nat) :
    Nat → List Char → Cursor → List Char × Cursor
  | 0, _, c => ([], c)
  | fuel + 1, breaks, c =>
    let (line, after) := c.take (!isBreakOrEnd ·)
    let (br, after) := after.lineBreak
    let (later, after) := blockBreaks indent after.rest.length after
    let isText (ch : Char) : Bool := ch != ' ' && ch != '\t'
    if after.column = indent && !after.atEnd then
      let joint :=
        if folded && br = ['\n'] && isText c.peek && isText after.peek then
          if later.isEmpty then [' '] else []
        else br
      let (more, last) := blockLines folded chomping indent fuel later after
      (breaks ++ line ++ joint ++ more, last)
    else
      let tail := if chomping = .strip then [] else br
      let kept := if chomping = .keep then later else []
      (breaks ++ line ++ tail ++ kept, after)

/-- Reads a block scalar behind its indicator; `parent` is the column of the block it is in. -/
def blockText (folded : Bool) (parent : Int) (c : Cursor) : Scanned := do
  let (chomping, indentation, c) ← blockHeader c
  let least := (max 1 (parent + 1)).toNat
  let (breaks, indent, c) :=
    match indentation with
    | none =>
      let (breaks, deepest, c) := blockStart c.rest.length 0 c
      (breaks, max least deepest, c)
    | some d =>
      let indent := least + d - 1
      let (breaks, c) := blockBreaks indent c.rest.length c
      (breaks, indent, c)
  if c.column = indent && !c.atEnd then
    return blockLines folded chomping indent c.rest.length breaks c
  else return (if chomping = .keep then breaks else [], c)

end ToolHost.Yaml
