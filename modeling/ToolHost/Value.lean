import ToolHost.Decimal.Shortest
import ToolHost.Decimal.Whole
import ToolHost.Stamp
import ToolHost.Text.Quoted

/-!
# Configuration values

What a configuration file or an override can hold: scalars, lists, and mappings that keep their
entries in the order of writing. Mappings are keyed by scalars, and two keys that are equal as
numbers or as moments are the same key.

A list or mapping can contain itself. Each one on such a cycle bears a label, and where one would
occur within itself only its label stands; `Value.unrolled` puts it there once more.
-/
namespace ToolHost

open Decimal (Binary)

/-- A value without parts. -/
inductive Scalar
  | null
  | bool (b : Bool)
  | int (i : Int)
  | float (x : Binary)
  | text (s : String)
  | octets (b : List UInt8)
  | stamp (t : Stamp)
  deriving DecidableEq, Repr, Inhabited

/-- A value of a configuration. -/
inductive Value
  | scalar (s : Scalar)
  | list (items : List Value)
  | map (entries : List (Scalar × Value))
  | set (members : List Scalar)
  | pair (first second : Value)
  /-- A list or mapping on a cycle, under its label. -/
  | loop (label : Nat) (body : Value)
  /-- The list or mapping of a label, inside itself. -/
  | again (label : Nat) (isMap : Bool)
  deriving Repr, Inhabited

/-- The entries of a mapping. -/
abbrev Entries := List (Scalar × Value)

namespace Scalar

/-- Numbers are written with a point or an exponent: positionally from 0.0001 up to 10^16, else
with a signed exponent of two digits or more. -/
def floatLayout : Decimal.Layout :=
  { least := -4, greatest := 15, integral := ".0", mark := "e", plus := "+", exponentWidth := 2
    infinity := "inf", nan := "nan" }

/-- The scalar as a text of its own. -/
def written : Scalar → String
  | null => "None"
  | bool true => "True"
  | bool false => "False"
  | int i => toString i
  | float x => floatLayout.render x
  | text s => s
  | octets b => Text.quotedOctets b
  | stamp t => t.written

/-- The scalar inside the text of a list or mapping. -/
def shown : Scalar → String
  | text s => Text.quoted s
  | stamp t => t.shown
  | s => s.written

/-- The integer that a truth value or an integer counts as. -/
def asInt? : Scalar → Option Int
  | bool b => some (if b then 1 else 0)
  | int i => some i
  | _ => none

/-- Whether two scalars are the same key. -/
def same (a b : Scalar) : Bool :=
  match a, b with
  | float x, float y => x = y || x.isZero && y.isZero
  | stamp s, stamp t => s.same t
  | float x, s | s, float x => (s.asInt?.map x.isInt).getD false
  | a, b =>
    match a.asInt?, b.asInt? with
    | some i, some j => i = j
    | _, _ => a = b

/-- Whether a scalar counts as nothing: null, false, a zero, or the empty text. -/
def isEmpty : Scalar → Bool
  | null => true
  | bool b => !b
  | int i => i = 0
  | float x => x.isZero
  | text s => s.isEmpty
  | octets b => b.isEmpty
  | stamp _ => false

/-- Whether the scalar has a text: a whole number must not be too long. -/
def isWritable : Scalar → Bool
  | int i => i.natAbs < Decimal.tenTo Decimal.mostDigits
  | _ => true

end Scalar

namespace Value

def null : Value := .scalar .null

def text (s : String) : Value := .scalar (.text s)

/-- Whether a value counts as nothing. -/
def isEmpty : Value → Bool
  | .scalar s => s.isEmpty
  | .list items => items.isEmpty
  | .map entries => entries.isEmpty
  | .set members => members.isEmpty
  | _ => false

def isNull : Value → Bool
  | .scalar .null => true
  | _ => false

mutual

/-- The value with another one in the places of a label. -/
def filled (label : Nat) (whole : Value) : Value → Value
  | .list items => .list (filledAll label whole items)
  | .map entries => .map (filledEntries label whole entries)
  | .pair a b => .pair (filled label whole a) (filled label whole b)
  | .loop l body => if l = label then .loop l body else .loop l (filled label whole body)
  | .again l isMap => if l = label then whole else .again l isMap
  | v => v

def filledAll (label : Nat) (whole : Value) : List Value → List Value
  | [] => []
  | v :: rest => filled label whole v :: filledAll label whole rest

def filledEntries (label : Nat) (whole : Value) :
    List (Scalar × Value) → List (Scalar × Value)
  | [] => []
  | (k, v) :: rest => (k, filled label whole v) :: filledEntries label whole rest

end

/-- The value with its parts in sight. -/
def unrolled : Value → Value
  | .loop label body => filled label (.loop label body) body
  | v => v

/-- The items of a list. -/
def items? (v : Value) : Option (List Value) :=
  match v.unrolled with
  | .list items => some items
  | _ => none

/-- The entries of a mapping. -/
def entries? (v : Value) : Option Entries :=
  match v.unrolled with
  | .map entries => some entries
  | _ => none

mutual

/-- The value inside the text of a list or mapping. One that contains itself, under one of the
labels, is not written again. -/
def shownWithin (labels : List Nat) : Value → String
  | .scalar s => s.shown
  | .list items => "[" ++ ", ".intercalate (shownAll labels items) ++ "]"
  | .map entries => "\x7b" ++ ", ".intercalate (shownEntries labels entries) ++ "\x7d"
  | .set [] => "set()"
  | .set members => "\x7b" ++ ", ".intercalate (members.map (·.shown)) ++ "\x7d"
  | .pair a b => "(" ++ shownWithin labels a ++ ", " ++ shownWithin labels b ++ ")"
  | .loop label (.list items) =>
    if labels.contains label then "[...]"
    else "[" ++ ", ".intercalate (shownAll (label :: labels) items) ++ "]"
  | .loop label (.map entries) =>
    if labels.contains label then "\x7b...\x7d"
    else "\x7b" ++ ", ".intercalate (shownEntries (label :: labels) entries) ++ "\x7d"
  | .loop _ v => shownWithin labels v
  | .again _ isMap => if isMap then "\x7b...\x7d" else "[...]"

def shownAll (labels : List Nat) : List Value → List String
  | [] => []
  | v :: rest => shownWithin labels v :: shownAll labels rest

def shownEntries (labels : List Nat) : List (Scalar × Value) → List String
  | [] => []
  | (k, v) :: rest => (k.shown ++ ": " ++ shownWithin labels v) :: shownEntries labels rest

end

/-- The value inside the text of a list or mapping. -/
def shown (v : Value) : String := shownWithin [] v

/-- The value as a text of its own. -/
def written : Value → String
  | .scalar s => s.written
  | v => v.shown

mutual

/-- Whether the value has a text: no whole number in it is too long. -/
def isWritable : Value → Bool
  | .scalar s => s.isWritable
  | .list items => areWritable items
  | .map entries => areWritableEntries entries
  | .set members => members.all (·.isWritable)
  | .pair a b => a.isWritable && b.isWritable
  | .loop _ body => body.isWritable
  | .again .. => true

def areWritable : List Value → Bool
  | [] => true
  | v :: rest => v.isWritable && areWritable rest

def areWritableEntries : List (Scalar × Value) → Bool
  | [] => true
  | (k, v) :: rest => k.isWritable && v.isWritable && areWritableEntries rest

end

end Value

namespace Entries

/-- The value at a key. -/
def get? (entries : Entries) (key : Scalar) : Option Value :=
  (entries.find? fun e => e.1.same key).map (·.2)

/-- The value at a key that is a text. -/
def at? (entries : Entries) (key : String) : Option Value :=
  get? entries (.text key)

/-- Puts a value at a key: in the place of the entry there, or at the end. -/
def put (entries : Entries) (key : Scalar) (v : Value) : Entries :=
  match entries with
  | [] => [(key, v)]
  | (k, old) :: rest => if k.same key then (k, v) :: rest else (k, old) :: put rest key v

end Entries

end ToolHost
