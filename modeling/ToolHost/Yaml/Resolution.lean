import ToolHost.Decimal.Reader
import ToolHost.Decimal.Whole
import ToolHost.Text.Base64
import ToolHost.Text.Lines
import ToolHost.Value
import ToolHost.Yaml.Cursor

/-!
# What scalars stand for

A plain scalar that has the form of a truth value, a number, a null or a date stands for it; any
other one is a text. The forms are those of YAML 1.1: `yes` and `off` are truth values, a leading
zero makes a number octal, and colons separate digits of base 60. A tag can ask for a kind whose
form the scalar does not have; then it is read as far as the kind allows.
-/
namespace ToolHost.Yaml

open Decimal (Binary)

/-- What a node is. -/
inductive Kind
  | null | bool | int | float | text | octets | timestamp
  /-- The key whose value is merged into a mapping. -/
  | merge
  /-- The key whose value stands for a mapping where a scalar is asked for. -/
  | default
  | sequence | mapping
  /-- A mapping of which only the keys count. -/
  | set
  /-- A sequence of mappings of one entry. -/
  | pairs
  /-- What nothing is known about. -/
  | unknown
  deriving DecidableEq, Repr

/-- The kind that a tag asks for. -/
def Kind.ofTag (tag : String) : Kind :=
  match tag with
  | "tag:yaml.org,2002:null" => .null
  | "tag:yaml.org,2002:bool" => .bool
  | "tag:yaml.org,2002:int" => .int
  | "tag:yaml.org,2002:float" => .float
  | "tag:yaml.org,2002:str" => .text
  | "tag:yaml.org,2002:binary" => .octets
  | "tag:yaml.org,2002:timestamp" => .timestamp
  | "tag:yaml.org,2002:merge" => .merge
  | "tag:yaml.org,2002:value" => .default
  | "tag:yaml.org,2002:seq" => .sequence
  | "tag:yaml.org,2002:map" => .mapping
  | "tag:yaml.org,2002:set" => .set
  | "tag:yaml.org,2002:omap" => .pairs
  | "tag:yaml.org,2002:pairs" => .pairs
  | _ => .unknown

def nullWords : List String := ["", "~", "null", "Null", "NULL"]

def trueWords : List String := ["yes", "Yes", "YES", "true", "True", "TRUE", "on", "On", "ON"]

def falseWords : List String := ["no", "No", "NO", "false", "False", "FALSE", "off", "Off", "OFF"]

/-- Splits off a sign. -/
def unsigned (s : List Char) : List Char :=
  match s with
  | '-' :: rest | '+' :: rest => rest
  | _ => s

def isDigitOrUnderscore (c : Char) : Bool := c.isDigit || c = '_'

/-- Groups of one or two digits below 60, each behind a colon: gives what follows them, if there
is at least one. -/
def sixties : Nat → List Char → Option (List Char)
  | 0, _ => none
  | fuel + 1, s =>
    match s with
    | ':' :: a :: b :: rest =>
      if a.isDigit && a ≤ '5' && b.isDigit then some ((sixties fuel rest).getD rest)
      else if a.isDigit then some ((sixties fuel (b :: rest)).getD (b :: rest))
      else none
    | [':', a] => if a.isDigit then some [] else none
    | _ => none

def isIntForm (s : List Char) : Bool :=
  match unsigned s with
  | '0' :: 'b' :: rest => !rest.isEmpty && rest.all fun c => c = '0' || c = '1' || c = '_'
  | '0' :: 'x' :: rest => !rest.isEmpty && rest.all fun c => (hexDigit c) || c = '_'
  | ['0'] => true
  | '0' :: rest => rest.all fun c => ('0' ≤ c && c ≤ '7') || c = '_'
  | c :: rest =>
    c.isDigit &&
      (rest.all isDigitOrUnderscore ||
        sixties s.length (rest.dropWhile isDigitOrUnderscore) = some [])
  | [] => false
where
  hexDigit (c : Char) : Bool := c.isDigit || ('a' ≤ c && c ≤ 'f') || ('A' ≤ c && c ≤ 'F')

/-- Nothing, or an exponent with its sign. -/
def isExponentForm (s : List Char) : Bool :=
  match s with
  | [] => true
  | e :: sign :: digits =>
    (e = 'e' || e = 'E') && (sign = '-' || sign = '+') && !digits.isEmpty && digits.all Char.isDigit
  | _ => false

def isFloatForm (s : List Char) : Bool :=
  let positive := unsigned s
  let hasSign := positive.length != s.length
  match positive with
  | '.' :: rest =>
    let word := String.ofList rest
    ["inf", "Inf", "INF"].contains word || (!hasSign && ["nan", "NaN", "NAN"].contains word) ||
      (!hasSign && (rest.head?.map Char.isDigit).getD false &&
        isExponentForm (rest.dropWhile isDigitOrUnderscore))
  | c :: rest =>
    c.isDigit &&
      (match rest.dropWhile isDigitOrUnderscore with
        | '.' :: more => isExponentForm (more.dropWhile isDigitOrUnderscore)
        | other =>
          match sixties s.length other with
          | some ('.' :: more) => more.all isDigitOrUnderscore
          | _ => false)
  | [] => false

/-- A natural number of at most `most` digits, and at least `least`, at the start of a text. -/
def digits? (least most : Nat) (s : List Char) : Option (Nat × List Char) :=
  let ds := (s.take most).takeWhile Char.isDigit
  if ds.length < least then none
  else some (inBase10 ds, s.drop ds.length)
where
  inBase10 (ds : List Char) : Nat := ds.foldl (fun n d => n * 10 + (d.toNat - 48)) 0

/-- A given character at the start of a text. -/
def literal? (c : Char) (s : List Char) : Option (List Char) :=
  if s.head? = some c then some s.tail else none

/-- A distance from universal time; a `Z` is none at all. -/
def zone? (s : List Char) : Option (Option Int) :=
  let s := s.dropWhile fun c => c = ' ' || c = '\t'
  match s with
  | ['Z'] => some (some 0)
  | sign :: rest =>
    if sign = '-' || sign = '+' then do
      let (hours, rest) ← digits? 1 2 rest
      let minutes ←
        match rest with
        | [] => some 0
        | ':' :: more =>
          match digits? 2 2 more with
          | some (m, []) => some m
          | _ => none
        | _ => none
      let total : Int := hours * 60 + minutes
      return some (if sign = '-' then -total else total)
    else none
  | [] => none

/-- A text without a line feed at its end, which no form minds. -/
def withoutLastBreak (s : List Char) : List Char :=
  if s.getLast? = some '\n' then s.dropLast else s

/-- The fields of a date, or of a date with a time of day. A date alone is in full width if it is
to be taken for one without a tag. -/
def stamp? (inFull : Bool) (s : List Char) : Option Stamp := do
  let (year, rest) ← digits? 4 4 s
  let rest ← literal? '-' rest
  let (month, afterMonth) ← digits? 1 2 rest
  let rest ← literal? '-' afterMonth
  let (day, afterDay) ← digits? 1 2 rest
  if afterDay.isEmpty then
    if inFull && s.length != 10 then none else return { year, month, day }
  else
    let isBlankChar (c : Char) : Bool := c = ' ' || c = '\t'
    let rest ←
      match afterDay with
      | 'T' :: more | 't' :: more => some more
      | c :: more => if isBlankChar c then some (more.dropWhile isBlankChar) else none
      | [] => none
    let (hour, rest) ← digits? 1 2 rest
    let (minute, rest) ← digits? 2 2 (← literal? ':' rest)
    let (second, rest) ← digits? 2 2 (← literal? ':' rest)
    let (fraction, rest) :=
      match rest with
      | '.' :: more => (more.takeWhile Char.isDigit, more.dropWhile Char.isDigit)
      | _ => ([], rest)
    let micro := digits?.inBase10 ((fraction ++ List.replicate 6 '0').take 6)
    let zone ← if rest.isEmpty then some none else zone? rest
    return { year, month, day, time := some (hour, minute, second, micro), zone }

/-- What a scalar without a tag is, if it may be anything. -/
def Kind.ofPlain (text : String) : Kind :=
  let s := if text = "\n" then ['\n'] else withoutLastBreak text.toList
  let word := String.ofList s
  if trueWords.contains word || falseWords.contains word then .bool
  else if isFloatForm s then .float
  else if isIntForm s then .int
  else if word = "<<" then .merge
  else if nullWords.contains word then .null
  else if (stamp? true s).isSome then .timestamp
  else if word = "=" then .default
  else if ["!", "&", "*"].contains word then .unknown
  else .text

/-- The integer that a scalar stands for. Its first sign is read apart from the rest. -/
def intOf (text : String) : Except Error Int :=
  let s := text.toList.filter (· != '_')
  let negative := s.head? = some '-'
  let size : Option Int :=
    match unsigned s with
    | ['0'] => some 0
    | '0' :: 'b' :: rest => Decimal.readWhole? 2 rest
    | '0' :: 'x' :: rest => Decimal.readWhole? 16 rest
    | '0' :: rest => Decimal.readWhole? 8 ('0' :: rest)
    | rest =>
      ((Text.cut ':' rest).mapM (Decimal.readWhole? 10)).map fun parts =>
        parts.foldl (fun n part => n * 60 + part) 0
  match size with
  | some n => .ok (if negative then -n else n)
  | none => .error (if (unsigned s).isEmpty then .noDigits else .noSuchValue)

/-- The sum of digits of base 60, from the last one on; `weight` is what the first one counts. -/
def sumOfSixties (total : Float) (weight : Nat) : List Binary → Except Error Binary
  | [] => .ok (.ofFloat total)
  | digit :: rest =>
    let factor := Binary.ofInt weight
    if factor.isFinite then
      sumOfSixties (total + digit.toFloat * factor.toFloat) (weight * 60) rest
    else .error .tooLarge

/-- The number that a scalar stands for. -/
def floatOf (text : String) : Except Error Binary := do
  let s := (text.toList.filter (· != '_')).map Char.toLower
  let positive := unsigned s
  let digits ←
    if positive = ".inf".toList then pure [Binary.infinity]
    else if positive = ".nan".toList then pure [Binary.nan]
    else
      match (Text.cut ':' positive).mapM fun part => Binary.read? (String.ofList part) with
      | some digits => pure digits
      | none => throw (if s.isEmpty then Error.noDigits else Error.noSuchValue)
  let size ←
    match digits with
    | [digit] => pure digit
    | digits => sumOfSixties 0 1 digits.reverse
  return if s.head? = some '-' then size.neg else size

def daysOfMonth (year month : Nat) : Nat :=
  match month with
  | 2 => if year % 4 = 0 && (year % 100 != 0 || year % 400 = 0) then 29 else 28
  | 4 | 6 | 9 | 11 => 30
  | _ => 31

/-- A stamp with fields in their ranges. -/
def stampOf (text : String) : Except Error Stamp :=
  match stamp? false (withoutLastBreak text.toList) with
  | none => .error .noDate
  | some t =>
    let dayOk := 1 ≤ t.year && 1 ≤ t.month && t.month ≤ 12 && 1 ≤ t.day &&
      t.day ≤ daysOfMonth t.year t.month
    let timeOk :=
      match t.time with
      | none => true
      | some (h, m, s, _) => h < 24 && m < 60 && s < 60
    let zoneOk := t.zone.all fun z => z.natAbs < 24 * 60
    if dayOk && timeOk && zoneOk then .ok t else .error .noSuchValue

/-- The octets that a scalar writes. -/
def octetsOf (text : String) : Except Error (List UInt8) :=
  if text.toList.all fun c => c.toNat < 0x80 then
    match Text.Base64.decode text.toList with
    | some octets => .ok octets
    | none => .error .malformed
  else .error .malformed

/-- The scalar that a text of a kind stands for. -/
def scalarOf (kind : Kind) (text : String) : Except Error Scalar :=
  match kind with
  | .null => .ok .null
  | .bool =>
    let word := String.ofList (text.toList.map Char.toLower)
    if trueWords.contains word then .ok (.bool true)
    else if falseWords.contains word then .ok (.bool false)
    else .error .unknownWord
  | .int => (intOf text).map .int
  | .float => (floatOf text).map .float
  | .octets => (octetsOf text).map .octets
  | .timestamp => (stampOf text).map .stamp
  | .text => .ok (.text text)
  | _ => .error .malformed

end ToolHost.Yaml
