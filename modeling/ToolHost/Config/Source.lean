import ToolHost.Config.Place
import ToolHost.Config.Settings
import ToolHost.Log.Record
import ToolHost.Text.Utf8
import ToolHost.Yaml.Document

/-!
# Sources of the configuration

A configuration file that is missing, unreadable, malformed or no mapping counts as an empty one.
Variables of the environment lie over all files.
-/
namespace ToolHost.Config

open Machine (Host Path Errno)

/-- An outcome with the records that were logged on the way. -/
structure Logged (α : Type) where
  outcome : Except Breakdown α
  records : List Log.Record := []

namespace Logged

def ok {α : Type} (a : α) : Logged α := ⟨.ok a, []⟩

def bind {α β : Type} (x : Logged α) (f : α → Logged β) : Logged β :=
  match x.outcome with
  | .error b => ⟨.error b, x.records⟩
  | .ok a =>
    let y := f a
    ⟨y.outcome, x.records ++ y.records⟩

instance : Monad Logged where
  pure := ok
  bind := bind

def ofExcept {α : Type} (x : Except Breakdown α) : Logged α := ⟨x, []⟩

def note (level : Int) (message : String) : Logged Unit := ⟨.ok (), [⟨level, "config", message⟩]⟩

end Logged

/-- How an error on a file is reported. -/
def fileError (e : Errno) (p : String) : String :=
  "[Errno " ++ toString e.code ++ "] " ++ e.message ++ ": " ++ Text.quoted p

/-- Line ends of any kind as line feeds. -/
def unifyLineEnds : List Char → List Char
  | [] => []
  | '\r' :: '\n' :: rest => '\n' :: unifyLineEnds rest
  | '\r' :: rest => '\n' :: unifyLineEnds rest
  | c :: rest => c :: unifyLineEnds rest

/-- The text of a file, if its octets are one. -/
def textOf? (content : Machine.Bytes) : Option (List Char) :=
  (String.fromUTF8? ⟨content.toArray⟩).map fun s => unifyLineEnds s.toList

/-- What a file that could be read says. -/
def entriesOfText (p : String) (text : List Char) : Logged Entries :=
  match Yaml.load text with
  | .ok v => .ok ((v.bind Value.entries?).getD [])
  | .error .malformed => do
    Logged.note Log.warning ("Invalid YAML in " ++ p)
    return []
  | .error .noSuchValue => .ofExcept (.error .badValue)
  | .error .unknownWord => .ofExcept (.error .missingKey)
  | .error .noDigits => .ofExcept (.error .outOfRange)
  | .error .noDate => .ofExcept (.error .missingField)
  | .error .tooLarge => .ofExcept (.error .overflow)
  | .error .noText => .ofExcept (.error .wrongKind)
  | .error .tooDeep => .ofExcept (.error .tooDeep)

/-- What a configuration file says. -/
def readSource (h : Host) (p : Path) : Logged Entries := do
  if !(← .ofExcept (Place.exists? h p)) then return []
  else if h.unreadable.contains p.text then
    Logged.note Log.debug ("Permission denied reading " ++ p.text)
    return []
  else
    match h.files.read p with
    | .error e =>
      if e = .accessDenied || e = .notPermitted then
        Logged.note Log.debug ("Permission denied reading " ++ p.text)
      else Logged.note Log.warning ("Error reading " ++ p.text ++ ": " ++ fileError e p.text)
      return []
    | .ok content =>
      match textOf? content with
      | none => .ofExcept (.error .notUtf8)
      | some text => entriesOfText p.text text

/-- Which variable sets which field of which section. -/
def overrideFields : List (String × String × String) :=
  [("LOG", "logging", "file"), ("HOME", "tool", "directory"),
    ("SOURCE_URL", "tool", "source_url"), ("RUNTIME", "tool", "runtime")]

/-- What the variables of the environment set. -/
def overrides (h : Host) : Entries :=
  overrideFields.foldl (fun entries (suffix, name, key) =>
    match h.nonempty? (Product.variableName suffix) with
    | none => entries
    | some v =>
      let fields := match entries.at? name with | some (.map fields) => fields | _ => []
      entries.put (.text name) (.map (Entries.put fields (.text key) (.text v)))) []

/-- What the files say that say something. -/
def readSources (h : Host) : List Path → Logged (List Entries)
  | [] => .ok []
  | p :: rest => do
    let entries ← readSource h p
    if entries.isEmpty then readSources h rest
    else
      Logged.note Log.debug ("Loaded config from " ++ p.text)
      return entries :: (← readSources h rest)

/-- All layers as one mapping, if there is one. -/
def combined (layers : List Entries) : Except Breakdown Entries :=
  layers.foldlM (fun result layer =>
    if isEndless result layer then throw Breakdown.tooDeep else return cascade [result, layer]) []

/-- Builds the settings from all sources as they are now. -/
def build (h : Host) (root : Option String) : Logged Settings := do
  let paths ← .ofExcept (Place.all h root)
  let layers ← readSources h paths
  let env := overrides h
  .ofExcept do Settings.ofEntries (← combined (if env.isEmpty then layers else layers ++ [env]))

end ToolHost.Config
