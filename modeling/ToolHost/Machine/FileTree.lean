import ToolHost.Machine.Errno
import ToolHost.Machine.Path

/-!
# A tree of files

Files and directories below one root, and the calls of the operating system on them with the
errors these give. There are no links and no permissions; names are limited to 255 octets.
-/
namespace ToolHost.Machine

abbrev Bytes := List UInt8

/-- What stands at a place of the tree. -/
inductive Entry
  | dir
  | file (content : Bytes)
  deriving DecidableEq, Repr

/-- A place: the names that lead to it from the root. -/
abbrev Place := List String

structure FileTree where
  entries : List (Place × Entry) := []
  /-- The current directory. -/
  cwd : Path := ⟨.root, []⟩

namespace FileTree

/-- What stands at a place. The root is always there. -/
def at? (t : FileTree) (p : Place) : Option Entry :=
  if p = [] then some .dir else t.entries.lookup p

/-- Puts an entry at a place. -/
def put (t : FileTree) (p : Place) (e : Entry) : FileTree :=
  { t with entries := (p, e) :: t.entries.filter (·.1 != p) }

/-- Takes away what stands at a place. -/
def erase (t : FileTree) (p : Place) : FileTree :=
  { t with entries := t.entries.filter (·.1 != p) }

@[simp] theorem at?_put_self (t : FileTree) (p : Place) (e : Entry) (h : p ≠ []) :
    (t.put p e).at? p = some e := by
  simp [at?, put, h]

theorem lookup_filter_ne {p q : Place} (h : p ≠ q) (l : List (Place × Entry)) :
    (l.filter (·.1 != p)).lookup q = l.lookup q := by
  induction l with
  | nil => rfl
  | cons a l ih =>
    obtain ⟨k, v⟩ := a
    by_cases hk : k = p
    · have : (q == k) = false := by simpa [hk] using Ne.symm h
      simp [hk, ih, List.lookup_cons, hk ▸ this]
    · simp [hk, List.lookup_cons, ih]

theorem at?_put_of_ne (t : FileTree) {p q : Place} (e : Entry) (h : p ≠ q) :
    (t.put p e).at? q = t.at? q := by
  have : (q == p) = false := by simpa using Ne.symm h
  simp [at?, put, List.lookup_cons, this, lookup_filter_ne h]

theorem at?_erase_of_ne (t : FileTree) {p q : Place} (h : p ≠ q) :
    (t.erase p).at? q = t.at? q := by
  simp [at?, erase, lookup_filter_ne h]

/-- Octets that a name takes. -/
def nameSize (n : String) : Nat := n.utf8ByteSize

/-- Follows names from a directory; the last one may be missing. Gives the place and what stands
there. -/
def walk (t : FileTree) (start : Place) : List String → Except Errno (Place × Option Entry)
  | [] => .ok (start, t.at? start)
  | n :: rest =>
    match t.at? start with
    | some (.file _) => .error .notDirectory
    | none => .error .noEntry
    | some .dir =>
      if n = ".." then walk t start.dropLast rest
      else if nameSize n > 255 then .error .nameTooLong
      else walk t (start ++ [n]) rest

/-- Where a path leads. A text with a NUL is no path: that is not for the system to say, so the
caller has to rule it out. -/
def locate (t : FileTree) (p : Path) : Except Errno (Place × Option Entry) :=
  if nameSize p.text > 4095 then .error .nameTooLong
  else t.walk [] (t.cwd.append p).names

/-- What stands where a path leads. -/
def stat (t : FileTree) (p : Path) : Except Errno Entry :=
  match t.locate p with
  | .error e => .error e
  | .ok (_, none) => .error .noEntry
  | .ok (_, some e) => .ok e

def isDir (t : FileTree) (p : Path) : Bool :=
  match t.stat p with
  | .ok .dir => true
  | _ => false

/-- Whether something stands where a path leads; an error that does not answer this is passed on.
Nothing stands at a text that is no path. -/
def exists? (t : FileTree) (p : Path) : Except Errno Bool :=
  if p.text.toList.contains '\x00' then .ok false
  else
    match t.stat p with
    | .ok _ => .ok true
    | .error e => if e = .noEntry || e = .notDirectory then .ok false else .error e

/-- Makes one directory. -/
def mkdir (t : FileTree) (p : Path) : Except Errno FileTree :=
  match t.locate p with
  | .error e => .error e
  | .ok (_, some _) => .error .alreadyExists
  | .ok (place, none) =>
    if t.at? place.dropLast = some .dir then .ok (t.put place .dir) else .error .noEntry

/-- Makes a directory and those above it that are missing. One that is there already is no error.
Gives the tree as it is when an error ends the attempt. -/
def mkdirs (t : FileTree) (p : Path) : FileTree × Option Errno :=
  go p.names.length t p
where
  go : Nat → FileTree → Path → FileTree × Option Errno
    | depth, t, p =>
      match t.mkdir p with
      | .ok t => (t, none)
      | .error e =>
        if e = .noEntry then
          match depth with
          | 0 => (t, some e)
          | depth + 1 =>
            match go depth t p.parent with
            | (t, some e) => (t, some e)
            | (t, none) =>
              match t.mkdir p with
              | .ok t => (t, none)
              | .error e => if t.isDir p then (t, none) else (t, some e)
        else if t.isDir p then (t, none)
        else (t, some e)

/-- Reads a file. -/
def read (t : FileTree) (p : Path) : Except Errno Bytes :=
  match t.stat p with
  | .error e => .error e
  | .ok .dir => .error .isDirectory
  | .ok (.file content) => .ok content

/-- Opens a file for writing at its end, making it if it is missing. -/
def openAppend (t : FileTree) (p : Path) : Except Errno (FileTree × Place) :=
  match t.locate p with
  | .error e => .error e
  | .ok (_, some .dir) => .error .isDirectory
  | .ok (place, some (.file _)) => .ok (t, place)
  | .ok (place, none) =>
    if t.at? place.dropLast = some .dir then .ok (t.put place (.file []), place)
    else .error .noEntry

/-- Adds to the end of a file. -/
def appendAt (t : FileTree) (place : Place) (more : Bytes) : FileTree :=
  match t.at? place with
  | some (.file content) => t.put place (.file (content ++ more))
  | _ => t

/-- Makes a file in a directory under a name that is not taken, and writes it. -/
def createIn (t : FileTree) (dir : Path) (name : String) (content : Bytes) :
    Except Errno (FileTree × Place) :=
  match t.locate (dir.append ⟨.here, [name]⟩) with
  | .error e => .error e
  | .ok (_, some _) => .error .alreadyExists
  | .ok (place, none) =>
    if t.at? place.dropLast = some .dir then .ok (t.put place (.file content), place)
    else .error .noEntry

/-- Gives a file another place, where it replaces a file that is there. -/
def replace (t : FileTree) (source : Place) (p : Path) : Except Errno FileTree :=
  match t.at? source, t.locate p with
  | some (.file content), .ok (place, old) =>
    if p.name = ".." then .error .busy
    else if !place.isEmpty && place.isPrefixOf source then .error .notEmpty
    else
      match old with
      | some .dir => .error .isDirectory
      | some (.file _) => .ok ((t.erase source).put place (.file content))
      | none =>
        if t.at? place.dropLast = some .dir then .ok ((t.erase source).put place (.file content))
        else .error .noEntry
  | _, .error e => .error e
  | _, _ => .error .noEntry

/-- Writes a file as a whole, making the directories above it. -/
def install (t : FileTree) (p : Path) (content : Option Bytes) : FileTree :=
  let above := (t.mkdirs (if content.isSome then p.parent else p)).1
  match content, above.locate p with
  | some bytes, .ok (place, _) => above.put place (.file bytes)
  | _, _ => above

/-- Takes a file or a whole directory away. -/
def remove (t : FileTree) (p : Path) : FileTree :=
  match t.locate p with
  | .ok (place, some _) =>
    { t with entries := t.entries.filter fun e => !place.isPrefixOf e.1 }
  | _ => t

/-- The files, and the directories that hold nothing, below the current directory, by their path
from there. -/
def listing (t : FileTree) : List (String × Option Bytes) :=
  let base := t.cwd.names
  t.entries.filterMap fun (place, e) =>
    if base.isPrefixOf place && place.length > base.length then
      let text := "/".intercalate (place.drop base.length)
      match e with
      | .file content => some (text, some content)
      | .dir =>
        let isAbove := t.entries.any fun other => place.isPrefixOf other.1 && other.1 != place
        if isAbove then none else some (text ++ "/", none)
    else none

end FileTree

end ToolHost.Machine
