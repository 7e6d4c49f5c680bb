/-!
# Paths

A path is where it starts and the names that lead on from there. Repeated slashes, single dots and
a slash at the end are no part of a path; double dots are, since they depend on the directories
that are there. Exactly two slashes at the start are different from one.
-/
namespace ToolHost.Machine

/-- Where a path starts. -/
inductive Anchor
  /-- At the current directory. -/
  | here
  | root
  /-- At a root written with two slashes. -/
  | doubleRoot
  deriving DecidableEq, Repr

structure Path where
  anchor : Anchor
  names : List String
  deriving DecidableEq, Repr

namespace Path

/-- The pieces of a text between slashes. -/
def pieces (s : List Char) : List (List Char) :=
  go s []
where
  go : List Char → List Char → List (List Char)
    | [], piece => [piece.reverse]
    | c :: rest, piece => if c = '/' then piece.reverse :: go rest [] else go rest (c :: piece)

/-- The path that a text stands for. -/
def ofString (s : String) : Path :=
  let cs := s.toList
  let slashes := (cs.takeWhile (· == '/')).length
  let anchor := if slashes = 0 then .here else if slashes = 2 then .doubleRoot else .root
  let names := ((pieces cs).map String.ofList).filter fun p => p != "" && p != "."
  ⟨anchor, names⟩

def anchorText : Anchor → String
  | .here => ""
  | .root => "/"
  | .doubleRoot => "//"

/-- The path as a text. -/
def text (p : Path) : String :=
  if p.anchor = .here && p.names.isEmpty then "."
  else anchorText p.anchor ++ "/".intercalate p.names

def isAbsolute (p : Path) : Bool := p.anchor != .here

/-- One path seen from another: an absolute path stays what it is. -/
def append (p q : Path) : Path :=
  if q.isAbsolute then q else { p with names := p.names ++ q.names }

/-- A path seen from another, given as a text. -/
def join (p : Path) (s : String) : Path := p.append (ofString s)

/-- The last name. -/
def name (p : Path) : String := p.names.getLast?.getD ""

def parent (p : Path) : Path := { p with names := p.names.dropLast }

/-- Names without the double dots, each of which takes the name before it away. -/
def collapse (names : List String) : List String :=
  (names.foldl (fun done n => if n = ".." then done.tail else n :: done) []).reverse

/-- The absolute path without double dots that is meant in the directory `cwd`. -/
def resolve (p cwd : Path) : Path :=
  ⟨.root, collapse (cwd.append p).names⟩

/-- The home directory that a variable names; nothing, or slashes alone, is the root. -/
def homeText (home : String) : String :=
  let kept := (home.toList.reverse.dropWhile (· == '/')).reverse
  if kept.isEmpty then "/" else String.ofList kept

/-- The users that every system of this kind has, with their home directories. -/
def systemUsers : List (String × String) :=
  [("root", "/root"), ("daemon", "/usr/sbin"), ("bin", "/bin"), ("sys", "/dev"), ("sync", "/bin"),
    ("games", "/usr/games"), ("man", "/var/cache/man"), ("lp", "/var/spool/lpd"),
    ("mail", "/var/mail"), ("news", "/var/spool/news"), ("uucp", "/var/spool/uucp"),
    ("proxy", "/bin"), ("www-data", "/var/www"), ("backup", "/var/backups"), ("list", "/var/list"),
    ("irc", "/run/ircd"), ("_apt", "/nonexistent"), ("nobody", "/nonexistent")]

/-- Who has which home directory. -/
structure Homes where
  own : String
  others : List (String × String) := systemUsers

/-- Replaces a first name of the form `~` or `~user` by the home directory; none if there is no
such user, or if the home directory itself begins with `~`. -/
def expandHome? (p : Path) (homes : Homes) : Option Path :=
  match p.anchor, p.names with
  | .here, first :: rest =>
    match first.toList with
    | '~' :: user =>
      let home :=
        if user.isEmpty then some homes.own else homes.others.lookup (String.ofList user)
      match home.map homeText with
      | none => none
      | some h =>
        if h.front = '~' then none
        else
          let start := ofString h
          some { start with names := start.names ++ rest }
    | _ => some p
  | _, _ => some p

end Path

end ToolHost.Machine
