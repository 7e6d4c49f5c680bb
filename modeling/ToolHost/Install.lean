import ToolHost.Happening
import ToolHost.Http.Exchange
import ToolHost.Location

/-!
# Installing the artifact

The artifact is fetched only if it is not there, and it appears in its place as a whole or not at
all: it is written under another name in the same directory and then moved over. An installation
has two halves, a test of the place and, if something has to be fetched, what is done with the
response; between them anything may happen.
-/
namespace ToolHost

open Machine (Bytes Errno FileTree Host Path)

/-- What an installation came to. -/
structure Installed where
  path : Path
  /-- How much was written; none if the artifact was there. -/
  size : Option Nat
  deriving DecidableEq, Repr

/-- An installation in a few words. -/
def Installed.written (i : Installed) : String :=
  match i.size with
  | some n => "<InstallResult fetched " ++ i.path.text ++ " (" ++ toString n ++ " bytes)>"
  | none => "<InstallResult present " ++ i.path.text ++ ">"

namespace Install

/-- Where an artifact is to be, and where it comes from. -/
structure Order where
  target : Path
  artifactName : String
  url : String
  deriving DecidableEq, Repr

def Order.path (o : Order) : Path := o.target.join o.artifactName

/-- What is found at the place of the artifact. -/
inductive Finding
  | present
  | missing
  deriving DecidableEq, Repr

/-- The order that is meant by a directory in which `~` may stand for a home directory. -/
def order (h : Host) (target : Path) (artifactName url : String) : Except Breakdown Order :=
  match h.expandHome? target with
  | some target => .ok ⟨target, artifactName, url⟩
  | none => .error .noHome

/-- The first half: whether the artifact is there. -/
def look (h : Host) (o : Order) : Except Breakdown Finding :=
  (Config.Place.exists? h o.path).map fun b => if b then .present else .missing

/-- A step of writing the artifact. -/
inductive Step
  | mkdir
  | create
  | write
  | replace
  deriving DecidableEq, Repr

/-- The step that the system refuses for reasons of its own, and its error. -/
abbrev Refusal := Option (Step × Errno)

def refused (r : Refusal) (s : Step) : Option Errno :=
  r.bind fun (step, e) => if step = s then some e else none

/-- The name under which the artifact is written first, with a number in it. -/
def draftName (artifactName : String) (n : Nat) : String :=
  let digits := (Nat.repr n).toList
  let digits := List.replicate (8 - digits.length) '0' ++ digits
  "." ++ artifactName ++ "." ++ String.ofList digits ++ ".part"

/-- Makes a file for a draft, under a name that is not taken. -/
def createDraft (t : FileTree) (dir : Path) (artifactName : String) :
    Except Errno (FileTree × Machine.Place) :=
  go (t.entries.length + 1) 0
where
  go : Nat → Nat → Except Errno (FileTree × Machine.Place)
    | 0, _ => .error .alreadyExists
    | left + 1, n =>
      match t.createIn dir (draftName artifactName n) [] with
      | .error e => if e = .alreadyExists then go left (n + 1) else .error e
      | .ok made => .ok made

/-- Fills a draft and moves it over. A draft that does not get there is taken away. -/
def moveOver (t : FileTree) (draft : Machine.Place) (o : Order) (content : Bytes) (r : Refusal) :
    FileTree × Option Errno :=
  match refused r .write with
  | some e => (t.erase draft, some e)
  | none =>
    let filled := t.put draft (.file content)
    match refused r .replace with
    | some e => (filled.erase draft, some e)
    | none =>
      match filled.replace draft o.path with
      | .error e => (filled.erase draft, some e)
      | .ok t => (t, none)

/-- Writes the artifact. -/
def store (t : FileTree) (o : Order) (content : Bytes) (r : Refusal) : FileTree × Option Errno :=
  match refused r .mkdir with
  | some e => (t, some e)
  | none =>
    match t.mkdirs o.target with
    | (t, some e) => (t, some e)
    | (t, none) =>
      match refused r .create with
      | some e => (t, some e)
      | none =>
        match createDraft t o.target o.path.name with
        | .error e => (t, some e)
        | .ok (t, draft) => moveOver t draft o content r

/-- Whether a path has a text that the system can take. -/
def isUsable (p : Path) : Bool := !p.text.toList.contains '\x00'

/-- What a response changes, and what is known of it. -/
structure Change where
  files : FileTree
  result : Except Trouble Installed
  trace : List Happening

/-- The second half: what is done with what was received. The latest happening comes first. -/
def receive (t : FileTree) (o : Order) (outcome : Http.Outcome) (r : Refusal) : Change :=
  let failed (f : Failure) : Change := ⟨t, .error (.failure f), []⟩
  match outcome with
  | .broken b => ⟨t, .error (.breakdown b), []⟩
  | .fault reason => failed (.fetch o.url reason none)
  | .response url response =>
    if !response.isSuccess then
      failed (.fetch o.url (Http.reasonPhrase response.status) (some response.status))
    else
      let size := response.body.length
      let fetched := Happening.fetched url response.status size
      let unwritten (t : FileTree) (e : Errno) : Change :=
        ⟨t, .error (.failure (.write o.path.text e.message)), [fetched]⟩
      if !isUsable o.target then ⟨t, .error (.breakdown .badValue), [fetched]⟩
      else if !isUsable o.path then
        match t.mkdirs o.target with
        | (t, some e) => unwritten t e
        | (t, none) => ⟨t, .error (.breakdown .badValue), [fetched]⟩
      else
        match store t o response.body r with
        | (t, some e) => unwritten t e
        | (t, none) => ⟨t, .ok ⟨o.path, some size⟩, [.installed o.path.text size, fetched]⟩

/-- The location of what was installed. -/
def Order.location (o : Order) : Location := ⟨some o.target, .text o.artifactName⟩

end Install

end ToolHost
