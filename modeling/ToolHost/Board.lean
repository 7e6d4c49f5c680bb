import ToolHost.Happening

/-!
# The display in memory

A board keeps what is put on display, and lets any number of watchers wait until a text shows up.
All of them share one flag: putting something up raises it and wakes those who sleep, and a watcher
that does not find its text lowers it before it goes to sleep. A watcher whose time runs out is
told to give up, and gives up even if its text has shown up since.
-/
namespace ToolHost

namespace Board

/-- Where a watcher stands. -/
inductive Stand
  /-- About to look. -/
  | awake
  | asleep
  | found
  | gaveUp
  deriving DecidableEq, Repr

structure Watcher where
  id : CallId
  wanted : List Char
  stand : Stand := .awake
  /-- The watcher is to give up. -/
  isDismissed : Bool := false
  /-- The one who waits for the watcher is about to go on. -/
  isReleased : Bool := false
  deriving DecidableEq, Repr

end Board

structure Board where
  texts : List Terminal.StyledText := []
  isRaised : Bool := false
  watchers : List Board.Watcher := []
  /-- Those who sleep, in the order in which they fell asleep. -/
  sleepers : List CallId := []
  deriving DecidableEq, Repr

namespace Board

/-- What becomes ready to run. -/
inductive Job
  /-- A watcher looks at the board. -/
  | look (id : CallId)
  /-- The one who waits for a watcher is told that it has ended. -/
  | release (id : CallId)
  /-- The one who waits for a watcher goes on. -/
  | conclude (id : CallId)
  deriving DecidableEq, Repr

/-- What a step brings about: jobs, and a watch that ended with or without success. -/
structure Turn where
  board : Board
  jobs : List Job := []
  ended : Option (CallId × Bool) := none

/-- Whether one text stands somewhere in another. -/
def occurs (wanted : List Char) : List Char → Bool
  | [] => wanted.isEmpty
  | c :: rest => wanted.isPrefixOf (c :: rest) || occurs wanted rest

def plain (b : Board) : List Char := b.texts.flatMap Terminal.StyledText.plain

/-- Whether a text is on display, be it in several parts. -/
def shows (b : Board) (wanted : List Char) : Bool :=
  occurs wanted b.plain

def watcher? (b : Board) (id : CallId) : Option Watcher := b.watchers.find? (·.id = id)

def setWatcher (b : Board) (w : Watcher) : Board :=
  { b with watchers := b.watchers.map fun v => if v.id = w.id then w else v }

/-- Puts a text on display. -/
def append (b : Board) (t : Terminal.StyledText) : Turn :=
  let b := { b with texts := b.texts ++ [t] }
  if b.isRaised then { board := b }
  else
    let watchers := b.watchers.map fun w =>
      if w.stand = .asleep then { w with stand := .awake } else w
    { board := { b with isRaised := true, watchers, sleepers := [] }
      jobs := b.sleepers.map .look }

def clear (b : Board) : Board := { b with texts := [] }

/-- Begins to watch. Without any time the watcher is told to give up at once. -/
def watch (b : Board) (id : CallId) (wanted : List Char) (hasTime : Bool) : Turn :=
  { board := { b with watchers := b.watchers ++ [{
      id, wanted, isDismissed := !hasTime }] }
    jobs := [.look id] }

/-- A watcher looks at the board: it finds its text, gives up, or goes to sleep. -/
def look (b : Board) (id : CallId) : Turn :=
  match b.watcher? id with
  | none => { board := b }
  | some w =>
    if w.stand ≠ .awake then { board := b }
    else if w.isDismissed then
      { board := b.setWatcher { w with stand := .gaveUp }, jobs := [.release id] }
    else if b.shows w.wanted then
      { board := b.setWatcher { w with stand := .found }, jobs := [.release id] }
    else
      { board := { b.setWatcher { w with stand := .asleep } with
          isRaised := false, sleepers := b.sleepers ++ [id] } }

/-- Lets the one who waits for a watcher go on, because it has ended or its time is over. -/
def release (b : Board) (id : CallId) : Turn :=
  match b.watcher? id with
  | none => { board := b }
  | some w =>
    if w.isReleased then { board := b }
    else { board := b.setWatcher { w with isReleased := true }, jobs := [.conclude id] }

/-- The one who waits for a watcher goes on: the watch has ended, or the watcher is told to give
up. -/
def conclude (b : Board) (id : CallId) : Turn :=
  match b.watcher? id with
  | none => { board := b }
  | some w =>
    let without := { b with watchers := b.watchers.filter (·.id != id) }
    match w.stand with
    | .found => { board := without, ended := some (id, true) }
    | .gaveUp => { board := without, ended := some (id, false) }
    | .awake => { board := b.setWatcher { w with isDismissed := true, isReleased := false } }
    | .asleep =>
      { board := { b.setWatcher { w with
          isDismissed := true, isReleased := false, stand := .awake } with
          sleepers := b.sleepers.filter (· != id) }
        jobs := [.look id] }

def perform (b : Board) : Job → Turn
  | .look id => b.look id
  | .release id => b.release id
  | .conclude id => b.conclude id

end Board

end ToolHost
