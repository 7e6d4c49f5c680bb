import ToolHost.Board
import ToolHost.Rehearsal.Agenda
import ToolHost.Terminal.Filter

/-!
# Viewings

A rehearsal of a display in memory: portions of output are put up at set times, and one watcher
after another waits for a text.
-/
namespace ToolHost.Rehearsal

open Board (Turn)

/-- What can run. -/
inductive ViewingWork
  | job (j : Board.Job)
  /-- A portion of output is put up. -/
  | portion (chars : List Char)
  /-- The time of a watcher is over. -/
  | timeOver (id : CallId)
  deriving DecidableEq

structure Viewing where
  board : Board := {}
  filter : Terminal.Filter := {}
  ready : List ViewingWork := []
  /-- How much of what is ready belongs to the current round. -/
  left : Nat := 0
  agenda : Agenda ViewingWork := {}
  clock : Seconds := .zero
  nextCall : CallId := 1

namespace Viewing

def absorb (v : Viewing) (t : Turn) : Viewing :=
  { v with board := t.board, ready := v.ready ++ t.jobs.map .job }

/-- Puts a portion of output up, if it can be read. -/
def putUp (v : Viewing) (chars : List Char) : Viewing :=
  let (text, filter) := v.filter.feed chars
  if v.filter.canRead chars then { v with filter }.absorb (v.board.append text)
  else { v with filter := { filter with style := v.filter.style } }

def clear (v : Viewing) : Viewing := { v with board := v.board.clear }

/-- Lets portions of output be put up after some time each. -/
def schedule (v : Viewing) (portions : List (Seconds × List Char)) : Viewing :=
  { v with agenda := portions.foldl (fun a (delay, chars) =>
      a.insert (v.clock.after delay) (.portion chars)) v.agenda }

/-- Whether an entry of the agenda still matters. -/
def matters (b : Board) : ViewingWork → Bool
  | .timeOver id => (b.watcher? id).isSome
  | _ => true

/-- Begins a round: what is due becomes ready. If nothing is, time passes until something is. -/
def beginRound (v : Viewing) : Option Viewing :=
  let agenda := v.agenda.dropStale (matters v.board) v.agenda.heap.size
  let clock? :=
    if v.ready.isEmpty then agenda.head?.map fun e => v.clock.latest e.1 else some v.clock
  clock?.map fun clock =>
    let (xs, agenda) := agenda.due clock agenda.heap.size
    let ready := v.ready ++ xs
    { v with clock, agenda, ready, left := ready.length }

/-- Runs until a watch ends; it may never. -/
def run : Nat → Viewing → Viewing × Option Bool
  | 0, v => (v, none)
  | fuel + 1, v =>
    match v.left, v.ready with
    | left + 1, w :: rest =>
      let v := { v with left, ready := rest }
      match w with
      | .portion chars => run fuel (v.putUp chars)
      | .timeOver id => run fuel (v.absorb (v.board.release id))
      | .job j =>
        let t := v.board.perform j
        match t.ended with
        | some (_, isFound) => (v.absorb t, some isFound)
        | none => run fuel (v.absorb t)
    | _, _ =>
      match v.beginRound with
      | some v => run fuel v
      | none => (v, none)

/-- The most steps of a viewing. -/
def stepLimit : Nat := 1000000

/-- Waits until a text shows up. Without a time there is no limit to the waiting. -/
def await (v : Viewing) (wanted : List Char) (time : Option Seconds) : Viewing × Option Bool :=
  let id := v.nextCall
  let hasTime := time.all Seconds.isPositive
  let agenda :=
    match time with
    | some length =>
      if hasTime then v.agenda.insert (v.clock.after length) (.timeOver id) else v.agenda
    | none => v.agenda
  let v := { v with agenda, nextCall := id + 1 }
  run stepLimit (v.absorb (v.board.watch id wanted hasTime))

end Viewing

end ToolHost.Rehearsal
