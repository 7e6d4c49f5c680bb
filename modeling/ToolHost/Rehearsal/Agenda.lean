import ToolHost.Seconds

/-!
# Agendas

What is to happen at which time, kept as a binary heap in an array. What comes out first is never
later than the rest; which of several entries for the same time it is follows from how the heap is
kept.
-/
namespace ToolHost.Rehearsal

structure Agenda (α : Type) where
  heap : Array (Seconds × α) := #[]

namespace Agenda

variable {α : Type}

/-- Moves the entry at a position towards the root until the one above it is no later. -/
def rise (heap : Array (Seconds × α)) : Nat → Nat → Array (Seconds × α)
  | 0, _ => heap
  | fuel + 1, i =>
    if i = 0 then heap
    else
      let above := (i - 1) / 2
      match heap[i]?, heap[above]? with
      | some x, some y =>
        if x.1.isBefore y.1 then rise ((heap.set! i y).set! above x) fuel above else heap
      | _, _ => heap

/-- Moves the entry at a position to the leaves, along the earlier ones; gives its position. -/
def sink (heap : Array (Seconds × α)) : Nat → Nat → Array (Seconds × α) × Nat
  | 0, i => (heap, i)
  | fuel + 1, i =>
    let left := 2 * i + 1
    match heap[i]?, heap[left]? with
    | some x, some l =>
      match heap[left + 1]? with
      | some r =>
        if l.1.isBefore r.1 then sink ((heap.set! i l).set! left x) fuel left
        else sink ((heap.set! i r).set! (left + 1) x) fuel (left + 1)
      | none => sink ((heap.set! i l).set! left x) fuel left
    | _, _ => (heap, i)

def insert (a : Agenda α) (time : Seconds) (x : α) : Agenda α :=
  ⟨rise (a.heap.push (time, x)) (a.heap.size + 1) a.heap.size⟩

/-- The first entry. -/
def head? (a : Agenda α) : Option (Seconds × α) := a.heap[0]?

/-- The agenda without its first entry. The last one takes its place and sinks from there. -/
def tail (a : Agenda α) : Agenda α :=
  match a.heap.back? with
  | none => a
  | some last =>
    let rest := a.heap.pop
    if rest.isEmpty then ⟨rest⟩
    else
      let (heap, i) := sink (rest.set! 0 last) rest.size 0
      ⟨rise heap rest.size i⟩

/-- The agenda without first entries that no longer matter. -/
def dropStale (matters : α → Bool) : Nat → Agenda α → Agenda α
  | 0, a => a
  | fuel + 1, a =>
    match a.head? with
    | some (_, x) => if matters x then a else dropStale matters fuel a.tail
    | none => a

/-- Takes out what is due at a time, in order. -/
def due (time : Seconds) : Nat → Agenda α → List α × Agenda α
  | 0, a => ([], a)
  | fuel + 1, a =>
    match a.head? with
    | some (t, x) =>
      if t.isDue time then
        let (xs, rest) := due time fuel a.tail
        (x :: xs, rest)
      else ([], a)
    | none => ([], a)

end Agenda

end ToolHost.Rehearsal
