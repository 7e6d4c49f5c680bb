import Mathlib
import ToolHost.Proofs.Run
import ToolHost.Proofs.Session.Trailing

/-!
# The display of a name

What is put on display under a name comes from its processes one after another, in the order in
which they were created. The part of each is what a fresh relay shows of what was read of that
process, and what was read is what the process wrote, from its first octet on, without a gap. A
process that was replaced, or whose stop has returned, shows nothing any more.
-/
namespace ToolHost

open Session (Relayed uttered heard displayed showing recount onDisplay)

/-- With a deed, a process has come to where it may show nothing any more: another one was created
after it, or a call that stops the session returns. -/
def Deed.Retires (d : Deed) (ds : List Deed) (name : SessionName) (pid : Pid) : Prop :=
  ((d.house.act d.action).house.room name).pids.getLast? ≠ some pid ∨
    ∃ b id reply, d.action.session? = some (name, b) ∧ (id, name, .stop) ∈ begun ds ∧
      (d.house.act d.action).returned = some (id, reply)

namespace Run

variable {ds later earlier : List Deed} {d : Deed} {h : House}

/-- A deed makes a run go on. -/
theorem upTo (run : Run (later ++ d :: earlier) h) :
    Run (d :: earlier) (d.house.act d.action).house := by
  obtain ⟨before, call, birth⟩ := run.back
  exact before.act d.action call birth

/-- A call that stops a session does not fail, and it returns when nothing is recorded, nothing runs
and no relay goes on. -/
theorem emptied (run : Run (later ++ d :: earlier) h) (calm : Calm (later ++ d :: earlier))
    {name : SessionName} {b : Session.Action} (ha : d.action.session? = some (name, b))
    {id : CallId} {reply : Except Trouble Reply}
    (stop : (id, name, .stop) ∈ begun (later ++ d :: earlier))
    (returned : (d.house.act d.action).returned = some (id, reply)) :
    reply = .ok .nothing ∧
      Session.Stage.vacant.Holds ((d.house.act d.action).house.room name) := by
  obtain ⟨before, call, birth⟩ := run.back
  obtain ⟨e, he, rfl⟩ := (d.house.returned_act ha).mp returned
  rw [before.room_act call birth ha, if_pos rfl]
  have mem : ⟨d.house.room name, d.house.setting, b⟩ ∈ deedsAt name (later ++ d :: earlier) :=
    mem_deedsAt.mpr ⟨d, by simp, b, ha, rfl⟩
  obtain ⟨rfl, vacant⟩ :=
    (run.course name).emptied (calm.room name) mem he (mem_calls_deedsAt.mpr stop)
  exact ⟨rfl, vacant⟩

theorem retired (run : Run (later ++ d :: earlier) h) (calm : Calm (later ++ d :: earlier))
    {name : SessionName} {pid : Pid}
    (mem : pid ∈ ((d.house.act d.action).house.room name).pids)
    (retires : d.Retires (later ++ d :: earlier) name pid) :
    displayed pid (Session.log (deedsAt name later)) = [] := by
  have k := run.course name
  rw [deedsAt_append] at k
  refine ((run.upTo.course name).stays_settled k ⟨mem, fun relays => ?_⟩).2
  rcases retires with replaced | ⟨b, id, reply, ha, stop, returned⟩
  · have calmUpTo : Calm (d :: earlier) := fun x hx => calm x (List.mem_append_right _ hx)
    exact replaced (((run.upTo.course name).trailing (calmUpTo.room name)).last pid relays)
  · exact (run.emptied calm ha stop returned).2.2 pid (.inr relays)

/-- What was told of the processes of a name, and where the output of which one was shown to its
end. -/
theorem exists_relayed (run : Run ds h) (name : SessionName) :
    ∃ isOver : Pid → Bool, ∀ p ∈ (h.room name).pids,
      Relayed ((h.room name).child p) (uttered p (Session.log (deedsAt name ds)))
        (heard p (Session.log (deedsAt name ds))) (displayed p (Session.log (deedsAt name ds)))
        (isOver p) := by
  have airs := (run.course name).aired.airs
  choose! isOver relayed using fun p => (airs p).1
  exact ⟨isOver, relayed⟩

end Run

/-- In every house that a run leads to in which nobody gives up: what was put on display under a
name is, process by process in the order in which they were created, what a fresh relay shows of
what was read of each, which is what it wrote, from the beginning and without a gap; the display
holds just that as far as it was not cleared; and once a process was replaced, or a stop has
returned, it is put on display no more. -/
theorem displayed_in_order {ds : List Deed} {h : House} (run : Run ds h) (calm : Calm ds)
    (name : SessionName) :
    (∃ isOver : Pid → Bool,
      (∀ p ∈ (h.room name).pids,
        Relayed ((h.room name).child p) (uttered p (Session.log (deedsAt name ds)))
          (heard p (Session.log (deedsAt name ds)))
          (displayed p (Session.log (deedsAt name ds))) (isOver p)) ∧
      recount (·.text?) (Session.log (deedsAt name ds)) =
        (h.room name).pids.flatMap fun p =>
          showing (isOver p) (heard p (Session.log (deedsAt name ds)))) ∧
    (h.room name).display.getD [] = onDisplay (Session.log (deedsAt name ds)) ∧
    ∀ later d earlier, ds = later ++ d :: earlier →
      ∀ p ∈ ((d.house.act d.action).house.room name).pids, d.Retires ds name p →
        displayed p (Session.log (deedsAt name later)) = [] := by
  obtain ⟨isOver, relayed⟩ := run.exists_relayed name
  refine ⟨⟨isOver, relayed, ?_⟩, (run.course name).aired.display, ?_⟩
  · rw [((run.course name).trailing (calm.room name)).texts]
    exact List.flatMap_congr fun p hp => (relayed p hp).shown
  · rintro later d earlier rfl p mem retires
    exact run.retired calm mem retires

/-- A process writes in red and is replaced while it does; what comes after it is not red. -/
def handover : List Action :=
  [.begin 1 (.session (.text "x") (.start ⟨.here, []⟩)),
    .room (.text "x") (.launched 1 (.ok ⟨7, {}⟩)), .room (.text "x") (.relay 7),
    .room (.text "x") (.output 7 [27, 91, 51, 49, 109, 97]), .room (.text "x") (.relay 7),
    .begin 2 (.session (.text "x") (.restart ⟨.here, []⟩)), .room (.text "x") (.exit 7 0),
    .room (.text "x") (.relay 7), .room (.text "x") (.wake 2), .room (.text "x") (.resume 2),
    .room (.text "x") (.launched 2 (.ok ⟨8, {}⟩)), .room (.text "x") (.output 8 [98]),
    .room (.text "x") (.relay 8)]

theorem displayed_in_order_handover :
    (∃ isOver : Pid → Bool,
      recount (·.text?) (Session.log (deedsAt (.text "x") (play [] furnished handover).1)) =
        showing (isOver 7) [[27, 91, 51, 49, 109, 97]] ++ showing (isOver 8) [[98]]) ∧
    ((play [] furnished handover).2.room (.text "x")).display.map (·.map (·.plain)) =
      some [['a'], ['b']] ∧
    displayed 7 (Session.log (deedsAt (.text "x") ((play [] furnished handover).1.take 2))) = [] := by
  have run := Run.furnished.play handover (by decide +kernel)
  obtain ⟨⟨isOver, _, texts⟩, _, retired⟩ :=
    displayed_in_order run (by decide +kernel) (.text "x")
  have pids : ((play [] furnished handover).2.room (.text "x")).pids = [7, 8] := by decide +kernel
  have red : heard 7 (Session.log (deedsAt (.text "x") (play [] furnished handover).1)) =
      [[27, 91, 51, 49, 109, 97]] := by decide +kernel
  have plain : heard 8 (Session.log (deedsAt (.text "x") (play [] furnished handover).1)) =
      [[98]] := by decide +kernel
  refine ⟨⟨isOver, ?_⟩, by decide +kernel, ?_⟩
  · rw [texts, pids]
    simp only [List.flatMap_cons, List.flatMap_nil, List.append_nil, red, plain]
  · refine retired _ ((play [] furnished handover).1.get ⟨2, by decide +kernel⟩)
      ((play [] furnished handover).1.drop 3) ?_ 7 (by decide +kernel) (.inl (by decide +kernel))
    rw [List.get_eq_getElem, ← List.drop_eq_getElem_cons, List.take_append_drop]

end ToolHost
