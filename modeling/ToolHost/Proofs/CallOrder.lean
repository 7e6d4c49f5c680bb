import Mathlib
import ToolHost.Proofs.LineDelivery

/-!
# In which order lines are written

Of two lines that return, the one that was sent first is written first, and to no later process,
unless the other one overtakes it. That happens exactly if the second is sent while the first still
waits for a latch that has just been given back: nobody holds the latch then, so the second does not
queue up.
-/
namespace ToolHost

open Session (InOrder)

/-- Of two lines of a name that return, the first is in order exactly if it does not still wait for
an open latch when the second is sent. -/
theorem in_order_iff {ds later earlier : List Deed} {d : Deed} {h : House} (run : Run ds h)
    (split : ds = later ++ d :: earlier) {name : SessionName} {a b : CallId} {first second : String}
    (sent : (a, name, .send first) ∈ begun earlier)
    (sends : d.action.call? = some (b, name, .send second)) {x y : Reply}
    (answered : Returned ds name a (.ok x)) (replied : Returned ds name b (.ok y)) :
    ∃ v ∈ writes h.trace, ∃ w ∈ writes h.trace, v.call = a ∧ v.piece = pieceOf first ∧
      w.call = b ∧ w.piece = pieceOf second ∧
      (InOrder (h.room name).pids (writes h.trace) v w ↔ ¬ (d.house.room name).LetsPass a) := by
  subst split
  have began : (b, name, .send second) ∈ begun (later ++ d :: earlier) :=
    List.mem_filterMap.mpr ⟨d, by simp, sends⟩
  have begun_first : (a, name, .send first) ∈ begun (later ++ d :: earlier) := by
    refine (List.Sublist.filterMap _ ?_).subset sent
    exact (List.sublist_cons_self _ _).trans (List.sublist_append_right _ _)
  obtain ⟨v, hv, rfl, pv⟩ := run.exists_write begun_first answered
  obtain ⟨w, hw, rfl, pw⟩ := run.exists_write began replied
  have sub := run.writes_sublist name
  have nodup : (writes h.trace).Nodup := .of_map _ run.once
  have c := run.course name
  have deeds : deedsAt name (later ++ d :: earlier) = deedsAt name later ++
      ⟨d.house.room name, d.house.setting, .begin w.call (.send second)⟩ ::
        deedsAt name earlier := by
    rw [deedsAt_append, deedsAt_cons_self (Action.session?_of_call? sends)]
  rw [deeds] at c hv hw sub
  have before : v.call ∈ (Session.calls (deedsAt name earlier)).map (·.1) :=
    List.mem_map.mpr ⟨_, mem_calls_deedsAt.mpr sent, rfl⟩
  refine ⟨v, sub.subset hv, w, sub.subset hw, rfl, pv, rfl, pw, ?_⟩
  by_cases pass : (d.house.room name).LetsPass v.call
  · have turned := c.sublist_of_letsPass hv hw rfl pass
    exact iff_of_false (InOrder.not_of_sublist nodup (turned.trans sub)
      (c.pids_of_sublist.2 turned)) (not_not.mpr pass)
  · have straight := c.sublist_of_not_letsPass hv hw before rfl pass
    exact iff_of_true (InOrder.of_sublist c.recent.nodup (straight.trans sub)
      (c.pids_of_sublist.2 straight)) pass

/-- Two lines are sent while a session is being started. -/
def patience : List Action :=
  [.begin 1 (.session (.text "x") (.start ⟨.here, []⟩)), .begin 2 (.session (.text "x") (.send "a")),
    .begin 3 (.session (.text "x") (.send "b")), .room (.text "x") (.launched 1 (.ok ⟨7, {}⟩)),
    .room (.text "x") (.resume 2), .room (.text "x") (.resume 3)]

theorem in_order_patience : ∃ v w : Write, v.call = 2 ∧ w.call = 3 ∧
    InOrder ((play [] furnished patience).2.room (.text "x")).pids
      (writes (play [] furnished patience).2.trace) v w := by
  let ds := (play [] furnished patience).1
  let d := ds.get ⟨3, by decide +kernel⟩
  have run : Run ds (play [] furnished patience).2 :=
    Run.furnished.play patience (by decide +kernel)
  have split : ds = ds.take 3 ++ d :: ds.drop 4 := rfl
  have sent : (2, .text "x", .send "a") ∈ begun (ds.drop 4) := by decide +kernel
  have sends : d.action.call? = some (3, .text "x", .send "b") := rfl
  have answered : Returned ds (.text "x") 2 (.ok .nothing) :=
    ⟨ds.get ⟨1, by decide +kernel⟩, List.get_mem _ _, .resume 2, rfl, rfl⟩
  have replied : Returned ds (.text "x") 3 (.ok .nothing) :=
    ⟨ds.get ⟨0, by decide +kernel⟩, List.get_mem _ _, .resume 3, rfl, rfl⟩
  obtain ⟨v, _, w, _, hv, _, hw, _, order⟩ := in_order_iff run split sent sends answered replied
  refine ⟨v, w, hv, hw, order.mpr ?_⟩
  intro pass
  exact absurd pass.free (by decide +kernel)

/-- The second line is sent when the session has just been started and the first has not yet been
let in. -/
def race : List Action :=
  [.begin 1 (.session (.text "x") (.start ⟨.here, []⟩)), .begin 2 (.session (.text "x") (.send "a")),
    .room (.text "x") (.launched 1 (.ok ⟨7, {}⟩)), .begin 3 (.session (.text "x") (.send "b")),
    .room (.text "x") (.resume 2)]

/-- There both lines return, and the second is written first. -/
theorem not_in_order_race :
    Returned (play [] furnished race).1 (.text "x") 2 (.ok .nothing) ∧
    Returned (play [] furnished race).1 (.text "x") 3 (.ok .nothing) ∧
    begun (play [] furnished race).1 = [(3, .text "x", .send "b"), (2, .text "x", .send "a"),
      (1, .text "x", .start ⟨.here, []⟩)] ∧
    ⟨2, 7, pieceOf "a"⟩ ∈ writes (play [] furnished race).2.trace ∧
    ⟨3, 7, pieceOf "b"⟩ ∈ writes (play [] furnished race).2.trace ∧
    ¬ InOrder ((play [] furnished race).2.room (.text "x")).pids
      (writes (play [] furnished race).2.trace) ⟨2, 7, pieceOf "a"⟩ ⟨3, 7, pieceOf "b"⟩ := by
  refine ⟨?_, ?_, by decide +kernel, by decide +kernel, by decide +kernel, ?_⟩
  · exact ⟨(play [] furnished race).1.get ⟨0, by decide +kernel⟩, List.get_mem _ _, .resume 2, rfl,
      rfl⟩
  · exact ⟨(play [] furnished race).1.get ⟨1, by decide +kernel⟩, List.get_mem _ _,
      .begin 3 (.send "b"), rfl, rfl⟩
  · intro h
    exact absurd (h.same rfl) (by decide +kernel)

end ToolHost
