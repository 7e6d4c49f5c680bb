import ToolHost.Proofs.Board.Watches

/-!
# What each step of a board does

One equation for each way in which a step can go: for a text that is put up, for the beginning of a
watch, for each job, and for an alarm.
-/
namespace ToolHost.Board.Show

open Terminal (StyledText)

theorem mem_of_watcher? {b : Board} {id : CallId} {v : Watcher} (h : b.watcher? id = some v) :
    v ∈ b.watchers ∧ v.id = id :=
  ⟨List.mem_of_find?_eq_some h, by simpa using List.find?_some h⟩

theorem ne_of_watcher? {b : Board} {id : CallId} (h : b.watcher? id = none) :
    ∀ v ∈ b.watchers, v.id ≠ id := by
  simpa [watcher?] using h

variable {τ : Type} {s : Show τ} {v : Watcher} {id : CallId}

theorem putUp_eq (s : Show τ) (x : StyledText) :
    s.putUp x = { s with
      board := (s.board.append x).board
      ready := s.ready ++ (s.board.append x).jobs
      log := s.log ++ [(s.clock, x)] } := by
  have none : (s.board.append x).ended = none := by
    rw [append]
    dsimp only
    split <;> rfl
  simp [putUp, absorb, none]

theorem append_of_raised {b : Board} (up : b.isRaised = true) (x : StyledText) :
    b.append x = { board := { b with texts := b.texts ++ [x] } } := by
  simp [append, up]

theorem append_of_lowered {b : Board} (down : b.isRaised = false) (x : StyledText) :
    b.append x = {
      board := { b with
        texts := b.texts ++ [x]
        isRaised := true
        watchers := b.watchers.map fun v =>
          if v.stand = .asleep then { v with stand := .awake } else v
        sleepers := [] }
      jobs := b.sleepers.map .look } := by
  simp [append, down]

theorem begin_eq [Add τ] (s : Show τ) (id : CallId) (wanted : List Char) (time : Option τ) :
    s.begin id wanted time = { s with
      board := { s.board with watchers := s.board.watchers ++ [⟨id, wanted, .awake, false, false⟩] }
      ready := s.ready ++ [.look id]
      watches := s.watches ++ [⟨id, wanted, s.clock, time⟩]
      alarms := s.alarms ++ ((time.map (s.clock + ·)).map (·, id)).toList } := by
  simp [begin, watch, absorb]

theorem perform_of_none {j : Job} (none : s.board.watcher? j.id = none) :
    s.perform j = { s with ready := s.ready.erase j } := by
  cases j <;> simp_all [perform, Board.perform, Board.look, Board.release, Board.conclude, absorb]

theorem look_idle (some : s.board.watcher? v.id = some v) (notAwake : v.stand ≠ .awake) :
    s.perform (.look v.id) = { s with ready := s.ready.erase (.look v.id) } := by
  simp [perform, Board.perform, Board.look, absorb, some, notAwake]

theorem look_gaveUp (some : s.board.watcher? v.id = some v) (awake : v.stand = .awake)
    (dismissed : v.isDismissed = true) :
    s.perform (.look v.id) = { s with
      board := s.board.setWatcher { v with stand := .gaveUp }
      ready := s.ready.erase (.look v.id) ++ [.release v.id] } := by
  simp [perform, Board.perform, Board.look, absorb, some, awake, dismissed]

theorem look_found (some : s.board.watcher? v.id = some v) (awake : v.stand = .awake)
    (undismissed : v.isDismissed = false) (shows : s.board.shows v.wanted = true) :
    s.perform (.look v.id) = { s with
      board := s.board.setWatcher { v with stand := .found }
      ready := s.ready.erase (.look v.id) ++ [.release v.id] } := by
  simp [perform, Board.perform, Board.look, absorb, some, awake, undismissed, shows]

theorem look_asleep (some : s.board.watcher? v.id = some v) (awake : v.stand = .awake)
    (undismissed : v.isDismissed = false) (lacks : s.board.shows v.wanted = false) :
    s.perform (.look v.id) = { s with
      board := { s.board.setWatcher { v with stand := .asleep } with
        isRaised := false, sleepers := s.board.sleepers ++ [v.id] }
      ready := s.ready.erase (.look v.id) ++ [] } := by
  simp [perform, Board.perform, Board.look, absorb, some, awake, undismissed, lacks]

theorem release_idle (some : s.board.watcher? v.id = some v) (released : v.isReleased = true) :
    s.perform (.release v.id) = { s with ready := s.ready.erase (.release v.id) } := by
  simp [perform, Board.perform, Board.release, absorb, some, released]

theorem release_eq (some : s.board.watcher? v.id = some v) (unreleased : v.isReleased = false) :
    s.perform (.release v.id) = { s with
      board := s.board.setWatcher { v with isReleased := true }
      ready := s.ready.erase (.release v.id) ++ [.conclude v.id] } := by
  simp [perform, Board.perform, Board.release, absorb, some, unreleased]

theorem conclude_ended (some : s.board.watcher? v.id = some v) (isFound : Bool)
    (stand : v.stand = if isFound then .found else .gaveUp) :
    s.perform (.conclude v.id) = { s with
      board := { s.board with watchers := s.board.watchers.filter (·.id != v.id) }
      ready := s.ready.erase (.conclude v.id) ++ []
      alarms := s.alarms.filter (v.id != ·.2)
      ended := s.ended ++ [(v.id, s.clock, isFound)] } := by
  cases isFound <;> simp_all [perform, Board.perform, Board.conclude, absorb]

theorem conclude_awake (some : s.board.watcher? v.id = some v) (awake : v.stand = .awake) :
    s.perform (.conclude v.id) = { s with
      board := s.board.setWatcher { v with isDismissed := true, isReleased := false }
      ready := s.ready.erase (.conclude v.id) ++ [] } := by
  simp [perform, Board.perform, Board.conclude, absorb, some, awake]

theorem conclude_asleep (some : s.board.watcher? v.id = some v) (asleep : v.stand = .asleep) :
    s.perform (.conclude v.id) = { s with
      board := { s.board.setWatcher
          { v with isDismissed := true, isReleased := false, stand := .awake } with
        sleepers := s.board.sleepers.filter (· != v.id) }
      ready := s.ready.erase (.conclude v.id) ++ [.look v.id] } := by
  simp [perform, Board.perform, Board.conclude, absorb, some, asleep]

variable [LinearOrder τ] {a : τ × CallId}

theorem ring_of_none (none : s.board.watcher? a.2 = none) :
    s.ring a = { s with alarms := s.alarms.erase a } := by
  simp [ring, Board.release, absorb, none]

theorem ring_idle (some : s.board.watcher? a.2 = some v) (released : v.isReleased = true) :
    s.ring a = { s with alarms := s.alarms.erase a } := by
  simp [ring, Board.release, absorb, some, released]

theorem ring_eq (some : s.board.watcher? a.2 = some v) (unreleased : v.isReleased = false) :
    s.ring a = { s with
      board := s.board.setWatcher { v with isReleased := true }
      ready := s.ready ++ [.conclude a.2]
      alarms := s.alarms.erase a } := by
  simp [ring, Board.release, absorb, some, unreleased]

end ToolHost.Board.Show
