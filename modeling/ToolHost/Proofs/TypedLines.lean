import Mathlib
import ToolHost.Proofs.AfterAll
import ToolHost.Proofs.Passing

/-!
# Lines that are typed

The prompt goes through everything that the user enters, as long as each line finds the process of
the session alive, no reply breaks down and no command is about sessions. What has been written then
is what has been typed, line by line.
-/
namespace ToolHost

open Machine (Path)

/-- A line for the session that finds its process finds it alive, and no reply breaks down. -/
structure Deed.Fair (name : SessionName) (d : Deed) : Prop where
  alive : ∀ id line, d.action.call? = some (id, name, .send line) →
    ∀ pid, (d.house.room name).recorded = some pid →
      ((d.house.room name).child pid).hasEnded = false ∧
        ((d.house.room name).child pid).traits.hasInput = true
  safe : d.Safe

/-- Where a process was written to and what, in order. -/
def written (ws : List Write) : List (Pid × Machine.Bytes) :=
  ws.reverse.map fun w => (w.pid, w.piece)

namespace Instant

variable {name : SessionName} {Fair : Deed → Prop} {m m' : Instant Fair} {dir : Path}
  {v : Session.View} {lines : List String} {line : String} {r : Except Trouble Reply}

theorem Answered.equipped {c : Call} (x : m.Answered c r m') (h : m.house.Equipped) :
    m'.house.Equipped :=
  ⟨(Prod.mk.inj x.front_eq).1.trans h.commands, x.named h.named⟩

/-- Since the session was given only lines have begun. They have been written to its process. -/
structure Typed (m : Instant Fair) (name : SessionName) (v : Session.View) (lines : List String) :
    Prop where
  equipped : m.house.Equipped
  recorded : (m.house.room name).recorded = some v.pid
  given : ∃ id, Returned m.done name id (.ok (.session v)) ∧
    ∀ x ∈ begun m.done, x.1 = id ∨ x.2.2.isLine
  written : written (writes m.house.trace) = lines.map fun line => (v.pid, pieceOf line)

namespace Typed

/-- As long as no call begins everything stays as it is. -/
theorem after (h : m.Typed name v lines) (es : ∃ es, m'.done = es ++ m.done ∧ begun es = [])
    (equipped : m'.house.Equipped) : m'.Typed name v lines := by
  obtain ⟨es, done, none⟩ := es
  obtain ⟨id, returned, lined⟩ := h.given
  have nothing : ∀ x ∈ begun es, False := by simp [none]
  refine ⟨equipped, ?_, ⟨id, returned.mono (by simp [done]), ?_⟩, ?_⟩
  · rw [recorded_eq done fun x hx => (nothing x hx).elim]
    exact h.recorded
  · rw [done, begun_append, none]
    exact lined
  · rw [writes_eq done fun x hx => (nothing x hx).elim]
    exact h.written

theorem quiet (h : m.Typed name v lines) (x : m.Quiet m') : m'.Typed name v lines :=
  h.after x.after (x.equipped h.equipped)

/-- The prompt may be told to go on or to end. -/
theorem altered {b : Bool} (h : m.Typed name v lines)
    (x : m.Altered ({ · with isPrompting := b }) m') : m'.Typed name v lines := by
  refine h.after x.after ?_
  rw [x.house_eq]
  exact ⟨h.equipped.commands, h.equipped.named⟩

/-- A line is written to the process, which is alive. -/
theorem send {m m' : Instant (Deed.Fair name)} (h : m.Typed name v lines)
    (x : m.Answered (.session name (.send line)) r m') : m'.Typed name v (lines ++ [line]) := by
  obtain ⟨id, es, done, began, mem, -⟩ := x.begins
  obtain ⟨start, returned, lined⟩ := h.given
  refine ⟨x.equipped h.equipped, ?_, ⟨start, returned.mono (by simp [done]), ?_⟩, ?_⟩
  · rw [recorded_eq done (by rw [began]; simp [Session.Request.isLine])]
    exact h.recorded
  · rw [done, begun_append, began]
    intro y hy
    rcases List.mem_cons.mp hy with rfl | hy
    · exact .inr rfl
    · exact lined y hy
  · obtain ⟨runs, input⟩ := (m'.fair _ mem).alive id line rfl v.pid h.recorded
    obtain ⟨call, news⟩ := x.written h.recorded runs input
    rw [news, ToolHost.written, List.reverse_cons, List.map_append, ← ToolHost.written, h.written]
    simp

end Typed

/-- If the session was started, what was written are the lines, all to its process. -/
def Delivered (m : Instant Fair) (name : SessionName) (dir : Path) (lines : List String) : Prop :=
  ∀ id v, (id, name, .start dir) ∈ begun m.done → Returned m.done name id (.ok (.session v)) →
    ToolHost.written (writes m.house.trace) = lines.map fun line => (v.pid, pieceOf line)

theorem Typed.delivered (h : m.Typed name v lines) : m.Delivered name dir lines := by
  intro id u began back
  obtain ⟨start, returned, lined⟩ := h.given
  rcases lined _ began with rfl | line
  · obtain rfl : u = v := by simpa using m.run.reply_unique back returned
    exact h.written
  · cases line

/-- Stops write nothing. -/
theorem Stops.delivered (x : m.Stops m') (h : m.Delivered name dir lines) :
    m'.Delivered name dir lines := by
  obtain ⟨es, done, stop⟩ := x
  intro id v began back
  rw [done, begun_append] at began
  rcases List.mem_append.mp began with began | began
  · cases stop _ began
  · obtain ⟨reply, returned⟩ := m.returned _ began
    have same := m'.run.reply_unique (returned.mono (by simp [done])) back
    rw [writes_eq done fun x hx => by rw [stop x hx]; rfl]
    exact h id v began (same ▸ returned)

end Instant

/-! ## A session that is started -/

theorem Location.artifactPath_of_unnamed {l : Location} (unnamed : ¬ l.Named) :
    ∃ t, l.artifactPath = .error t := by
  unfold artifactPath
  split
  · exact ⟨_, rfl⟩
  · next n _ named => exact absurd ⟨n, named⟩ unnamed
  · exact ⟨_, rfl⟩

/-- Without a name of the artifact that leads to a path, a session is not started. -/
theorem Instant.Answered.named_of_started {Fair : Deed → Prop} {m m' : Instant Fair}
    {name : SessionName} {dir : Path} {reply : Reply} (rooms : m.house.rooms = [])
    (x : m.Answered (.session name (.start dir)) (.ok reply) m') : m.house.location.Named := by
  obtain ⟨id, es, done, began, mem, returned⟩ := x.begins
  by_contra unnamed
  have fails {s : Session.Setting} {t : Trouble} (none : s.command = .error t) :
      (({ name } : Session.Room).act s (.begin id (.start dir))).returned =
        some (id, .failed t) := by
    obtain ⟨command, grace, extra⟩ := s
    obtain rfl : command = .error t := none
    rfl
  obtain ⟨t, missing⟩ : ∃ t, m.house.sessionCommand = .error t := by
    obtain ⟨t, ht⟩ := Location.artifactPath_of_unnamed unnamed
    exact ⟨t, by rw [House.sessionCommand, ht]; rfl⟩
  have room : m.house.room name = { name } := by rw [House.room, rooms]; rfl
  have back : Returned m'.done name id (.error t) := by
    refine ⟨_, mem, .begin id (.start dir), rfl, ?_⟩
    refine (House.returned_act _ rfl).mpr ⟨.failed t, ?_, rfl⟩
    rw [room]
    exact fails missing
  cases m'.run.reply_unique returned back

end ToolHost

namespace ToolHost.Prompt

open Conduct Machine Terminal.Markup

variable {name : SessionName} {v : Session.View} {lines : List String} {d : Desk}
  {inputs : List Input}

/-! ## Reading lines -/

/-- A line for the session: one that does not begin with a slash. -/
def plain? : Input → Option String
  | .interrupt => none
  | .line text =>
    match text.toList with
    | '/' :: _ => none
    | _ => some text

/-- The lines for the session, of all that is read. -/
def plainLines (inputs : List Input) : List String := (heeded inputs).filterMap plain?

theorem heeded_cons {input : Input} (stays : leaves input = false) (left : List Input) :
    heeded (input :: left) = input :: heeded left := by
  simp [heeded, stays]

theorem plainLines_cons {input : Input} (stays : leaves input = false) (left : List Input) :
    plainLines (input :: left) = (plain? input).toList ++ plainLines left := by
  rw [plainLines, heeded_cons stays]
  cases h : plain? input <;> simp [h, plainLines]

theorem plainLines_of_leaves {input : Input} (quits : leaves input) (left : List Input) :
    plainLines (input :: left) = [] := by
  simp [plainLines, heeded, quits]

theorem plain?_eq_none {text : String} (h : plain? (.line text) = none) :
    ∃ word, text.toList = '/' :: word := by
  unfold plain? at h
  simp only at h
  split at h
  · next word slash => exact ⟨word, slash⟩
  · cases h

theorem plain?_eq_some {text line : String} (h : plain? (.line text) = some line) :
    line = text ∧ ∀ word, text.toList ≠ '/' :: word := by
  unfold plain? at h
  simp only at h
  split at h
  · cases h
  · next plain => exact ⟨(Option.some.inj h).symm, plain⟩

/-- What is done when a line has been sent. -/
def whenSent : Except Trouble Reply → Conduct Unit
  | .ok _ => pure ()
  | .error (.failure f) => print (styled "red" f.message)
  | .error t => throw t

/-- A line for the session is sent. -/
theorem handleLine_of_plain (own : d.sessionName = .scalar name) {text : String}
    (plain : ∀ word, text.toList ≠ '/' :: word) :
    (handleLine d text).run = .call (.session name (.send text)) fun r => (whenSent r).run := by
  have handles : handle d text = discard (Conduct.ask (.session name (.send text))) := by
    unfold handle
    split
    · next word slash => exact absurd slash (plain word)
    · rw [own]
      rfl
  unfold handleLine
  rw [handles]
  refine congrArg (Routine.call _) (funext fun r => ?_)
  cases r with
  | ok reply => rfl
  | error t => cases t <;> rfl

/-- A line is done with. These lines have been written so far, and the prompt goes on or ends. -/
def Handles (name : SessionName) (v : Session.View) (lines : List String) (prompting : Bool)
    (m : Instant (Deed.Fair name)) (r : Except Trouble Unit) : Prop :=
  r = .ok () ∧ m.Typed name v lines ∧ m.house.isPrompting = prompting

theorem Handles.of_quiet {m m' : Instant (Deed.Fair name)} {r : Except Trouble Unit} {b : Bool}
    (typed : m.Typed name v lines) (prompting : m.house.isPrompting = b) (quiet : m.Quiet m')
    (returns : Returns r) : Handles name v lines b m' r := by
  obtain ⟨⟨⟩, rfl⟩ := returns
  exact ⟨rfl, typed.quiet quiet, (Prod.mk.inj quiet.front_eq).2.trans prompting⟩

/-- A line for the session is written, and then the prompt goes on. -/
theorem fares_handleLine {m : Instant (Deed.Fair name)} (own : d.sessionName = .scalar name)
    (typed : m.Typed name v lines) (prompting : m.house.isPrompting = true) {text : String}
    (stays : leaves (.line text) = false) (other : entersSessionCommand (.line text) = false) :
    (handleLine d text).run.Fares
      (Handles name v (lines ++ (plain? (.line text)).toList) true) m := by
  cases h : plain? (.line text) with
  | none =>
    obtain ⟨word, slash⟩ := plain?_eq_none h
    have passes : (handleLine d text).Passes (Deed.Fair name) Returns :=
      passes_handleLine (fun _ fair => fair.safe) slash stays other
    refine (passes.fares m typed.equipped).mono fun m' r ⟨quiet, returns⟩ => ?_
    rw [Option.toList_none, List.append_nil]
    exact .of_quiet typed prompting quiet returns
  | some line =>
    obtain ⟨rfl, plain⟩ := plain?_eq_some h
    rw [handleLine_of_plain own plain]
    intro m' r answered
    have typed := typed.send answered
    have prompting := (Prod.mk.inj answered.front_eq).2.trans prompting
    have passes : (whenSent r).Passes (Deed.Fair name) Returns := by
      rcases answered.line_ends with rfl | rfl
      · exact passes_pure ()
      · exact passes_styled "red" isStyle_red _
    exact (passes.fares m' typed.equipped).mono fun k r ⟨quiet, returns⟩ =>
      .of_quiet typed prompting quiet returns

/-- A line that ends the prompt does nothing else. -/
theorem fares_handleLine_of_leaves {m : Instant (Deed.Fair name)} (typed : m.Typed name v lines)
    {text : String} (quits : leaves (.line text)) :
    (handleLine d text).run.Fares (Handles name v lines false) m := by
  rw [handleLine_of_leaves quits]
  intro m' altered m'' later
  have ended : m'.house.isPrompting = false := by rw [altered.house_eq]
  exact .of_quiet (typed.altered altered) ended later.quiet ⟨(), rfl⟩

/-- All is read, and these lines have been written. -/
def Reads (name : SessionName) (v : Session.View) (lines : List String)
    (m : Instant (Deed.Fair name)) (r : Except Trouble Unit) : Prop :=
  r = .ok () ∧ m.Typed name v lines

theorem Reads.of_typed {m : Instant (Deed.Fair name)} (typed : m.Typed name v lines) :
    (Routine.done (.ok ())).Fares (Reads name v lines) m :=
  fun _ later => ⟨rfl, typed.quiet later.quiet⟩

/-- After a line the prompt reads what is left. -/
theorem fares_next {m : Instant (Deed.Fair name)} {text : String} {left : List Input}
    {written all : List String} {b : Bool}
    (handles : (handleLine d text).run.Fares (Handles name v written b) m)
    (rest : ∀ k : Instant (Deed.Fair name), k.Typed name v written → k.house.isPrompting = b →
      (readLines d left).run.Fares (Reads name v all) k) :
    (handleLine d text >>= fun _ => readLines d left).run.Fares (Reads name v all) m := by
  rw [run_bind]
  refine Routine.Fares.bind (handles.mono ?_)
  rintro k r ⟨rfl, typed, prompting⟩
  exact rest k typed prompting

/-- A prompt that has ended reads nothing. -/
theorem fares_readLines_of_ended {m : Instant (Deed.Fair name)} (typed : m.Typed name v lines)
    (ended : m.house.isPrompting = false) (left : List Input) :
    (readLines d left).run.Fares (Reads name v lines) m := by
  cases left
  all_goals
    change Routine.Fares _ (ExceptT.run (if m.house.isPrompting then _ else _)) _
    rw [ended]
    exact .of_typed typed

/-- As long as lines are read, what is written is what is typed. -/
theorem fares_readLines {left : List Input} (own : d.sessionName = .scalar name)
    (others : ∀ x ∈ heeded left, entersSessionCommand x = false) {m : Instant (Deed.Fair name)}
    (typed : m.Typed name v lines) (goesOn : m.house.isPrompting = true) :
    (readLines d left).run.Fares (Reads name v (lines ++ plainLines left)) m := by
  induction left generalizing lines m with
  | nil =>
    change Routine.Fares _ (ExceptT.run (if m.house.isPrompting then _ else _)) _
    rw [goesOn, plainLines, heeded, List.takeWhile_nil, List.filterMap_nil, List.append_nil]
    exact fun m' later => .of_typed (typed.quiet later.quiet)
  | cons input left ih =>
    change Routine.Fares _ (ExceptT.run (if m.house.isPrompting then _ else _)) _
    rw [goesOn, if_pos rfl]
    have still {m' : Instant (Deed.Fair name)} (later : m.Later m') :
        m'.Typed name v lines ∧ m'.house.isPrompting = true :=
      ⟨typed.quiet later.quiet, (Prod.mk.inj later.front_eq).2.trans goesOn⟩
    cases quits : leaves input with
    | true =>
      cases input with
      | interrupt => cases quits
      | line text =>
        rw [plainLines_of_leaves quits, List.append_nil]
        exact fun m' later => fares_next (fares_handleLine_of_leaves (still later).1 quits)
          fun k typed ended => fares_readLines_of_ended typed ended left
    | false =>
      rw [heeded_cons quits] at others
      obtain ⟨other, rest⟩ := List.forall_mem_cons.mp others
      rw [plainLines_cons quits, ← List.append_assoc]
      cases input with
      | interrupt =>
        exact fun m' later => ih rest ((List.append_nil _).symm ▸ (still later).1) (still later).2
      | line text =>
        exact fun m' later =>
          fares_next (fares_handleLine own (still later).1 (still later).2 quits other)
            fun k typed prompting => ih rest typed prompting

/-! ## The whole run -/

/-- The line that greets the user. -/
def greeting (name : String) : String :=
  "[bold]" ++ Product.name ++ "[/bold] - REPL session [cyan]" ++ name ++ "[/cyan]"

theorem passes_greet {Fair : Deed → Prop} {text : String}
    (h : ∃ cs, render (greeting text) = .ok cs) : (greet text).Passes Fair Returns := by
  have hint : ∃ cs, render "Type /help for commands, /quit to exit.\n" = .ok cs :=
    render_of_isSome (by decide +kernel)
  exact (passes_print h).next fun _ => passes_print hint

/-- Where the session is started and the user can be greeted, what is typed is delivered. -/
theorem fares_run (own : d.sessionName = .scalar name)
    (others : ∀ x ∈ heeded inputs, entersSessionCommand x = false)
    (greets : ∃ cs, render (greeting name.written) = .ok cs) (m : Instant (Deed.Fair name))
    (fresh : begun m.done = []) (rooms : m.house.rooms = [])
    (commands : m.house.commands = standardCommands) :
    (run d inputs).run.Fares (fun m' _ => m'.Delivered name d.dir (plainLines inputs)) m := by
  rw [run_of_scalar own]
  -- How the user is greeted does not matter, and computing it takes long.
  have hails : (greet name.written).Passes (Deed.Fair name) Returns := passes_greet greets
  generalize greet name.written = hail at hails ⊢
  have talks {v : Session.View} {m : Instant (Deed.Fair name)} (here : m.Typed name v [])
      (prompting : m.house.isPrompting = true) : Routine.Fares
        (fun m' (_ : Except Trouble Unit) => m'.Delivered name d.dir (plainLines inputs))
        (ExceptT.run do
          hail
          readLines d inputs
          Conduct.alter ({ · with isPrompting := false })
          let _ ← Conduct.ask (.session name .stop)) m := by
    rw [run_bind]
    refine Routine.Fares.bind ((hails.fares m here.equipped).mono ?_)
    rintro m₁ r ⟨quiet, ⟨⟩, rfl⟩
    rw [onward_ok, run_bind]
    have goesOn := (Prod.mk.inj quiet.front_eq).2.trans prompting
    refine Routine.Fares.bind ((fares_readLines own others (here.quiet quiet) goesOn).mono ?_)
    rintro m₂ r ⟨rfl, all⟩ m₃ altered m₄ r answered
    obtain ⟨rfl, -⟩ := answered.closed
    exact fun m₅ later =>
      later.stops.delivered (answered.stops.delivered (all.altered altered).delivered)
  rw [run_bind]
  intro m₁ r answered
  obtain ⟨start, es, done, begins, -, returned⟩ := answered.begins
  have asked : begun m₁.done = [(start, name, .start d.dir)] := by
    rw [done, begun_append, begins, fresh, List.append_nil]
  cases r with
  | error t =>
    intro m₂ later
    refine later.stops.delivered fun id v began back => ?_
    rw [asked] at began
    cases List.mem_singleton.mp began
    cases m₁.run.reply_unique returned back
  | ok reply =>
    obtain ⟨v, rfl, recorded⟩ := answered.gives
    have nothing : writes m₁.house.trace = [] := by
      have run := m₁.run
      rw [← List.append_nil m₁.done] at run
      rw [run.writes_eq, List.append_nil]
      refine run.unwritten fun id n line began => ?_
      rw [List.append_nil, asked] at began
      cases List.mem_singleton.mp began
    have here : m₁.Typed name v [] := {
      equipped := ⟨(Prod.mk.inj answered.front_eq).1.trans commands,
        answered.named (answered.named_of_started rooms)⟩
      recorded
      given := ⟨start, returned, fun x hx => .inl (by
        rw [asked] at hx
        rw [List.mem_singleton.mp hx])⟩
      written := by rw [nothing]; rfl }
    intro m₂ altered
    refine talks (here.altered altered) ?_
    rw [altered.house_eq]

end ToolHost.Prompt
