import Mathlib
import ToolHost.Cli
import ToolHost.Proofs.Asking

/-!
# What the prompt asks

Where the standard commands are about the session that the user types to, every line asks one thing
of that session or nothing: a command that begins with a slash what it says, any other line to be
sent. So what is asked can be read off the lines.
-/
namespace ToolHost.Prompt

open Machine (Path)

/-- The commands of the prompt. -/
def standardCommands : Registry Command := Command.bindStandard {}

/-- What a command asks of the session. -/
def requestOfCommand (dir : Path) : Command → Option Session.Request
  | .start => some (.start dir)
  | .stop => some .stop
  | .restart => some (.restart dir)
  | _ => none

/-- Whether a word behind a slash ends the prompt. -/
def leavesAt (word : String) : Bool := word = "quit" || word = "exit"

/-- Whether the user ends the prompt. -/
def leaves : Input → Bool
  | .interrupt => false
  | .line text =>
    match text.toList with
    | '/' :: word => leavesAt (String.ofList (Text.trim word))
    | _ => false

/-- What is read: all up to where the user ends the prompt. -/
def heeded (inputs : List Input) : List Input := inputs.takeWhile (!leaves ·)

/-- What a word behind a slash asks of the session. -/
def requestOfWord (dir : Path) (word : String) : Option Session.Request :=
  if word = "repl-start" then some (.start dir)
  else if word = "repl-stop" then some .stop
  else if word = "repl-restart" then some (.restart dir)
  else none

/-- What the user asks of the session. -/
def requestOf (dir : Path) : Input → Option Session.Request
  | .interrupt => none
  | .line text =>
    match text.toList with
    | '/' :: word => requestOfWord dir (String.ofList (Text.trim word))
    | _ => some (.send text)

theorem requestOf_slash {dir : Path} {line : String} {word : List Char}
    (slash : line.toList = '/' :: word) :
    requestOf dir (.line line) = requestOfWord dir (String.ofList (Text.trim word)) := by
  simp only [requestOf, slash]

theorem requestOf_plain {dir : Path} {line : String}
    (plain : ∀ word, line.toList = '/' :: word → False) :
    requestOf dir (.line line) = some (.send line) := by
  rw [requestOf]
  split
  · next word slash => exact absurd slash (plain word)
  · rfl

/-- A desk whose standard commands are about the session that the user types to. -/
def Desk.own (name : SessionName) (dir : Path) (source : Value) : Desk :=
  { sessionName := .scalar name, dir, post := ⟨.scalar name, dir, source⟩ }

section Asks

open Routine Conduct

variable {s : Front} {name : SessionName} {dir : Path} {source : Value}

theorem asks_rendered (markup : String) : (rendered markup).run.Asks s [] := asks_ofExcept _

theorem asks_print (markup : String) : (print markup).run.Asks s [] :=
  asks_bind (asks_rendered markup) fun _ => asks_note _

theorem asks_printHelp : printHelp.run.Asks s [] := by
  unfold printHelp
  refine asks_bind asks_house fun h => asks_bind (asks_mapM (fun row => ?_) _) fun rows =>
    asks_forM (fun l => asks_note _) _
  exact asks_bind (asks_rendered _) fun _ => asks_bind (asks_rendered _) fun _ => asks_done _

theorem asks_fetchArtifact (v : Value) : (Command.fetchArtifact v).run.Asks s [] := by
  unfold Command.fetchArtifact
  simp only
  split
  · exact asks_done _
  · refine asks_bind asks_house fun h => ?_
    split
    · exact asks_done _
    · exact asks_ask (.install _ _ v)
    · exact asks_done _

theorem asks_oneShot (text : String) : (Conduct.oneShot dir text).run.Asks s [] :=
  asks_bind asks_house fun _ => asks_bind (asks_ofExcept _) fun a => asks_ask (.oneShot a dir text)

/-- A command asks what it says of the session that it is about. -/
theorem asks_perform (c : Command) : (c.perform ⟨.scalar name, dir, source⟩).run.Asks s
    ((requestOfCommand dir c).map (name, ·)).toList := by
  cases c with
  | install => exact asks_fetchArtifact source
  | start => exact asks_ask (.session name (.start dir))
  | stop => exact asks_ask (.session name .stop)
  | restart => exact asks_ask (.session name (.restart dir))
  | clear => exact asks_alter (fun _ => rfl) (asks_done _)
  | run subcommand => exact asks_oneShot subcommand
  | give v => exact asks_done _

theorem bindings_standardCommands : standardCommands.bindings = Command.standard := by
  simp [standardCommands, Command.bindStandard, Command.standard, Registry.bind]

/-- A word is bound to a command that asks the same, or to nothing. -/
theorem command_standardCommands (dir : Path) (word : String) :
    (∃ c, standardCommands.command word = .ok c ∧
      requestOfCommand dir c = requestOfWord dir word) ∨
    (∃ e, standardCommands.command word = .error e) ∧ requestOfWord dir word = none := by
  unfold Registry.command Registry.find?
  rw [bindings_standardCommands]
  cases found : Command.standard.find? (·.name = word) with
  | none =>
    have unbound := List.find?_eq_none.mp found
    refine .inr ⟨⟨_, rfl⟩, ?_⟩
    simp only [Command.standard, List.forall_mem_cons, decide_eq_true_eq] at unbound
    simp [requestOfWord, Ne.symm unbound.2.1, Ne.symm unbound.2.2.1, Ne.symm unbound.2.2.2.1]
  | some b =>
    refine .inl ⟨b.command, rfl, ?_⟩
    obtain rfl : b.name = word := by simpa using List.find?_some found
    have bound := List.mem_of_find?_eq_some found
    simp only [Command.standard, List.mem_cons, List.not_mem_nil, or_false] at bound
    rcases bound with rfl | rfl | rfl | rfl | rfl | rfl | rfl | rfl <;> rfl

theorem asks_invoke (b : Bool) (word : String) :
    (Command.invoke ⟨.scalar name, dir, source⟩ word).run.Asks (standardCommands, b)
      ((requestOfWord dir word).map (name, ·)).toList := by
  unfold Command.invoke
  rw [run_bind, run_house, bind_look]
  refine asks_look fun h same => ?_
  rw [bind_done, onward_ok, run_bind, run_ofExcept, bind_done, (Prod.mk.inj same).1]
  rcases command_standardCommands dir word with ⟨c, bound, request⟩ | ⟨⟨e, unbound⟩, request⟩
  · rw [bound, ← request]
    exact asks_alter (fun _ => rfl) (asks_perform c)
  · rw [unbound, request]
    exact asks_done _

theorem asks_command {b : Bool} {word : String} (stays : leavesAt word = false) :
    (command (.own name dir source) word).run.Asks (standardCommands, b)
      ((requestOfWord dir word).map (name, ·)).toList := by
  unfold command
  rw [leavesAt] at stays
  rw [stays, if_neg Bool.false_ne_true]
  split
  · next helps =>
    have request : requestOfWord dir word = none := by
      rcases (by simpa using helps : word = "help" ∨ word = "") with rfl | rfl <;> rfl
    rw [request]
    exact asks_printHelp
  · refine asks_bind (asks_invoke b word) fun reply => ?_
    split
    · exact asks_done _
    · exact asks_print _

theorem asks_handle {b : Bool} {line : String} (stays : leaves (.line line) = false) :
    (handle (.own name dir source) line).run.Asks (standardCommands, b)
      ((requestOf dir (.line line)).map (name, ·)).toList := by
  unfold handle
  split
  · next word slash =>
    rw [requestOf_slash slash]
    simp only [leaves, slash] at stays
    exact asks_command stays
  · next plain =>
    rw [requestOf_plain plain]
    exact (asks_ask (.session name (.send line))).bind fun r => by cases r <;> exact asks_done _

/-- A line asks what it says, whether it fails or not. -/
theorem asks_handleLine {b : Bool} {line : String} (stays : leaves (.line line) = false) :
    (handleLine (.own name dir source) line).run.Asks (standardCommands, b)
      ((requestOf dir (.line line)).map (name, ·)).toList := by
  refine asks_bind ?_ fun r => ?_
  · rw [run_attempt]
    exact (asks_handle stays).bind fun _ => asks_done _
  · split
    · exact asks_done _
    · exact asks_print _
    · exact asks_done _

/-- A line that ends the prompt does nothing else. -/
theorem handleLine_of_leaves {d : Desk} {line : String} (h : leaves (.line line)) :
    (handleLine d line).run =
      .alter ({ · with isPrompting := false }) (.done (.ok ())) := by
  unfold leaves at h
  simp only at h
  split at h
  · next word slash =>
    rw [leavesAt] at h
    simp only [handleLine, handle, slash, command, h, if_true]
    rfl
  · cases h

end Asks

/-! ## The whole conversation -/

/-- What is asked while the prompt reads lines. -/
def dialogue (name : SessionName) (dir : Path) (taken : List Input) : List Demand :=
  (name, .start dir) :: (taken.filterMap (requestOf dir)).map (name, ·)

/-- What was asked in the first place, and then sessions were stopped. -/
def ThenStopped (asked ds : List Demand) : Prop :=
  ∃ stopped : List SessionName, ds = asked ++ stopped.map fun n => (n, .stop)

/-- The session is started, then asked what the lines that were read so far say, and in the end
sessions are stopped. -/
def Conversation (name : SessionName) (dir : Path) (inputs : List Input) (ds : List Demand) :
    Prop :=
  ThenStopped [] ds ∨ ∃ taken, taken <+: heeded inputs ∧ ThenStopped (dialogue name dir taken) ds

section Conversation

open Routine Conduct

variable {name : SessionName} {dir : Path} {source : Value} {inputs taken : List Input}
  {s : Front} {asked ds : List Demand}

theorem dialogue_concat (name : SessionName) (dir : Path) (taken : List Input) (input : Input) :
    dialogue name dir (taken ++ [input]) =
      dialogue name dir taken ++ ((requestOf dir input).map (name, ·)).toList := by
  cases h : requestOf dir input <;> simp [dialogue, h]

theorem ThenStopped.refl (ds : List Demand) : ThenStopped ds ds := ⟨[], (List.append_nil _).symm⟩

theorem ThenStopped.stop (h : ThenStopped asked ds) (n : SessionName) :
    ThenStopped asked (ds ++ [(n, .stop)]) := by
  obtain ⟨stopped, rfl⟩ := h
  exact ⟨stopped ++ [n], by simp⟩

theorem Conversation.dialogue (here : taken <+: heeded inputs) :
    Conversation name dir inputs (dialogue name dir taken) := .inr ⟨taken, here, .refl _⟩

theorem Conversation.stop (h : Conversation name dir inputs ds) (n : SessionName) :
    Conversation name dir inputs (ds ++ [(n, .stop)]) := by
  rcases h with h | ⟨taken, here, h⟩
  · exact .inl (h.stop n)
  · exact .inr ⟨taken, here, h.stop n⟩

/-- Of other sessions than the user's own only a stop is asked. -/
theorem Conversation.others (h : Conversation name dir inputs ds) {n : SessionName}
    (other : n ≠ name) {q : Session.Request} (mem : (n, q) ∈ ds) : q = .stop := by
  have stops {stopped : List SessionName}
      (mem : (n, q) ∈ stopped.map fun m => (m, Session.Request.stop)) : q = .stop := by
    obtain ⟨m, -, same⟩ := List.mem_map.mp mem
    exact (Prod.mk.inj same).2.symm
  rcases h with ⟨stopped, rfl⟩ | ⟨taken, -, stopped, rfl⟩
  · exact stops mem
  · rcases List.mem_append.mp mem with mem | mem
    · rcases List.mem_cons.mp mem with same | mem
      · exact absurd (Prod.mk.inj same).1 other
      · obtain ⟨r, -, same⟩ := List.mem_map.mp mem
        exact absurd (Prod.mk.inj same).1.symm other
    · exact stops mem

/-- How the prompt ends: what the lines say that were read was asked, and if nothing broke down, all
lines were read. -/
def ReadEnds (name : SessionName) (dir : Path) (inputs : List Input) (ds : List Demand)
    (r : Except Trouble Unit) : Prop :=
  (∃ taken, taken <+: heeded inputs ∧ ds = Prompt.dialogue name dir taken) ∧
    (r = .ok () → ds = Prompt.dialogue name dir (heeded inputs))

/-- As long as lines are read, what is asked is what they say. -/
theorem keeps_readLines (left taken : List Input) (prompting : Bool)
    (whole : taken ++ (if prompting then heeded left else []) = heeded inputs) :
    (readLines (.own name dir source) left).run.Keeps (Conversation name dir inputs)
      (fun _ ds r => ReadEnds name dir inputs ds r) (standardCommands, prompting)
      (Prompt.dialogue name dir taken) := by
  have finished {taken : List Input} (all : taken = heeded inputs) (r : Except Trouble Unit) :
      ReadEnds name dir inputs (Prompt.dialogue name dir taken) r :=
    ⟨⟨taken, all ▸ List.prefix_rfl, rfl⟩, fun _ => by rw [all]⟩
  induction left generalizing taken prompting with
  | nil =>
    have all : taken = heeded inputs := by simpa [heeded] using whole
    intro h same
    change Routine.Keeps _ _ (ExceptT.run (if h.isPrompting then _ else _)) _ _
    split <;> exact finished all _
  | cons input left ih =>
    intro h same
    change Routine.Keeps _ _ (ExceptT.run (if h.isPrompting then _ else _)) _ _
    rw [(Prod.mk.inj same).2]
    cases prompting with
    | false =>
      have all : taken = heeded inputs := by simpa using whole
      exact finished all _
    | true =>
      rw [if_pos rfl] at whole ⊢
      cases hinput : leaves input with
      | true =>
        have all : taken = heeded inputs := by simpa [heeded, hinput] using whole
        cases input with
        | interrupt => cases hinput
        | line text =>
          have quits : (handleLine (.own name dir source) text >>= fun _ =>
              readLines (.own name dir source) left).run.Keeps (Conversation name dir inputs)
              (fun _ ds r => ReadEnds name dir inputs ds r) (standardCommands, true)
              (Prompt.dialogue name dir taken) := by
            rw [run_bind, handleLine_of_leaves hinput]
            exact ⟨(standardCommands, false), fun h same => by rw [House.front, (Prod.mk.inj same).1],
              ih taken false (by simpa using all)⟩
          exact quits
      | false =>
        have split : heeded (input :: left) = input :: heeded left := by simp [heeded, hinput]
        have next : taken ++ [input] <+: heeded inputs := ⟨heeded left, by simp [← whole, split]⟩
        have rest := ih (taken ++ [input]) true (by simp [← whole, split])
        have concat := dialogue_concat name dir taken input
        cases input with
        | interrupt =>
          have silent : Prompt.dialogue name dir (taken ++ [.interrupt]) =
              Prompt.dialogue name dir taken := concat.trans (List.append_nil _)
          rw [silent] at rest
          exact rest
        | line text =>
          have reads : (handleLine (.own name dir source) text >>= fun _ =>
              readLines (.own name dir source) left).run.Keeps (Conversation name dir inputs)
              (fun _ ds r => ReadEnds name dir inputs ds r) (standardCommands, true)
              (Prompt.dialogue name dir taken) := by
            refine keeps_bind (asks_handleLine hinput) (concat ▸ .dialogue next) (fun t => ?_)
              fun _ => concat ▸ rest
            exact ⟨⟨_, next, concat.symm⟩, fun e => nomatch e⟩
          exact reads

theorem asks_greet (text : String) : (greet text).run.Asks s [] :=
  asks_bind (asks_print _) fun _ => asks_print _

/-- The prompt starts the session, reads lines, and stops the session. -/
theorem run_of_scalar {d : Desk} (own : d.sessionName = .scalar name) :
    (run d inputs).run = ExceptT.run (do
      let _ ← Conduct.ask (.session name (.start d.dir))
      Conduct.alter ({ · with isPrompting := true })
      greet name.written
      readLines d inputs
      Conduct.alter ({ · with isPrompting := false })
      let _ ← Conduct.ask (.session name .stop)) := by
  unfold run
  rw [own]
  rfl

/-- How a conversation ends: if nothing went wrong, all lines were read. -/
def TalkEnds (name : SessionName) (dir : Path) (inputs : List Input) (ds : List Demand)
    (goesWell : Prop) : Prop :=
  Conversation name dir inputs ds ∧
    (goesWell → ThenStopped (Prompt.dialogue name dir (heeded inputs)) ds)

theorem TalkEnds.stop {goesWell : Prop} (h : TalkEnds name dir inputs ds goesWell)
    (n : SessionName) : TalkEnds name dir inputs (ds ++ [(n, .stop)]) goesWell :=
  ⟨h.1.stop n, fun well => (h.2 well).stop n⟩

theorem TalkEnds.of_not {goesWell : Prop} (h : Conversation name dir inputs ds) (ill : ¬ goesWell) :
    TalkEnds name dir inputs ds goesWell := ⟨h, fun well => absurd well ill⟩

theorem keeps_run : (run (.own name dir source) inputs).run.Keeps (Conversation name dir inputs)
    (fun _ ds r => TalkEnds name dir inputs ds (r = .ok ())) (standardCommands, false) [] := by
  have start : Conversation name dir inputs (Prompt.dialogue name dir []) :=
    .dialogue List.nil_prefix
  have failed {ds : List Demand} (h : Conversation name dir inputs ds) (t : Trouble) :
      TalkEnds name dir inputs ds (Except.error t = .ok ()) := .of_not h (fun e => nomatch e)
  rw [run_of_scalar rfl]
  refine keeps_bind (asks_ask (.session name (.start dir))) start (failed start) fun _ => ?_
  refine ⟨(standardCommands, true), fun h same => by rw [House.front, (Prod.mk.inj same).1], ?_⟩
  refine keeps_silent (asks_greet _) start (failed start) fun _ => ?_
  rw [run_bind]
  refine Keeps.bind ((keeps_readLines inputs [] true rfl).mono ?_)
  rintro s ds r ⟨⟨taken, here, rfl⟩, all⟩
  have so_far : Conversation name dir inputs (Prompt.dialogue name dir taken) := .dialogue here
  cases r with
  | error t => exact failed so_far t
  | ok u =>
    have well : TalkEnds name dir inputs (Prompt.dialogue name dir taken) True :=
      ⟨so_far, fun _ => by rw [all rfl]; exact .refl _⟩
    refine ⟨(s.1, false), fun h same => by rw [← same]; rfl, ?_⟩
    refine keeps_bind (asks_ask (.session name .stop)) (so_far.stop name)
      (failed (so_far.stop name)) fun _ => ?_
    exact ⟨so_far.stop name, fun _ => (well.stop name).2 trivial⟩

/-- Whatever was asked before, sessions may be stopped in the end. -/
theorem keeps_stopAll {goesWell : Prop} (names : List SessionName)
    (h : TalkEnds name dir inputs ds goesWell) :
    (stopAll names).run.Keeps (Conversation name dir inputs)
      (fun _ ds _ => TalkEnds name dir inputs ds goesWell) s ds := by
  induction names generalizing ds with
  | nil => exact h
  | cons n names ih =>
    exact keeps_bind (asks_ask (.session n .stop)) (h.1.stop n) (fun _ => h.stop n)
      fun _ => ih (h.stop n)

end Conversation

end ToolHost.Prompt

namespace ToolHost.Cli

open Conduct Prompt Routine

variable {w : Work} {sessionName : Option String} {name : SessionName} {s : Front}

/-- The session that the user types to. -/
def chosenName (configured : Value) (given : Option String) : Value :=
  ((given.filter (· != "")).map Value.text).getD configured

theorem asks_report (markup : String) : (report markup).run.Asks s [] :=
  asks_bind (asks_rendered markup) fun _ => asks_note _

/-- A session whose name cannot be one is not asked for. -/
theorem run_of_not_scalar {v : Value} (ill : ∀ n, v ≠ .scalar n) (dir : Machine.Path) (post : Post)
    (inputs : List Input) :
    (Prompt.run ⟨v, dir, post⟩ inputs).run = .done (.error (.breakdown .wrongKind)) := by
  cases v with
  | scalar n => exact absurd rfl (ill n)
  | _ => rfl

section Own

variable (own : chosenName w.settings.session.defaultName sessionName =
    w.settings.session.defaultName)
  (named : ∀ n, w.settings.session.defaultName = .scalar n → n = name)

include own named

theorem keeps_interact :
    (interact w sessionName).run.Keeps (Conversation name w.dir w.inputs)
      (fun _ ds r => TalkEnds name w.dir w.inputs ds (∃ code, r = .ok code)) (s.1, false) [] := by
  have nothing : Conversation name w.dir w.inputs [] := .inl (.refl [])
  have failed {ds : List Demand} (so_far : Conversation name w.dir w.inputs ds) (t : Trouble) :
      TalkEnds name w.dir w.inputs ds (∃ code, (Except.error t : Except Trouble Int) = .ok code) :=
    .of_not so_far (by simp)
  have steps : (interact w sessionName).run =
      .alter (fun h => { h with commands := standardCommands }) (ExceptT.run do
        let h ← Conduct.house
        Conduct.ofExcept
          ((checkHistory h.host w.settings.session.historyFile).mapError .breakdown)
        Prompt.run ⟨chosenName w.settings.session.defaultName sessionName, w.dir,
          ⟨w.settings.session.defaultName, w.dir, w.settings.tool.sourceUrl⟩⟩ w.inputs
        return 0) := rfl
  rw [steps, own]
  refine ⟨(standardCommands, false), fun h same => by rw [House.front, (Prod.mk.inj same).2], ?_⟩
  refine keeps_silent asks_house nothing (failed nothing) fun h => ?_
  refine keeps_silent (asks_ofExcept _) nothing (failed nothing) fun _ => ?_
  rw [run_bind]
  by_cases scalar : ∃ n, w.settings.session.defaultName = .scalar n
  · obtain ⟨n, configured⟩ := scalar
    obtain rfl := named n configured
    rw [configured]
    refine Keeps.bind (keeps_run.mono ?_)
    rintro s ds r ⟨so_far, all⟩
    cases r with
    | error t => exact failed so_far t
    | ok u => exact ⟨so_far, fun _ => all rfl⟩
  · rw [run_of_not_scalar (not_exists.mp scalar)]
    exact failed nothing _

/-- All sessions are stopped in the end, whatever came before. -/
theorem keeps_dispatch :
    (dispatch w (.repl sessionName)).run.Keeps (Conversation name w.dir w.inputs)
      (fun _ ds r => TalkEnds name w.dir w.inputs ds (∃ code, r = .ok code)) (s.1, false) [] := by
  unfold dispatch
  rw [run_bind, run_attempt]
  refine Keeps.bind (Keeps.bind ((keeps_interact own named).mono fun s ds r so_far => ?_))
  change (Conduct.shutDown >>= fun _ => Conduct.ofExcept r).run.Keeps _ _ s ds
  rw [run_bind]
  refine Keeps.bind ?_
  intro h same
  refine (keeps_stopAll h.roster so_far).mono fun s ds u stopped => ?_
  cases u with
  | error t => exact .of_not stopped.1 (by simp)
  | ok u => exact stopped

/-- What the program asks of sessions when it lets the user talk to one. Where it ends with the exit
code of success, all lines were read. -/
theorem keeps_exitCode :
    (exitCode w (.repl sessionName)).run.Keeps (Conversation name w.dir w.inputs)
      (fun _ ds r => TalkEnds name w.dir w.inputs ds (r = .ok 0)) (s.1, false) [] := by
  have attempted : (dispatch w (.repl sessionName)).attempt.run.Keeps
      (Conversation name w.dir w.inputs) (fun _ ds r => ∃ e, r = .ok e ∧
        TalkEnds name w.dir w.inputs ds (∃ code, e = .ok code)) (s.1, false) [] := by
    rw [run_attempt]
    exact Keeps.bind ((keeps_dispatch own named).mono fun _ _ r so_far => ⟨r, rfl, so_far⟩)
  unfold exitCode
  rw [run_bind]
  refine Keeps.bind (attempted.mono ?_)
  rintro s ds r ⟨e, rfl, so_far⟩
  rw [onward_ok]
  split
  · exact ⟨so_far.1, fun _ => so_far.2 ⟨_, rfl⟩⟩
  · next f =>
    -- What is reported does not matter, and computing it takes long.
    generalize "[red]Error: " ++ Terminal.Markup.escape f.message ++ "[/red]" = markup
    exact keeps_silent (asks_report markup) so_far.1 (fun _ => .of_not so_far.1 (by simp))
      fun _ => .of_not so_far.1 (by simp)
  · exact .of_not so_far.1 (by simp)
  · exact .of_not so_far.1 (by simp)

end Own

end ToolHost.Cli
