import Mathlib
import ToolHost.Proofs.Conversation
import ToolHost.Proofs.Intervals
import ToolHost.Proofs.Preparing
import ToolHost.Proofs.Terminal.Protection

/-!
# What leaves the session alone

The commands of the prompt that are not about sessions, the help and the printed texts ask nothing
of a session, and nothing in them breaks down as long as no reply does. The standard commands and
the name of the artifact stay as they are.
-/
namespace ToolHost

/-! ## The name of the artifact -/

/-- Whether the name of the artifact leads to a path. -/
def Location.Named (l : Location) : Prop := ∃ name, l.artifactName = .scalar (.text name)

theorem House.named_act (h : House) (a : Action) (named : h.location.Named) :
    (h.act a).house.location.Named := by
  rcases (h.act_spares a).2 with same | ⟨o, same⟩
  · exact same ▸ named
  · exact same ▸ ⟨o.artifactName, rfl⟩

/-- A house with the standard commands, and an artifact whose name leads to a path. -/
structure House.Equipped (h : House) : Prop where
  commands : h.commands = Prompt.standardCommands
  named : h.location.Named

/-! ## Instants between which no session is asked for -/

namespace Instant

variable {Fair : Deed → Prop} {m m' m'' : Instant Fair} {f : House → House} {c : Call}
  {r : Except Trouble Reply}

/-- No call of a session begins in between, and the prompt goes on as before. -/
structure Quiet (m m' : Instant Fair) : Prop where
  after : ∃ es, m'.done = es ++ m.done ∧ begun es = []
  front_eq : m'.house.front = m.house.front
  named : m.house.location.Named → m'.house.location.Named

namespace Quiet

theorem trans (x : m.Quiet m') (y : m'.Quiet m'') : m.Quiet m'' := by
  obtain ⟨es, done, none⟩ := x.after
  obtain ⟨fs, done', none'⟩ := y.after
  refine ⟨⟨fs ++ es, by rw [done', done, List.append_assoc], ?_⟩, y.front_eq.trans x.front_eq,
    y.named ∘ x.named⟩
  rw [begun_append, none, none']
  rfl

theorem equipped (x : m.Quiet m') (h : m.house.Equipped) : m'.house.Equipped :=
  ⟨(Prod.mk.inj x.front_eq).1.trans h.commands, x.named h.named⟩

end Quiet

theorem Later.quiet (x : m.Later m') : m.Quiet m' := by
  refine ⟨?_, x.front_eq, ?_⟩
  · obtain ⟨es, done, acted⟩ := x
    exact ⟨es, done, acted.begun_eq⟩
  · obtain ⟨es, -, acted⟩ := x
    exact acted.preserves House.named_act

theorem Altered.after (x : m.Altered f m') : ∃ es, m'.done = es ++ m.done ∧ begun es = [] := by
  cases x with
  | aside _ done _ => exact ⟨[], done, rfl⟩
  | clear _ done _ => exact ⟨[_], done, rfl⟩

theorem Altered.quiet (x : m.Altered f m') (front : ∀ h : House, (f h).front = h.front)
    (location : ∀ h : House, (f h).location = h.location) : m.Quiet m' := by
  refine ⟨x.after, ?_, ?_⟩
  · rw [x.house_eq, front]
  · rw [x.house_eq, location]
    exact id

theorem Answered.named (x : m.Answered c r m') (named : m.house.location.Named) :
    m'.house.location.Named := by
  obtain ⟨-, acted, -, -, -⟩ := x
  exact acted.preserves House.named_act (House.named_act _ _ named)

theorem Answered.quiet (x : m.Answered c r m') (other : c.demand? = none) : m.Quiet m' :=
  ⟨(x.of_other other).1, x.front_eq, x.named⟩

end Instant

/-! ## Parts of a routine -/

/-- A reply that is no breakdown. -/
def Sound {α : Type} (r : Except Trouble α) : Prop := ∀ b, r ≠ .error (.breakdown b)

/-- A result that is no failure either. -/
def Returns {α : Type} (r : Except Trouble α) : Prop := ∃ a, r = .ok a

theorem Returns.sound {α : Type} {r : Except Trouble α} (h : Returns r) : Sound r := by
  obtain ⟨a, rfl⟩ := h
  exact fun _ e => nomatch e

theorem Sound.error {α β : Type} {t : Trouble} (h : Sound (.error t : Except Trouble α)) :
    Sound (.error t : Except Trouble β) := by
  rintro b e
  obtain rfl := Except.error.inj e
  exact h b rfl

/-- What a deed answers, unless it is in a room, is no breakdown. -/
def Deed.Safe (d : Deed) : Prop :=
  d.action.session? = none → ∀ id b,
    (d.house.act d.action).returned ≠ some (id, .error (.breakdown b))

namespace Conduct

variable {α β : Type} {Fair : Deed → Prop} {Good : Except Trouble α → Prop}
  {Fine : Except Trouble β → Prop}

/-- In a house that is equipped a part of a routine asks nothing of a session, and ends well. -/
structure Passes (Fair : Deed → Prop) (x : Conduct α) (Good : Except Trouble α → Prop) : Prop where
  fares : ∀ m : Instant Fair, m.house.Equipped → x.run.Fares (fun m' r => m.Quiet m' ∧ Good r) m

theorem Passes.mono {x : Conduct α} {Fine : Except Trouble α → Prop} (h : x.Passes Fair Good)
    (wider : ∀ r, Good r → Fine r) : x.Passes Fair Fine :=
  ⟨fun m equipped => (h.fares m equipped).mono fun _ r ends => ⟨ends.1, wider r ends.2⟩⟩

theorem passes_ofExcept {r : Except Trouble α} (good : Good r) : (ofExcept r).Passes Fair Good :=
  ⟨fun _ _ _ later => ⟨later.quiet, good⟩⟩

theorem passes_pure (a : α) : (pure a : Conduct α).Passes Fair Returns :=
  passes_ofExcept ⟨a, rfl⟩

theorem Passes.bind {x : Conduct α} {f : α → Conduct β} (h : x.Passes Fair Good)
    (fails : ∀ t, Good (.error t) → Fine (.error t))
    (rest : ∀ a, Good (.ok a) → (f a).Passes Fair Fine) : (x >>= f).Passes Fair Fine := by
  refine ⟨fun m equipped => ?_⟩
  rw [run_bind]
  refine Routine.Fares.bind ((h.fares m equipped).mono ?_)
  rintro m' r ⟨quiet, good⟩
  cases r with
  | error t => exact fun m'' later => ⟨quiet.trans later.quiet, fails t good⟩
  | ok a =>
    refine ((rest a good).fares m' (quiet.equipped equipped)).mono ?_
    rintro m'' r ⟨further, fine⟩
    exact ⟨quiet.trans further, fine⟩

theorem Passes.next {x : Conduct α} {f : α → Conduct β} (h : x.Passes Fair Returns)
    (rest : ∀ a, (f a).Passes Fair Fine) : (x >>= f).Passes Fair Fine :=
  h.bind (fun _ ⟨_, e⟩ => nomatch e) fun a _ => rest a

/-- What a part of a routine has come to is looked at. -/
theorem Passes.attempt {x : Conduct α} {f : Except Trouble α → Conduct β}
    (h : x.Passes Fair Good) (rest : ∀ r, Good r → (f r).Passes Fair Fine) :
    (x.attempt >>= f).Passes Fair Fine := by
  refine ⟨fun m equipped => ?_⟩
  rw [run_bind, run_attempt]
  refine Routine.Fares.bind (Routine.Fares.bind ((h.fares m equipped).mono ?_))
  rintro m' r ⟨quiet, good⟩ k later
  refine ((rest r good).fares k ((quiet.trans later.quiet).equipped equipped)).mono ?_
  rintro l s ⟨further, fine⟩
  exact ⟨(quiet.trans later.quiet).trans further, fine⟩

theorem passes_house {f : House → Conduct β} (rest : ∀ h, h.Equipped → (f h).Passes Fair Fine) :
    (house >>= f).Passes Fair Fine :=
  ⟨fun m equipped => (rest m.house equipped).fares m equipped⟩

theorem passes_alter {f : House → House} (front : ∀ h : House, (f h).front = h.front)
    (location : ∀ h : House, (f h).location = h.location) : (alter f).Passes Fair Returns :=
  ⟨fun _ _ _ altered _ later => ⟨(altered.quiet front location).trans later.quiet, (), rfl⟩⟩

theorem passes_note (x : Happening) : (note x).Passes Fair Returns :=
  passes_alter (fun _ => rfl) fun _ => rfl

/-- What is not asked of a session breaks down only if the reply does. -/
theorem passes_ask (safe : ∀ d, Fair d → d.Safe) {c : Call} (other : c.demand? = none) :
    (ask c).Passes Fair Sound := by
  refine ⟨fun m equipped m' r answered m'' later =>
    ⟨(answered.quiet other).trans later.quiet, fun b e => ?_⟩⟩
  obtain ⟨-, d, hd, aside, id, returned⟩ := answered.of_other other
  exact safe d (m'.fair d hd) aside id b (e ▸ returned)

theorem passes_mapM {f : α → Conduct β} {as : List α}
    (each : ∀ a ∈ as, (f a).Passes Fair Returns) : (as.mapM f).Passes Fair Returns := by
  have loop (as : List α) (each : ∀ a ∈ as, (f a).Passes Fair Returns) (bs : List β) :
      (List.mapM.loop f as bs).Passes Fair Returns := by
    induction as generalizing bs with
    | nil => exact passes_pure _
    | cons a as ih =>
      obtain ⟨first, others⟩ := List.forall_mem_cons.mp each
      exact first.next fun b => ih others (b :: bs)
  exact loop as each []

theorem passes_forM {f : α → Conduct PUnit} (each : ∀ a, (f a).Passes Fair Returns)
    (as : List α) : (as.forM f).Passes Fair Returns := by
  induction as with
  | nil => exact passes_pure _
  | cons a as ih => exact (each a).next fun _ => ih

end Conduct

end ToolHost

namespace ToolHost.Prompt

open Conduct Terminal.Markup

variable {Fair : Deed → Prop}

/-! ## What is printed -/

theorem render_styled (style : String) (h : IsStyle style.toList) (text : String) :
    ∃ cs, render (styled style text) = .ok cs :=
  render_protected [] h (by simp) (s := text) (by simp [styled])

theorem passes_rendered {markup : String} (h : ∃ cs, render markup = .ok cs) :
    (rendered markup).Passes Fair Returns := by
  obtain ⟨cs, hcs⟩ := h
  exact passes_ofExcept ⟨cs, by rw [hcs]; rfl⟩

theorem passes_print {markup : String} (h : ∃ cs, render markup = .ok cs) :
    (print markup).Passes Fair Returns :=
  (passes_rendered h).next fun _ => passes_note _

theorem passes_styled (style : String) (h : IsStyle style.toList) (text : String) :
    (print (styled style text)).Passes Fair Returns :=
  passes_print (render_styled style h text)

theorem render_of_isSome {markup : String} (some : (render markup).toOption.isSome) :
    ∃ cs, render markup = .ok cs := by
  obtain ⟨cs, hcs⟩ := Option.isSome_iff_exists.mp some
  exact ⟨cs, Cli.ok_of_toOption hcs⟩

/-- Every cell of the table of commands can be shown. -/
theorem render_helpRows : ∀ row ∈ helpRows standardCommands,
    (∃ cs, render row.1 = .ok cs) ∧ ∃ cs, render row.2 = .ok cs := by
  have shows {left right : String}
      (some : ((render left).toOption.isSome && (render right).toOption.isSome) = true) :
      (∃ cs, render left = .ok cs) ∧ ∃ cs, render right = .ok cs := by
    obtain ⟨first, second⟩ := Bool.and_eq_true_iff.mp some
    exact ⟨render_of_isSome first, render_of_isSome second⟩
  have each : Command.standard.all fun b => (render ("/" ++ b.name)).toOption.isSome &&
      (render (standardCommands.describe b.name)).toOption.isSome := by
    decide +kernel
  simp only [helpRows, List.mem_append, List.mem_cons, List.mem_map, List.not_mem_nil, or_false]
  rintro row ((rfl | ⟨name, hname, rfl⟩) | rfl)
  · exact shows (by decide +kernel)
  · rw [Registry.names, List.mem_mergeSort, bindings_standardCommands] at hname
    obtain ⟨b, hb, rfl⟩ := List.mem_map.mp hname
    exact shows (List.all_eq_true.mp each b hb)
  · exact shows (by decide +kernel)

theorem passes_printHelp : printHelp.Passes Fair Returns := by
  refine passes_house fun h equipped => ?_
  rw [equipped.commands]
  refine Passes.next (passes_mapM fun row hrow => ?_) fun _ =>
    passes_forM (fun _ => passes_note _) _
  obtain ⟨left, right⟩ := render_helpRows row hrow
  exact (passes_rendered left).next fun _ => (passes_rendered right).next fun _ => passes_pure _

/-! ## Commands -/

/-- Whether a word behind a slash is one of a command about sessions. -/
def isOfSession (word : String) : Bool := "repl-".toList.isPrefixOf word.toList

/-- Whether the user enters a command about sessions. -/
def entersSessionCommand : Input → Bool
  | .interrupt => false
  | .line text =>
    match text.toList with
    | '/' :: word => isOfSession (String.ofList (Text.trim word))
    | _ => false

/-- A standard command that is not about sessions installs the artifact or runs it. -/
theorem command_of_other {word : String} (other : isOfSession word = false) {c : Command}
    (bound : standardCommands.command word = .ok c) : c = .install ∨ ∃ sub, c = .run sub := by
  unfold Registry.command Registry.find? at bound
  rw [bindings_standardCommands] at bound
  split at bound
  · next b found =>
    obtain rfl := Except.ok.inj bound
    obtain rfl : b.name = word := by simpa using List.find?_some found
    have mem := List.mem_of_find?_eq_some found
    simp only [Command.standard, List.mem_cons, List.not_mem_nil, or_false] at mem
    rcases mem with rfl | rfl | rfl | rfl | rfl | rfl | rfl | rfl
    · exact .inl rfl
    · exact absurd other (by decide +kernel)
    · exact absurd other (by decide +kernel)
    · exact absurd other (by decide +kernel)
    · exact absurd other (by decide +kernel)
    · exact .inr ⟨_, rfl⟩
    · exact .inr ⟨_, rfl⟩
    · exact .inr ⟨_, rfl⟩
  · cases bound

section Safe

variable (safe : ∀ d, Fair d → d.Safe) {post : Post} {d : Desk} {word : String}

include safe

theorem passes_fetchArtifact (source : Value) :
    (Command.fetchArtifact source).Passes Fair Sound := by
  unfold Command.fetchArtifact
  simp only
  split
  · exact passes_ofExcept fun _ e => nomatch e
  · refine passes_house fun h equipped => ?_
    obtain ⟨name, named⟩ := equipped.named
    rw [named]
    cases h.location.directory with
    | none => exact passes_ofExcept fun _ e => nomatch e
    | some dir => exact passes_ask safe rfl

theorem passes_oneShot (dir : Machine.Path) (text : String) :
    (Conduct.oneShot dir text).Passes Fair Sound := by
  refine passes_house fun h equipped => ?_
  obtain ⟨name, named⟩ := equipped.named
  have place : Sound h.location.artifactPath := by
    unfold Location.artifactPath
    rw [named]
    cases h.location.directory <;> exact fun _ e => nomatch e
  exact (passes_ofExcept place).bind (fun _ sound => sound.error) fun a _ => passes_ask safe rfl

theorem passes_invoke (other : isOfSession word = false) :
    (Command.invoke post word).Passes Fair Sound := by
  unfold Command.invoke
  refine passes_house fun h equipped => ?_
  rw [equipped.commands]
  cases bound : standardCommands.command word with
  | error f => exact passes_ofExcept fun _ e => nomatch e
  | ok c =>
    have found : (ofExcept (.ok c : Except Trouble Command)).Passes Fair (· = .ok c) :=
      passes_ofExcept rfl
    refine found.bind (fun _ e => nomatch e) fun b e => (passes_note _).next fun _ => ?_
    obtain rfl := Except.ok.inj e
    rcases command_of_other other bound with rfl | ⟨sub, rfl⟩
    · exact passes_fetchArtifact safe post.source
    · exact passes_oneShot safe post.dir sub

theorem passes_command (stays : leavesAt word = false) (other : isOfSession word = false) :
    (command d word).Passes Fair Sound := by
  unfold command
  rw [leavesAt] at stays
  rw [stays, if_neg Bool.false_ne_true]
  split
  · exact passes_printHelp.mono fun _ => Returns.sound
  · refine (passes_invoke safe other).bind (fun _ sound => sound.error) fun reply _ => ?_
    split
    · exact (passes_pure ()).mono fun _ => Returns.sound
    · exact (passes_styled "dim" isStyle_dim _).mono fun _ => Returns.sound

/-- A line behind a slash is done with, whether it fails or not. -/
theorem passes_handleLine {text : String} {word : List Char} (slash : text.toList = '/' :: word)
    (stays : leaves (.line text) = false) (other : entersSessionCommand (.line text) = false) :
    (handleLine d text).Passes Fair Returns := by
  have handles : (handle d text).Passes Fair Sound := by
    unfold leaves at stays
    unfold entersSessionCommand at other
    unfold handle
    simp only [slash] at stays other ⊢
    exact passes_command safe stays other
  refine handles.attempt fun r sound => ?_
  split
  · exact passes_pure ()
  · exact passes_styled "red" isStyle_red _
  · next t unlike =>
    cases t with
    | failure f => exact absurd rfl (unlike f)
    | breakdown b => exact absurd rfl (sound b)

end Safe

end ToolHost.Prompt
