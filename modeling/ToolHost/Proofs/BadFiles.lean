import ToolHost.Proofs.Config.Absence
import ToolHost.Proofs.Config.Settled

/-!
# Files that say nothing

A configuration file that is missing, cannot be read, is malformed or is no mapping says nothing,
and the settings are those of a host on which it does not exist. That holds of every content that is a
text. One that is no UTF-8 text is not told apart from a failure of the program and ends the load.
-/
namespace ToolHost.Config

open Machine (Host Path Place Bytes Errno FileTree)

variable {h : Host} {p : Path} {root : Option String} {paths : List Path}

/-! ## One file -/

/-- What opening a file and reading it to its end gives. -/
def opening (h : Host) (p : Path) : Except Errno Bytes :=
  if h.unreadable.contains p.text then .error .accessDenied else h.files.read p

/-- What is made of a file that is there. -/
def taken (p : Path) : Except Errno Bytes → Logged Entries
  | .error e =>
    (if e = .accessDenied || e = .notPermitted then
        Logged.note Log.debug ("Permission denied reading " ++ p.text)
      else Logged.note Log.warning ("Error reading " ++ p.text ++ ": " ++ fileError e p.text)).bind
      fun _ => .ok []
  | .ok content =>
    match textOf? content with
    | none => .ofExcept (.error .notUtf8)
    | some text => entriesOfText p.text text

/-- What is made of a file: whether it is there, and if so what opening it gives. -/
def sourceOf (p : Path) (there : Except Breakdown Bool) (opened : Except Errno Bytes) :
    Logged Entries :=
  (Logged.ofExcept there).bind fun there => if there then taken p opened else .ok []

theorem readSource_eq (h : Host) (p : Path) :
    readSource h p = sourceOf p (Place.exists? h p) (opening h p) := by
  unfold readSource sourceOf
  change Logged.bind _ _ = _
  congr 1
  funext there
  cases there with
  | false => rfl
  | true =>
    by_cases hreadable : h.unreadable.contains p.text
    · simp only [opening, hreadable]
      rfl
    · simp only [opening, hreadable]
      cases h.files.read p with
      | error e =>
        by_cases hdenied : e = .accessDenied || e = .notPermitted
        · simp [taken, hdenied]
          rfl
        · simp [taken, hdenied]
          rfl
      | ok content => rfl

/-- The mapping that a file holds, an empty one if it holds none. -/
def said (opened : Except Errno Bytes) : Entries :=
  match opened.toOption.bind textOf? with
  | none => []
  | some text =>
    match Yaml.load text with
    | .ok v => (v.bind Value.entries?).getD []
    | .error _ => []

theorem taken_outcome {opened : Except Errno Bytes}
    (utf8 : ∀ content, opened = .ok content → (textOf? content).isSome)
    (yaml : ∀ content text, opened = .ok content → textOf? content = some text →
      ∀ e, Yaml.load text = .error e → e = .malformed) :
    (taken p opened).outcome = .ok (said opened) := by
  cases opened with
  | error e =>
    by_cases hdenied : e = .accessDenied || e = .notPermitted
    · rw [taken, if_pos hdenied]
      rfl
    · rw [taken, if_neg hdenied]
      rfl
  | ok content =>
    obtain ⟨text, htext⟩ := Option.isSome_iff_exists.mp (utf8 content rfl)
    have hsaid : said (.ok content) = match Yaml.load text with
        | .ok v => (v.bind Value.entries?).getD []
        | .error _ => [] := by
      simp only [said, Except.toOption, Option.bind_some, htext]
    simp only [taken, htext, hsaid, entriesOfText]
    cases hload : Yaml.load text with
    | ok v => rfl
    | error e =>
      rw [yaml content text rfl htext e hload]
      rfl

theorem sourceOf_outcome {opened : Except Errno Bytes} {there : Bool}
    (utf8 : ∀ content, opened = .ok content → (textOf? content).isSome)
    (yaml : ∀ content text, opened = .ok content → textOf? content = some text →
      ∀ e, Yaml.load text = .error e → e = .malformed) :
    (sourceOf p (.ok there) opened).outcome = .ok (if there then said opened else []) := by
  cases there with
  | false => rfl
  | true => exact taken_outcome utf8 yaml

/-! ## All files -/

/-- Whether nothing comes of a file. -/
def saysNothing (h : Host) (p : Path) : Bool :=
  match (readSource h p).outcome with
  | .ok entries => entries.isEmpty
  | .error _ => false

theorem saysNothing_iff : saysNothing h p = true ↔ (readSource h p).outcome = .ok [] := by
  rw [saysNothing]
  cases (readSource h p).outcome <;> simp

/-- Where the configuration files are of which nothing comes. -/
def silentPlaces (h : Host) (root : Option String) : List Machine.Place :=
  match Place.all h root with
  | .error _ => []
  | .ok paths => (paths.map h.files.place).filter fun x =>
      (h.files.at? x matches some (.file _)) &&
        paths.all fun p => h.files.place p != x || saysNothing h p

/-- The host on which none of these files exists. -/
def withoutSilent (h : Host) (root : Option String) : Host :=
  { h with files := h.files.without (silentPlaces h root) }

theorem areFiles_silentPlaces (h : Host) (root : Option String) :
    h.files.AreFiles (silentPlaces h root) := by
  intro x hx
  rw [silentPlaces] at hx
  split at hx
  · cases hx
  · have hfile := (Bool.and_eq_true_iff.mp (List.mem_filter.mp hx).2).1
    split at hfile
    next content hcontent => exact ⟨content, hcontent⟩
    next => cases hfile

theorem saysNothing_of_mem (hall : Place.all h root = .ok paths) (hp : p ∈ paths)
    (silent : h.files.place p ∈ silentPlaces h root) : saysNothing h p = true := by
  rw [silentPlaces, hall] at silent
  have hnothing := (Bool.and_eq_true_iff.mp (List.mem_filter.mp silent).2).2
  simpa using List.all_eq_true.mp hnothing p hp

theorem user?_eq (huser : Place.user? h = .ok (some p)) :
    ∃ dir : Path, p = dir.join Place.fileName := by
  unfold Place.user? at huser
  split at huser
  · obtain ⟨dir, -, rfl⟩ := Option.map_eq_some_iff.mp (Except.ok.inj huser)
    exact ⟨_, rfl⟩
  · split at huser
    next dir _ =>
      obtain rfl := Option.some.inj (Except.ok.inj huser)
      exact ⟨_, rfl⟩
    next =>
      obtain ⟨home, -, huser⟩ := bind_ok huser
      obtain ⟨common, -, huser⟩ := bind_ok huser
      split at huser <;> obtain rfl := Option.some.inj (Except.ok.inj huser) <;> exact ⟨_, rfl⟩

theorem mem_all (hall : Place.all h root = .ok paths) (hp : p ∈ paths) :
    ∃ dir : Path, p = dir.join Place.fileName := by
  obtain ⟨user, huser, hpaths⟩ := bind_ok hall
  obtain rfl := Except.ok.inj hpaths
  simp only [List.mem_append, Option.mem_toList] at hp
  rcases hp with (hsystem | hfile) | hproject
  · rw [Place.system?] at hsystem
    split at hsystem
    · obtain ⟨dir, -, rfl⟩ := Option.map_eq_some_iff.mp hsystem
      exact ⟨_, rfl⟩
    · obtain rfl := Option.some.inj hsystem
      exact ⟨_, rfl⟩
  · exact user?_eq (hfile ▸ huser)
  · obtain ⟨dir, -, rfl⟩ := Option.map_eq_some_iff.mp hproject
    exact ⟨_, rfl⟩

theorem place_join (t : FileTree) (dir : Path) {n : String} (hn : Path.IsPlain n) :
    t.place (dir.join n) = t.place dir ++ [n] := by
  rw [hn.join, t.place_append dir hn.notAbove]

/-- Whether something of another name exists does not depend on these files. -/
theorem exists?_withoutSilent (dir : Path) {n : String} (hn : Path.IsPlain n)
    (other : n ≠ Place.fileName) :
    Place.exists? (withoutSilent h root) (dir.join n) = Place.exists? h (dir.join n) := by
  rcases (areFiles_silentPlaces h root).sight (dir.join n) with ⟨hmem, -⟩ | ⟨hsame, -⟩
  · rw [silentPlaces] at hmem
    split at hmem
    · cases hmem
    next paths hall =>
      obtain ⟨p, hp, hplace⟩ := List.mem_map.mp (List.mem_filter.mp hmem).1
      obtain ⟨dir', rfl⟩ := mem_all hall hp
      rw [place_join _ _ hn, place_join _ _ (by decide)] at hplace
      exact absurd (List.append_inj' hplace rfl).2 (by simpa using Ne.symm other)
  · rw [Place.exists?, withoutSilent, hsame, Place.exists?]

theorem all_withoutSilent (h : Host) (root : Option String) :
    Place.all (withoutSilent h root) root = Place.all h root := by
  have huser : Place.user? (withoutSilent h root) = Place.user? h := by
    have hwindows : (withoutSilent h root).isWindows = h.isWindows := rfl
    have hset (name : String) : (withoutSilent h root).nonempty? name = h.nonempty? name := rfl
    have hhome : Place.home (withoutSilent h root) = Place.home h := by
      have hhomes : (withoutSilent h root).homes = h.homes := rfl
      unfold Place.home Host.home? Host.expandHome?
      rw [hhomes]
    simp only [Place.user?, hwindows, hset, hhome,
      exists?_withoutSilent _ (n := ".config") (by decide) (by decide)]
  rw [Place.all, Place.all, huser]
  rfl

theorem exists?_of_place {there : Bool} (hthere : Place.exists? h p = .ok there) :
    h.files.exists? p = .ok there := by
  rw [Place.exists?] at hthere
  cases hfiles : h.files.exists? p with
  | error e => simp [hfiles] at hthere
  | ok b => simpa [hfiles] using hthere

theorem readSource_withoutSilent (hall : Place.all h root = .ok paths) (hp : p ∈ paths) :
    (readSource (withoutSilent h root) p).outcome = (readSource h p).outcome := by
  rcases (areFiles_silentPlaces h root).sight p with ⟨hmem, hnone⟩ | ⟨hsame, hread⟩
  · have hmissing : Place.exists? (withoutSilent h root) p = .ok false := by
      rw [Place.exists?, withoutSilent, hnone]
    rw [saysNothing_iff.mp (saysNothing_of_mem hall hp hmem), readSource_eq, hmissing]
    rfl
  · have hexists : Place.exists? (withoutSilent h root) p = Place.exists? h p := by
      rw [Place.exists?, withoutSilent, hsame, Place.exists?]
    rw [readSource_eq, readSource_eq, hexists]
    cases hthere : Place.exists? h p with
    | error b => rfl
    | ok there =>
      cases there with
      | false => rfl
      | true =>
        have hopening : opening (withoutSilent h root) p = opening h p := by
          rw [opening, opening, withoutSilent, hread (hsame.trans (exists?_of_place hthere))]
        rw [hopening]

theorem readSources_withoutSilent (hall : Place.all h root = .ok paths) {some : List Path}
    (hsome : some ⊆ paths) :
    (readSources (withoutSilent h root) some).outcome = (readSources h some).outcome := by
  induction some with
  | nil => rfl
  | cons p some ih =>
    obtain ⟨hp, hrest⟩ := List.cons_subset.mp hsome
    rw [readSources, readSources, Logged.outcome_bind, Logged.outcome_bind,
      readSource_withoutSilent hall hp]
    congr 1
    funext entries
    split
    · exact ih hrest
    · simp only [Logged.outcome_bind, ih hrest]

theorem build_withoutSilent (h : Host) (root : Option String) :
    (build (withoutSilent h root) root).outcome = (build h root).outcome := by
  rw [build, build, all_withoutSilent, Logged.outcome_bind, Logged.outcome_bind]
  change Place.all h root >>= _ = Place.all h root >>= _
  cases hall : Place.all h root with
  | error b => rfl
  | ok paths =>
    change (_ >>= _ : Logged Settings).outcome = (_ >>= _ : Logged Settings).outcome
    rw [Logged.outcome_bind, Logged.outcome_bind,
      readSources_withoutSilent hall (List.Subset.refl _)]
    rfl

theorem Cache.load_congr {k : Host} (hbuild : (build k root).outcome = (build h root).outcome)
    (c : Cache) (fresh : Bool) :
    (c.load k root fresh).1.outcome = (c.load h root fresh).1.outcome ∧
      (c.load k root fresh).2 = (c.load h root fresh).2 := by
  have hrebuild : (c.rebuild k root).1.outcome = (c.rebuild h root).1.outcome ∧
      (c.rebuild k root).2 = (c.rebuild h root).2 := by
    have hbuilt : ((build k root).bind fun s => .ok ⟨c.next, s⟩).outcome =
        ((build h root).bind fun s => Logged.ok (⟨c.next, s⟩ : Built)).outcome :=
      (Logged.outcome_bind _ _).trans
        ((congrArg (· >>= _) hbuild).trans (Logged.outcome_bind _ _).symm)
    unfold rebuild
    simp only [hbuilt]
    split
    · exact ⟨hbuilt, rfl⟩
    · exact ⟨hbuilt, rfl⟩
  unfold load
  split
  · exact ⟨rfl, rfl⟩
  · exact hrebuild

/-- From a file that is missing, cannot be opened, is malformed or holds no mapping comes nothing,
from any other one its mapping; and the settings in memory and those that a load gives are the same
as on a host without the files of which nothing comes. -/
theorem bad_files_ignored (h : Host) :
    (∀ (p : Path) (opened : Except Errno Bytes) (there : Bool),
      (∀ content, opened = .ok content → (textOf? content).isSome) →
      (∀ content text, opened = .ok content → textOf? content = some text →
        ∀ e, Yaml.load text = .error e → e = .malformed) →
      (sourceOf p (.ok there) opened).outcome = .ok (if there then said opened else [])) ∧
    (∀ p, readSource h p = sourceOf p (Place.exists? h p) (opening h p)) ∧
    ∀ (c : Cache) (root : Option String) (fresh : Bool),
      (c.load (withoutSilent h root) root fresh).1.outcome = (c.load h root fresh).1.outcome ∧
      (c.load (withoutSilent h root) root fresh).2 = (c.load h root fresh).2 :=
  ⟨fun _ _ _ utf8 yaml => sourceOf_outcome utf8 yaml, readSource_eq h,
    fun c root fresh => c.load_congr (build_withoutSilent h root) fresh⟩

/-- The system's file on a host where it holds some octets and there is no other file. -/
def holding (content : Bytes) : Host :=
  { environment := [("HOME", "/home")]
    files.entries := [(["etc"], .dir), (["etc", "toolbridge"], .dir),
      (["etc", "toolbridge", "config.yaml"], .file content)] }

def systemFile : Path := Place.shared (Path.ofString "/etc")

/-- A list that is opened and not closed. -/
def unclosed : Bytes := "tool: [".toUTF8.toList

/-- The error in which something ended. -/
def errorOf? {ε α : Type} : Except ε α → Option ε
  | .ok _ => none
  | .error e => some e

theorem eq_error_of_errorOf? {ε α : Type} {x : Except ε α} {e : ε} (h : errorOf? x = some e) :
    x = .error e := by
  cases x with
  | ok a => cases h
  | error _ => exact congrArg Except.error (Option.some.inj h)

theorem bad_files_ignored_unclosed :
    (readSource (holding unclosed) systemFile).outcome = .ok [] ∧
      silentPlaces (holding unclosed) none = [["etc", "toolbridge", "config.yaml"]] ∧
      (({} : Cache).load (withoutSilent (holding unclosed) none) none false).1.outcome =
        (({} : Cache).load (holding unclosed) none false).1.outcome := by
  have hopening : opening (holding unclosed) systemFile = .ok unclosed := by rfl
  have htext : textOf? unclosed = some "tool: [".toList := by decide +kernel
  have hload : Yaml.load "tool: [".toList = .error .malformed :=
    eq_error_of_errorOf? (by decide +kernel)
  obtain ⟨hmade, hsource, hsettings⟩ := bad_files_ignored (holding unclosed)
  refine ⟨?_, by decide +kernel, (hsettings {} none false).1⟩
  rw [hsource, show Place.exists? (holding unclosed) systemFile = .ok true by rfl, hopening,
    hmade systemFile (.ok unclosed) true (by simp [htext]) ?_]
  · simp only [said, Except.toOption, Option.bind_some, htext, hload, if_true]
  · rintro content text ⟨⟩ hcontent e herror
    rw [← Option.some.inj (htext.symm.trans hcontent), hload] at herror
    exact (Except.error.inj herror).symm

/-- Octets that are no text end the load. -/
theorem undecodable_fatal :
    (readSource (holding [0xff]) systemFile).outcome = .error .notUtf8 ∧
      (({} : Cache).load (holding [0xff]) none false).1.outcome = .error .notUtf8 ∧
      (({} : Cache).load { holding [0xff] with files := {} } none false).1.outcome.isOk := by
  exact ⟨by rfl, by rfl, by decide +kernel⟩

end ToolHost.Config
