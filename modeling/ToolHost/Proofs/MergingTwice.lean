import ToolHost.Proofs.BadFiles
import ToolHost.Proofs.Config.Depths
import ToolHost.Proofs.NullSparing
import ToolHost.Proofs.Yaml.Keys

/-!
# Merging twice

Main statement: a mapping in which no mapping contains itself, laid over another one a second time,
has no further effect, nulls and lists included; so a file that is both the user's and the
project's, as it is when the project is the home directory, counts once.

A mapping that contains itself cannot be laid over itself: there is no end to its entries.
-/
namespace ToolHost

open Entries

namespace Value

mutual

/-- Whether a value is no mapping that contains itself, nor holds one as the value of a key. -/
def isFounded : Value → Bool
  | .map entries => areFounded entries
  | .loop label body => (Value.loop label body).entries?.isNone
  | _ => true

def areFounded : List (Scalar × Value) → Bool
  | [] => true
  | (_, v) :: rest => isFounded v && areFounded rest

end

theorem areFounded_iff {entries : Entries} :
    areFounded entries = true ↔ ∀ e ∈ entries, e.2.isFounded = true := by
  induction entries with
  | nil => simp [areFounded]
  | cons e entries ih => simp [areFounded, ih]

end Value

namespace Config

open Machine (Host Path Bytes Errno)

variable {base layer below merged : Entries} {layers : List Entries} {v : Value} {key : Scalar}
  {e : Scalar × Value} {h : Host} {p q : Path} {paths : List Path}

/-! ## One mapping over another -/

theorem put_self (h : base.get? key = some v) : base.put key v = base := by
  induction base with
  | nil => cases h
  | cons e base ih =>
    obtain ⟨k, w⟩ := e
    rw [put]
    by_cases hk : k.same key
    · obtain rfl : w = v := by simpa [get?, hk] using h
      rw [if_pos hk]
    · rw [if_neg hk, ih (by simpa [get?, hk] using h)]

theorem get?_of_mem (mapping : layer.IsMapping) (he : e ∈ layer) :
    layer.get? e.1 = some e.2 := by
  induction layer with
  | nil => cases he
  | cons f layer ih =>
    obtain ⟨hfirst, hrest⟩ := List.pairwise_cons.mp mapping
    rcases List.mem_cons.mp he with rfl | he
    · simp [get?, (Scalar.same_iff e.1 e.1).mpr rfl]
    · simpa [get?, hfirst e he] using ih hrest he

/-- A layer whose values make nothing new of what is below them has no effect. -/
theorem overlay_absorbed (h : ∀ e ∈ layer, covered (base.get? e.1) (some e.2) = base.get? e.1) :
    overlay base layer = base := by
  induction layer with
  | nil => rw [overlay]
  | cons e layer ih =>
    obtain ⟨key, v⟩ := e
    have hhead : covered (base.get? key) (some v) = base.get? key := h _ List.mem_cons_self
    have hput : ((laidOver (base.get? key) v).map (base.put key)).getD base = base := by
      rw [covered, Option.bind_some] at hhead
      cases hmerged : laidOver (base.get? key) v with
      | none => rfl
      | some merged =>
        rw [hmerged, Option.some_or] at hhead
        exact put_self hhead.symm
    rw [overlay_cons, hput, ih fun e he => h e (List.mem_cons_of_mem _ he)]

/-- A value has no effect over itself, nor a second time over another one. -/
theorem covered_twice (h : v.IsKeyed) (founded : v.isFounded = true) :
    covered (some v) (some v) = some v ∧
      ∀ a, covered (covered a (some v)) (some v) = covered a (some v) := by
  have leaf {v : Value} (hv : v.entries? = none) : covered (some v) (some v) = some v ∧
      ∀ a, covered (covered a (some v)) (some v) = covered a (some v) := by
    by_cases hnull : v.isNull
    · rw [isNull_iff] at hnull
      subst hnull
      exact ⟨rfl, fun a => rfl⟩
    · have hstated : v.isNull = false := by simpa using hnull
      refine ⟨covered_leaf _ hv hstated, fun a => ?_⟩
      rw [covered_leaf _ hv hstated, covered_leaf _ hv hstated]
  induction h with
  | @map entries mapping values ih =>
    have hvalues := Value.areFounded_iff.mp founded
    have hself : overlay entries entries = entries := by
      refine overlay_absorbed fun e he => ?_
      rw [get?_of_mem mapping he]
      exact (ih e he (hvalues e he)).1
    have htwice (base : Entries) : overlay (overlay base entries) entries = overlay base entries := by
      refine overlay_absorbed fun e he => ?_
      rw [get?_overlay base mapping, get?_of_mem mapping he]
      exact (ih e he (hvalues e he)).2 _
    refine ⟨by rw [covered_map_map, hself], fun a => ?_⟩
    -- A mapping below is merged with; anything else is replaced by the mapping as it is.
    cases ha : a.bind Value.entries? with
    | none => rw [covered_map_of_leaf ha, covered_map_map, hself]
    | some base =>
      have hmerged : covered a (some (.map entries)) = some (.map (overlay base entries)) := by
        simp [covered, laidOver, ha]
      rw [hmerged, covered_map_map, htwice]
  | loop label => exact leaf (by simpa [Value.isFounded] using founded)
  | _ => exact leaf rfl

theorem overlay_twice (base : Entries) (h : (Value.map layer).IsKeyed)
    (founded : (Value.map layer).isFounded = true) :
    overlay (overlay base layer) layer = overlay base layer := by
  have htwice := (covered_twice h founded).2 (some (.map base))
  rw [covered_map_map, covered_map_map] at htwice
  exact Value.map.inj (Option.some.inj htwice)

/-! ## Layers -/

/-- A layer in which no mapping contains itself can be laid over any other. -/
theorem isEndless_of_founded (h : (Value.map layer).IsKeyed)
    (founded : (Value.map layer).isFounded = true) : isEndless base layer = false := by
  have within {v : Value} (h : v.IsKeyed) (founded : v.isFounded = true) (below : Option Value) :
      isEndless.entryIsEndless below v = false := by
    induction h generalizing below with
    | @map entries mapping values ih =>
      have hvalues := Value.areFounded_iff.mp founded
      have hentries (base part : Entries) (hpart : part ⊆ entries) : isEndless base part = false := by
        induction part with
        | nil => rw [isEndless]
        | cons e part next =>
          obtain ⟨he, hrest⟩ := List.cons_subset.mp hpart
          rw [isEndless, next hrest, ih e he (hvalues e he)]
          rfl
      rw [isEndless.entryIsEndless]
      split
      · exact hentries _ entries (List.Subset.refl _)
      · rfl
    | loop label =>
      have hnone := Option.isNone_iff_eq_none.mp founded
      simp [isEndless.entryIsEndless, hnone]
    | _ => rfl
  exact within h founded (some (.map base))

theorem foldlM_laidOn_settled (hbase : IsSettled base) (h : layers.foldlM laidOn base = .ok merged) :
    IsSettled merged := by
  induction layers generalizing base with
  | nil => exact Except.ok.inj h ▸ hbase
  | cons layer layers ih =>
    obtain ⟨next, hnext, h⟩ := bind_ok h
    rw [hbase.laidOn_eq] at hnext
    split at hnext
    · cases hnext
    · exact ih (Except.ok.inj hnext ▸ hbase.overlay layer) h

/-- A layer that comes twice in a row counts once. -/
theorem combined_twice (lower higher : List Entries) (h : (Value.map layer).IsKeyed)
    (founded : (Value.map layer).isFounded = true) :
    combined (lower ++ layer :: layer :: higher) = combined (lower ++ layer :: higher) := by
  rw [combined_eq, combined_eq, List.foldlM_append, List.foldlM_append]
  cases hlower : lower.foldlM laidOn [] with
  | error e => rfl
  | ok below =>
    have hbelow : IsSettled below := foldlM_laidOn_settled ⟨List.Pairwise.nil, by simp⟩ hlower
    have hlaid {base : Entries} (hbase : IsSettled base) :
        laidOn base layer = .ok (overlay base layer) := by
      rw [hbase.laidOn_eq, isEndless_of_founded h founded]
      rfl
    change (laidOn below layer >>= fun base => laidOn base layer >>= fun base =>
      higher.foldlM laidOn base) = laidOn below layer >>= fun base => higher.foldlM laidOn base
    rw [hlaid hbelow]
    change (laidOn (overlay below layer) layer >>= _) = _
    rw [hlaid (hbelow.overlay layer), overlay_twice below h founded]

/-! ## Files -/

/-- Whether two paths lead to the same: nothing, or what opens in the same way. -/
def SameFile (h : Host) (p q : Path) : Prop :=
  Place.exists? h p = Place.exists? h q ∧ opening h p = opening h q

/-- How a file is named does not decide what comes of it. -/
theorem sourceOf_congr (p q : Path) (there : Except Breakdown Bool) (opened : Except Errno Bytes) :
    (sourceOf p there opened).outcome = (sourceOf q there opened).outcome := by
  have htaken : (taken p opened).outcome = (taken q opened).outcome := by
    cases opened with
    | error e =>
      have hnothing (p : Path) : (taken p (.error e)).outcome = .ok [] := by
        rw [taken]
        split <;> rfl
      rw [hnothing, hnothing]
    | ok content =>
      rw [taken, taken]
      cases textOf? content with
      | none => dsimp only
      | some text =>
        simp only [entriesOfText]
        cases Yaml.load text with
        | ok v => dsimp only
        | error e =>
          cases e with
          | malformed => exact (rfl : _ = Except.ok []).trans rfl
          | _ => dsimp only
  cases there with
  | error b => exact (rfl : _ = Except.error b).trans rfl
  | ok there =>
    cases there with
    | false => exact (rfl : _ = Except.ok []).trans rfl
    | true => exact htaken

theorem SameFile.readSource (same : SameFile h p q) :
    (readSource h p).outcome = (Config.readSource h q).outcome := by
  rw [readSource_eq, readSource_eq, same.1, same.2]
  exact sourceOf_congr p q _ _

/-- What a file holds is a mapping at every depth. -/
theorem readSource_isKeyed (hp : (readSource h p).outcome = .ok layer) :
    (Value.map layer).IsKeyed := by
  have hnil : (Value.map []).IsKeyed := .map List.Pairwise.nil (by simp)
  rw [readSource_eq, sourceOf] at hp
  cases hthere : Place.exists? h p with
  | error b =>
    rw [hthere] at hp
    cases hp
  | ok there =>
    rw [hthere] at hp
    cases there with
    | false => exact Except.ok.inj hp ▸ hnil
    | true =>
      change (taken p (opening h p)).outcome = .ok layer at hp
      cases hopened : opening h p with
      | error e =>
        rw [hopened, taken] at hp
        split at hp <;> exact Except.ok.inj hp ▸ hnil
      | ok content =>
        rw [hopened, taken] at hp
        cases htext : textOf? content with
        | none =>
          simp only [htext] at hp
          cases hp
        | some text =>
          simp only [htext, entriesOfText] at hp
          cases hload : Yaml.load text with
          | error e =>
            rw [hload] at hp
            cases e <;> first | exact Except.ok.inj hp ▸ hnil | cases hp
          | ok found =>
            rw [hload] at hp
            obtain rfl := Except.ok.inj hp
            cases found with
            | none => exact hnil
            | some v =>
              cases hv : v.entries? with
              | none => simpa [hv] using hnil
              | some entries => simpa [hv] using (Yaml.isKeyed_load hload).entries? hv

/-- What comes of the files: the first failure, or all that say something. -/
theorem readSources_outcome (h : Host) (paths : List Path) :
    (readSources h paths).outcome =
      (paths.mapM fun p => (readSource h p).outcome).map (·.filter (!·.isEmpty)) := by
  induction paths with
  | nil => rfl
  | cons p paths ih =>
    rw [readSources, Logged.outcome_bind, List.mapM_cons]
    cases (readSource h p).outcome with
    | error b => rfl
    | ok entries =>
      change (if entries.isEmpty then readSources h paths else do
        Logged.note Log.debug ("Loaded config from " ++ p.text)
        return entries :: (← readSources h paths)).outcome = _
      by_cases hempty : entries.isEmpty
      · rw [if_pos hempty, ih]
        cases paths.mapM fun p => (readSource h p).outcome with
        | error b => rfl
        | ok found => simp [Except.map, hempty, bind, Except.bind, pure, Except.pure]
      · rw [if_neg hempty, Logged.outcome_bind]
        change (readSources h paths >>= fun found => Logged.ok (entries :: found)).outcome = _
        rw [Logged.outcome_bind, ih]
        cases paths.mapM fun p => (readSource h p).outcome with
        | error b => rfl
        | ok found => simp [Except.map, hempty, bind, Except.bind, pure, Except.pure, Logged.ok]

/-- Settings made of some files and the environment. -/
theorem build_outcome {root : Option String} (hpaths : Place.all h root = .ok paths) :
    (build h root).outcome = (readSources h paths).outcome >>= fun layers =>
      combined (layers ++ (if (overrides h).isEmpty then [] else [overrides h])) >>=
        Settings.ofEntries := by
  rw [build, Logged.outcome_bind, hpaths]
  change (readSources h paths >>= _).outcome = _
  rw [Logged.outcome_bind]
  congr 1
  funext layers
  change (combined (if (overrides h).isEmpty then layers else layers ++ [overrides h]) >>= _) = _
  by_cases hempty : (overrides h).isEmpty
  · rw [if_pos hempty, if_pos hempty, List.append_nil]
  · rw [if_neg hempty, if_neg hempty]

/-- A file that is listed twice in a row, and in which no mapping contains itself, counts once. -/
theorem layers_twice (paths : List Path) (same : SameFile h p q)
    (founded : ∀ entries, (readSource h p).outcome = .ok entries →
      (Value.map entries).isFounded = true) (higher : List Entries) :
    ((readSources h (paths ++ [p, q])).outcome >>= fun layers => combined (layers ++ higher)) =
      (readSources h (paths ++ [p])).outcome >>= fun layers => combined (layers ++ higher) := by
  rw [readSources_outcome, readSources_outcome, List.mapM_append, List.mapM_append]
  cases paths.mapM fun p => (readSource h p).outcome with
  | error b => rfl
  | ok lower =>
    simp only [List.mapM_cons, List.mapM_nil, ← same.readSource]
    cases hp : (readSource h p).outcome with
    | error b => rfl
    | ok entries =>
      change combined ((lower ++ [entries, entries]).filter (!·.isEmpty) ++ higher) =
        combined ((lower ++ [entries]).filter (!·.isEmpty) ++ higher)
      by_cases hempty : entries.isEmpty
      · simp [hempty]
      · simpa [hempty] using combined_twice _ higher (readSource_isKeyed hp) (founded entries hp)

theorem all_none {user : Option Path} (huser : Place.user? h = .ok user) :
    Place.all h none = .ok ((Place.system? h).toList ++ user.toList) := by
  rw [Place.all, huser]
  simp [bind, Except.bind, pure, Except.pure]

theorem all_some {user : Option Path} {root : String} (huser : Place.user? h = .ok user)
    (hroot : root ≠ "") : Place.all h (some root) =
      .ok ((Place.system? h).toList ++ user.toList ++ [Place.project root]) := by
  rw [Place.all, huser]
  simp [bind, Except.bind, pure, Except.pure, hroot]

/-- In the home directory, without a common directory there, the project's file is the user's. -/
theorem user?_home {root : String} {dir : Path} (unix : h.isWindows = false)
    (unset : h.nonempty? "XDG_CONFIG_HOME" = none) (hhome : Place.home h = .ok dir)
    (uncommon : Place.exists? h (dir.join ".config") = .ok false) (hroot : Path.ofString root = dir) :
    Place.user? h = .ok (some (Place.project root)) := by
  rw [Place.user?, unset, hhome, Place.project, hroot]
  simp [unix, bind, Except.bind, pure, Except.pure, uncommon]

/-- A mapping in which none contains itself has no further effect when it is laid over another one
a second time. If a project's file is the user's, as in the home directory without a common
directory there, and no mapping in it contains itself, then the settings are those of the files with
this one listed once. -/
theorem merging_twice :
    (∀ base layer : Entries, (Value.map layer).IsKeyed → (Value.map layer).isFounded = true →
      overlay (overlay base layer) layer = overlay base layer) ∧
    (∀ (h : Host) (root : String) (dir : Path), h.isWindows = false →
      h.nonempty? "XDG_CONFIG_HOME" = none → Place.home h = .ok dir →
      Place.exists? h (dir.join ".config") = .ok false → Path.ofString root = dir →
      Place.user? h = .ok (some (Place.project root))) ∧
    ∀ (h : Host) (root : String) (p : Path), root ≠ "" → Place.user? h = .ok (some p) →
      SameFile h p (Place.project root) →
      (∀ entries, (readSource h p).outcome = .ok entries →
        (Value.map entries).isFounded = true) →
      Place.all h (some root) = .ok ((Place.system? h).toList ++ [p, Place.project root]) ∧
      Place.all h none = .ok ((Place.system? h).toList ++ [p]) ∧
      ∀ (c : Cache) (fresh : Bool),
        (c.load h (some root) fresh).1.outcome.map (·.settings) = (build h none).outcome := by
  refine ⟨fun base layer keyed founded => overlay_twice base keyed founded,
    fun h root dir unix unset hhome uncommon hroot => user?_home unix unset hhome uncommon hroot,
    fun h root p hroot huser same founded => ?_⟩
  have hsome := all_some huser hroot
  have hnone := all_none huser
  simp only [Option.toList_some, List.append_assoc, List.singleton_append] at hsome hnone
  refine ⟨hsome, hnone, fun c fresh => ?_⟩
  have hbuild : (build h (some root)).outcome = (build h none).outcome := by
    rw [build_outcome hsome, build_outcome hnone, ← bind_assoc, ← bind_assoc,
      layers_twice _ same founded]
  rcases c.load_cases h (some root) fresh with hload | ⟨_, -, hnoroot, -⟩
  · rw [hload, Cache.rebuild_outcome, hbuild]
    cases (build h none).outcome <;> rfl
  · cases hnoroot

/-- A host on which the user's file holds a text and there is no other file. -/
def atHome (text : String) : Host :=
  { environment := [("HOME", "/home")]
    files.entries := [(["home"], .dir), (["home", ".toolbridge"], .dir),
      (["home", ".toolbridge", "config.yaml"], .file text.toUTF8.toList)] }

/-- A null, a list and a mapping in a section. -/
def mixedText : String := "tool:\n  runtime: null\n  runtime_args: [a]\n  x: \x7bb: 1\x7d\n"

theorem merging_twice_home :
    (({} : Cache).load (atHome mixedText) (some "/home") false).1.outcome.map (·.settings) =
        (build (atHome mixedText) none).outcome ∧
      overlay (overlay [(.text "tool", .text "none")] [(.text "tool", .map [(.text "x", .null)])])
          [(.text "tool", .map [(.text "x", .null)])] =
        overlay [(.text "tool", .text "none")] [(.text "tool", .map [(.text "x", .null)])] := by
  have huser : Place.user? (atHome mixedText) = .ok (some (Place.project "/home")) :=
    merging_twice.2.1 (atHome mixedText) "/home" (Path.ofString "/home") rfl (by decide) (by rfl)
      (by rfl) rfl
  have hfounded : ∀ entries,
      (readSource (atHome mixedText) (Place.project "/home")).outcome = .ok entries →
        (Value.map entries).isFounded = true := by
    have hread : ((readSource (atHome mixedText) (Place.project "/home")).outcome.toOption.map
        fun entries => (Value.map entries).isFounded) = some true := by decide +kernel
    intro entries hentries
    simpa [hentries, Except.toOption] using hread
  refine ⟨(merging_twice.2.2 (atHome mixedText) "/home" _ (by decide) huser ⟨rfl, rfl⟩
    hfounded).2.2 {} false, merging_twice.1 _ _ (.map (by decide) ?_) (by decide)⟩
  simp only [List.forall_mem_singleton]
  exact .map (by decide) (by simp [Value.null, Value.IsKeyed.scalar])

/-- A mapping that contains itself is no failure once, and one when its file is listed twice. -/
theorem not_merged_twice_looped :
    Place.user? (atHome "tool:\n  x: &x\n    b: *x\n") = .ok (some (Place.project "/home")) ∧
      (({} : Cache).load (atHome "tool:\n  x: &x\n    b: *x\n") none true).1.outcome.isOk ∧
      (({} : Cache).load (atHome "tool:\n  x: &x\n    b: *x\n") (some "/home") true).1.outcome
        matches .error .tooDeep := by
  exact ⟨by rfl, by decide +kernel, by decide +kernel⟩

end Config

end ToolHost
