import ToolHost.Proofs.Config.Layers

/-!
# Settings and what was said of them

The settings that a configuration amounts to follow what its sections say of their fields, each by
the conversion of its field and with its default where nothing is said. The variables of the
environment are a layer of their own above all files, so settings built while one of them is set
heed it whatever the files hold. Settings in memory were built at an earlier time: they heed the
variables of that time.
-/
namespace ToolHost.Config

open Entries Machine

variable {entries fields merged : Entries} {name key : String} {s : Settings} {h : Host}

/-- Settings that are field by field what is given of them, converted, or else the default. -/
structure Settings.Follows (s : Settings) (given : String → String → Option Value) : Prop where
  directory : s.tool.directory = (given "tool" "directory").getD .null
  artifactName : s.tool.artifactName =
    ((given "tool" "artifact_name").filter (!·.isEmpty)).getD (.text defaultArtifactName)
  sourceUrl : s.tool.sourceUrl = (given "tool" "source_url").getD .null
  runtime : s.tool.runtime =
    ((given "tool" "runtime").filter (!·.isEmpty)).getD (.text defaultRuntime)
  runtimeArgs : arguments (given "tool" "runtime_args") defaultRuntimeArgs =
    .ok s.tool.runtimeArgs
  interactiveArgs : arguments (given "tool" "repl_args") defaultInteractiveArgs =
    .ok s.tool.interactiveArgs
  fetchTimeout : (given "tool" "fetch_timeout").elim (.ok defaultFetchTimeout) number =
    .ok s.tool.fetchTimeout
  defaultName : s.session.defaultName =
    ((given "session" "default_name").filter (!·.isEmpty)).getD (.text defaultSessionName)
  historyFile : s.session.historyFile = (given "session" "history_file").getD .null
  restartGrace : (given "session" "restart_grace").elim (.ok defaultRestartGrace) number =
    .ok s.session.restartGrace
  level : s.logging.level = (given "logging" "level").getD .null
  verbose : s.logging.verbose = (given "logging" "verbose").getD .null
  file : s.logging.file = (given "logging" "file").getD .null

theorem Settings.Follows.congr {given given' : String → String → Option Value}
    (h : s.Follows given)
    (heq : ∀ name ∈ knownSections, ∀ key, given name key = given' name key) :
    s.Follows given' := by
  have htool := heq "tool" (by decide)
  have hsession := heq "session" (by decide)
  have hlogging := heq "logging" (by decide)
  constructor <;> simp only [← htool, ← hsession, ← hlogging]
  exacts [h.directory, h.artifactName, h.sourceUrl, h.runtime, h.runtimeArgs, h.interactiveArgs,
    h.fetchTimeout, h.defaultName, h.historyFile, h.restartGrace, h.level, h.verbose, h.file]

/-- A field is missing, null, or what it states. -/
theorem stated?_cases (fields : Entries) (key : String) :
    (stated? fields key = none ∧ (fields.at? key = none ∨ fields.at? key = some .null)) ∨
      ∃ v, stated? fields key = some v ∧ fields.at? key = some v := by
  rw [stated?]
  cases hat : fields.at? key with
  | none => exact .inl ⟨rfl, .inl rfl⟩
  | some v =>
    by_cases hv : v.isNull
    · exact .inl ⟨by simp [hv, Option.filter], .inr (by rw [isNull_iff.mp hv])⟩
    · exact .inr ⟨v, by simp [hv, Option.filter], rfl⟩

theorem field_eq (fields : Entries) (key : String) :
    field fields key = (stated? fields key).getD .null := by
  rcases stated?_cases fields key with ⟨hnone, hat | hat⟩ | ⟨v, hv, hat⟩ <;> simp [field, *]

theorem fieldOr_eq (fields : Entries) (key default : String) :
    fieldOr fields key default =
      ((stated? fields key).filter (!·.isEmpty)).getD (.text default) := by
  rw [fieldOr, field_eq]
  cases stated? fields key with
  | none => rfl
  | some v => by_cases hv : v.isEmpty <;> simp [hv, Option.filter]

theorem arguments_eq (fields : Entries) (key : String) (default : List String) :
    arguments (fields.at? key) default = arguments (stated? fields key) default := by
  rcases stated?_cases fields key with ⟨hnone, hat | hat⟩ | ⟨v, hv, hat⟩
  · rw [hnone, hat]
  · rw [hnone, hat]
    rfl
  · rw [hv, hat]

/-- A null is no number, so a number that there is was stated or is the default. -/
theorem numberField_eq {default x : Decimal.Binary} (h : numberField fields key default = .ok x) :
    (stated? fields key).elim (.ok default) number = .ok x := by
  rw [numberField] at h
  rcases stated?_cases fields key with ⟨hnone, hat | hat⟩ | ⟨v, hv, hat⟩
  · rw [hat] at h
    rw [hnone]
    exact h
  · rw [hat] at h
    cases h
  · rw [hat] at h
    rw [hv]
    exact h

theorem sectionOf_eq (h : sectionOf entries name = .ok fields) :
    fields = fieldsOf entries name := by
  rw [sectionOf] at h
  rw [fieldsOf]
  cases hat : entries.at? name with
  | none =>
    rw [hat] at h
    exact (Except.ok.inj h).symm
  | some v =>
    rw [hat] at h
    change _ = v.entries?.getD []
    cases hv : v.entries? with
    | some found =>
      simp only [hv] at h
      exact (Except.ok.inj h).symm
    | none =>
      simp only [hv] at h
      split at h
      · exact (Except.ok.inj h).symm
      · cases h

theorem bind_ok {α β : Type} {x : Except Breakdown α} {f : α → Except Breakdown β} {b : β}
    (h : x >>= f = .ok b) : ∃ a, x = .ok a ∧ f a = .ok b := by
  cases x with
  | error e => cases h
  | ok a => exact ⟨a, rfl, h⟩

theorem Settings.follows (h : Settings.ofEntries entries = .ok s) :
    s.Follows fun name => stated? (fieldsOf entries name) := by
  obtain ⟨toolFields, htoolFields, h⟩ := bind_ok h
  obtain ⟨tool, htool, h⟩ := bind_ok h
  obtain ⟨sessionFields, hsessionFields, h⟩ := bind_ok h
  obtain ⟨session, hsession, h⟩ := bind_ok h
  obtain ⟨loggingFields, hloggingFields, h⟩ := bind_ok h
  obtain ⟨runtimeArgs, hruntimeArgs, htool⟩ := bind_ok htool
  obtain ⟨interactiveArgs, hinteractiveArgs, htool⟩ := bind_ok htool
  obtain ⟨fetchTimeout, hfetchTimeout, htool⟩ := bind_ok htool
  obtain ⟨restartGrace, hrestartGrace, hsession⟩ := bind_ok hsession
  obtain rfl := sectionOf_eq htoolFields
  obtain rfl := sectionOf_eq hsessionFields
  obtain rfl := sectionOf_eq hloggingFields
  obtain rfl := Except.ok.inj htool
  obtain rfl := Except.ok.inj hsession
  obtain rfl := Except.ok.inj h
  rw [arguments_eq] at hruntimeArgs hinteractiveArgs
  exact {
    directory := field_eq _ _
    artifactName := fieldOr_eq _ _ _
    sourceUrl := field_eq _ _
    runtime := fieldOr_eq _ _ _
    runtimeArgs := hruntimeArgs
    interactiveArgs := hinteractiveArgs
    fetchTimeout := numberField_eq hfetchTimeout
    defaultName := fieldOr_eq _ _ _
    historyFile := field_eq _ _
    restartGrace := numberField_eq hrestartGrace
    level := field_eq _ _
    verbose := field_eq _ _
    file := field_eq _ _ }

/-- Entries with a field set in a section. -/
def withField (entries : Entries) (name key : String) (v : Value) : Entries :=
  let fields := match entries.at? name with | some (.map fields) => fields | _ => []
  entries.put (.text name) (.map (Entries.put fields (.text key) v))

/-- A mapping of sections that are plain mappings of plain fields. -/
structure IsPlain (entries : Entries) : Prop where
  mapping : entries.IsMapping
  sections : ∀ name v, entries.at? name = some v → ∃ fields, v = .map fields ∧ IsFlat fields

theorem IsPlain.isLayered (h : IsPlain entries) : IsLayered entries := by
  refine ⟨h.mapping, fun name _ v hv => ?_⟩
  obtain ⟨fields, rfl, hflat⟩ := h.sections name v hv
  exact .inr ⟨fields, rfl, hflat⟩

theorem IsPlain.withField_eq (h : IsPlain entries) (name key : String) (v : Value) :
    withField entries name key v =
      entries.put (.text name) (.map (Entries.put (fieldsOf entries name) (.text key) v)) := by
  rw [withField, fieldsOf]
  cases hat : entries.at? name with
  | none => rfl
  | some w =>
    obtain ⟨fields, rfl, -⟩ := h.sections name w hat
    rfl

theorem IsPlain.fieldsOf_isFlat (h : IsPlain entries) (name : String) :
    IsFlat (fieldsOf entries name) := by
  rw [fieldsOf]
  cases hat : entries.at? name with
  | none => exact ⟨List.Pairwise.nil, by simp⟩
  | some w =>
    obtain ⟨fields, rfl, hflat⟩ := h.sections name w hat
    exact hflat

theorem IsPlain.set (h : IsPlain entries) (name key text : String) :
    IsPlain (withField entries name key (.text text)) := by
  rw [h.withField_eq]
  refine ⟨h.mapping.put, fun other v hv => ?_⟩
  rw [at?_put] at hv
  split at hv
  · obtain rfl := Option.some.inj hv
    have hfields := h.fieldsOf_isFlat name
    refine ⟨_, rfl, hfields.mapping.put, fun e he => ?_⟩
    rcases mem_put he with ⟨he, -⟩ | he
    · rw [he]
      rfl
    · exact hfields.values e he
  · exact h.sections other v hv

theorem IsPlain.stated?_withField (h : IsPlain entries) (name key text other field : String) :
    stated? (fieldsOf (withField entries name key (.text text)) other) field =
      if name = other ∧ key = field then some (.text text)
      else stated? (fieldsOf entries other) field := by
  rw [h.withField_eq, fieldsOf, at?_put]
  by_cases hname : name = other
  · subst hname
    simp only [if_pos, true_and]
    change stated? (Entries.put _ _ _) field = _
    rw [stated?, at?_put]
    by_cases hkey : key = field <;> simp [hkey, stated?, Option.filter, Value.text, Value.isNull]
  · simp [hname, fieldsOf]

/-- Entries with the field of a variable set if the variable is. -/
def setBy (value : String → Option String) (entries : Entries)
    (f : String × String × String) : Entries :=
  (value f.1).elim entries fun v => withField entries f.2.1 f.2.2 (.text v)

theorem overrides_eq (h : Host) :
    overrides h =
      overrideFields.foldl (setBy fun suffix => h.nonempty? (Product.variableName suffix)) [] := by
  rw [overrides]
  congr 1
  funext entries ⟨suffix, name, key⟩
  simp only [setBy]
  cases h.nonempty? (Product.variableName suffix) <;> rfl

theorem IsPlain.setBy (h : IsPlain entries) (value : String → Option String)
    (f : String × String × String) : IsPlain (setBy value entries f) := by
  rw [Config.setBy]
  cases value f.1 with
  | none => exact h
  | some v => exact h.set _ _ _

theorem IsPlain.stated?_setBy (h : IsPlain entries) (value : String → Option String)
    (f : String × String × String) (name key : String) :
    stated? (fieldsOf (Config.setBy value entries f) name) key =
      if f.2 = (name, key) then ((value f.1).map .text).or (stated? (fieldsOf entries name) key)
      else stated? (fieldsOf entries name) key := by
  obtain ⟨suffix, section', field⟩ := f
  rw [Config.setBy]
  cases hvalue : value suffix with
  | none => simp
  | some v => simp [h.stated?_withField]

/-- Variables that set different fields set each its own. -/
theorem IsPlain.foldl_setBy (h : IsPlain entries) (value : String → Option String)
    {fs : List (String × String × String)} (hfs : (fs.map (·.2)).Nodup) :
    IsPlain (fs.foldl (Config.setBy value) entries) ∧
      (∀ name key, (name, key) ∉ fs.map (·.2) →
        stated? (fieldsOf (fs.foldl (Config.setBy value) entries) name) key =
          stated? (fieldsOf entries name) key) ∧
      ∀ suffix name key v, (suffix, name, key) ∈ fs → value suffix = some v →
        stated? (fieldsOf (fs.foldl (Config.setBy value) entries) name) key =
          some (.text v) := by
  induction fs generalizing entries with
  | nil => exact ⟨h, fun _ _ _ => rfl, by simp⟩
  | cons f fs ih =>
    obtain ⟨hf, hrest⟩ := List.nodup_cons.mp hfs
    obtain ⟨hplain, hothers, hset⟩ := ih (h.setBy value f) hrest
    refine ⟨hplain, fun name key hkey => ?_, fun suffix name key v hmem hv => ?_⟩
    · rw [List.map_cons, List.mem_cons, not_or] at hkey
      rw [List.foldl_cons, hothers name key hkey.2, h.stated?_setBy, if_neg (Ne.symm hkey.1)]
    · rw [List.foldl_cons]
      rcases List.mem_cons.mp hmem with rfl | hmem
      · rw [hothers name key hf, h.stated?_setBy, if_pos rfl, hv]
        rfl
      · exact hset suffix name key v hmem hv

theorem isPlain_nil : IsPlain [] := ⟨List.Pairwise.nil, by simp⟩

theorem overrides_isLayered (h : Host) : IsLayered (overrides h) := by
  rw [overrides_eq]
  exact (isPlain_nil.foldl_setBy _ (by decide)).1.isLayered

/-- A variable that is set is stated by the layer of the environment. -/
theorem stated?_overrides {suffix v : String} (hfield : (suffix, name, key) ∈ overrideFields)
    (hv : h.nonempty? (Product.variableName suffix) = some v) :
    stated? (fieldsOf (overrides h) name) key = some (.text v) := by
  rw [overrides_eq]
  exact (isPlain_nil.foldl_setBy _ (by decide)).2.2 suffix name key v hfield hv

/-- Settings that hold for each variable that is set, in its field, the variable. -/
structure Settings.Heeds (s : Settings) (h : Host) : Prop where
  file : ∀ v, h.nonempty? (Product.variableName "LOG") = some v → s.logging.file = .text v
  directory : ∀ v, h.nonempty? (Product.variableName "HOME") = some v →
    s.tool.directory = .text v
  sourceUrl : ∀ v, h.nonempty? (Product.variableName "SOURCE_URL") = some v →
    s.tool.sourceUrl = .text v
  runtime : ∀ v, h.nonempty? (Product.variableName "RUNTIME") = some v → s.tool.runtime = .text v

/-- Settings built with the environment as the highest layer heed it, whatever lies below. -/
theorem Settings.heeds {layers : List Entries} (hcombined : combined (layers ++ [overrides h]) =
    .ok merged) (hs : Settings.ofEntries merged = .ok s) : s.Heeds h := by
  obtain ⟨below, -, rfl⟩ := combined_append_singleton hcombined
  have hstated : ∀ suffix name key v, (suffix, name, key) ∈ overrideFields →
      h.nonempty? (Product.variableName suffix) = some v →
      stated? (fieldsOf (overlay (overlay [] below) (overrides h)) name) key =
        some (.text v) := by
    intro suffix name key v hfield hv
    have hname : name ∈ knownSections := by
      revert hfield
      simp only [overrideFields, knownSections, List.mem_cons, Prod.mk.injEq, List.not_mem_nil]
      tauto
    rw [(overrides_isLayered h).stated_overlay _ hname, stated?_overrides hfield hv]
    rfl
  have hfollows := Settings.follows hs
  refine ⟨fun v hv => ?_, fun v hv => ?_, fun v hv => ?_, fun v hv => ?_⟩
  · rw [hfollows.file, hstated "LOG" "logging" "file" v (by decide) hv]
    rfl
  · rw [hfollows.directory, hstated "HOME" "tool" "directory" v (by decide) hv]
    rfl
  · rw [hfollows.sourceUrl, hstated "SOURCE_URL" "tool" "source_url" v (by decide) hv]
    rfl
  · have hnonempty : v ≠ "" := by
      simpa using (Option.filter_eq_some_iff.mp hv).2
    rw [hfollows.runtime, hstated "RUNTIME" "tool" "runtime" v (by decide) hv]
    simp [Option.filter, Value.text, Value.isEmpty, Scalar.isEmpty, hnonempty]

theorem Logged.outcome_bind {α β : Type} (x : Logged α) (f : α → Logged β) :
    (x >>= f).outcome = x.outcome >>= fun a => (f a).outcome := by
  change (x.bind f).outcome = _
  rw [Logged.bind]
  cases x.outcome <;> rfl

theorem Logged.ok_bind {α β : Type} {x : Logged α} {f : α → Logged β} {a : α}
    (h : x.outcome = .ok a) : (x >>= f).outcome = (f a).outcome := by
  rw [outcome_bind, h]
  rfl

theorem Logged.bind_ok {α β : Type} {x : Logged α} {f : α → Logged β} {b : β}
    (h : (x >>= f).outcome = .ok b) : ∃ a, x.outcome = .ok a ∧ (f a).outcome = .ok b := by
  rw [outcome_bind] at h
  cases hx : x.outcome with
  | error e =>
    rw [hx] at h
    cases h
  | ok a =>
    rw [hx] at h
    exact ⟨a, rfl, h⟩

/-- Settings that were built heed the environment at that time. -/
theorem heeds_of_build {root : Option String} (hbuild : (build h root).outcome = .ok s) :
    s.Heeds h := by
  obtain ⟨paths, -, hbuild⟩ := Logged.bind_ok hbuild
  obtain ⟨layers, -, hbuild⟩ := Logged.bind_ok hbuild
  obtain ⟨merged, hmerged, hs⟩ := Config.bind_ok hbuild
  split at hmerged
  next hempty =>
    have hunset : ∀ suffix name key v, (suffix, name, key) ∈ overrideFields →
        h.nonempty? (Product.variableName suffix) ≠ some v := by
      intro suffix name key v hfield hv
      have hstated := stated?_overrides hfield hv
      rw [List.isEmpty_iff.mp hempty] at hstated
      cases hstated
    exact ⟨fun v hv => absurd hv (hunset "LOG" "logging" "file" v (by decide)),
      fun v hv => absurd hv (hunset "HOME" "tool" "directory" v (by decide)),
      fun v hv => absurd hv (hunset "SOURCE_URL" "tool" "source_url" v (by decide)),
      fun v hv => absurd hv (hunset "RUNTIME" "tool" "runtime" v (by decide))⟩
  next => exact Settings.heeds hmerged hs

/-- What is asked of the settings in memory. -/
inductive Request
  /-- The settings of a project or of none, on the host as it is then. -/
  | load (h : Host) (root : Option String) (fresh : Bool)
  | reset

namespace Cache

/-- The settings in memory after a request. -/
def meet (c : Cache) : Request → Cache
  | .load h root fresh => (c.load h root fresh).2
  | .reset => c.reset

/-- The settings in memory after all requests, the first one first. -/
def after (requests : List Request) : Cache := requests.foldl meet {}

/-- A load builds, unless settings of no project are kept and will do. -/
theorem load_cases (c : Cache) (h : Host) (root : Option String) (fresh : Bool) :
    c.load h root fresh = c.rebuild h root ∨
      ∃ b, c.kept = some b ∧ root = none ∧ fresh = false ∧ c.load h root fresh = (.ok b, c) := by
  unfold load
  split
  next b hkept => exact .inr ⟨b, hkept, rfl, rfl, rfl⟩
  next => exact .inl rfl

/-- A build gives the settings a new number; those of no project are kept if there are any. -/
theorem rebuild_eq (c : Cache) (h : Host) (root : Option String) :
    c.rebuild h root =
      (⟨(build h root).outcome.map fun s => ⟨c.next, s⟩, (build h root).records⟩,
        { kept := ((build h root).outcome.toOption.filter fun _ => root.isNone).elim c.kept
            fun s => some ⟨c.next, s⟩
          next := c.next + 1 }) := by
  rw [rebuild, Logged.bind]
  cases houtcome : (build h root).outcome with
  | error e => rfl
  | ok s =>
    cases root with
    | none => simp [Logged.ok, Except.map, Except.toOption, Option.filter]
    | some root => simp [Logged.ok, Except.map, Except.toOption, Option.filter]

theorem rebuild_outcome (c : Cache) (h : Host) (root : Option String) :
    (c.rebuild h root).1.outcome = (build h root).outcome.map fun s => ⟨c.next, s⟩ := by
  rw [rebuild_eq]

theorem rebuild_built {c : Cache} {root : Option String} {b : Built}
    (hb : (c.rebuild h root).1.outcome = .ok b) : (build h root).outcome = .ok b.settings := by
  rw [rebuild_outcome] at hb
  cases hbuild : (build h root).outcome with
  | error e =>
    rw [hbuild] at hb
    cases hb
  | ok s =>
    rw [hbuild] at hb
    exact congrArg Except.ok (congrArg Built.settings (Except.ok.inj hb))

theorem rebuild_kept {c : Cache} {root : Option String} {b : Built}
    (hb : (c.rebuild h root).2.kept = some b) :
    c.kept = some b ∨ root = none ∧ (c.rebuild h root).1.outcome = .ok b := by
  rw [rebuild_eq] at hb ⊢
  cases hbuild : (build h root).outcome with
  | error e =>
    rw [hbuild] at hb
    exact .inl hb
  | ok s =>
    rw [hbuild] at hb
    cases root with
    | some root => exact .inl hb
    | none =>
      obtain rfl := Option.some.inj hb
      exact .inr ⟨rfl, rfl⟩

/-- Settings in memory are those that a load of no project built. -/
theorem after_kept {requests : List Request} {b : Built} (hb : (after requests).kept = some b) :
    ∃ k fresh, .load k none fresh ∈ requests ∧ (build k none).outcome = .ok b.settings := by
  induction requests using List.reverseRecOn with
  | nil => cases hb
  | append_singleton requests request ih =>
    have hearlier : (after requests).kept = some b →
        ∃ k fresh, .load k none fresh ∈ requests ++ [request] ∧
          (build k none).outcome = .ok b.settings := by
      intro hkept
      obtain ⟨k, fresh, hmem, hbuild⟩ := ih hkept
      exact ⟨k, fresh, List.mem_append_left _ hmem, hbuild⟩
    rw [after, List.foldl_append, List.foldl_cons, List.foldl_nil, ← after] at hb
    cases request with
    | reset => cases hb
    | load h root fresh =>
      change ((after requests).load h root fresh).2.kept = some b at hb
      rcases load_cases (after requests) h root fresh with hload | ⟨_, -, -, -, hload⟩
      · rw [hload] at hb
        rcases rebuild_kept hb with hkept | ⟨rfl, hnew⟩
        · exact hearlier hkept
        · exact ⟨h, fresh, by simp, rebuild_built hnew⟩
      · rw [hload] at hb
        exact hearlier hb

end Cache

end ToolHost.Config
