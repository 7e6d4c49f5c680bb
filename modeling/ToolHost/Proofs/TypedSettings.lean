import ToolHost.Proofs.NullSparing

/-!
# Settings of the declared types

Settings are made without looking at what kinds of values were given: only argument lists and
durations are converted, every other value is kept as it is. So settings are typed as declared
exactly if the values given were, and what cannot be converted ends the making, at the first such
thing in reading order, with an error of the conversion.
-/
namespace ToolHost.Config

variable {entries fields : Entries} {name key : String} {v : Value} {s : Settings} {b : Breakdown}

/-! ## What is wrong with a configuration -/

/-- What is looked at when settings are made. -/
inductive Concern
  /-- A section as a whole. -/
  | part (name : String)
  | arguments (key : String)
  | duration (name key : String)

/-- The order in which it is looked at. -/
def readingOrder : List Concern :=
  [.part "tool", .arguments "runtime_args", .arguments "repl_args",
    .duration "tool" "fetch_timeout", .part "session", .duration "session" "restart_grace",
    .part "logging"]

/-- Values other than null that are of no kind from which numbers are made. -/
def IsNoNumber : Value → Prop
  | .scalar (.stamp _) | .list _ | .map _ | .set _ | .pair _ _ | .loop _ _ | .again _ _ => True
  | .scalar _ => False

/-- What can be wrong there, with the error that it leads to. -/
inductive Fault (entries : Entries) : Concern → Breakdown → Prop
  /-- A section that is neither empty nor a mapping. -/
  | notSection {name : String} {v : Value} (given : entries.at? name = some v)
      (notMapping : v.entries? = none) (nonempty : v.isEmpty = false) :
      Fault entries (.part name) .missingField
  /-- An argument in which there is an integer of too many digits. -/
  | tooLong {key : String} {v item : Value} {items : List Value}
      (given : (fieldsOf entries "tool").at? key = some v) (list : v.items? = some items)
      (mem : item ∈ items) (long : item.isWritable = false) :
      Fault entries (.arguments key) .badValue
  /-- A text that stands for no number. -/
  | noNumeral {name key text : String}
      (given : (fieldsOf entries name).at? key = some (.text text))
      (unreadable : Decimal.Binary.read? text = none) : Fault entries (.duration name key) .badValue
  /-- Octets that stand for no number. -/
  | noNumeralOctets {name key : String} {octets : List UInt8}
      (given : (fieldsOf entries name).at? key = some (.scalar (.octets octets)))
      (unreadable : Decimal.Binary.read?
        (String.ofList (octets.map fun x => Char.ofNat x.toNat)) = none) :
      Fault entries (.duration name key) .badValue
  /-- An integer beyond the floating point numbers. -/
  | tooLarge {name key : String} {i : Int}
      (given : (fieldsOf entries name).at? key = some (.scalar (.int i)))
      (large : (Decimal.Binary.ofInt i).isFinite = false) :
      Fault entries (.duration name key) .overflow
  | noNumber {name key : String} {v : Value} (given : (fieldsOf entries name).at? key = some v)
      (kind : IsNoNumber v) : Fault entries (.duration name key) .wrongKind

/-- The first thing that is wrong, in reading order. -/
def FirstFault (entries : Entries) (b : Breakdown) : Prop :=
  ∃ before c after, readingOrder = before ++ c :: after ∧ Fault entries c b ∧
    ∀ c' ∈ before, ∀ b', ¬ Fault entries c' b'

/-! ## Where the making of settings ends -/

/-- The error of what did not return. -/
def fault? {α : Type} : Except Breakdown α → Option Breakdown
  | .ok _ => none
  | .error b => some b

theorem fault?_eq_some {α : Type} {x : Except Breakdown α} : fault? x = some b ↔ x = .error b := by
  cases x <;> simp [fault?]

theorem fault?_bind {α β : Type} {x : Except Breakdown α} {f : α → Except Breakdown β}
    {rest : Option Breakdown} (h : ∀ a, x = .ok a → fault? (f a) = rest) :
    fault? (x >>= f) = (fault? x).or rest := by
  cases x with
  | error b => rfl
  | ok a => exact h a rfl

/-- The error of one thing that is looked at. -/
def faultOf (entries : Entries) : Concern → Option Breakdown
  | .part name => fault? (sectionOf entries name)
  | .arguments key => fault? (arguments ((fieldsOf entries "tool").at? key) [])
  | .duration name key => fault? (numberField (fieldsOf entries name) key (.ofInt 0))

theorem fault?_arguments (v : Option Value) (default other : List String) :
    fault? (arguments v default) = fault? (arguments v other) := by
  unfold arguments
  split
  · rfl
  · rfl
  · rfl

theorem fault?_numberField (fields : Entries) (key : String) (default other : Decimal.Binary) :
    fault? (numberField fields key default) = fault? (numberField fields key other) := by
  rw [numberField, numberField]
  cases fields.at? key <;> rfl

theorem fault?_tool (fields : Entries) : fault? (ToolSettings.ofFields fields) =
    (fault? (arguments (fields.at? "runtime_args") [])).or
      ((fault? (arguments (fields.at? "repl_args") [])).or
        (fault? (numberField fields "fetch_timeout" (.ofInt 0)))) := by
  rw [fault?_arguments _ [] defaultRuntimeArgs, fault?_arguments _ [] defaultInteractiveArgs,
    fault?_numberField _ _ (.ofInt 0) defaultFetchTimeout]
  refine fault?_bind fun _ _ => fault?_bind fun _ _ => ?_
  rw [← Option.or_none (o := fault? (numberField fields "fetch_timeout" defaultFetchTimeout))]
  exact fault?_bind fun _ _ => rfl

theorem fault?_session (fields : Entries) : fault? (SessionSettings.ofFields fields) =
    fault? (numberField fields "restart_grace" (.ofInt 0)) := by
  rw [fault?_numberField _ _ (.ofInt 0) defaultRestartGrace,
    ← Option.or_none (o := fault? (numberField fields "restart_grace" defaultRestartGrace))]
  exact fault?_bind fun _ _ => rfl

theorem findSome?_cons_or {α β : Type} (f : α → Option β) (a : α) (l : List α) :
    (a :: l).findSome? f = (f a).or (l.findSome? f) := by
  rw [List.findSome?_cons]
  cases f a <;> rfl

/-- The making ends where the first thing is wrong. -/
theorem fault?_settings (entries : Entries) :
    fault? (Settings.ofEntries entries) = readingOrder.findSome? (faultOf entries) := by
  have hchain : fault? (Settings.ofEntries entries) = (fault? (sectionOf entries "tool")).or
      ((fault? (ToolSettings.ofFields (fieldsOf entries "tool"))).or
        ((fault? (sectionOf entries "session")).or
          ((fault? (SessionSettings.ofFields (fieldsOf entries "session"))).or
            ((fault? (sectionOf entries "logging")).or none)))) := by
    refine fault?_bind fun fields hfields => ?_
    rw [sectionOf_eq hfields]
    refine fault?_bind fun tool _ => fault?_bind fun fields hfields => ?_
    rw [sectionOf_eq hfields]
    exact fault?_bind fun session _ => fault?_bind fun fields _ => rfl
  rw [hchain, fault?_tool, fault?_session]
  simp only [readingOrder, findSome?_cons_or, List.findSome?_nil, faultOf, Option.or_assoc]

theorem section_fault_iff (entries : Entries) (name : String) (b : Breakdown) :
    fault? (sectionOf entries name) = some b ↔ Fault entries (.part name) b := by
  rw [sectionOf]
  constructor
  · intro h
    split at h
    next => cases h
    next v hv =>
      split at h
      next => cases h
      next hnone =>
        split at h
        next => cases h
        next hempty =>
          obtain rfl := Option.some.inj h
          exact .notSection hv hnone (Bool.eq_false_iff.mpr hempty)
  · rintro ⟨hv, hnone, hempty⟩
    simp [hv, hnone, hempty, fault?]

theorem items?_iff {items : List Value} : v.items? = some items ↔ v.unrolled = .list items := by
  rw [Value.items?]
  split
  next found hfound => simp [hfound]
  next hnone => simpa using hnone items

theorem arguments_fault_iff (entries : Entries) (key : String) (b : Breakdown) :
    fault? (arguments ((fieldsOf entries "tool").at? key) []) = some b ↔
      Fault entries (.arguments key) b := by
  rw [arguments]
  constructor
  · intro h
    split at h
    next items hitems =>
      obtain ⟨v, hv, hlist⟩ := Option.map_eq_some_iff.mp hitems
      split at h
      next => cases h
      next hlong =>
        obtain rfl := Option.some.inj h
        obtain ⟨item, hmem, hitem⟩ : ∃ item ∈ items, item.isWritable = false := by simpa using hlong
        exact .tooLong hv (items?_iff.mpr hlist) hmem hitem
    next => cases h
    next => cases h
  · intro h
    cases h with
    | tooLong hv hlist hmem hlong =>
      simp only [hv, Option.map_some, items?_iff.mp hlist]
      rw [if_neg fun hall => by simpa [hlong] using List.all_eq_true.mp hall _ hmem]
      rfl

/-- A duration that is null is no fault by itself, though it ends the making too. -/
theorem duration_fault_iff (given : (fieldsOf entries name).at? key ≠ some .null) :
    fault? (numberField (fieldsOf entries name) key (.ofInt 0)) = some b ↔
      Fault entries (.duration name key) b := by
  rw [numberField]
  constructor
  · intro h
    split at h
    next => cases h
    next v hv =>
      cases v with
      | scalar s =>
        cases s with
        | null => exact absurd hv given
        | bool => cases h
        | int i =>
          rw [number] at h
          split at h
          next => cases h
          next hlarge =>
            obtain rfl := Option.some.inj h
            exact .tooLarge hv (Bool.eq_false_iff.mpr hlarge)
        | float => cases h
        | text text =>
          rw [number, number.ofText] at h
          split at h
          next => cases h
          next hread =>
            obtain rfl := Option.some.inj h
            exact .noNumeral hv hread
        | octets octets =>
          rw [number, number.ofText] at h
          split at h
          next => cases h
          next hread =>
            obtain rfl := Option.some.inj h
            exact .noNumeralOctets hv hread
        | stamp =>
          obtain rfl := Option.some.inj h
          exact .noNumber hv trivial
      | list | map | set | pair | loop | again =>
        obtain rfl := Option.some.inj h
        exact .noNumber hv trivial
  · intro h
    cases h with
    | noNumeral hv hread => simp [hv, Value.text, number, number.ofText, hread, fault?]
    | noNumeralOctets hv hread => simp [hv, number, number.ofText, hread, fault?]
    | tooLarge hv hlarge => simp [hv, number, hlarge, fault?]
    | @noNumber _ _ v hv kind =>
      rw [hv]
      cases v with
      | scalar s =>
        cases s with
        | stamp => rfl
        | null | bool | int | float | text | octets => cases kind
      | list | map | set | pair | loop | again => rfl

theorem faultOf_iff (given : ∀ d ∈ durations, (fieldsOf entries d.1).at? d.2 ≠ some .null)
    {c : Concern} (hc : c ∈ readingOrder) (b : Breakdown) :
    faultOf entries c = some b ↔ Fault entries c b := by
  cases c with
  | part name => exact section_fault_iff entries name b
  | arguments key => exact arguments_fault_iff entries key b
  | duration name key =>
    refine duration_fault_iff (given (name, key) ?_)
    simpa [readingOrder, durations] using hc

theorem settings_error_iff (given : ∀ d ∈ durations, (fieldsOf entries d.1).at? d.2 ≠ some .null)
    (b : Breakdown) : Settings.ofEntries entries = .error b ↔ FirstFault entries b := by
  rw [← fault?_eq_some, fault?_settings, List.findSome?_eq_some_iff]
  refine exists_congr fun before => exists_congr fun c => exists_congr fun after =>
    and_congr_right fun horder => ?_
  have hmem : ∀ c' ∈ before ++ c :: after, c' ∈ readingOrder := fun _ => horder ▸ id
  refine and_congr (faultOf_iff given (hmem c (by simp)) b) (forall₂_congr fun c' hc' => ?_)
  have hc : c' ∈ readingOrder := hmem c' (List.mem_append_left _ hc')
  simp only [Option.eq_none_iff_forall_ne_some, ne_eq, faultOf_iff given hc]

/-! ## Declared types -/

def IsText (v : Value) : Prop := ∃ text, v = .text text

def IsTextOrNull (v : Value) : Prop := v = .null ∨ IsText v

/-- Truth values count as integers. -/
def IsWholeOrNull (v : Value) : Prop :=
  v = .null ∨ (∃ i, v = .scalar (.int i)) ∨ ∃ b, v = .scalar (.bool b)

/-- Settings all of which are of their declared types. Of arguments and durations nothing needs to
be said, these cannot be of others. -/
structure Settings.IsTyped (s : Settings) : Prop where
  directory : IsTextOrNull s.tool.directory
  artifactName : IsText s.tool.artifactName
  sourceUrl : IsTextOrNull s.tool.sourceUrl
  runtime : IsText s.tool.runtime
  defaultName : IsText s.session.defaultName
  historyFile : IsTextOrNull s.session.historyFile
  level : IsTextOrNull s.logging.level
  verbose : IsWholeOrNull s.logging.verbose
  file : IsTextOrNull s.logging.file

/-- Values of the declared types, or empty ones where these stand for a default. -/
structure AreTyped (given : String → String → Option Value) : Prop where
  directory : ∀ v ∈ given "tool" "directory", IsTextOrNull v
  artifactName : ∀ v ∈ given "tool" "artifact_name", v.isEmpty ∨ IsText v
  sourceUrl : ∀ v ∈ given "tool" "source_url", IsTextOrNull v
  runtime : ∀ v ∈ given "tool" "runtime", v.isEmpty ∨ IsText v
  defaultName : ∀ v ∈ given "session" "default_name", v.isEmpty ∨ IsText v
  historyFile : ∀ v ∈ given "session" "history_file", IsTextOrNull v
  level : ∀ v ∈ given "logging" "level", IsTextOrNull v
  verbose : ∀ v ∈ given "logging" "verbose", IsWholeOrNull v
  file : ∀ v ∈ given "logging" "file", IsTextOrNull v

theorem getD_null_iff {P : Value → Prop} (hnull : P .null) (given : Option Value) :
    P (given.getD .null) ↔ ∀ v ∈ given, P v := by
  cases given <;> simp [hnull]

theorem getD_default_iff (given : Option Value) (default : String) :
    IsText ((given.filter (!·.isEmpty)).getD (.text default)) ↔
      ∀ v ∈ given, v.isEmpty ∨ IsText v := by
  cases given with
  | none => simp [IsText]
  | some v => by_cases hv : v.isEmpty <;> simp [Option.filter, hv, IsText]

theorem Settings.Follows.isTyped_iff {given : String → String → Option Value}
    (h : s.Follows given) : s.IsTyped ↔ AreTyped given := by
  constructor
  · intro t
    exact {
      directory := (getD_null_iff (.inl rfl) _).mp (h.directory ▸ t.directory)
      artifactName := (getD_default_iff _ _).mp (h.artifactName ▸ t.artifactName)
      sourceUrl := (getD_null_iff (.inl rfl) _).mp (h.sourceUrl ▸ t.sourceUrl)
      runtime := (getD_default_iff _ _).mp (h.runtime ▸ t.runtime)
      defaultName := (getD_default_iff _ _).mp (h.defaultName ▸ t.defaultName)
      historyFile := (getD_null_iff (.inl rfl) _).mp (h.historyFile ▸ t.historyFile)
      level := (getD_null_iff (.inl rfl) _).mp (h.level ▸ t.level)
      verbose := (getD_null_iff (.inl rfl) _).mp (h.verbose ▸ t.verbose)
      file := (getD_null_iff (.inl rfl) _).mp (h.file ▸ t.file) }
  · intro t
    exact {
      directory := h.directory ▸ (getD_null_iff (.inl rfl) _).mpr t.directory
      artifactName := h.artifactName ▸ (getD_default_iff _ _).mpr t.artifactName
      sourceUrl := h.sourceUrl ▸ (getD_null_iff (.inl rfl) _).mpr t.sourceUrl
      runtime := h.runtime ▸ (getD_default_iff _ _).mpr t.runtime
      defaultName := h.defaultName ▸ (getD_default_iff _ _).mpr t.defaultName
      historyFile := h.historyFile ▸ (getD_null_iff (.inl rfl) _).mpr t.historyFile
      level := h.level ▸ (getD_null_iff (.inl rfl) _).mpr t.level
      verbose := h.verbose ▸ (getD_null_iff (.inl rfl) _).mpr t.verbose
      file := h.file ▸ (getD_null_iff (.inl rfl) _).mpr t.file }

/-- Settings follow what was given, and are of the declared types exactly if that was. With no
duration null, the making of settings ends with an error exactly if something is wrong, with the
error of the first such thing. -/
theorem settings_typed_or_fault (entries : Entries) :
    (∀ s, Settings.ofEntries entries = .ok s →
      s.Follows (fun name => stated? (fieldsOf entries name)) ∧
      (s.IsTyped ↔ AreTyped fun name => stated? (fieldsOf entries name))) ∧
    ((∀ d ∈ durations, (fieldsOf entries d.1).at? d.2 ≠ some .null) →
      ∀ b, Settings.ofEntries entries = .error b ↔ FirstFault entries b) :=
  ⟨fun _ hs => ⟨Settings.follows hs, (Settings.follows hs).isTyped_iff⟩, settings_error_iff⟩

/-- A list where a text is expected, and a number that stands for the default. -/
def listedRuntime : Entries :=
  [(.text "tool", .map [(.text "runtime", .list [.text "java"]),
    (.text "artifact_name", .scalar (.int 0))])]

/-- A list that is no section, after an integer beyond the floating point numbers. -/
def faulty : Entries :=
  [(.text "session", .list [.text "repl"]),
    (.text "tool", .map [(.text "fetch_timeout", .scalar (.int (10 ^ 400)))])]

theorem settings_typed_or_fault_listed :
    (∃ s, Settings.ofEntries listedRuntime = .ok s ∧ s.tool.runtime = .list [.text "java"] ∧
      s.tool.artifactName = .text "tool.jar" ∧ ¬ s.IsTyped) ∧
    Settings.ofEntries faulty = .error .overflow := by
  constructor
  · obtain ⟨s, hs⟩ : ∃ s, Settings.ofEntries listedRuntime = .ok s := ⟨_, rfl⟩
    obtain ⟨follows, typed⟩ := (settings_typed_or_fault listedRuntime).1 s hs
    refine ⟨s, hs, follows.runtime, follows.artifactName, fun t => ?_⟩
    rcases (typed.mp t).runtime (.list [.text "java"]) rfl with hempty | ⟨text, htext⟩
    · cases hempty
    · cases htext
  · have given : ∀ d ∈ durations, (fieldsOf faulty d.1).at? d.2 ≠ some .null := by
      simp only [durations, List.forall_mem_cons]
      refine ⟨?_, ?_, List.forall_mem_nil _⟩ <;> rintro ⟨⟩
    refine ((settings_typed_or_fault faulty).2 given .overflow).mpr ?_
    refine ⟨readingOrder.take 3, .duration "tool" "fetch_timeout", readingOrder.drop 4, rfl,
      .tooLarge (i := 10 ^ 400) rfl (by decide +kernel), ?_⟩
    simp only [readingOrder, List.take_succ_cons, List.take_zero, List.forall_mem_cons]
    refine ⟨fun b hfault => ?_, fun b hfault => ?_, fun b hfault => ?_, List.forall_mem_nil _⟩
    · cases hfault with
      | notSection hv hnone =>
        obtain rfl := Option.some.inj hv
        cases hnone
    · cases hfault with
      | tooLong hv => cases hv
    · cases hfault with
      | tooLong hv => cases hv

def mistypedDirectory : Entries :=
  [(.text "tool", .map [(.text "directory", .scalar (.int 5))])]

def wordyTimeout : Entries := [(.text "tool", .map [(.text "fetch_timeout", .text "soon")])]

/-- A value of another type is kept, and one that cannot be converted ends the making with the error
of the conversion. -/
theorem settings_as_given :
    (∃ s, Settings.ofEntries mistypedDirectory = .ok s ∧ ¬ s.IsTyped) ∧
      Settings.ofEntries wordyTimeout = .error .badValue := by
  refine ⟨⟨_, rfl, fun t => ?_⟩, by rfl⟩
  rcases t.directory with hnull | ⟨text, htext⟩
  · cases hnull
  · cases htext

end ToolHost.Config
