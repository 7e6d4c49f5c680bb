import ToolHost.Proofs.Config.Nulls

/-!
# Nulls that are left out

Main statement: layers with nulls left out of their sections settle to the same settings as with
them, or to the same failure, unless a null goes that the layers together have at one of the two
durations; then the layers with their nulls settle to no settings at all.
-/
namespace ToolHost.Config

open Entries

variable {fields kept base merged rest : Entries} {layers pruned : List Entries} {e : Breakdown}

/-! ## Combinations -/

/-- One more layer on what those below it were combined to. -/
def laidOn (base layer : Entries) : Except Breakdown Entries :=
  if isEndless base layer then .error .tooDeep else .ok (cascade [base, layer])

theorem combined_eq (layers : List Entries) : combined layers = layers.foldlM laidOn [] := rfl

theorem IsSettled.laidOn_eq (h : IsSettled base) (layer : Entries) :
    laidOn base layer =
      if isEndless base layer then .error .tooDeep else .ok (Config.overlay base layer) := by
  rw [laidOn, cascade_eq, List.foldl_cons, List.foldl_cons, List.foldl_nil, h.overlay_nil]

/-- Two combinations that go on with layers of which the second have nulls left out: both get to an
end or none does. -/
theorem foldlM_laidOn_twins (hbase : IsSettled base) (hrest : IsSettled rest)
    (htwins : List.Forall₂ Twins base rest) (p : List.Forall₂ Pruned layers pruned) :
    (layers.foldlM laidOn base = .error .tooDeep ∧ pruned.foldlM laidOn rest = .error .tooDeep) ∨
      ∃ merged merged', layers.foldlM laidOn base = .ok merged ∧
        pruned.foldlM laidOn rest = .ok merged' ∧ List.Forall₂ Twins merged merged' := by
  induction p generalizing base rest with
  | nil => exact .inr ⟨base, rest, rfl, rfl, htwins⟩
  | @cons layer layer' _ _ hlayer _ ih =>
    rw [List.foldlM_cons, List.foldlM_cons, hbase.laidOn_eq, hrest.laidOn_eq,
      isEndless_twins htwins hlayer]
    by_cases hendless : isEndless base layer
    · simp only [hendless, if_true]
      exact .inl ⟨rfl, rfl⟩
    · simp only [hendless]
      exact ih (hbase.overlay layer) (hrest.overlay layer') (overlay_twins htwins hlayer)

theorem combined_twins (p : List.Forall₂ Pruned layers pruned) :
    (combined layers = .error .tooDeep ∧ combined pruned = .error .tooDeep) ∨
      ∃ merged rest, combined layers = .ok merged ∧ combined pruned = .ok rest ∧
        List.Forall₂ Twins merged rest := by
  have hnil : IsSettled [] := ⟨List.Pairwise.nil, by simp⟩
  exact foldlM_laidOn_twins hnil hnil .nil p

/-! ## Sections and their fields -/

/-- A section of two such combinations is none in either, or fields that miss nulls. -/
theorem sectionOf_twins (h : List.Forall₂ Twins merged rest) (name : String) :
    (∃ e, sectionOf merged name = .error e ∧ sectionOf rest name = .error e) ∨
      ∃ fields kept, sectionOf merged name = .ok fields ∧ sectionOf rest name = .ok kept ∧
        Forgets fields kept := by
  have halike : Alike (merged.at? name) (rest.at? name) := alike_get? h (.text name)
  generalize hbelow : merged.at? name = below at halike
  generalize hbelow' : rest.at? name = below' at halike
  cases halike with
  | same =>
    have hsame : sectionOf merged name = sectionOf rest name := by
      rw [sectionOf, sectionOf, hbelow, hbelow']
    rw [hsame]
    cases sectionOf rest name with
    | error e => exact .inl ⟨e, rfl, rfl⟩
    | ok fields => exact .inr ⟨fields, fields, rfl, rfl, .refl fields⟩
  | sections h =>
    refine .inr ⟨_, _, ?_, ?_, h⟩
    · rw [sectionOf, hbelow]
      rfl
    · rw [sectionOf, hbelow']
      rfl

theorem Forgets.at? (h : Forgets fields kept) (key : String) :
    kept.at? key = fields.at? key ∨ fields.at? key = some .null ∧ kept.at? key = none :=
  h (.text key)

theorem Forgets.field (h : Forgets fields kept) (key : String) :
    Config.field kept key = Config.field fields key := by
  rw [Config.field, Config.field]
  rcases h.at? key with heq | ⟨hnull, hnone⟩
  · rw [heq]
  · rw [hnull, hnone]
    rfl

theorem Forgets.fieldOr (h : Forgets fields kept) (key default : String) :
    Config.fieldOr kept key default = Config.fieldOr fields key default := by
  rw [Config.fieldOr, Config.fieldOr, h.field]

theorem Forgets.arguments (h : Forgets fields kept) (key : String) (default : List String) :
    Config.arguments (kept.at? key) default = Config.arguments (fields.at? key) default := by
  rcases h.at? key with heq | ⟨hnull, hnone⟩
  · rw [heq]
  · rw [hnull, hnone]
    rfl

/-- A null of the first fields that is missing in the second. -/
def Misses (fields kept : Entries) (key : String) : Prop :=
  fields.at? key = some .null ∧ kept.at? key = none

theorem Forgets.numberField (h : Forgets fields kept) (key : String) (default : Decimal.Binary)
    (hkey : ¬ Misses fields kept key) :
    Config.numberField kept key default = Config.numberField fields key default := by
  rw [Config.numberField, Config.numberField, (h.at? key).resolve_right hkey]

theorem Misses.numberField {key : String} (h : Misses fields kept key) (default : Decimal.Binary) :
    Config.numberField fields key default = .error .wrongKind := by
  rw [Config.numberField, h.1]
  rfl

theorem Forgets.toolSettings (h : Forgets fields kept)
    (hkey : ¬ Misses fields kept "fetch_timeout") :
    ToolSettings.ofFields kept = ToolSettings.ofFields fields := by
  rw [ToolSettings.ofFields, ToolSettings.ofFields, h.numberField _ _ hkey]
  simp only [h.arguments, h.field, h.fieldOr]

theorem Forgets.sessionSettings (h : Forgets fields kept)
    (hkey : ¬ Misses fields kept "restart_grace") :
    SessionSettings.ofFields kept = SessionSettings.ofFields fields := by
  rw [SessionSettings.ofFields, SessionSettings.ofFields, h.numberField _ _ hkey]
  simp only [h.field, h.fieldOr]

theorem Forgets.logSettings (h : Forgets fields kept) :
    LogSettings.ofFields kept = LogSettings.ofFields fields := by
  simp only [LogSettings.ofFields, h.field]

theorem Misses.toolSettings (h : Misses fields kept "fetch_timeout") (s : ToolSettings) :
    ToolSettings.ofFields fields ≠ .ok s := by
  intro hs
  obtain ⟨_, -, hs⟩ := bind_ok hs
  obtain ⟨_, -, hs⟩ := bind_ok hs
  obtain ⟨_, hnumber, -⟩ := bind_ok hs
  rw [h.numberField] at hnumber
  cases hnumber

theorem Misses.sessionSettings (h : Misses fields kept "restart_grace") (s : SessionSettings) :
    SessionSettings.ofFields fields ≠ .ok s := by
  intro hs
  obtain ⟨_, hnumber, -⟩ := bind_ok hs
  rw [h.numberField] at hnumber
  cases hnumber

/-! ## Settings -/

/-- The settings that all layers together amount to. -/
def settle (layers : List Entries) : Except Breakdown Settings := do
  Settings.ofEntries (← combined layers)

/-- The two durations, each with its section. -/
def durations : List (String × String) := [("tool", "fetch_timeout"), ("session", "restart_grace")]

/-- A null that layers have together at a duration, and that the pruned ones do not have. -/
def LosesDuration (layers pruned : List Entries) : Prop :=
  ∃ merged rest, combined layers = .ok merged ∧ combined pruned = .ok rest ∧
    ∃ d ∈ durations, Misses (fieldsOf merged d.1) (fieldsOf rest d.1) d.2

theorem filter_twins (h : List.Forall₂ Twins merged rest) :
    (merged.filter fun e => !knownSections.any fun name => e.1 = .text name) =
      rest.filter fun e => !knownSections.any fun name => e.1 = .text name := by
  induction h with
  | nil => rfl
  | @cons e f _ _ twins _ ih =>
    obtain ⟨key, v⟩ := e
    obtain ⟨_, w⟩ := f
    obtain ⟨hkey, hvalue⟩ := twins
    obtain rfl := hkey
    rw [List.filter_cons, List.filter_cons, ih]
    rcases hvalue with hvalue | ⟨⟨name, known, hname⟩, -⟩
    · obtain rfl : v = w := hvalue
      rfl
    · have hany : (knownSections.any fun name => key = .text name) = true :=
        List.any_eq_true.mpr ⟨name, known, by simpa using hname⟩
      simp [hany]

/-- Settings of a section, made in the same way of two such combinations. -/
theorem bind_sectionOf_twins {α : Type} (h : List.Forall₂ Twins merged rest) (name : String)
    {f g : Entries → Except Breakdown α}
    (heq : ∀ fields kept, fields = fieldsOf merged name → kept = fieldsOf rest name →
      Forgets fields kept → g kept = f fields) :
    (sectionOf rest name >>= g) = (sectionOf merged name >>= f) := by
  rcases sectionOf_twins h name with ⟨e, hfields, hkept⟩ | ⟨fields, kept, hfields, hkept, hforgets⟩
  · rw [hfields, hkept]
    rfl
  · rw [hfields, hkept]
    exact heq fields kept (sectionOf_eq hfields) (sectionOf_eq hkept) hforgets

theorem settings_twins (h : List.Forall₂ Twins merged rest)
    (hkept : ∀ d ∈ durations, ¬ Misses (fieldsOf merged d.1) (fieldsOf rest d.1) d.2) :
    Settings.ofEntries rest = Settings.ofEntries merged := by
  rw [Settings.ofEntries, Settings.ofEntries]
  refine bind_sectionOf_twins h "tool" fun fields kept hfields hrest htool => ?_
  rw [htool.toolSettings (hfields ▸ hrest ▸ hkept ("tool", "fetch_timeout") (by simp [durations]))]
  congr 1
  funext tool
  refine bind_sectionOf_twins h "session" fun fields kept hfields hrest hsession => ?_
  rw [hsession.sessionSettings
    (hfields ▸ hrest ▸ hkept ("session", "restart_grace") (by simp [durations]))]
  congr 1
  funext session
  refine bind_sectionOf_twins h "logging" fun fields kept _ _ hlogging => ?_
  simp only [hlogging.logSettings, filter_twins h]

/-- A null at a duration is no number, so there are no settings. -/
theorem settings_of_misses {d : String × String} (hd : d ∈ durations)
    (h : Misses (fieldsOf merged d.1) (fieldsOf rest d.1) d.2) (s : Settings) :
    Settings.ofEntries merged ≠ .ok s := by
  intro hs
  obtain ⟨toolFields, htoolFields, hs⟩ := bind_ok hs
  obtain ⟨tool, htool, hs⟩ := bind_ok hs
  obtain ⟨sessionFields, hsessionFields, hs⟩ := bind_ok hs
  obtain ⟨session, hsession, -⟩ := bind_ok hs
  obtain rfl := sectionOf_eq htoolFields
  obtain rfl := sectionOf_eq hsessionFields
  rcases List.mem_cons.mp hd with rfl | hd
  · exact Misses.toolSettings h tool htool
  · obtain rfl := List.mem_singleton.mp hd
    exact Misses.sessionSettings h session hsession

/-- Layers settle to the same with nulls left out of their sections, unless one goes that they have
together at a duration; with that one they settle to no settings. -/
theorem nulls_spared (layers pruned : List Entries) (p : List.Forall₂ Pruned layers pruned) :
    (¬ LosesDuration layers pruned → settle pruned = settle layers) ∧
      (LosesDuration layers pruned → ∀ s, settle layers ≠ .ok s) := by
  rcases combined_twins p with ⟨hlayers, hpruned⟩ | ⟨merged, rest, hlayers, hpruned, htwins⟩
  · refine ⟨fun _ => ?_, ?_⟩
    · rw [settle, settle, hlayers, hpruned]
    · rintro ⟨merged, _, hmerged, -⟩
      rw [hlayers] at hmerged
      cases hmerged
  · refine ⟨fun hkept => ?_, ?_⟩
    · rw [settle, settle, hlayers, hpruned]
      refine settings_twins htwins fun d hd hmisses => hkept ?_
      exact ⟨merged, rest, hlayers, hpruned, d, hd, hmisses⟩
    · rintro ⟨merged', rest', hmerged, -, d, hd, hmisses⟩ s hs
      rw [settle, hmerged] at hs
      exact settings_of_misses hd hmisses s hs

/-- A system layer with nulls at two fields, one of which the user's layer states, below a layer
with a null for a section and one that replaces nothing. -/
def nullLayers : List Entries :=
  [[(.text "tool", .map [(.text "runtime", .null), (.text "directory", .text "opt"),
      (.text "fetch_timeout", .null)])],
    [(.text "session", .null), (.text "tool", .map [(.text "directory", .null),
      (.text "fetch_timeout", .scalar (.int 5))])]]

/-- The same with all nulls left out. -/
def statedLayers : List Entries :=
  [[(.text "tool", .map [(.text "directory", .text "opt")])],
    [(.text "tool", .map [(.text "fetch_timeout", .scalar (.int 5))])]]

theorem statedLayers_pruned : List.Forall₂ Pruned nullLayers statedLayers := by
  have hfirst : Thinned [(.text "runtime", .null), (.text "directory", .text "opt"),
      (.text "fetch_timeout", .null)] [(.text "directory", .text "opt")] :=
    .drop _ (.keep _ (.drop _ .nil))
  have hsecond : Thinned [(.text "directory", .null), (.text "fetch_timeout", .scalar (.int 5))]
      [(.text "fetch_timeout", .scalar (.int 5))] := .drop _ (.keep _ .nil)
  refine .cons ?_ (.cons ?_ .nil)
  · exact .thin (by decide) (by decide) hfirst .nil
  · exact .drop (by decide) (.thin (by decide) (by decide) hsecond .nil)

theorem nulls_spared_two : settle statedLayers = settle nullLayers := by
  refine (nulls_spared nullLayers statedLayers statedLayers_pruned).1 ?_
  rintro ⟨merged, rest, hmerged, -, d, hd, hnull, -⟩
  obtain rfl := Except.ok.inj hmerged
  rcases List.mem_cons.mp hd with rfl | hd
  · cases hnull
  · obtain rfl := List.mem_singleton.mp hd
    cases hnull

/-- A null at a duration that no other layer states is a failure, and none without it. -/
theorem null_duration_fails :
    List.Forall₂ Pruned [[(.text "tool", .map [(.text "fetch_timeout", .null)])]]
      [[(.text "tool", .map [])]] ∧
    settle [[(.text "tool", .map [(.text "fetch_timeout", .null)])]] = .error .wrongKind ∧
    ∃ s, settle [[(.text "tool", .map [])]] = .ok s := by
  refine ⟨.cons (.thin (by decide) (by decide) (.drop _ .nil) .nil) .nil, rfl, _, rfl⟩

end ToolHost.Config
