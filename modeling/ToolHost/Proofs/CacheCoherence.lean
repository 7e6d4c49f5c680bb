import ToolHost.Proofs.BadFiles

/-!
# The coherence of the settings in memory

Main statement: a load of no project returns the very settings that were built last for no project
since they were last dropped, and builds new ones exactly if there are none or new ones are asked
for. Loads of a project and builds that fail leave no trace: what every later request gives is the
same without them, but for the numbers of the builds.
-/
namespace ToolHost.Config

open Machine (Host)

variable {c c' : Cache} {r : Request} {b : Built} {requests before since later : List Request}
  {h : Host} {root : Option String} {fresh : Bool} {n : Nat}

/-! ## Builds -/

/-- A request that builds settings of no project. Settings that are kept bear an earlier number. -/
def Cache.Builds (c : Cache) (r : Request) (b : Built) : Prop :=
  ∃ h fresh, r = .load h none fresh ∧ (c.load h none fresh).1.outcome = .ok b ∧ b.serial = c.next

/-- Settings that were the last to be built for no project, and have not been dropped since. -/
def LastBuilt (requests : List Request) (b : Built) : Prop :=
  ∃ before r since, requests = before ++ r :: since ∧ (Cache.after before).Builds r b ∧
    .reset ∉ since ∧ ∀ mid r' rest b', since = mid ++ r' :: rest →
      ¬ (Cache.after (before ++ r :: mid)).Builds r' b'

theorem lastBuilt_concat : LastBuilt (requests ++ [r]) b ↔
    (Cache.after requests).Builds r b ∨
      r ≠ .reset ∧ (∀ b', ¬ (Cache.after requests).Builds r b') ∧ LastBuilt requests b := by
  constructor
  · rintro ⟨before, q, since, heq, hbuilds, hreset, hlast⟩
    rcases List.eq_nil_or_concat since with rfl | ⟨since, p, rfl⟩
    · obtain ⟨rfl, hr⟩ := List.append_inj' heq rfl
      exact .inl (List.singleton_inj.mp hr ▸ hbuilds)
    · rw [List.concat_eq_append, ← List.cons_append, ← List.append_assoc] at heq
      obtain ⟨rfl, hr⟩ := List.append_inj' heq rfl
      obtain rfl := List.singleton_inj.mp hr
      rw [List.concat_eq_append] at hreset hlast
      refine .inr ⟨fun hr => hreset (by simp [hr]), fun b' => hlast since r [] b' rfl, ?_⟩
      refine ⟨before, q, since, rfl, hbuilds, fun hmem => hreset (by simp [hmem]), ?_⟩
      rintro mid r' rest b' rfl
      exact hlast mid r' (rest ++ [r]) b' (by simp)
  · rintro (hbuilds | ⟨hreset, hnone, before, q, since, rfl, hbuilds, hkept, hlast⟩)
    · exact ⟨requests, r, [], rfl, hbuilds, by simp, by simp⟩
    · refine ⟨before, q, since ++ [r], by simp, hbuilds, by simp [hkept, hreset.symm], ?_⟩
      intro mid r' rest b' heq
      rcases List.eq_nil_or_concat rest with rfl | ⟨rest, p, rfl⟩
      · obtain ⟨rfl, hr⟩ := List.append_inj' heq rfl
        exact List.singleton_inj.mp hr ▸ hnone b'
      · rw [List.concat_eq_append, ← List.cons_append, ← List.append_assoc] at heq
        obtain ⟨rfl, -⟩ := List.append_inj' heq rfl
        exact hlast mid r' rest b' rfl

namespace Cache

theorem after_append (requests later : List Request) :
    after (requests ++ later) = later.foldl meet (after requests) := List.foldl_append

theorem after_concat (requests : List Request) (r : Request) :
    after (requests ++ [r]) = (after requests).meet r := after_append requests [r]

/-- The settings that are kept bear an earlier number than the next build. -/
def IsNumbered (c : Cache) : Prop := ∀ b ∈ c.kept, b.serial < c.next

/-- A load of no project returns what is kept, or it builds. -/
theorem load_none (c : Cache) (h : Host) (fresh : Bool) :
    (∃ b, c.kept = some b ∧ fresh = false ∧ c.load h none fresh = (.ok b, c)) ∨
      (fresh = true ∨ c.kept = none) ∧ c.load h none fresh = c.rebuild h none := by
  rcases c.load_cases h none fresh with hload | ⟨b, hkept, -, hfresh, hload⟩
  · cases hkept : c.kept with
    | none => exact .inr ⟨.inr rfl, hload⟩
    | some b =>
      cases fresh with
      | false => exact .inl ⟨b, rfl, rfl, by simp only [load, hkept]⟩
      | true => exact .inr ⟨.inl rfl, hload⟩
  · exact .inl ⟨b, hkept, hfresh, hload⟩

theorem load_some (c : Cache) (h : Host) (root : String) (fresh : Bool) :
    c.load h (some root) fresh = c.rebuild h (some root) := by
  rcases c.load_cases h (some root) fresh with hload | ⟨_, -, hroot, -⟩
  · exact hload
  · cases hroot

theorem builds_rebuild (hload : c.load h none fresh = c.rebuild h none) :
    c.Builds (.load h none fresh) b ↔
      (build h none).outcome = .ok b.settings ∧ b.serial = c.next := by
  constructor
  · rintro ⟨_, _, ⟨⟩, hbuilt, hserial⟩
    exact ⟨rebuild_built (hload ▸ hbuilt), hserial⟩
  · rintro ⟨hbuild, hserial⟩
    refine ⟨h, fresh, rfl, ?_, hserial⟩
    rw [hload, rebuild_outcome, hbuild, ← hserial]
    rfl

theorem not_builds_kept {kept : Built} (hc : c.IsNumbered) (hkept : c.kept = some kept)
    (hload : c.load h none fresh = (.ok kept, c)) : ¬ c.Builds (.load h none fresh) b := by
  rintro ⟨_, _, ⟨⟩, hbuilt, hserial⟩
  rw [hload] at hbuilt
  obtain rfl := Except.ok.inj hbuilt
  exact Nat.ne_of_lt (hc kept hkept) hserial

theorem not_builds_some {root : String} : ¬ c.Builds (.load h (some root) fresh) b := by
  rintro ⟨_, _, ⟨⟩, -⟩

theorem not_builds_reset : ¬ c.Builds .reset b := by
  rintro ⟨_, _, ⟨⟩, -⟩

/-- A request keeps what it builds, or else what was kept before, unless that is dropped. -/
theorem kept_meet (hc : c.IsNumbered) :
    (c.meet r).kept = some b ↔
      c.Builds r b ∨ r ≠ .reset ∧ (∀ b', ¬ c.Builds r b') ∧ c.kept = some b := by
  cases r with
  | reset => simp [meet, reset, not_builds_reset]
  | load h root fresh =>
    cases root with
    | some root => simp [meet, load_some, rebuild_eq, not_builds_some]
    | none =>
      rcases c.load_none h fresh with ⟨kept, hkept, -, hload⟩ | ⟨-, hload⟩
      · simp [meet, hload, not_builds_kept hc hkept hload]
      · simp only [meet, builds_rebuild hload, hload, rebuild_eq]
        cases (build h none).outcome with
        | error e => simp [Except.toOption]
        | ok s =>
          change some (⟨c.next, s⟩ : Built) = some b ↔ _
          constructor
          · rintro ⟨⟩
            exact .inl ⟨rfl, rfl⟩
          · rintro (⟨hs, hserial⟩ | ⟨-, hnone, -⟩)
            · rw [← hserial, Except.ok.inj hs]
            · exact absurd ⟨rfl, rfl⟩ (hnone ⟨c.next, s⟩)

theorem IsNumbered.meet (hc : c.IsNumbered) (r : Request) : (c.meet r).IsNumbered := by
  have hrebuild (h : Host) (root : Option String) : (c.rebuild h root).2.IsNumbered := by
    intro b hb
    rcases rebuild_kept hb with hkept | ⟨-, hbuilt⟩
    · rw [rebuild_eq]
      exact Nat.lt_succ_of_lt (hc b hkept)
    · rw [rebuild_eq] at hbuilt ⊢
      cases hbuild : (build h root).outcome with
      | error e =>
        rw [hbuild] at hbuilt
        cases hbuilt
      | ok s =>
        rw [hbuild] at hbuilt
        obtain rfl := Except.ok.inj hbuilt
        exact Nat.lt_succ_self c.next
  cases r with
  | reset => exact fun b hb => nomatch hb
  | load h root fresh =>
    rcases c.load_cases h root fresh with hload | ⟨_, -, -, -, hload⟩
    · rw [Cache.meet, hload]
      exact hrebuild h root
    · rw [Cache.meet, hload]
      exact hc

theorem isNumbered_after (requests : List Request) : (after requests).IsNumbered := by
  induction requests using List.reverseRecOn with
  | nil => exact fun b hb => nomatch hb
  | append_singleton requests r ih =>
    rw [after_concat]
    exact ih.meet r

/-- The settings that are kept are the last ones that were built. -/
theorem kept_iff : (after requests).kept = some b ↔ LastBuilt requests b := by
  induction requests using List.reverseRecOn generalizing b with
  | nil =>
    constructor
    · intro hb
      cases hb
    · rintro ⟨before, r, since, heq, -⟩
      simp at heq
  | append_singleton requests r ih =>
    rw [after_concat, lastBuilt_concat, kept_meet (isNumbered_after requests), ih]

/-! ## Numbers -/

theorem next_le_meet (c : Cache) (r : Request) : c.next ≤ (c.meet r).next := by
  cases r with
  | reset => exact Nat.le_refl _
  | load h root fresh =>
    rcases c.load_cases h root fresh with hload | ⟨_, -, -, -, hload⟩
    · rw [meet, hload, rebuild_eq]
      exact Nat.le_succ _
    · rw [meet, hload]

theorem next_le_foldl (c : Cache) (later : List Request) : c.next ≤ (later.foldl meet c).next :=
  List.foldlRecOn later meet (Nat.le_refl _) fun _ hle r _ => Nat.le_trans hle (next_le_meet _ r)

/-- What a load returns bears a number that no later build will have. -/
theorem IsNumbered.serial_lt (hc : c.IsNumbered) (hb : (c.load h root fresh).1.outcome = .ok b) :
    b.serial < (c.load h root fresh).2.next := by
  rcases c.load_cases h root fresh with hload | ⟨kept, hkept, -, -, hload⟩
  · rw [hload, rebuild_outcome] at hb
    rw [hload, rebuild_eq]
    cases hbuild : (build h root).outcome with
    | error e =>
      rw [hbuild] at hb
      cases hb
    | ok s =>
      rw [hbuild] at hb
      obtain rfl := Except.ok.inj hb
      exact Nat.lt_succ_self c.next
  · rw [hload] at hb ⊢
    obtain rfl := Except.ok.inj hb
    exact hc kept hkept

/-! ## Requests that leave no trace -/

end Cache

/-- Settings with the number that they have if one more build takes a number. -/
def Built.shifted (n : Nat) (b : Built) : Built :=
  { b with serial := if b.serial < n then b.serial else b.serial + 1 }

theorem Built.shifted_of_lt (hb : b.serial < n) : b.shifted n = b := by simp [shifted, hb]

theorem Built.shifted_of_le (hb : n ≤ b.serial) : b.shifted n = { b with serial := b.serial + 1 } := by
  simp [shifted, Nat.not_lt.mpr hb]

theorem Built.shifted_injective (n : Nat) : Function.Injective (Built.shifted n) := by
  rintro ⟨i, s⟩ ⟨j, t⟩ heq
  simp only [shifted, Built.mk.injEq] at heq
  obtain ⟨hserial, rfl⟩ := heq
  split at hserial <;> split at hserial <;> simp_all <;> omega

/-- The settings in memory with one more build behind them that left nothing there. -/
structure Cache.Shifts (n : Nat) (c c' : Cache) : Prop where
  kept : c'.kept = c.kept.map (Built.shifted n)
  next : c'.next = c.next + 1
  behind : n ≤ c.next

namespace Cache

theorem Shifts.rebuild (hs : Shifts n c c') (h : Host) (root : Option String) :
    (c'.rebuild h root).1.outcome = (c.rebuild h root).1.outcome.map (Built.shifted n) ∧
      (c'.rebuild h root).1.records = (c.rebuild h root).1.records ∧
      Shifts n (c.rebuild h root).2 (c'.rebuild h root).2 := by
  have hnew (s : Settings) : (⟨c'.next, s⟩ : Built) = Built.shifted n ⟨c.next, s⟩ := by
    rw [Built.shifted_of_le hs.behind, hs.next]
  rw [rebuild_eq, rebuild_eq]
  refine ⟨?_, rfl, ?_, congrArg (· + 1) hs.next, Nat.le_succ_of_le hs.behind⟩
  · cases (build h root).outcome with
    | error e => rfl
    | ok s => exact congrArg Except.ok (hnew s)
  · dsimp only
    cases (build h root).outcome.toOption.filter fun _ => root.isNone with
    | none => exact hs.kept
    | some s => exact congrArg some (hnew s)

theorem Shifts.load (hs : Shifts n c c') (h : Host) (root : Option String) (fresh : Bool) :
    (c'.load h root fresh).1.outcome = (c.load h root fresh).1.outcome.map (Built.shifted n) ∧
      (c'.load h root fresh).1.records = (c.load h root fresh).1.records ∧
      Shifts n (c.load h root fresh).2 (c'.load h root fresh).2 := by
  cases root with
  | some root =>
    rw [load_some, load_some]
    exact hs.rebuild h (some root)
  | none =>
    rcases c.load_none h fresh with ⟨b, hb, rfl, hload⟩ | ⟨hfresh, hload⟩
    · have hb' : c'.kept = some (b.shifted n) := by rw [hs.kept, hb, Option.map_some]
      have hload' : c'.load h none false = (.ok (b.shifted n), c') := by simp only [Cache.load, hb']
      rw [hload, hload']
      exact ⟨rfl, rfl, hs⟩
    · have hload' : c'.load h none fresh = c'.rebuild h none := by
        rcases c'.load_none h fresh with ⟨b, hb, rfl, -⟩ | ⟨-, hload'⟩
        · have hnone := hfresh.resolve_left Bool.false_ne_true
          rw [hs.kept, hnone] at hb
          cases hb
        · exact hload'
      rw [hload, hload']
      exact hs.rebuild h none

theorem Shifts.meet (hs : Shifts n c c') (r : Request) : Shifts n (c.meet r) (c'.meet r) := by
  cases r with
  | reset => exact ⟨rfl, hs.next, hs.behind⟩
  | load h root fresh => exact (hs.load h root fresh).2.2

theorem Shifts.foldl (hs : Shifts n c c') (later : List Request) :
    Shifts n (later.foldl Cache.meet c) (later.foldl Cache.meet c') := by
  induction later generalizing c c' with
  | nil => exact hs
  | cons r later ih => exact ih (hs.meet r)

/-- A load of a project, or one that fails. -/
def Passes (c : Cache) (r : Request) : Prop :=
  ∃ h root fresh, r = .load h root fresh ∧
    (root ≠ none ∨ ∃ e, (c.load h root fresh).1.outcome = .error e)

/-- Such a load changes the number of the next build, and nothing else. -/
theorem Passes.meet_eq (hr : c.Passes r) : c.meet r = { c with next := c.next + 1 } := by
  obtain ⟨h, root, fresh, rfl, hpass⟩ := hr
  rcases c.load_cases h root fresh with hload | ⟨b, -, hroot, -, hload⟩
  · rw [meet, hload, rebuild_eq]
    rcases hpass with hroot | ⟨e, he⟩
    · cases root with
      | none => exact absurd rfl hroot
      | some root => simp
    · rw [hload, rebuild_outcome] at he
      cases hbuild : (build h root).outcome with
      | error e => simp [Except.toOption]
      | ok s =>
        rw [hbuild] at he
        cases he
  · rcases hpass with hnone | ⟨e, he⟩
    · exact absurd hroot hnone
    · rw [hload] at he
      cases he

theorem IsNumbered.shifts (hc : c.IsNumbered) : Shifts c.next c { c with next := c.next + 1 } := by
  refine ⟨?_, rfl, Nat.le_refl _⟩
  cases hkept : c.kept with
  | none => rfl
  | some b => exact congrArg some (Built.shifted_of_lt (hc b hkept)).symm

end Cache

open Cache

/-- A load of no project returns, without a build, the settings that were the last to be built for
none and have not been dropped since; it builds anew exactly if there are none or if this is asked
for. A load of a project always builds. Loads of projects and builds that fail leave what is kept as
it is and all later answers the same. -/
theorem cache_coherent (requests : List Request) :
    (∀ b, LastBuilt requests b → ∀ h,
      (after requests).load h none false = (.ok b, after requests) ∧
        (after requests).get h = (.ok b, after requests)) ∧
    (∀ h fresh, fresh = true ∨ (∀ b, ¬ LastBuilt requests b) →
      ((after requests).load h none fresh).1 =
        ⟨(build h none).outcome.map fun s => ⟨(after requests).next, s⟩, (build h none).records⟩ ∧
      ∀ b, ((after requests).load h none fresh).1.outcome = .ok b →
        LastBuilt (requests ++ [.load h none fresh]) b) ∧
    (∀ h root fresh, ((after requests).load h (some root) fresh).1 =
      ⟨(build h (some root)).outcome.map fun s => ⟨(after requests).next, s⟩,
        (build h (some root)).records⟩) ∧
    (∀ before h root fresh since b, requests = before ++ .load h root fresh :: since →
      ((after before).load h root fresh).1.outcome = .ok b → b.serial < (after requests).next) ∧
    ∀ r, (after requests).Passes r → (after (requests ++ [r])).kept = (after requests).kept ∧
      ∃ f : Built → Built, Function.Injective f ∧ (∀ b, (f b).settings = b.settings) ∧
        (∀ b, b.serial < (after requests).next → f b = b) ∧
        ∀ later h root fresh,
          ((after (requests ++ r :: later)).load h root fresh).1.outcome =
              ((after (requests ++ later)).load h root fresh).1.outcome.map f ∧
            ((after (requests ++ r :: later)).load h root fresh).1.records =
              ((after (requests ++ later)).load h root fresh).1.records := by
  have hnumbered := isNumbered_after requests
  refine ⟨fun b hb h => ?_, fun h fresh hnew => ?_, fun h root fresh => ?_, ?_, fun r hr => ?_⟩
  · have hload : (after requests).load h none false = (.ok b, after requests) := by
      simp only [load, kept_iff.mpr hb]
    exact ⟨hload, hload⟩
  · have hload : (after requests).load h none fresh = (after requests).rebuild h none := by
      rcases (after requests).load_none h fresh with ⟨b, hb, rfl, -⟩ | ⟨-, hload⟩
      · exact absurd (kept_iff.mp hb) (hnew.resolve_left Bool.false_ne_true b)
      · exact hload
    refine ⟨by rw [hload, rebuild_eq], fun b hb => lastBuilt_concat.mpr (.inl ?_)⟩
    rw [hload, rebuild_outcome] at hb
    rw [builds_rebuild hload]
    cases hbuild : (build h none).outcome with
    | error e =>
      rw [hbuild] at hb
      cases hb
    | ok s =>
      rw [hbuild] at hb
      obtain rfl := Except.ok.inj hb
      exact ⟨rfl, rfl⟩
  · rw [load_some, rebuild_eq]
  · rintro before h root fresh since b rfl hb
    refine Nat.lt_of_lt_of_le ((isNumbered_after before).serial_lt hb) ?_
    rw [after_append]
    exact next_le_foldl _ since
  · have hshifts := hnumbered.shifts
    rw [← hr.meet_eq] at hshifts
    refine ⟨by rw [after_concat, hr.meet_eq], _, Built.shifted_injective _, fun b => rfl,
      fun b hb => Built.shifted_of_lt hb, fun later h root fresh => ?_⟩
    obtain ⟨houtcome, hrecords, -⟩ := (hshifts.foldl later).load h root fresh
    rw [after_append, after_append]
    exact ⟨houtcome, hrecords⟩

/-- A file that is no text makes the second build fail, and the first settings are returned. -/
theorem cache_coherent_relapse :
    ∃ b, LastBuilt [.load {} none false] b ∧
      ((Cache.after [.load {} none false, .load (holding [0xff]) none true]).get
        (holding [0xff])).1.outcome = .ok b := by
  have hnothing : ∀ b, ¬ LastBuilt [] b := fun b hb => nomatch kept_iff.mpr hb
  obtain ⟨s, hs⟩ : ∃ s, (build {} none).outcome = .ok s := by
    have hbuilt : (build {} none).outcome.isOk = true := by decide +kernel
    revert hbuilt
    cases (build {} none).outcome with
    | error e => exact fun h => nomatch h
    | ok s => exact fun _ => ⟨s, rfl⟩
  obtain ⟨hload, hlast⟩ := (cache_coherent []).2.1 {} false (.inr hnothing)
  have hfirst : LastBuilt [.load {} none false] ⟨0, s⟩ := hlast ⟨0, s⟩ (by rw [hload, hs]; rfl)
  refine ⟨⟨0, s⟩, hfirst, ?_⟩
  have hfails : (Cache.after [.load {} none false]).Passes (.load (holding [0xff]) none true) :=
    ⟨_, _, _, rfl, .inr ⟨.notUtf8, by rfl⟩⟩
  have hkept := ((cache_coherent [.load {} none false]).2.2.2.2 _ hfails).1
  have hsecond : LastBuilt [.load {} none false, .load (holding [0xff]) none true] ⟨0, s⟩ :=
    kept_iff.mp (hkept.trans (kept_iff.mpr hfirst))
  rw [((cache_coherent _).1 _ hsecond (holding [0xff])).2]
  rfl

end ToolHost.Config
