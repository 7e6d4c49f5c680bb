import Mathlib.Order.Monotone.Basic
import ToolHost.Cli
import ToolHost.Proofs.TypedSettings

/-!
# More flags and more records

A flag replaces the verbosity that is configured. From the first flag on each further one keeps all
the records of the one before; but the first takes records away from settings that ask for more
than it gives.
-/
namespace ToolHost.Log

open Config (LogSettings IsTextOrNull IsWholeOrNull)
open Machine (Host)

/-! ### Levels -/

theorem ofVerbosity_anti : Antitone ofVerbosity :=
  antitone_nat_of_succ_le fun n =>
    match n with
    | 0 | 1 | 2 | 3 => by decide
    | _ + 4 => le_rfl

theorem trace_le_ofVerbosity (n : Nat) : trace ≤ ofVerbosity n :=
  calc trace = ofVerbosity (n + greatestVerbosity) := rfl
    _ ≤ ofVerbosity n := ofVerbosity_anti (Nat.le_add_right n greatestVerbosity)

/-- Only the greatest verbosity goes below the verbose level. -/
theorem ofVerbosity_lt_verbose_iff (n : Nat) :
    ofVerbosity n < verbose ↔ greatestVerbosity ≤ n := by
  constructor
  · intro h
    by_contra hn
    have hbelow : n ≤ 3 := Nat.lt_succ_iff.1 (Nat.lt_of_not_le hn)
    exact absurd h (ofVerbosity_anti hbelow).not_gt
  · exact fun h => (ofVerbosity_anti h).trans_lt (by decide)

theorem le_clampVerbosity_iff (i : Int) :
    greatestVerbosity ≤ clampVerbosity i ↔ greatestVerbosity ≤ i := by
  unfold clampVerbosity greatestVerbosity
  omega

theorem clampVerbosity_of_le {n : Nat} (h : n ≤ greatestVerbosity) : clampVerbosity n = n := by
  unfold clampVerbosity
  omega

/-! ### The level of settings alone -/

/-- Whether settings ask by themselves for more than the verbose level. -/
def AsksForMore (s : LogSettings) : Prop :=
  (∃ i, s.verbose = .scalar (.int i) ∧ greatestVerbosity ≤ i) ∨
    s.verbose = .null ∧ ∃ name, s.level = .text name ∧ Text.capitals name ∈ ["TRACE", "DEBUG"]

theorem trace_le_named (name : String) : trace ≤ (named? name).getD info := by
  unfold named?
  split <;> decide

theorem named_lt_verbose_iff (name : String) :
    (named? name).getD info < verbose ↔ name ∈ ["TRACE", "DEBUG"] := by
  unfold named?
  split
  case h_7 htrace hdebug _ _ _ _ =>
    -- A name that selects no level stands for the common one.
    refine iff_of_false (by decide) ?_
    simp only [List.mem_cons, List.not_mem_nil, or_false, not_or]
    exact ⟨htrace, hdebug⟩
  all_goals decide

variable {s : LogSettings}

theorem inForce_of_int {i : Int} (h : s.verbose = .scalar (.int i)) :
    Level.inForce s = .ok (ofVerbosity (clampVerbosity i)) := by
  rw [Level.inForce, h]

theorem inForce_of_name {name : String} (hverbose : s.verbose = .null)
    (hlevel : s.level = .text name) :
    Level.inForce s = .ok ((named? (Text.capitals name)).getD info) := by
  rw [Level.inForce, hverbose, hlevel]
  by_cases hempty : name = ""
  · subst hempty
    rfl
  · have hfull : (Value.text name).isEmpty = false := by
      simpa [Value.text, Value.isEmpty, Scalar.isEmpty] using hempty
    change (if (Value.text name).isEmpty then _ else _) = _
    rw [hfull]
    rfl

theorem asksForMore_of_int {i : Int} (h : s.verbose = .scalar (.int i)) :
    AsksForMore s ↔ greatestVerbosity ≤ i := by
  simp [AsksForMore, h, Value.null]

theorem asksForMore_of_name {name : String} (hverbose : s.verbose = .null)
    (hlevel : s.level = .text name) :
    AsksForMore s ↔ Text.capitals name ∈ ["TRACE", "DEBUG"] := by
  simp [AsksForMore, hverbose, hlevel, Value.null, Value.text]

/-- Settings of the declared types have a level, and it is below the verbose one exactly if they ask
for more than that. -/
theorem exists_inForce (hlevel : IsTextOrNull s.level) (hverbose : IsWholeOrNull s.verbose) :
    ∃ level, Level.inForce s = .ok level ∧ trace ≤ level ∧ (level < verbose ↔ AsksForMore s) := by
  rcases hverbose with hnull | ⟨i, hint⟩ | ⟨b, hbool⟩
  · rcases hlevel with hnone | ⟨name, hname⟩
    · have hforce : Level.inForce s = .ok info := by
        rw [Level.inForce, hnull, hnone]
        rfl
      refine ⟨info, hforce, by decide, iff_of_false (by decide) ?_⟩
      simp [AsksForMore, hnull, hnone, Value.null, Value.text]
    · refine ⟨_, inForce_of_name hnull hname, trace_le_named _, ?_⟩
      rw [named_lt_verbose_iff, asksForMore_of_name hnull hname]
  · refine ⟨_, inForce_of_int hint, trace_le_ofVerbosity _, ?_⟩
    rw [ofVerbosity_lt_verbose_iff, le_clampVerbosity_iff, asksForMore_of_int hint]
  · -- A truth value is one of the two least verbosities.
    have hforce : Level.inForce s = .ok (ofVerbosity (if b then 1 else 0)) := by
      rw [Level.inForce, hbool]
    refine ⟨_, hforce, trace_le_ofVerbosity _, ?_⟩
    rw [ofVerbosity_lt_verbose_iff]
    refine iff_of_false (by cases b <;> decide) ?_
    simp [AsksForMore, hbool, Value.null]

/-! ### What a log takes -/

/-- Whether a log takes a record. -/
def State.Takes (log : State) (r : Record) : Prop := log.level ≤ r.level

instance (log : State) (r : Record) : Decidable (log.Takes r) :=
  inferInstanceAs (Decidable (_ ≤ _))

/-- A log, and the host that it is on, after some records. -/
def State.writeAll (log : State) (h : Host) (rs : List Record) : State × Host :=
  rs.foldl (fun (log, h) r => write log h r) (log, h)

/-- The same log at another level. -/
def State.atLevel (log : State) (level : Int) : State := { log with level }

/-- Whether a log takes all records that another one takes, and does with these what that one
does. -/
structure State.Covers (loud quiet : State) : Prop where
  takes : ∀ r, quiet.Takes r → loud.Takes r
  writes : ∀ h rs, loud.writeAll h (rs.filter quiet.Takes) =
    ((quiet.writeAll h rs).1.atLevel loud.level, (quiet.writeAll h rs).2)

variable {log : State} {h : Host} {r : Record}

theorem writeAll_cons (log : State) (h : Host) (r : Record) (rs : List Record) :
    log.writeAll h (r :: rs) = (write log h r).1.writeAll (write log h r).2 rs := rfl

theorem write_of_not_takes (hr : ¬log.Takes r) : write log h r = (log, h) :=
  if_pos (not_le.1 hr)

theorem write_level (log : State) (h : Host) (r : Record) :
    (write log h r).1.level = log.level := by
  unfold write
  split
  · rfl
  · split
    · rfl
    · rfl
    · split <;> rfl

/-- A record that is taken is written in the same way at any level that takes it. -/
theorem write_atLevel {level : Int} (hr : log.Takes r) (hlevel : level ≤ log.level) :
    write (log.atLevel level) h r = ((write log h r).1.atLevel level, (write log h r).2) := by
  obtain ⟨isSetUp, own, target, errorLines⟩ := log
  have hlow : ¬r.level < own := not_lt.2 hr
  have hlower : ¬r.level < level := not_lt.2 (hlevel.trans hr)
  change write ⟨isSetUp, level, target, errorLines⟩ h r = _
  rw [write, if_neg hlower, write, if_neg hlow]
  rcases target with _ | place | _
  · by_cases hgrave : warning ≤ r.level
    · simp only [if_pos hgrave, State.atLevel]
    · simp only [if_neg hgrave, State.atLevel]
  · rfl
  · rfl

/-- What a log does not take leaves no trace in it. -/
theorem writeAll_atLevel {level : Int} (hlevel : level ≤ log.level) (h : Host)
    (rs : List Record) :
    (log.atLevel level).writeAll h (rs.filter log.Takes) =
      ((log.writeAll h rs).1.atLevel level, (log.writeAll h rs).2) := by
  induction rs generalizing log h with
  | nil => rfl
  | cons r rs ih =>
    rw [writeAll_cons]
    by_cases hr : log.Takes r
    · have hlower : level ≤ (write log h r).1.level := hlevel.trans_eq (write_level log h r).symm
      have hrest := ih hlower (write log h r).2
      simp only [State.Takes, write_level] at hrest
      rw [List.filter_cons_of_pos (by simpa using hr), writeAll_cons, write_atLevel hr hlevel]
      exact hrest
    · rw [List.filter_cons_of_neg (by simpa using hr), write_of_not_takes hr]
      exact ih hlevel h

theorem covers_atLevel_iff (log : State) (level : Int) :
    (log.atLevel level).Covers log ↔ level ≤ log.level := by
  constructor
  · exact fun h => h.takes ⟨log.level, "", ""⟩ (le_refl log.level)
  · exact fun h => ⟨fun r hr => h.trans hr, writeAll_atLevel h⟩

/-- Settings that differ in the level alone set up logs that differ in the level alone. -/
theorem setup_atLevel {a b : LogSettings} (hfile : b.file = a.file) {i j : Int}
    (ha : Level.inForce a = .ok i) (hb : Level.inForce b = .ok j) {isTerminal : Bool} {left : Host}
    (hsetup : setup {} h a isTerminal = .ok (log, left)) :
    log.level = i ∧ setup {} h b isTerminal = .ok (log.atLevel j, left) := by
  simp only [setup, Bool.false_eq_true, if_false, ha, hb, hfile, bind, Except.bind] at hsetup ⊢
  cases hfound : configuredFile h a.file with
  | error e =>
    rw [hfound] at hsetup
    cases hsetup
  | ok found =>
    rw [hfound] at hsetup
    cases found with
    | none =>
      cases hsetup
      cases isTerminal <;> exact ⟨rfl, rfl⟩
    | some file =>
      simp only at hsetup ⊢
      by_cases hnul : file.toList.contains '\x00'
      · rw [if_pos hnul] at hsetup
        cases hsetup
      · rw [if_neg hnul] at hsetup ⊢
        cases hopened : openFile h file with
        | ok opened =>
          rw [hopened] at hsetup
          cases hsetup
          exact ⟨rfl, rfl⟩
        | error text =>
          rw [hopened] at hsetup
          cases isTerminal <;> cases hsetup <;> exact ⟨rfl, rfl⟩

end ToolHost.Log

namespace ToolHost.Cli

open Config (IsTextOrNull IsWholeOrNull)
open Machine (Host)

/-! ### Flags -/

theorem withVerbosity_file (s : Config.Settings) (flags : Nat) :
    (withVerbosity s flags).logging.file = s.logging.file := by
  unfold withVerbosity
  split <;> rfl

/-- The verbosity of so many flags, if there are any. -/
def flagVerbosity (flags : Nat) : Nat := min (Log.defaultVerbosity + flags) Log.greatestVerbosity

theorem withVerbosity_verbose (s : Config.Settings) {flags : Nat} (h : 0 < flags) :
    (withVerbosity s flags).logging.verbose = .scalar (.int (flagVerbosity flags)) := by
  have hcount : ¬(flags : Int) ≤ 0 := by omega
  have hmin : min (Log.defaultVerbosity + (flags : Int)) Log.greatestVerbosity =
      flagVerbosity flags := by
    unfold flagVerbosity
    omega
  rw [withVerbosity, Log.verbosityOfFlags, if_neg hcount, hmin]

/-- Flags settle the level, whatever the settings say. -/
theorem inForce_withVerbosity (s : Config.Settings) {flags : Nat} (h : 0 < flags) :
    Log.Level.inForce (withVerbosity s flags).logging =
      .ok (Log.ofVerbosity (flagVerbosity flags)) := by
  have hclamp : Log.clampVerbosity (flagVerbosity flags) = flagVerbosity flags :=
    Log.clampVerbosity_of_le (Nat.min_le_right _ _)
  rw [Log.inForce_of_int (withVerbosity_verbose s h), hclamp]

/-- Whether the first flag overrules settings that ask by themselves for more than it gives. -/
def IsOverruled (s : Config.LogSettings) (n m : Nat) : Prop := n = 0 ∧ m = 1 ∧ Log.AsksForMore s

variable {s : Config.Settings} {n m : Nat}

theorem level_le_iff (hlevel : IsTextOrNull s.logging.level)
    (hverbose : IsWholeOrNull s.logging.verbose) (hle : n ≤ m) :
    ∃ few many,
      Log.Level.inForce (withVerbosity s n).logging = .ok few ∧
      Log.Level.inForce (withVerbosity s m).logging = .ok many ∧
      (many ≤ few ↔ ¬IsOverruled s.logging n m) := by
  by_cases hn : 0 < n
  · refine ⟨_, _, inForce_withVerbosity s hn, inForce_withVerbosity s (hn.trans_le hle), ?_⟩
    have hmono : flagVerbosity n ≤ flagVerbosity m := by
      unfold flagVerbosity
      omega
    exact iff_of_true (Log.ofVerbosity_anti hmono) fun h => hn.ne' h.1
  · obtain rfl : n = 0 := Nat.eq_zero_of_not_pos hn
    obtain ⟨level, hforce, hleast, hmore⟩ := Log.exists_inForce hlevel hverbose
    match m with
    | 0 => exact ⟨level, level, hforce, hforce, iff_of_true le_rfl fun h => by cases h.2.1⟩
    | 1 =>
      refine ⟨level, Log.verbose, hforce, inForce_withVerbosity s Nat.one_pos, ?_⟩
      rw [← not_lt, hmore, not_iff_not, IsOverruled]
      simp
    | m + 2 =>
      refine ⟨level, _, hforce, inForce_withVerbosity s (Nat.succ_pos _), ?_⟩
      have hgreatest : flagVerbosity (m + 2) = Log.greatestVerbosity := by
        rw [flagVerbosity, Log.defaultVerbosity, Log.greatestVerbosity]
        omega
      rw [hgreatest]
      exact iff_of_true hleast fun h => by cases h.2.1

/-- With more flags the level in force is at most that with fewer, and the log takes and writes all
that it takes and writes with fewer, unless what is added is the first flag alone and the settings
ask by themselves for more than it gives. -/
theorem more_flags_cover_iff (s : Config.Settings) (hlevel : IsTextOrNull s.logging.level)
    (hverbose : IsWholeOrNull s.logging.verbose) {n m : Nat} (hle : n ≤ m) :
    ∃ few many,
      Log.Level.inForce (withVerbosity s n).logging = .ok few ∧
      Log.Level.inForce (withVerbosity s m).logging = .ok many ∧
      (many ≤ few ↔ ¬IsOverruled s.logging n m) ∧
      ∀ h isTerminal quiet left,
        Log.setup {} h (withVerbosity s n).logging isTerminal = .ok (quiet, left) →
        ∃ loud, Log.setup {} h (withVerbosity s m).logging isTerminal = .ok (loud, left) ∧
          (loud.Covers quiet ↔ ¬IsOverruled s.logging n m) := by
  obtain ⟨few, many, hfew, hmany, hcompare⟩ := level_le_iff hlevel hverbose hle
  refine ⟨few, many, hfew, hmany, hcompare, fun h isTerminal quiet left hsetup => ?_⟩
  have hfile := (withVerbosity_file s m).trans (withVerbosity_file s n).symm
  obtain ⟨rfl, hloud⟩ := Log.setup_atLevel hfile hfew hmany hsetup
  exact ⟨_, hloud, (Log.covers_atLevel_iff quiet many).trans hcompare⟩

/-- Settings that ask for the debug level. -/
def debugging : Entries := [(.text "logging", .map [(.text "level", .text "Debug")])]

/-- Two flags go beyond the debug level. -/
theorem more_flags_cover_iff_debugging : ∃ s quiet loud,
    Config.Settings.ofEntries debugging = .ok s ∧ IsTextOrNull s.logging.level ∧
    IsWholeOrNull s.logging.verbose ∧ 0 ≤ 2 ∧
    Log.setup {} {} (withVerbosity s 0).logging true = .ok (quiet, {}) ∧
    Log.setup {} {} (withVerbosity s 2).logging true = .ok (loud, {}) ∧
    quiet.level = Log.debug ∧ loud.level = Log.trace ∧ loud.Covers quiet := by
  obtain ⟨s, hs, hlogging⟩ : ∃ s, Config.Settings.ofEntries debugging = .ok s ∧
      s.logging = ⟨.text "Debug", .null, .null⟩ := ⟨_, rfl, rfl⟩
  have hlevel : IsTextOrNull s.logging.level := .inr ⟨"Debug", by rw [hlogging]⟩
  have hverbose : IsWholeOrNull s.logging.verbose := .inl (by rw [hlogging])
  have hquiet : Log.setup {} {} (withVerbosity s 0).logging true =
      .ok (⟨true, Log.debug, some .errorStream, []⟩, {}) := by
    change Log.setup {} {} s.logging true = _
    rw [hlogging]
    rfl
  have hloud : Log.setup {} {} (withVerbosity s 2).logging true =
      .ok (⟨true, Log.trace, some .errorStream, []⟩, {}) := by
    change Log.setup {} {} { s.logging with verbose := .scalar (.int 4) } true = _
    rw [hlogging]
    rfl
  obtain ⟨_, _, -, -, -, hcover⟩ := more_flags_cover_iff s hlevel hverbose (Nat.zero_le 2)
  obtain ⟨loud, hsetup, hcovers⟩ := hcover {} true _ _ hquiet
  obtain ⟨rfl, -⟩ := Prod.mk.inj (Except.ok.inj (hloud.symm.trans hsetup))
  exact ⟨s, _, _, hs, hlevel, hverbose, Nat.zero_le 2, hquiet, hloud, rfl, rfl,
    hcovers.2 fun h => by cases h.2.1⟩

/-- Settings that ask for all there is. -/
def tracing : Entries := [(.text "logging", .map [(.text "verbose", .scalar (.int 4))])]

/-- The first flag takes a record away from them. -/
theorem first_flag_overrules : ∃ s quiet loud,
    Config.Settings.ofEntries tracing = .ok s ∧
    Log.Level.inForce (withVerbosity s 0).logging = .ok Log.trace ∧
    Log.Level.inForce (withVerbosity s 1).logging = .ok Log.verbose ∧
    Log.setup {} {} (withVerbosity s 0).logging true = .ok (quiet, {}) ∧
    Log.setup {} {} (withVerbosity s 1).logging true = .ok (loud, {}) ∧
    ∃ r : Log.Record, quiet.Takes r ∧ ¬loud.Takes r :=
  ⟨_, _, _, rfl, rfl, rfl, rfl, rfl, ⟨Log.debug, "cli", "Running build in /"⟩, by decide, by decide⟩

end ToolHost.Cli
