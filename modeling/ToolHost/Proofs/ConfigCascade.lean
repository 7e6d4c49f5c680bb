import ToolHost.Proofs.Config.Settled

/-!
# The cascade of configurations

Main statements: settings made of layers follow, field by field, the highest layer that says
anything of the field, and nothing that stands in a section is lost because a higher layer mentions
other keys; settings that a load returns hold the variables of the environment as they were when
the settings were built, which is when they are asked for, unless kept settings are returned.
-/
namespace ToolHost

open Config Machine

/-- Settings made of layers follow the layers; settings that a load returns are either built now,
and heed the environment as it is, or they are the kept ones, and heed the environment as it was
when a load of no project built them. -/
theorem configuration_cascaded :
    (∀ layers merged s, (∀ layer ∈ layers, IsLayered layer) → combined layers = .ok merged →
      Settings.ofEntries merged = .ok s →
        s.Follows (given? layers) ∧
          ∀ lower higher below, layers = lower ++ higher → combined lower = .ok below →
            ∀ name ∈ knownSections, ∀ e ∈ fieldsOf below name,
              (∀ layer ∈ higher, ∀ f ∈ fieldsOf layer name, e.1.same f.1 = false) →
                e ∈ fieldsOf merged name) ∧
    ∀ requests h root fresh b, ((Cache.after requests).load h root fresh).1.outcome = .ok b →
      ((build h root).outcome = .ok b.settings ∧ b.settings.Heeds h) ∨
        root = none ∧ fresh = false ∧ (Cache.after requests).kept = some b ∧
          ∃ k fresh', .load k none fresh' ∈ requests ∧
            (build k none).outcome = .ok b.settings ∧ b.settings.Heeds k := by
  refine ⟨fun layers merged s hlayers hmerged hs => ?_, fun requests h root fresh b hb => ?_⟩
  · have hgiven := (combined_given hlayers hmerged).2
    refine ⟨(Settings.follows hs).congr hgiven, ?_⟩
    rintro lower higher below rfl hbelow name hname e he hkey
    exact mem_combined hlayers hbelow hmerged hname he hkey
  · rcases Cache.load_cases (Cache.after requests) h root fresh with
      hload | ⟨kept, hkept, hroot, hfresh, hload⟩
    · rw [hload] at hb
      have hbuild := Cache.rebuild_built hb
      exact .inl ⟨hbuild, heeds_of_build hbuild⟩
    · rw [hload] at hb
      obtain rfl : kept = b := Except.ok.inj hb
      obtain ⟨k, fresh', hmem, hbuild⟩ := Cache.after_kept hkept
      exact .inr ⟨hroot, hfresh, hkept, k, fresh', hmem, hbuild, heeds_of_build hbuild⟩

/-- The system sets an interpreter and a number of seconds, the user drops the first and writes
the second as a text, and the project mentions the directory only. -/
def threeLayers : List Entries :=
  [[(.text "tool", .map [(.text "runtime", .text "java17"),
      (.text "fetch_timeout", .scalar (.int 5))])],
    [(.text "tool", .map [(.text "runtime", .null), (.text "fetch_timeout", .text "7"),
      (.text "artifact_name", .text "")]), (.text "session", .null)],
    [(.text "tool", .map [(.text "directory", .text "opt")])]]

/-- A host without files on which a variable names an interpreter. -/
def seated : Host := { environment := [("TOOLBRIDGE_RUNTIME", "rt")] }

theorem configuration_cascaded_three :
    (∃ merged s, combined threeLayers = .ok merged ∧ Settings.ofEntries merged = .ok s ∧
      s.tool.runtime = .text "java17" ∧ s.tool.artifactName = .text "tool.jar" ∧
      s.tool.directory = .text "opt" ∧ number (.text "7") = .ok s.tool.fetchTimeout ∧
      (.text "fetch_timeout", .text "7") ∈ fieldsOf merged "tool") ∧
    ∃ b, ((Cache.after [.load {} none false]).load seated none true).1.outcome = .ok b ∧
      b.settings.tool.runtime = .text "rt" := by
  constructor
  · obtain ⟨merged, hmerged⟩ : ∃ merged, combined threeLayers = .ok merged := ⟨_, rfl⟩
    obtain ⟨s, hs⟩ : ∃ s, Settings.ofEntries merged = .ok s := by
      obtain rfl := Except.ok.inj hmerged
      exact ⟨_, rfl⟩
    obtain ⟨hfollows, hkept⟩ :=
      configuration_cascaded.1 threeLayers merged s (by decide) hmerged hs
    refine ⟨merged, s, hmerged, hs, hfollows.runtime, hfollows.artifactName,
      hfollows.directory, hfollows.fetchTimeout, ?_⟩
    refine hkept (threeLayers.take 2) (threeLayers.drop 2) _ rfl rfl "tool" (by decide) _ ?_
      (by decide)
    exact Entries.mem_of_at? rfl
  · obtain ⟨b, hb⟩ : ∃ b,
        ((Cache.after [.load {} none false]).load seated none true).1.outcome = .ok b := by
      have hreturned : ((Cache.after [.load {} none false]).load seated none
          true).1.outcome.toOption.isSome := by decide +kernel
      revert hreturned
      cases ((Cache.after [.load {} none false]).load seated none true).1.outcome with
      | error e => simp [Except.toOption]
      | ok b => exact fun _ => ⟨b, rfl⟩
    refine ⟨b, hb, ?_⟩
    rcases configuration_cascaded.2 _ _ _ _ b hb with ⟨-, hheeds⟩ | ⟨-, hfresh, -⟩
    · exact hheeds.runtime "rt" (by decide)
    · cases hfresh

/-- A variable that is set after the settings were built is not heeded by a load that returns the
kept ones. -/
theorem not_heeded_kept :
    seated.nonempty? (Product.variableName "RUNTIME") = some "rt" ∧
    ∃ b, ((Cache.after [.load {} none false]).load seated none false).1.outcome = .ok b ∧
      b.settings.tool.runtime ≠ .text "rt" := by
  refine ⟨by decide, ?_⟩
  have hjava : ((Cache.after [.load {} none false]).load seated none false).1.outcome.toOption.map
      (fun b => b.settings.tool.runtime.written) = some "java" := by decide +kernel
  revert hjava
  cases ((Cache.after [.load {} none false]).load seated none false).1.outcome with
  | error e => simp [Except.toOption]
  | ok b =>
    refine fun h => ⟨b, rfl, fun hruntime => ?_⟩
    have hwritten : b.settings.tool.runtime.written = "java" := Option.some.inj h
    rw [hruntime] at hwritten
    revert hwritten
    decide

end ToolHost
