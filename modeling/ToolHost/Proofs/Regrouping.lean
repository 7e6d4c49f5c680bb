import ToolHost.Proofs.Config.Depths
import ToolHost.Proofs.Config.Nulls

/-!
# Neighbouring layers merged first

Of three mappings it does not matter which two neighbours are merged first, unless the middle one
has a value where the other two have mappings: merged with the lowest one first it replaces the
mapping there, merged with the highest one first it is replaced itself. So a cascade can be
regrouped as long as no three neighbouring parts of it stand like this.
-/
namespace ToolHost.Config

open Entries

variable {base low mid top : Entries} {a b c : Option Value}

/-! ## Three mappings -/

/-- Somewhere the middle one has a value, neither null nor a mapping, between two mappings. -/
def Severed (lower middle upper : Option Value) : Prop :=
  ∃ path v, look lower path = some .mapping ∧ look middle path = some (.leaf v) ∧
    v.isNull = false ∧ look upper path = some .mapping

/-- The same of whole mappings. -/
def AreSevered (lower middle upper : Entries) : Prop :=
  Severed (some (.map lower)) (some (.map middle)) (some (.map upper))

theorem covered_assoc_or_maps (ha : ∀ v ∈ a, IsTree v) (hb : ∀ v ∈ b, IsTree v)
    (hc : ∀ v ∈ c, IsTree v) (joined : ¬ Severed a b c) :
    covered (covered a b) c = covered a (covered b c) ∨
      ∃ low mid top, (a = some (.map low) ∧ b = some (.map mid) ∧ c = some (.map top)) ∧
        AreTrees low ∧ AreTrees mid ∧ AreTrees top := by
  cases c with
  | none => exact .inl rfl
  | some w =>
    rcases (hc w rfl).cases with rfl | ⟨stated, hleaf, -⟩ | ⟨top, rfl, htop⟩
    · exact .inl rfl
    · exact .inl (by simp only [covered_leaf _ hleaf stated])
    -- Only below a mapping can it matter what the middle one is.
    cases b with
    | none => exact .inl (by rw [covered_none, covered_map_of_leaf (a := none) rfl])
    | some v =>
      rcases (hb v rfl).cases with rfl | ⟨stated, hleaf, hsight⟩ | ⟨mid, rfl, hmid⟩
      · exact .inl (by rw [covered_null, covered_map_of_leaf (a := some .null) rfl])
      · rcases leaf_or_map ha with ⟨hnone, -⟩ | ⟨low, rfl, -⟩
        · rw [covered_leaf a hleaf stated, covered_map_of_leaf (a := some v) hleaf,
            covered_map_of_leaf hnone]
          exact .inl rfl
        · exact absurd ⟨[], v, rfl, congrArg some hsight, stated, rfl⟩ joined
      · rcases leaf_or_map ha with ⟨hnone, -⟩ | ⟨low, rfl, hlow⟩
        · rw [covered_map_of_leaf hnone, covered_map_map, covered_map_of_leaf hnone]
          exact .inl rfl
        · exact .inr ⟨low, mid, top, ⟨rfl, rfl, rfl⟩, hlow, hmid, htop⟩

/-- Neighbours may be merged in either order, at every depth. -/
theorem look_covered_assoc (ha : ∀ v ∈ a, IsTree v) (hb : ∀ v ∈ b, IsTree v)
    (hc : ∀ v ∈ c, IsTree v) (joined : ¬ Severed a b c) :
    look (covered (covered a b) c) = look (covered a (covered b c)) := by
  funext path
  induction path generalizing a b c with
  | nil =>
    rcases covered_assoc_or_maps ha hb hc joined with heq | ⟨_, _, _, ⟨rfl, rfl, rfl⟩, -⟩
    · rw [heq]
    · rfl
  | cons key path ih =>
    rcases covered_assoc_or_maps ha hb hc joined with
      heq | ⟨low, mid, top, ⟨rfl, rfl, rfl⟩, hlow, hmid, htop⟩
    · rw [heq]
    · simp only [covered_map_map, look, inside_map, get?_overlay _ htop.mapping,
        get?_overlay _ hmid.mapping, get?_overlay _ (hmid.overlay htop).mapping]
      refine ih (hlow.get? key) (hmid.get? key) (htop.get? key) ?_
      rintro ⟨rest, v, hl, hm, stated, ht⟩
      exact joined ⟨key :: rest, v, hl, hm, stated, ht⟩

theorem seen_overlay_assoc (hlow : AreTrees low) (hmid : AreTrees mid) (htop : AreTrees top)
    (joined : ¬ AreSevered low mid top) :
    seen (overlay (overlay low mid) top) = seen (overlay low (overlay mid top)) :=
  look_covered_assoc hlow.single hmid.single htop.single joined

/-- The empty mapping is never in the way. -/
theorem not_areSevered_nil_left (mid top : Entries) : ¬ AreSevered [] mid top := by
  rintro ⟨path, v, hlow, hmid, -⟩
  cases path with
  | nil => simp [look, sightOf] at hmid
  | cons key path => simp [look, get?] at hlow

theorem not_areSevered_nil_middle (low top : Entries) : ¬ AreSevered low [] top := by
  rintro ⟨path, v, -, hmid, -⟩
  cases path with
  | nil => simp [look, sightOf] at hmid
  | cons key path => simp [look, get?] at hmid

/-! ## Any number of layers -/

/-- Layers some neighbours of which have been merged already. -/
inductive Grouping
  | one (layer : Entries)
  /-- What a cascade makes of it alone. -/
  | alone (group : Grouping)
  | pair (lower higher : Grouping)

namespace Grouping

def layers : Grouping → List Entries
  | one layer => [layer]
  | alone group => group.layers
  | pair lower higher => lower.layers ++ higher.layers

def merged : Grouping → Entries
  | one layer => layer
  | alone group => overlay [] group.merged
  | pair lower higher => overlay lower.merged higher.merged

theorem layers_ne_nil (g : Grouping) : g.layers ≠ [] := by
  induction g with
  | one layer => exact List.cons_ne_nil _ _
  | alone group ih => exact ih
  | pair lower higher ihl ihh => simp [layers, ihl]

/-- A single layer without nulls stays what it is. -/
theorem merged_of_layers {g : Grouping} {layer : Entries} (settled : IsSettled layer)
    (h : g.layers = [layer]) : g.merged = layer := by
  induction g with
  | one own => exact List.singleton_inj.mp h
  | alone group ih => rw [merged, ih h, settled.overlay_nil]
  | pair lower higher =>
    have hlow := List.length_pos_iff.mpr lower.layers_ne_nil
    have hhigh := List.length_pos_iff.mpr higher.layers_ne_nil
    have hlen := congrArg List.length h
    simp only [layers, List.length_append, List.length_singleton] at hlen
    omega

theorem merged_areTrees {g : Grouping} (h : ∀ layer ∈ g.layers, AreTrees layer) :
    AreTrees g.merged := by
  induction g with
  | one layer => exact h layer (List.mem_singleton_self layer)
  | alone group ih => exact areTrees_nil.overlay (ih h)
  | pair lower higher ihl ihh =>
    exact (ihl fun layer hl => h layer (List.mem_append_left _ hl)).overlay
      (ihh fun layer hl => h layer (List.mem_append_right _ hl))

end Grouping

/-- No three neighbouring parts of a cascade are severed, in whatever way each has been merged. -/
def Coherent (cascaded : List Entries) : Prop :=
  ∀ lower middle upper : Grouping, lower.layers ++ middle.layers ++ upper.layers <:+: cascaded →
    ¬ AreSevered lower.merged middle.merged upper.merged

/-- A mapping that stands right below some layers of a cascade: the bottom of all, or what layers
below them have been merged to. -/
inductive Below (cascaded : List Entries) : Entries → List Entries → Prop
  | bottom {above : List Entries} (h : above <:+: cascaded) : Below cascaded [] above
  | merged (g : Grouping) {above : List Entries} (h : g.layers ++ above <:+: cascaded) :
      Below cascaded g.merged above

variable {cascaded above rest : List Entries} {g higher : Grouping}

theorem Below.head (h : Below cascaded base (above ++ rest)) : Below cascaded base above := by
  cases h with
  | bottom h => exact .bottom ((List.prefix_append above rest).isInfix.trans h)
  | merged g h =>
    rw [← List.append_assoc] at h
    exact .merged g ((List.prefix_append _ rest).isInfix.trans h)

theorem Below.push (h : Below cascaded base (g.layers ++ rest)) :
    Below cascaded (overlay base g.merged) rest := by
  cases h with
  | bottom h => exact .merged (.alone g) h
  | merged lower h =>
    rw [← List.append_assoc] at h
    exact .merged (.pair lower g) h

theorem Below.joined (h : Below cascaded base (g.layers ++ higher.layers))
    (coherent : Coherent cascaded) : ¬ AreSevered base g.merged higher.merged := by
  cases h with
  | bottom => exact not_areSevered_nil_left _ _
  | merged lower h => exact coherent lower g higher (by rwa [List.append_assoc])

theorem areTrees_foldl (hbase : AreTrees base) (trees : ∀ layer ∈ above, AreTrees layer) :
    AreTrees (above.foldl overlay base) :=
  List.foldlRecOn above overlay hbase fun _ h layer hl => AreTrees.overlay h (trees layer hl)

theorem seen_foldl_congr {base' : Entries} (hbase : AreTrees base) (hbase' : AreTrees base')
    (trees : ∀ layer ∈ above, AreTrees layer) (heq : seen base = seen base') :
    seen (above.foldl overlay base) = seen (above.foldl overlay base') := by
  induction above generalizing base base' with
  | nil => exact heq
  | cons layer above ih =>
    obtain ⟨hlayer, hrest⟩ := List.forall_mem_cons.mp trees
    exact ih (hbase.overlay hlayer) (hbase'.overlay hlayer) hrest
      (seen_overlay_congr hbase hbase' hlayer hlayer heq rfl)

/-- Merged layers do above the others what they do one by one. -/
theorem seen_overlay_merged (coherent : Coherent cascaded) (hbase : AreTrees base)
    (trees : ∀ layer ∈ g.layers, AreTrees layer) (h : Below cascaded base g.layers) :
    seen (overlay base g.merged) = seen (g.layers.foldl overlay base) := by
  induction g generalizing base with
  | one layer => rfl
  | alone group ih =>
    calc seen (overlay base (overlay [] group.merged))
        = seen (overlay (overlay base []) group.merged) :=
          (seen_overlay_assoc hbase areTrees_nil (Grouping.merged_areTrees (g := group) trees)
            (not_areSevered_nil_middle _ _)).symm
      _ = seen (overlay base group.merged) := by rw [overlay]
      _ = seen (group.layers.foldl overlay base) := ih hbase trees h
  | pair lower higher ihl ihh =>
    have hlow : ∀ layer ∈ lower.layers, AreTrees layer := fun layer hl =>
      trees layer (List.mem_append_left _ hl)
    have hhigh : ∀ layer ∈ higher.layers, AreTrees layer := fun layer hl =>
      trees layer (List.mem_append_right _ hl)
    have hmerged : AreTrees (overlay base lower.merged) :=
      hbase.overlay (Grouping.merged_areTrees hlow)
    calc seen (overlay base (overlay lower.merged higher.merged))
        = seen (overlay (overlay base lower.merged) higher.merged) :=
          (seen_overlay_assoc hbase (Grouping.merged_areTrees hlow)
            (Grouping.merged_areTrees hhigh) (h.joined coherent)).symm
      _ = seen (higher.layers.foldl overlay (overlay base lower.merged)) :=
          ihh hmerged hhigh h.push
      _ = seen (higher.layers.foldl overlay (lower.layers.foldl overlay base)) :=
          seen_foldl_congr hmerged (areTrees_foldl hbase hlow) hhigh (ihl hbase hlow h.head)
      _ = seen ((lower.layers ++ higher.layers).foldl overlay base) := by rw [List.foldl_append]

theorem seen_foldl_merged (coherent : Coherent cascaded) (groups : List Grouping)
    (hbase : AreTrees base) (trees : ∀ layer ∈ groups.flatMap Grouping.layers, AreTrees layer)
    (h : Below cascaded base (groups.flatMap Grouping.layers)) :
    seen ((groups.map Grouping.merged).foldl overlay base) =
      seen ((groups.flatMap Grouping.layers).foldl overlay base) := by
  induction groups generalizing base with
  | nil => rfl
  | cons g groups ih =>
    rw [List.flatMap_cons] at h trees
    obtain ⟨hg, hrest⟩ := List.forall_mem_append.mp trees
    have hmerged : AreTrees (overlay base g.merged) :=
      hbase.overlay (Grouping.merged_areTrees hg)
    calc seen ((groups.map Grouping.merged).foldl overlay (overlay base g.merged))
        = seen ((groups.flatMap Grouping.layers).foldl overlay (overlay base g.merged)) :=
          ih hmerged hrest h.push
      _ = seen ((groups.flatMap Grouping.layers).foldl overlay (g.layers.foldl overlay base)) :=
          seen_foldl_congr hmerged (areTrees_foldl hbase hg) hrest
            (seen_overlay_merged coherent hbase hg h.head)
      _ = seen (((g :: groups).flatMap Grouping.layers).foldl overlay base) := by
          rw [List.flatMap_cons, List.foldl_append]

/-- Three mappings that are not severed can be merged in either order, and a cascade of layers does
not depend on which neighbours are merged first if no three parts of it are severed. -/
theorem merging_regrouped :
    (∀ low mid top : Entries, AreTrees low → AreTrees mid → AreTrees top →
      ¬ AreSevered low mid top →
      seen (overlay (overlay low mid) top) = seen (overlay low (overlay mid top))) ∧
    (∀ groups : List Grouping, (∀ layer ∈ groups.flatMap Grouping.layers, AreTrees layer) →
      Coherent (groups.flatMap Grouping.layers) →
      seen (cascade (groups.map Grouping.merged)) =
        seen (cascade (groups.flatMap Grouping.layers))) := by
  refine ⟨fun low mid top hlow hmid htop joined => seen_overlay_assoc hlow hmid htop joined,
    fun groups trees coherent => ?_⟩
  rw [cascade_eq, cascade_eq]
  exact seen_foldl_merged coherent groups areTrees_nil trees (.bottom (List.infix_refl _))

def lowestLayer : Entries :=
  [(.text "tool", .map [(.text "directory", .text "a"), (.text "runtime", .text "java")])]

def middleLayer : Entries :=
  [(.text "tool", .map [(.text "directory", .null), (.text "runtime_args", .list [])]),
    (.text "session", .text "s")]

def highestLayer : Entries := [(.text "tool", .map [(.text "directory", .text "b")])]

theorem not_areSevered_layers : ¬ AreSevered lowestLayer middleLayer highestLayer := by
  rintro ⟨path, v, -, hmid, -, htop⟩
  -- The highest layer has mappings in two places only, where the middle one has mappings too.
  match path with
  | [] => simp [look, sightOf] at hmid
  | [key] =>
    by_cases hkey : (Scalar.text "tool").same key
    · simp [look, middleLayer, get?, hkey, sightOf] at hmid
    · simp [look, highestLayer, get?, hkey] at htop
  | key :: field :: rest =>
    by_cases hkey : (Scalar.text "tool").same key
    · by_cases hfield : (Scalar.text "directory").same field
      · cases rest <;> simp [look, inside, highestLayer, get?, hkey, hfield, sightOf, Value.text,
          Value.entries?, Value.unrolled] at htop
      · simp [look, inside, highestLayer, get?, hkey, hfield, Value.entries?,
          Value.unrolled] at htop
    · simp [look, highestLayer, get?, hkey] at htop

theorem areTrees_layers :
    AreTrees lowestLayer ∧ AreTrees middleLayer ∧ AreTrees highestLayer := by
  refine ⟨.map (by decide) ?_, .map (by decide) ?_, .map (by decide) ?_⟩
  · simp only [lowestLayer, List.forall_mem_singleton]
    exact .map (by decide) (by simp [Value.text, IsTree.scalar])
  · simp only [middleLayer, List.forall_mem_cons]
    exact ⟨.map (by decide) (by simp [Value.null, IsTree.scalar, IsTree.list]), .scalar _, by simp⟩
  · simp only [highestLayer, List.forall_mem_singleton]
    exact .map (by decide) (by simp [Value.text, IsTree.scalar])

theorem coherent_layers : Coherent [lowestLayer, middleLayer, highestLayer] := by
  intro lower middle upper hinfix
  -- Each of the three parts has a layer, and there are three layers.
  obtain ⟨l, ls, hl⟩ := List.exists_cons_of_ne_nil lower.layers_ne_nil
  obtain ⟨m, ms, hm⟩ := List.exists_cons_of_ne_nil middle.layers_ne_nil
  obtain ⟨u, us, hu⟩ := List.exists_cons_of_ne_nil upper.layers_ne_nil
  have heq := hinfix.eq_of_length_le (by simp [hl, hm, hu]; omega)
  have hlen := congrArg List.length heq
  simp only [hl, hm, hu, List.length_append, List.length_cons, List.length_nil] at hlen
  obtain ⟨rfl, rfl, rfl⟩ : ls = [] ∧ ms = [] ∧ us = [] := by
    simp only [← List.length_eq_zero_iff]
    omega
  simp only [hl, hm, hu, List.cons_append, List.nil_append, List.cons.injEq, and_true] at heq
  obtain ⟨rfl, rfl, rfl⟩ := heq
  rw [Grouping.merged_of_layers ⟨by decide, by decide⟩ hl,
    Grouping.merged_of_layers ⟨by decide, by decide⟩ hm,
    Grouping.merged_of_layers ⟨by decide, by decide⟩ hu]
  exact not_areSevered_layers

theorem merging_regrouped_three :
    seen (overlay (overlay lowestLayer middleLayer) highestLayer) =
        seen (overlay lowestLayer (overlay middleLayer highestLayer)) ∧
      seen (cascade [lowestLayer, overlay middleLayer highestLayer]) =
        seen (cascade [lowestLayer, middleLayer, highestLayer]) := by
  obtain ⟨hlow, hmid, htop⟩ := areTrees_layers
  exact ⟨merging_regrouped.1 _ _ _ hlow hmid htop not_areSevered_layers,
    merging_regrouped.2 [.one lowestLayer, .pair (.one middleLayer) (.one highestLayer)]
      (by simp [Grouping.layers, hlow, hmid, htop]) coherent_layers⟩

/-- A value between two mappings: merged with the lower one first it hides what that has. -/
example :
    let low : Entries := [(.text "tool", .map [(.text "runtime", .text "java")])]
    let mid : Entries := [(.text "tool", .text "none")]
    let top : Entries := [(.text "tool", .map [(.text "directory", .text "b")])]
    let path : List Scalar := [.text "tool", .text "runtime"]
    seen (overlay (overlay low mid) top) path = none ∧
      seen (overlay low (overlay mid top)) path = some (.leaf (.text "java")) :=
  ⟨rfl, rfl⟩

end ToolHost.Config
