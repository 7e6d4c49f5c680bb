import ToolHost.Config.Cache
import Mathlib.Tactic

/-!
# What the layers of a configuration say

A layer says something of a field of a section if it has a value there that is not null. Laid over
another layer it decides every field that it says something of and leaves every other one, so what
the cascade of all layers says is what the highest layer says that says anything. This needs no
more of the layer below than that it exists; of the layer above it needs that its sections are
mappings and the values of their fields are none.
-/
namespace ToolHost

@[simp] theorem Scalar.same_text (s : Scalar) (k : String) :
    s.same (.text k) = decide (s = .text k) := by
  cases s <;> simp [Scalar.same, Scalar.asInt?]

@[simp] theorem Scalar.text_same (s : Scalar) (k : String) :
    (Scalar.text k).same s = decide (s = .text k) := by
  cases s <;> simp [Scalar.same, Scalar.asInt?, eq_comm]

namespace Entries

variable {entries : Entries} {key : Scalar} {v : Value} {k : String} {e : Scalar × Value}

/-- Entries that no two of have the same key. -/
def IsMapping (entries : Entries) : Prop := entries.Pairwise fun e f => e.1.same f.1 = false

instance : Decidable entries.IsMapping := inferInstanceAs (Decidable (List.Pairwise _ _))

@[simp] theorem at?_nil (k : String) : at? [] k = none := rfl

theorem at?_cons (entries : Entries) (key : Scalar) (v : Value) (k : String) :
    at? ((key, v) :: entries) k = if key = .text k then some v else at? entries k := by
  by_cases h : key = .text k <;> simp [at?, get?, h]

theorem at?_eq_none (h : ∀ e ∈ entries, e.1 ≠ .text k) : entries.at? k = none := by
  simpa [at?, get?] using h

theorem mem_of_at? (h : entries.at? k = some v) : (.text k, v) ∈ entries := by
  obtain ⟨⟨key, w⟩, hfound, rfl⟩ := Option.map_eq_some_iff.mp h
  have hkey : key = .text k := by simpa using List.find?_some hfound
  exact hkey ▸ List.mem_of_find?_eq_some hfound

/-- The entries after one at a key have nothing there. -/
theorem IsMapping.at?_tail (h : IsMapping ((.text k, v) :: entries)) : entries.at? k = none := by
  refine at?_eq_none fun e he hkey => ?_
  have hsame := (List.pairwise_cons.mp h).1 e he
  simp [hkey] at hsame

theorem at?_put (entries : Entries) (key : Scalar) (v : Value) (k : String) :
    (entries.put key v).at? k = if key = .text k then some v else entries.at? k := by
  induction entries with
  | nil => simp [put, at?_cons]
  | cons e entries ih =>
    obtain ⟨old, w⟩ := e
    rw [put]
    by_cases hsame : old.same key
    · rw [if_pos hsame, at?_cons, at?_cons]
      by_cases hold : old = .text k
      · have hkey : key = .text k := by simpa [hold] using hsame
        simp [hold, hkey]
      · have hkey : key ≠ .text k := by
          rintro rfl
          exact hold (by simpa using hsame)
        simp [hold, hkey]
    · rw [if_neg hsame, at?_cons, at?_cons, ih]
      by_cases hold : old = .text k
      · have hkey : key ≠ .text k := by
          rintro rfl
          simp [hold] at hsame
        simp [hold, hkey]
      · simp [hold]

/-- What stands at another key stays. -/
theorem mem_put_of_mem (he : e ∈ entries) (hkey : e.1.same key = false) :
    e ∈ entries.put key v := by
  induction entries with
  | nil => cases he
  | cons f entries ih =>
    obtain ⟨old, w⟩ := f
    rw [put]
    split
    next hsame =>
      rcases List.mem_cons.mp he with rfl | he
      · simp [hsame] at hkey
      · exact List.mem_cons_of_mem _ he
    next =>
      rcases List.mem_cons.mp he with rfl | he
      · exact List.mem_cons_self
      · exact List.mem_cons_of_mem _ (ih he)

/-- The keys of a mapping stay, and a new one comes last. -/
theorem mem_put (he : e ∈ entries.put key v) :
    e.2 = v ∧ (e.1 = key ∨ ∃ old ∈ entries, old.1 = e.1) ∨ e ∈ entries := by
  induction entries with
  | nil => simp_all [put]
  | cons f entries ih =>
    obtain ⟨old, w⟩ := f
    rw [put] at he
    split at he
    · rcases List.mem_cons.mp he with rfl | he
      · exact .inl ⟨rfl, .inr ⟨_, List.mem_cons_self, rfl⟩⟩
      · exact .inr (List.mem_cons_of_mem _ he)
    · rcases List.mem_cons.mp he with rfl | he
      · exact .inr List.mem_cons_self
      · rcases ih he with ⟨hv, hkey | ⟨g, hg, hkey⟩⟩ | he
        · exact .inl ⟨hv, .inl hkey⟩
        · exact .inl ⟨hv, .inr ⟨g, List.mem_cons_of_mem _ hg, hkey⟩⟩
        · exact .inr (List.mem_cons_of_mem _ he)

theorem IsMapping.put (h : entries.IsMapping) : (entries.put key v).IsMapping := by
  induction entries with
  | nil => exact List.pairwise_singleton _ _
  | cons f entries ih =>
    obtain ⟨old, w⟩ := f
    obtain ⟨hfirst, hrest⟩ := List.pairwise_cons.mp h
    rw [Entries.put]
    split
    next => exact List.pairwise_cons.mpr ⟨hfirst, hrest⟩
    next hsame =>
      refine List.pairwise_cons.mpr ⟨fun e he => ?_, ih hrest⟩
      rcases mem_put he with ⟨-, hkey | ⟨g, hg, hkey⟩⟩ | he
      · simpa [hkey] using hsame
      · exact hkey ▸ hfirst g hg
      · exact hfirst e he

end Entries

namespace Config

open Entries

variable {base entries layer : Entries} {v w : Value} {name k : String} {e : Scalar × Value}

/-- A mapping no field of which is a mapping itself. -/
structure IsFlat (fields : Entries) : Prop where
  mapping : fields.IsMapping
  values : ∀ e ∈ fields, e.2.entries? = none

instance (fields : Entries) : Decidable (IsFlat fields) :=
  decidable_of_iff (fields.IsMapping ∧ ∀ e ∈ fields, e.2.entries? = none)
    ⟨fun h => ⟨h.1, h.2⟩, fun h => ⟨h.1, h.2⟩⟩

/-- A layer each section of which is absent, null, or a mapping of fields that are no mappings. -/
structure IsLayered (layer : Entries) : Prop where
  mapping : layer.IsMapping
  sections : ∀ name ∈ knownSections, ∀ v ∈ layer.at? name,
    v.isNull ∨ ∃ fields ∈ v.entries?, IsFlat fields

instance (layer : Entries) : Decidable (IsLayered layer) :=
  decidable_of_iff (layer.IsMapping ∧ ∀ name ∈ knownSections, ∀ v ∈ layer.at? name,
      v.isNull ∨ ∃ fields ∈ v.entries?, IsFlat fields)
    ⟨fun h => ⟨h.1, h.2⟩, fun h => ⟨h.1, h.2⟩⟩

/-- The fields of a section, none if the section is no mapping. -/
def fieldsOf (layer : Entries) (name : String) : Entries :=
  ((layer.at? name).bind Value.entries?).getD []

/-- What fields say of one of them: its value if that is not null. -/
def stated? (fields : Entries) (key : String) : Option Value :=
  (fields.at? key).filter (!·.isNull)

/-- What layers say of a field: what the highest one says that says anything. -/
def given? (layers : List Entries) (name key : String) : Option Value :=
  layers.reverse.findSome? fun layer => stated? (fieldsOf layer name) key

theorem isNull_iff : v.isNull = true ↔ v = .null := by
  refine ⟨fun h => ?_, by rintro rfl; rfl⟩
  unfold Value.isNull at h
  split at h
  · rfl
  · cases h

/-- Every value that is no mapping and not null replaces what is below. -/
theorem laidOver_of_value (below : Option Value) (hv : v.entries? = none) :
    laidOver below v = if v.isNull then none else some v := by
  cases v with
  | scalar s => cases s <;> simp [laidOver, Value.isNull]
  | map entries => simp [Value.entries?, Value.unrolled] at hv
  | loop label body => simp [laidOver, hv, Value.isNull]
  | list | set | pair | again => simp [laidOver, Value.isNull]

theorem laidOver_loop {below : Option Value} {label : Nat} {body : Value}
    (hbase : below.bind Value.entries? = some base)
    (hentries : (Value.loop label body).entries? = some entries) :
    laidOver below (.loop label body) = (overlayWithin deepest base entries).map .map := by
  simp [laidOver, hbase, hentries]

/-- A mapping with single entries replaced. -/
def replaced (base entries : Entries) : Entries :=
  entries.foldl (fun es (k, v) => if v.isNull then es else es.put k v) base

theorem replaced_cons (base entries : Entries) (key : Scalar) (v : Value) :
    replaced base ((key, v) :: entries) =
      replaced (if v.isNull then base else base.put key v) entries := rfl

theorem overlay_of_values (base : Entries) (h : ∀ e ∈ entries, e.2.entries? = none) :
    overlay base entries = replaced base entries := by
  induction entries generalizing base with
  | nil => rfl
  | cons e entries ih =>
    obtain ⟨key, v⟩ := e
    rw [overlay, laidOver_of_value _ (h _ List.mem_cons_self)]
    have hrest := fun base => ih base fun e he => h e (List.mem_cons_of_mem _ he)
    by_cases hv : v.isNull <;> simp [hv, hrest, replaced]

theorem overlayWithin_cons (depth : Nat) (base entries : Entries) (key : Scalar) (v : Value) :
    overlayWithin (depth + 1) base ((key, v) :: entries) =
      if v.isNull then overlayWithin (depth + 1) base entries
      else match (base.get? key).bind Value.entries?, v.entries? with
        | some below, some above => (overlayWithin depth below above).bind fun merged =>
            overlayWithin (depth + 1) (base.put key (.map merged)) entries
        | _, _ => overlayWithin (depth + 1) (base.put key v) entries := by
  simp only [overlayWithin, List.foldlM_cons]
  by_cases hv : v.isNull
  · simp [hv]
  · simp only [hv, Bool.false_eq_true, if_false]
    cases (base.get? key).bind Value.entries? with
    | none => rfl
    | some below =>
      cases v.entries? with
      | none => rfl
      | some above => exact Option.bind_map ..

/-- Single entries end a merge at once. -/
theorem overlayWithin_of_values (depth : Nat) (base : Entries)
    (h : ∀ e ∈ entries, e.2.entries? = none) :
    overlayWithin (depth + 1) base entries = some (replaced base entries) := by
  induction entries generalizing base with
  | nil => rfl
  | cons e entries ih =>
    obtain ⟨key, v⟩ := e
    have hrest := fun base => ih base fun e he => h e (List.mem_cons_of_mem _ he)
    rw [overlayWithin_cons, replaced_cons, h _ List.mem_cons_self]
    by_cases hv : v.isNull <;> simp [hv, hrest]

theorem overlay_cons (base entries : Entries) (key : Scalar) (v : Value) :
    overlay base ((key, v) :: entries) =
      overlay (((laidOver (base.get? key) v).map (base.put key)).getD base) entries := by
  rw [overlay]
  cases laidOver (base.get? key) v <;> rfl

/-- What stands at a key after a layer was laid over another. -/
theorem at?_overlay (base : Entries) (h : layer.IsMapping) (k : String) :
    (overlay base layer).at? k =
      ((layer.at? k).bind (laidOver (base.at? k))).or (base.at? k) := by
  induction layer generalizing base with
  | nil => simp [overlay]
  | cons e layer ih =>
    obtain ⟨key, v⟩ := e
    have hrest : IsMapping layer := (List.pairwise_cons.mp h).2
    rw [overlay_cons, ih _ hrest, at?_cons]
    by_cases hkey : key = .text k
    · subst hkey
      rw [h.at?_tail, if_pos rfl, Option.bind_none, Option.none_or, Option.bind_some]
      change Entries.at? (((laidOver (base.at? k) v).map _).getD base) k = _
      cases laidOver (base.at? k) v with
      | none => simp
      | some merged => simp [at?_put]
    · have hput : Entries.at? (((laidOver (base.get? key) v).map (base.put key)).getD base) k =
          base.at? k := by
        cases laidOver (base.get? key) v with
        | none => rfl
        | some merged => simp [at?_put, hkey]
      rw [if_neg hkey, hput]

@[simp] theorem stated?_nil (key : String) : stated? [] key = none := rfl

theorem stated?_cons (entries : Entries) (key : Scalar) (v : Value) (k : String) :
    stated? ((key, v) :: entries) k =
      if key = .text k then (if v.isNull then none else some v) else stated? entries k := by
  rw [stated?, at?_cons]
  split
  · by_cases hv : v.isNull <;> simp [hv, Option.filter]
  · rfl

/-- The same of single fields. -/
theorem at?_replaced (base : Entries) (h : entries.IsMapping) (k : String) :
    (replaced base entries).at? k = (stated? entries k).or (base.at? k) := by
  induction entries generalizing base with
  | nil => rfl
  | cons e entries ih =>
    obtain ⟨key, v⟩ := e
    have hrest : IsMapping entries := (List.pairwise_cons.mp h).2
    rw [replaced_cons, ih _ hrest, stated?_cons]
    by_cases hkey : key = .text k
    · subst hkey
      rw [stated?, h.at?_tail, if_pos rfl]
      by_cases hv : v.isNull <;> simp [hv, at?_put]
    · rw [if_neg hkey]
      by_cases hv : v.isNull <;> simp [hv, at?_put, hkey]

/-- A field that single fields do not mention stays as it is. -/
theorem mem_replaced_of_mem (he : e ∈ base) (h : ∀ f ∈ entries, e.1.same f.1 = false) :
    e ∈ replaced base entries := by
  induction entries generalizing base with
  | nil => exact he
  | cons f entries ih =>
    obtain ⟨key, v⟩ := f
    rw [replaced_cons]
    refine ih ?_ fun f hf => h f (List.mem_cons_of_mem _ hf)
    split
    · exact he
    · exact mem_put_of_mem he (h _ List.mem_cons_self)

theorem IsFlat.replaced (hbase : IsFlat base) (h : IsFlat entries) :
    IsFlat (replaced base entries) := by
  obtain ⟨hmapping, hvalues⟩ := hbase
  obtain ⟨-, hnew⟩ := h
  induction entries generalizing base with
  | nil => exact ⟨hmapping, hvalues⟩
  | cons f entries ih =>
    obtain ⟨key, v⟩ := f
    rw [replaced_cons]
    have hrest := fun e he => hnew e (List.mem_cons_of_mem _ he)
    split
    · exact ih hmapping hvalues hrest
    · refine ih hmapping.put (fun e he => ?_) hrest
      rcases mem_put he with ⟨hv, -⟩ | he
      · exact hv ▸ hnew _ List.mem_cons_self
      · exact hvalues e he

/-- What a layer makes of a section: it leaves the section as it is, or it has fields there and
these replace single fields of a mapping and anything else as a whole. -/
theorem IsLayered.section_overlay (h : IsLayered layer) (base : Entries)
    (hname : name ∈ knownSections) :
    (fieldsOf layer name = [] ∧ (overlay base layer).at? name = base.at? name) ∨
      IsFlat (fieldsOf layer name) ∧
        ((∃ below, (base.at? name).bind Value.entries? = some below ∧
            (overlay base layer).at? name =
              some (.map (replaced below (fieldsOf layer name)))) ∨
          (base.at? name).bind Value.entries? = none ∧
            ∃ v, v.entries? = some (fieldsOf layer name) ∧
              (overlay base layer).at? name = some v) := by
  rw [at?_overlay base h.mapping]
  cases hat : layer.at? name with
  | none => exact .inl ⟨by simp [fieldsOf, hat], rfl⟩
  | some v =>
    rcases h.sections name hname v hat with hnull | ⟨fields, hfields, hflat⟩
    · rw [isNull_iff] at hnull
      subst hnull
      exact .inl ⟨by simp [fieldsOf, hat, Value.entries?, Value.unrolled, Value.null], rfl⟩
    · rw [Option.mem_def] at hfields
      have hof : fieldsOf layer name = fields := by simp [fieldsOf, hat, hfields]
      rw [hof]
      refine .inr ⟨hflat, ?_⟩
      cases hbelow : (base.at? name).bind Value.entries? with
      | some below =>
        refine .inl ⟨below, rfl, ?_⟩
        cases v with
        | map entries =>
          obtain rfl : entries = fields := by simpa [Value.entries?, Value.unrolled] using hfields
          simp [laidOver, hbelow, overlay_of_values below hflat.values]
        | loop label body =>
          have hmerged : overlayWithin deepest below fields = some (replaced below fields) :=
            overlayWithin_of_values 973 below hflat.values
          simp [laidOver_loop hbelow hfields, hmerged]
        | scalar | list | set | pair | again => simp [Value.entries?, Value.unrolled] at hfields
      | none =>
        refine .inr ⟨rfl, v, hfields, ?_⟩
        cases v with
        | map entries => simp [laidOver, hbelow]
        | loop label body => simp [laidOver, hbelow]
        | scalar | list | set | pair | again => simp [Value.entries?, Value.unrolled] at hfields

theorem stated?_replaced (base : Entries) (h : entries.IsMapping) (key : String) :
    stated? (replaced base entries) key = (stated? entries key).or (stated? base key) := by
  rw [stated?, at?_replaced base h]
  cases hstated : stated? entries key with
  | none => rfl
  | some v => simpa [Option.filter] using (Option.filter_eq_some_iff.mp hstated).2

/-- A layer decides the fields that it says something of and leaves the others. -/
theorem IsLayered.stated_overlay (h : IsLayered layer) (base : Entries)
    (hname : name ∈ knownSections) (key : String) :
    stated? (fieldsOf (overlay base layer) name) key =
      (stated? (fieldsOf layer name) key).or (stated? (fieldsOf base name) key) := by
  rcases h.section_overlay base hname with ⟨hnone, hat⟩ | ⟨hflat, ⟨below, hbelow, hat⟩ | hrest⟩
  · rw [hnone, stated?_nil, Option.none_or, fieldsOf, hat, fieldsOf]
  · have hbase : fieldsOf base name = below := by simp [fieldsOf, hbelow]
    have hmerged : fieldsOf (overlay base layer) name = replaced below (fieldsOf layer name) := by
      simp [fieldsOf, hat, Value.entries?, Value.unrolled]
    rw [hmerged, hbase, stated?_replaced below hflat.mapping]
  · obtain ⟨hbelow, v, hv, hat⟩ := hrest
    have hbase : fieldsOf base name = [] := by simp [fieldsOf, hbelow]
    have hmerged : fieldsOf (overlay base layer) name = fieldsOf layer name := by
      simp [fieldsOf, hat, hv]
    rw [hmerged, hbase, stated?_nil, Option.or_none]

/-- A field of a section that a layer does not mention stays as it is. -/
theorem IsLayered.mem_overlay (h : IsLayered layer) (hname : name ∈ knownSections)
    (he : e ∈ fieldsOf base name) (hkey : ∀ f ∈ fieldsOf layer name, e.1.same f.1 = false) :
    e ∈ fieldsOf (overlay base layer) name := by
  rcases h.section_overlay base hname with ⟨-, hat⟩ | ⟨-, ⟨below, hbelow, hat⟩ | ⟨hbelow, -⟩⟩
  · rwa [fieldsOf, hat]
  · have hbase : fieldsOf base name = below := by simp [fieldsOf, hbelow]
    have hmerged : fieldsOf (overlay base layer) name = replaced below (fieldsOf layer name) := by
      simp [fieldsOf, hat, Value.entries?, Value.unrolled]
    exact hmerged ▸ mem_replaced_of_mem (hbase ▸ he) hkey
  · simp [fieldsOf, hbelow] at he

theorem overlay_isMapping (base layer : Entries) (h : base.IsMapping) :
    (overlay base layer).IsMapping := by
  induction layer generalizing base with
  | nil => rwa [overlay]
  | cons e layer ih =>
    obtain ⟨key, v⟩ := e
    rw [overlay_cons]
    refine ih _ ?_
    cases laidOver (base.get? key) v with
    | none => exact h
    | some merged => exact IsMapping.put h

theorem isLayered_nil : IsLayered [] := ⟨List.Pairwise.nil, by simp⟩

theorem IsLayered.overlay (hbase : IsLayered base) (h : IsLayered layer) :
    IsLayered (overlay base layer) := by
  refine ⟨overlay_isMapping base layer hbase.mapping, fun name hname v hv => ?_⟩
  rcases h.section_overlay base hname with
    ⟨-, hat⟩ | ⟨hflat, ⟨below, hbelow, hat⟩ | ⟨-, w, hw, hat⟩⟩
  · exact hbase.sections name hname v (hat ▸ hv)
  · obtain rfl : _ = v := Option.some.inj (hat ▸ hv)
    obtain ⟨u, hu, hentries⟩ := Option.bind_eq_some_iff.mp hbelow
    rcases hbase.sections name hname u hu with hnull | ⟨fields, hfields, hbaseflat⟩
    · rw [isNull_iff.mp hnull] at hentries
      cases hentries
    · obtain rfl : fields = below := Option.some.inj (hfields ▸ hentries)
      exact .inr ⟨_, rfl, hbaseflat.replaced hflat⟩
  · obtain rfl : w = v := Option.some.inj (hat ▸ hv)
    exact .inr ⟨_, hw, hflat⟩


theorem cascade_eq (layers : List Entries) : cascade layers = layers.foldl overlay [] := by
  have hstep : (fun result layer : Entries => if layer.isEmpty then result
      else overlay result layer) = overlay := by
    funext result layer
    cases layer <;> rfl
  rw [cascade, hstep]

/-- Layers are combined from the lowest one up. -/
theorem combined_append_singleton {layers : List Entries} {merged : Entries}
    (h : combined (layers ++ [layer]) = .ok merged) :
    ∃ below, combined layers = .ok below ∧ merged = overlay (overlay [] below) layer := by
  rw [combined, List.foldlM_append] at h
  rw [combined]
  cases hbelow : layers.foldlM (m := Except Breakdown) _ [] with
  | error b =>
    rw [hbelow] at h
    cases h
  | ok below =>
    refine ⟨below, rfl, ?_⟩
    rw [hbelow] at h
    simp only [List.foldlM_cons, List.foldlM_nil, bind_pure] at h
    change (if isEndless below layer then Except.error Breakdown.tooDeep
      else Except.ok (cascade [below, layer])) = .ok merged at h
    split at h
    · cases h
    · rw [cascade_eq] at h
      exact (Except.ok.inj h).symm

theorem given?_append_singleton (layers : List Entries) (layer : Entries) (name key : String) :
    given? (layers ++ [layer]) name key =
      (stated? (fieldsOf layer name) key).or (given? layers name key) := by
  rw [given?, List.reverse_append, List.reverse_singleton, List.singleton_append,
    List.findSome?_cons, given?]
  cases stated? (fieldsOf layer name) key <;> rfl

/-- The layers combined say of a field what the highest of them says that says anything. -/
theorem combined_given {layers : List Entries} {merged : Entries}
    (hlayers : ∀ layer ∈ layers, IsLayered layer) (h : combined layers = .ok merged) :
    IsLayered merged ∧ ∀ name ∈ knownSections, ∀ key,
      stated? (fieldsOf merged name) key = given? layers name key := by
  induction layers using List.reverseRecOn generalizing merged with
  | nil =>
    obtain rfl : [] = merged := Except.ok.inj h
    exact ⟨isLayered_nil, fun name _ key => rfl⟩
  | append_singleton layers layer ih =>
    obtain ⟨below, hbelow, rfl⟩ := combined_append_singleton h
    obtain ⟨hlower, hgiven⟩ := ih (fun l hl => hlayers l (by simp [hl])) hbelow
    have hlayer : IsLayered layer := hlayers layer (by simp)
    refine ⟨(isLayered_nil.overlay hlower).overlay hlayer, fun name hname key => ?_⟩
    rw [hlayer.stated_overlay _ hname, hlower.stated_overlay _ hname, hgiven name hname,
      given?_append_singleton]
    exact congrArg _ (Option.or_none)

/-- What stands at a key that no higher layer mentions stays. -/
theorem mem_combined {lower higher : List Entries} {below merged : Entries}
    (hlayers : ∀ layer ∈ lower ++ higher, IsLayered layer) (hlower : combined lower = .ok below)
    (h : combined (lower ++ higher) = .ok merged) (hname : name ∈ knownSections)
    (he : e ∈ fieldsOf below name)
    (hkey : ∀ layer ∈ higher, ∀ f ∈ fieldsOf layer name, e.1.same f.1 = false) :
    e ∈ fieldsOf merged name := by
  induction higher using List.reverseRecOn generalizing merged with
  | nil =>
    rw [List.append_nil, hlower] at h
    exact Except.ok.inj h ▸ he
  | append_singleton higher layer ih =>
    rw [← List.append_assoc] at h hlayers
    obtain ⟨middle, hmiddle, rfl⟩ := combined_append_singleton h
    have hlower' : ∀ layer ∈ lower ++ higher, IsLayered layer :=
      fun l hl => hlayers l (List.mem_append_left _ hl)
    have hmem := ih hlower' hmiddle fun l hl => hkey l (by simp [hl])
    have hbase : e ∈ fieldsOf (overlay [] middle) name := by
      rcases (combined_given hlower' hmiddle).1.section_overlay [] hname with
        ⟨hnone, -⟩ | ⟨-, ⟨b, hb, -⟩ | ⟨-, v, hv, hat⟩⟩
      · simp [hnone] at hmem
      · cases hb
      · simpa [fieldsOf, hat, hv] using hmem
    exact (hlayers layer (by simp)).mem_overlay hname hbase (hkey layer (by simp))

end Config
end ToolHost
