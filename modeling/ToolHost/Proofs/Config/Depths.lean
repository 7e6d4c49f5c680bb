import ToolHost.Proofs.Config.Keys
import ToolHost.Proofs.Config.Layers

/-!
# Mappings at every depth

Along a path of keys a mapping shows nothing, a mapping, or a value that is none. Two mappings that
show the same along every path are equal at every depth; the order of their entries does not matter.
What a mapping shows with another one laid over it is told key by key, so it depends only on what
the two of them show.
-/
namespace ToolHost.Config

open Entries

variable {base layer : Entries} {v w : Value} {a b c a' b' : Option Value} {key : Scalar}

/-- A value in which no mapping has a key twice and none contains itself. What is in a list does
not matter, since lists are replaced as a whole. -/
inductive IsTree : Value → Prop
  | scalar (s : Scalar) : IsTree (.scalar s)
  | list (items : List Value) : IsTree (.list items)
  | set (members : List Scalar) : IsTree (.set members)
  | pair (first second : Value) : IsTree (.pair first second)
  | map {entries : Entries} (mapping : entries.IsMapping) (values : ∀ e ∈ entries, IsTree e.2) :
      IsTree (.map entries)

/-- What stands at the end of a path of keys. -/
inductive Sight
  | mapping
  /-- A value that is no mapping. -/
  | leaf (v : Value)

def sightOf : Value → Sight
  | .map _ => .mapping
  | v => .leaf v

/-- What stands inside a value at a key. -/
def inside (a : Option Value) (key : Scalar) : Option Value :=
  (a.bind Value.entries?).bind (·.get? key)

/-- What a value shows along a path of keys. -/
def look : Option Value → List Scalar → Option Sight
  | a, [] => a.map sightOf
  | a, key :: path => look (inside a key) path

/-- What a mapping shows along a path of keys. -/
def seen (entries : Entries) (path : List Scalar) : Option Sight := look (some (.map entries)) path

@[simp] theorem look_none (path : List Scalar) : look none path = none := by
  induction path with
  | nil => rfl
  | cons key path ih => exact ih

/-! ## One value over another -/

/-- A value, if there is one, laid over what is below. -/
def covered (a b : Option Value) : Option Value := (b.bind (laidOver a)).or a

@[simp] theorem covered_none (a : Option Value) : covered a none = a := rfl

@[simp] theorem covered_null (a : Option Value) : covered a (some .null) = a := rfl

@[simp] theorem inside_none (key : Scalar) : inside none key = none := rfl

@[simp] theorem inside_map (entries : Entries) (key : Scalar) :
    inside (some (.map entries)) key = entries.get? key := rfl

theorem covered_leaf (a : Option Value) (leaf : v.entries? = none) (stated : v.isNull = false) :
    covered a (some v) = some v := by
  rw [covered, Option.bind_some, laidOver_of_value a leaf, stated]
  rfl

theorem covered_map_map (base layer : Entries) :
    covered (some (.map base)) (some (.map layer)) = some (.map (overlay base layer)) := by
  simp [covered, laidOver, Value.entries?, Value.unrolled]

theorem covered_map_of_leaf (ha : a.bind Value.entries? = none) (layer : Entries) :
    covered a (some (.map layer)) = some (.map layer) := by
  simp [covered, laidOver, ha]

theorem IsMapping.get?_tail (h : IsMapping ((key, v) :: layer)) {k : Scalar}
    (same : key.same k = true) : layer.get? k = none := by
  simp only [get?, Option.map_eq_none_iff, List.find?_eq_none]
  intro e he
  rw [Scalar.same_comm, ← Scalar.same_congr same, (List.pairwise_cons.mp h).1 e he]
  simp

/-- A key decides by itself what comes of what stands there in either mapping. -/
theorem get?_overlay (base : Entries) (h : layer.IsMapping) (k : Scalar) :
    (overlay base layer).get? k = covered (base.get? k) (layer.get? k) := by
  induction layer generalizing base with
  | nil => simp [overlay, get?]
  | cons e layer ih =>
    obtain ⟨key, v⟩ := e
    rw [overlay_cons, ih _ (List.pairwise_cons.mp h).2]
    by_cases hk : key.same k
    · have hkey : base.get? key = base.get? k := by
        simp only [get?, Scalar.same_comm _ key, Scalar.same_comm _ k, Scalar.same_congr hk]
      have hhead : get? ((key, v) :: layer) k = some v := by simp [get?, hk]
      rw [IsMapping.get?_tail h hk, hhead, covered_none, hkey, covered, Option.bind_some]
      cases laidOver (base.get? k) v with
      | none => rfl
      | some merged => simp [get?_put, hk]
    · have hhead : get? ((key, v) :: layer) k = get? layer k := by simp [get?, hk]
      rw [hhead]
      cases laidOver (base.get? key) v with
      | none => rfl
      | some merged => simp [get?_put, hk]

/-! ## Trees -/

/-- The entries of a mapping that is a tree. -/
def AreTrees (entries : Entries) : Prop := IsTree (.map entries)

theorem areTrees_nil : AreTrees [] := .map List.Pairwise.nil (by simp)

theorem AreTrees.mapping {entries : Entries} (h : AreTrees entries) : entries.IsMapping := by
  cases h
  assumption

theorem AreTrees.values {entries : Entries} (h : AreTrees entries) :
    ∀ e ∈ entries, IsTree e.2 := by
  cases h
  assumption

theorem AreTrees.get? {entries : Entries} (h : AreTrees entries) (key : Scalar) :
    ∀ v ∈ entries.get? key, IsTree v := by
  intro v hv
  obtain ⟨e, he, rfl⟩ := Option.map_eq_some_iff.mp hv
  exact h.values e (List.mem_of_find?_eq_some he)

/-- A tree is null, another value that is no mapping, or a mapping of trees. -/
theorem IsTree.cases (h : IsTree v) :
    v = .null ∨ (v.isNull = false ∧ v.entries? = none ∧ sightOf v = .leaf v) ∨
      ∃ entries, v = .map entries ∧ AreTrees entries := by
  cases h with
  | scalar s =>
    cases s with
    | null => exact .inl rfl
    | _ => exact .inr (.inl ⟨rfl, rfl, rfl⟩)
  | map mapping values => exact .inr (.inr ⟨_, rfl, .map mapping values⟩)
  | _ => exact .inr (.inl ⟨rfl, rfl, rfl⟩)

theorem IsTree.laidOver (h : IsTree v) {merged : Value} (hbelow : ∀ w ∈ a, IsTree w)
    (hmerged : laidOver a v = some merged) : IsTree merged := by
  induction h generalizing a merged with
  | @map entries mapping values ih =>
    have within {base : Entries} (hbase : AreTrees base) {part : Entries} (hpart : part ⊆ entries) :
        AreTrees (overlay base part) := by
      induction part generalizing base with
      | nil => simpa [overlay] using hbase
      | cons e part next =>
        obtain ⟨key, u⟩ := e
        have hrest : part ⊆ entries := fun e he => hpart (List.mem_cons_of_mem _ he)
        rw [overlay_cons]
        cases hu : Config.laidOver (base.get? key) u with
        | none => exact next hbase hrest
        | some merged =>
          have hmerged := ih (key, u) (hpart List.mem_cons_self) (hbase.get? key) hu
          refine next (.map hbase.mapping.put fun e he => ?_) hrest
          rcases mem_put he with ⟨hv, -⟩ | he
          · exact hv ▸ hmerged
          · exact hbase.values e he
    rw [Config.laidOver] at hmerged
    cases hentries : a.bind Value.entries? with
    | none =>
      rw [hentries] at hmerged
      exact Option.some.inj hmerged ▸ .map mapping values
    | some base =>
      rw [hentries] at hmerged
      obtain ⟨w, hw, hbase⟩ := Option.bind_eq_some_iff.mp hentries
      refine Option.some.inj hmerged ▸ within ?_ (List.Subset.refl _)
      rcases (hbelow w hw).cases with rfl | ⟨-, hnone, -⟩ | ⟨found, rfl, htrees⟩
      · cases hbase
      · rw [hnone] at hbase
        cases hbase
      · exact Option.some.inj hbase ▸ htrees
  | scalar s => cases s <;> simp [Config.laidOver] at hmerged <;> exact hmerged ▸ .scalar _
  | list items => exact Option.some.inj hmerged ▸ .list _
  | set members => exact Option.some.inj hmerged ▸ .set _
  | pair first second => exact Option.some.inj hmerged ▸ .pair _ _

theorem AreTrees.single {entries : Entries} (h : AreTrees entries) :
    ∀ v ∈ some (Value.map entries), IsTree v := by
  rintro v ⟨⟩
  exact h

/-- A tree laid over a tree is one. -/
theorem AreTrees.overlay (hbase : AreTrees base) (hlayer : AreTrees layer) :
    AreTrees (overlay base layer) :=
  IsTree.laidOver hlayer hbase.single rfl

/-! ## What is seen decides -/

/-- A tree is told from others by what it shows, unless it is a mapping. -/
theorem leaf_or_map (ha : ∀ v ∈ a, IsTree v) :
    (a.bind Value.entries? = none ∧ look a [] = a.map .leaf) ∨
      ∃ base, a = some (.map base) ∧ AreTrees base := by
  cases a with
  | none => exact .inl ⟨rfl, rfl⟩
  | some v =>
    rcases (ha v rfl).cases with rfl | ⟨-, hleaf, hsight⟩ | ⟨base, rfl, hbase⟩
    · exact .inl ⟨rfl, rfl⟩
    · exact .inl ⟨hleaf, congrArg some hsight⟩
    · exact .inr ⟨base, rfl, hbase⟩

theorem eq_or_maps (ha : ∀ v ∈ a, IsTree v) (ha' : ∀ v ∈ a', IsTree v)
    (heq : look a [] = look a' []) :
    (a = a' ∧ a.bind Value.entries? = none) ∨
      ∃ base base', a = some (.map base) ∧ a' = some (.map base') ∧
        AreTrees base ∧ AreTrees base' := by
  rcases leaf_or_map ha with ⟨hnone, hlook⟩ | ⟨base, rfl, hbase⟩ <;>
    rcases leaf_or_map ha' with ⟨hnone', hlook'⟩ | ⟨base', rfl, hbase'⟩
  · rw [hlook, hlook'] at heq
    exact .inl ⟨Option.map_injective (fun _ _ => Sight.leaf.inj) heq, hnone⟩
  · rw [hlook] at heq
    cases a <;> simp [look, sightOf] at heq
  · rw [hlook'] at heq
    cases a' <;> simp [look, sightOf] at heq
  · exact .inr ⟨base, base', rfl, rfl, hbase, hbase'⟩

/-- What one tree laid over another shows hangs on what the two show, unless both are mappings by
the tree that is above. -/
theorem covered_congr_or_maps (ha : ∀ v ∈ a, IsTree v) (ha' : ∀ v ∈ a', IsTree v)
    (hb : ∀ v ∈ b, IsTree v) (hb' : ∀ v ∈ b', IsTree v) (heqa : look a = look a')
    (heqb : look b = look b') :
    look (covered a b) = look (covered a' b') ∨
      ∃ base base' layer layer', (a = some (.map base) ∧ a' = some (.map base') ∧
        AreTrees base ∧ AreTrees base') ∧ b = some (.map layer) ∧ b' = some (.map layer') ∧
        AreTrees layer ∧ AreTrees layer' := by
  rcases eq_or_maps hb hb' (congrFun heqb []) with ⟨rfl, hleaf⟩ | ⟨layer, layer', rfl, rfl, h⟩
  · refine .inl ?_
    cases b with
    | none => exact heqa
    | some v =>
      rcases (hb v rfl).cases with rfl | ⟨stated, hv, -⟩ | ⟨entries, rfl, -⟩
      · exact heqa
      · rw [covered_leaf a hv stated, covered_leaf a' hv stated]
      · cases hleaf
  rcases eq_or_maps ha ha' (congrFun heqa []) with ⟨rfl, hleaf⟩ | ⟨base, base', hmaps⟩
  · rw [covered_map_of_leaf hleaf, covered_map_of_leaf hleaf]
    exact .inl heqb
  · exact .inr ⟨base, base', layer, layer', hmaps, rfl, rfl, h⟩

/-- What one tree laid over another shows hangs on what the two show. -/
theorem look_covered_congr (ha : ∀ v ∈ a, IsTree v) (ha' : ∀ v ∈ a', IsTree v)
    (hb : ∀ v ∈ b, IsTree v) (hb' : ∀ v ∈ b', IsTree v) (heqa : look a = look a')
    (heqb : look b = look b') : look (covered a b) = look (covered a' b') := by
  funext path
  induction path generalizing a b a' b' with
  | nil =>
    rcases covered_congr_or_maps ha ha' hb hb' heqa heqb with
      heq | ⟨_, _, _, _, ⟨rfl, rfl, -⟩, rfl, rfl, -⟩
    · exact congrFun heq []
    · rfl
  | cons key path ih =>
    rcases covered_congr_or_maps ha ha' hb hb' heqa heqb with
      heq | ⟨base, base', layer, layer', ⟨rfl, rfl, hbase, hbase'⟩, rfl, rfl, hlayer, hlayer'⟩
    · exact congrFun heq (key :: path)
    · simp only [covered_map_map, look, inside_map, get?_overlay _ hlayer.mapping,
        get?_overlay _ hlayer'.mapping]
      exact ih (hbase.get? key) (hbase'.get? key) (hlayer.get? key) (hlayer'.get? key)
        (funext fun rest => congrFun heqa (key :: rest))
        (funext fun rest => congrFun heqb (key :: rest))

/-- Two mappings that show the same may stand for each other below and above. -/
theorem seen_overlay_congr {base' layer' : Entries} (hbase : AreTrees base)
    (hbase' : AreTrees base') (hlayer : AreTrees layer) (hlayer' : AreTrees layer')
    (below : seen base = seen base') (above : seen layer = seen layer') :
    seen (overlay base layer) = seen (overlay base' layer') :=
  look_covered_congr hbase.single hbase'.single hlayer.single hlayer'.single below above

end ToolHost.Config
