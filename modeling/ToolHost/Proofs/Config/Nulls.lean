import ToolHost.Proofs.Config.Keys
import ToolHost.Proofs.Config.Settled

/-!
# Nulls in the layers of a configuration

A null says nothing, so layers with some of their nulls left out should come to the same. What the
layers are combined to then differs by nulls that are missing, and by nothing else: a null below
another layer is replaced just as if it were not there, and a null in a layer replaces nothing. The
sections of two such combinations say the same of every field. The two durations alone are read
another way: a null that stands there is no number, and one that is missing is the default.
-/
namespace ToolHost.Config

open Entries
open isEndless (entryIsEndless)

variable {fields kept base layer rest merged upper thinned : Entries} {key k : Scalar}
  {v w : Value} {below below' : Option Value}

/-- Fields with some of their nulls left out. -/
inductive Thinned : Entries → Entries → Prop
  | nil : Thinned [] []
  | keep {fields kept : Entries} (e : Scalar × Value) (h : Thinned fields kept) :
      Thinned (e :: fields) (e :: kept)
  | drop {fields kept : Entries} (key : Scalar) (h : Thinned fields kept) :
      Thinned ((key, .null) :: fields) kept

/-- A layer with some nulls left out, of the fields of its sections or in place of a section. -/
inductive Pruned : Entries → Entries → Prop
  | nil : Pruned [] []
  | keep {layer rest : Entries} (e : Scalar × Value) (h : Pruned layer rest) :
      Pruned (e :: layer) (e :: rest)
  | drop {layer rest : Entries} {name : String} (known : name ∈ knownSections) (h : Pruned layer rest) :
      Pruned ((.text name, .null) :: layer) rest
  | thin {layer rest fields kept : Entries} {name : String} (known : name ∈ knownSections)
      (mapping : fields.IsMapping) (thinned : Thinned fields kept) (h : Pruned layer rest) :
      Pruned ((.text name, .map fields) :: layer) ((.text name, .map kept) :: rest)

/-- Two mappings that say the same at every key, but for nulls that may be missing in the second. -/
def Forgets (fields kept : Entries) : Prop :=
  ∀ key, kept.get? key = fields.get? key ∨
    fields.get? key = some .null ∧ kept.get? key = none

theorem Forgets.refl (fields : Entries) : Forgets fields fields := fun _ => .inl rfl

theorem Forgets.put (h : Forgets fields kept) (key : Scalar) (v : Value) :
    Forgets (fields.put key v) (kept.put key v) := by
  intro k
  rw [get?_put, get?_put]
  by_cases hk : key.same k
  · simp [hk]
  · simpa [hk] using h k

theorem Thinned.refl (fields : Entries) : Thinned fields fields := by
  induction fields with
  | nil => exact .nil
  | cons e fields ih => exact .keep e ih

theorem Thinned.forgets (h : Thinned fields kept) (mapping : fields.IsMapping) :
    Forgets fields kept := by
  intro k
  induction h with
  | nil => exact .inl rfl
  | keep e _ ih =>
    obtain ⟨key, v⟩ := e
    by_cases hk : key.same k
    · simp [get?, hk]
    · simpa [get?, hk] using ih (List.pairwise_cons.mp mapping).2
  | @drop fields kept key _ ih =>
    obtain ⟨hfirst, hrest⟩ := List.pairwise_cons.mp mapping
    by_cases hk : key.same k
    · -- The mapping has no second entry at the key, so nothing is left there.
      have hnone : get? fields k = none := by
        simp only [get?, Option.map_eq_none_iff, List.find?_eq_none]
        intro e he
        rw [Scalar.same_comm, ← Scalar.same_congr hk, hfirst e he]
        simp
      rcases ih hrest with heq | ⟨hnull, -⟩
      · exact .inr ⟨by simp [get?, hk], heq.trans hnone⟩
      · rw [hnone] at hnull
        cases hnull
    · simpa [get?, hk] using ih hrest

/-! ## One layer over another -/

/-- A null below a value is the same as nothing. -/
theorem laidOver_null (v : Value) : laidOver (some .null) v = laidOver none v := by
  cases v with
  | scalar s => cases s <;> rfl
  | map entries => rfl
  | loop label body => simp [laidOver, Value.null, Value.entries?, Value.unrolled]
  | list | set | pair | again => rfl

theorem entryIsEndless_loop {label : Nat} {body : Value} {entries : Entries}
    (hbase : below.bind Value.entries? = some base)
    (hentries : (Value.loop label body).entries? = some entries) :
    entryIsEndless below (.loop label body) = (overlayWithin deepest base entries).isNone := by
  simp [entryIsEndless, hbase, hentries]

theorem entryIsEndless_null (v : Value) :
    entryIsEndless (some .null) v = entryIsEndless none v := by
  cases v <;> simp [entryIsEndless, Value.null, Value.entries?, Value.unrolled]

/-- A layer does to two such mappings the same at every key. -/
theorem Forgets.laidOver (h : Forgets fields kept) (key : Scalar) (v : Value) :
    laidOver (kept.get? key) v = laidOver (fields.get? key) v := by
  rcases h key with heq | ⟨hnull, hnone⟩
  · rw [heq]
  · rw [hnull, hnone, laidOver_null]

theorem Forgets.entryIsEndless (h : Forgets fields kept) (key : Scalar) (v : Value) :
    entryIsEndless (kept.get? key) v = entryIsEndless (fields.get? key) v := by
  rcases h key with heq | ⟨hnull, hnone⟩
  · rw [heq]
  · rw [hnull, hnone, entryIsEndless_null]

/-- Fields laid over fields, with nulls left out in both. -/
theorem Forgets.overlay (h : Forgets fields kept)
    (t : Thinned upper thinned) : Forgets (overlay fields upper) (overlay kept thinned) := by
  induction t generalizing fields kept with
  | nil => simpa [Config.overlay] using h
  | keep e _ ih =>
    obtain ⟨key, v⟩ := e
    rw [overlay_cons, overlay_cons, h.laidOver]
    cases Config.laidOver (fields.get? key) v with
    | none => exact ih h
    | some merged => exact ih (h.put key merged)
  | drop key _ ih =>
    rw [overlay_cons]
    exact ih h

/-- What two such mappings have at a key has the same entries. -/
theorem Forgets.entries? (h : Forgets fields kept) (key : Scalar) :
    (kept.get? key).bind Value.entries? = (fields.get? key).bind Value.entries? := by
  rcases h key with heq | ⟨hnull, hnone⟩
  · rw [heq]
  · rw [hnull, hnone]
    rfl

/-- A mapping that may contain itself, laid over two such mappings: this ends in both cases or in
none. -/
theorem Forgets.overlayWithin (h : Forgets fields kept) (depth : Nat) (entries : Entries) :
    (overlayWithin depth fields entries = none ∧ overlayWithin depth kept entries = none) ∨
      ∃ base base', overlayWithin depth fields entries = some base ∧
        overlayWithin depth kept entries = some base' ∧ Forgets base base' := by
  cases depth with
  | zero => exact .inl ⟨rfl, rfl⟩
  | succ depth =>
    induction entries generalizing fields kept with
    | nil => exact .inr ⟨fields, kept, rfl, rfl, h⟩
    | cons e entries ih =>
      obtain ⟨key, v⟩ := e
      rw [overlayWithin_cons, overlayWithin_cons, h.entries? key]
      by_cases hv : v.isNull
      · simpa [hv] using ih h
      · simp only [hv, Bool.false_eq_true, if_false]
        split
        next below above _ _ =>
          cases Config.overlayWithin depth below above with
          | none => exact .inl ⟨rfl, rfl⟩
          | some merged => exact ih (h.put key (.map merged))
        next => exact ih (h.put key v)

theorem Forgets.isEndless (h : Forgets fields kept)
    (t : Thinned upper thinned) : isEndless kept thinned = isEndless fields upper := by
  induction t with
  | nil => simp [Config.isEndless]
  | keep e _ ih =>
    obtain ⟨key, v⟩ := e
    rw [Config.isEndless, Config.isEndless, h.entryIsEndless, ih]
  | drop key _ ih =>
    rw [Config.isEndless, ih]
    simp [Config.isEndless.entryIsEndless, Value.null]

/-! ## Sections -/

/-- The two values of a section: the same, or mappings of which the second misses nulls. -/
def Matching (v w : Value) : Prop :=
  v = w ∨ ∃ fields kept, v = .map fields ∧ w = .map kept ∧ Forgets fields kept

/-- Two entries at the same key, with the same value unless that is a section. -/
structure Twins (e f : Scalar × Value) : Prop where
  key : e.1 = f.1
  value : e.2 = f.2 ∨ (∃ name ∈ knownSections, e.1 = .text name) ∧ Matching e.2 f.2

/-- What is below two layers at one key. -/
inductive Alike : Option Value → Option Value → Prop
  | same (o : Option Value) : Alike o o
  | sections {fields kept : Entries} (h : Forgets fields kept) : Alike (some (.map fields)) (some (.map kept))

theorem Alike.of_matching (h : Matching v w) : Alike (some v) (some w) := by
  rcases h with rfl | ⟨fields, kept, rfl, rfl, h⟩
  · exact .same _
  · exact .sections h

/-- What such entries have at a key: the same, unless the key is that of a section. -/
theorem get?_twins (h : List.Forall₂ Twins merged rest) (k : Scalar) :
    merged.get? k = rest.get? k ∨
      (∃ name ∈ knownSections, k = .text name) ∧ Alike (merged.get? k) (rest.get? k) := by
  induction h with
  | nil => exact .inl rfl
  | @cons e f _ _ twins _ ih =>
    obtain ⟨key, v⟩ := e
    obtain ⟨_, w⟩ := f
    obtain ⟨hkey, hvalue⟩ := twins
    obtain rfl := hkey
    by_cases hk : key.same k
    · simp only [get?, List.find?_cons, hk, Option.map_some]
      rcases hvalue with hvalue | ⟨⟨name, known, hname⟩, hmatching⟩
      · exact .inl (congrArg some hvalue)
      · refine .inr ⟨⟨name, known, ?_⟩, .of_matching hmatching⟩
        simpa [show key = .text name from hname] using hk
    · simpa [get?, hk] using ih

theorem alike_get? (h : List.Forall₂ Twins merged rest) (k : Scalar) :
    Alike (merged.get? k) (rest.get? k) := by
  rcases get?_twins h k with heq | ⟨-, halike⟩
  · exact heq ▸ .same _
  · exact halike

theorem put_twins (h : List.Forall₂ Twins merged rest) (key : Scalar)
    (hvalue : v = w ∨ (∃ name ∈ knownSections, key = .text name) ∧ Matching v w) :
    List.Forall₂ Twins (merged.put key v) (rest.put key w) := by
  induction h with
  | nil => exact .cons ⟨rfl, hvalue⟩ .nil
  | @cons e f _ _ twins tail ih =>
    obtain ⟨old, x⟩ := e
    obtain ⟨_, y⟩ := f
    obtain ⟨hkey, hold⟩ := twins
    obtain rfl := hkey
    rw [put, put]
    by_cases hsame : old.same key
    · rw [if_pos hsame, if_pos hsame]
      refine .cons ⟨rfl, hvalue.imp_right ?_⟩ tail
      rintro ⟨⟨name, known, hname⟩, hmatching⟩
      exact ⟨⟨name, known, by simpa [hname] using hsame⟩, hmatching⟩
    · rw [if_neg hsame, if_neg hsame]
      exact .cons ⟨rfl, hold⟩ ih

/-- A value of a layer makes the same of what is below, or of two sections two such ones. -/
theorem Alike.laidOver (h : Alike below below') (v : Value) :
    laidOver below v = laidOver below' v ∨
      ∃ fields kept, laidOver below v = some (.map fields) ∧
        laidOver below' v = some (.map kept) ∧ Forgets fields kept := by
  cases h with
  | same => exact .inl rfl
  | sections h =>
    cases v with
    | scalar s => exact .inl (by cases s <;> simp [Config.laidOver])
    | map entries => exact .inr ⟨_, _, by simp [Config.laidOver, Value.entries?, Value.unrolled],
        by simp [Config.laidOver, Value.entries?, Value.unrolled], h.overlay (.refl entries)⟩
    | loop label body =>
      cases hentries : (Value.loop label body).entries? with
      | none => exact .inl (by simp [Config.laidOver, hentries])
      | some entries =>
        rw [laidOver_loop rfl hentries, laidOver_loop rfl hentries]
        rcases h.overlayWithin deepest entries with ⟨hnone, hnone'⟩ | ⟨base, base', hb, hb', hbase⟩
        · exact .inl (by rw [hnone, hnone'])
        · exact .inr ⟨base, base', by rw [hb, Option.map_some], by rw [hb', Option.map_some], hbase⟩
    | list | set | pair | again => exact .inl (by simp [Config.laidOver])

/-- What is below two layers is a mapping in both cases or in none. -/
theorem Alike.entries? (h : Alike below below') :
    (below.bind Value.entries? = none ∧ below'.bind Value.entries? = none) ∨
      ∃ fields kept, below.bind Value.entries? = some fields ∧
        below'.bind Value.entries? = some kept ∧ Forgets fields kept := by
  cases h with
  | same =>
    cases hb : below.bind Value.entries? with
    | none => exact .inl ⟨rfl, rfl⟩
    | some fields => exact .inr ⟨fields, fields, rfl, rfl, .refl fields⟩
  | sections h => exact .inr ⟨_, _, rfl, rfl, h⟩

theorem Alike.laidOver_thinned (h : Alike below below') (mapping : fields.IsMapping)
    (t : Thinned fields kept) : ∃ base base', Config.laidOver below (.map fields) = some (.map base) ∧
      Config.laidOver below' (.map kept) = some (.map base') ∧ Forgets base base' := by
  rcases h.entries? with ⟨hb, hb'⟩ | ⟨base, base', hb, hb', hbase⟩
  · exact ⟨fields, kept, by simp [Config.laidOver, hb], by simp [Config.laidOver, hb'],
      t.forgets mapping⟩
  · exact ⟨_, _, by simp [Config.laidOver, hb], by simp [Config.laidOver, hb'],
      hbase.overlay t⟩

theorem Alike.entryIsEndless (h : Alike below below') (v : Value) :
    entryIsEndless below' v = entryIsEndless below v := by
  cases h with
  | same => rfl
  | sections h =>
    cases v with
    | map entries => exact h.isEndless (.refl entries)
    | loop label body =>
      cases hentries : (Value.loop label body).entries? with
      | none => simp [Config.isEndless.entryIsEndless, hentries]
      | some entries =>
        rw [entryIsEndless_loop rfl hentries, entryIsEndless_loop rfl hentries]
        rcases h.overlayWithin deepest entries with ⟨hnone, hnone'⟩ | ⟨base, base', hb, hb', -⟩
        · rw [hnone, hnone']
        · rw [hb, hb']
          rfl
    | scalar | list | set | pair | again => rfl

theorem Alike.entryIsEndless_thinned (h : Alike below below') (t : Thinned fields kept) :
    Config.isEndless.entryIsEndless below' (.map kept) =
      Config.isEndless.entryIsEndless below (.map fields) := by
  rcases h.entries? with ⟨hb, hb'⟩ | ⟨base, base', hb, hb', hbase⟩
  · simp [Config.isEndless.entryIsEndless, hb, hb']
  · simpa [Config.isEndless.entryIsEndless, hb, hb'] using hbase.isEndless t

/-! ## Layers -/

/-- A layer and the same one with nulls left out, over two combinations that differ in this way. -/
theorem overlay_twins (h : List.Forall₂ Twins merged rest) {layer pruned : Entries}
    (p : Pruned layer pruned) : List.Forall₂ Twins (overlay merged layer) (overlay rest pruned) := by
  induction p generalizing merged rest with
  | nil => simpa [overlay] using h
  | keep e _ ih =>
    obtain ⟨key, v⟩ := e
    rw [overlay_cons, overlay_cons]
    rcases get?_twins h key with heq | ⟨known, halike⟩
    · rw [heq]
      cases laidOver (rest.get? key) v with
      | none => exact ih h
      | some merged => exact ih (put_twins h key (.inl rfl))
    · rcases halike.laidOver v with heq | ⟨fields, kept, hfields, hkept, hforgets⟩
      · rw [heq]
        cases laidOver (rest.get? key) v with
        | none => exact ih h
        | some merged => exact ih (put_twins h key (.inl rfl))
      · rw [hfields, hkept]
        exact ih (put_twins h key (.inr ⟨known, .inr ⟨_, _, rfl, rfl, hforgets⟩⟩))
  | drop known _ ih =>
    rw [overlay_cons]
    exact ih h
  | @thin _ _ _ _ name known mapping thinned _ ih =>
    rw [overlay_cons, overlay_cons]
    obtain ⟨base, base', hbase, hbase', hforgets⟩ :=
      (alike_get? h (.text name)).laidOver_thinned mapping thinned
    rw [hbase, hbase']
    exact ih (put_twins h _ (.inr ⟨⟨name, known, rfl⟩, .inr ⟨_, _, rfl, rfl, hforgets⟩⟩))

theorem isEndless_twins (h : List.Forall₂ Twins merged rest) {layer pruned : Entries}
    (p : Pruned layer pruned) : isEndless rest pruned = isEndless merged layer := by
  induction p with
  | nil => simp [isEndless]
  | keep e _ ih =>
    obtain ⟨key, v⟩ := e
    rw [isEndless, isEndless, (alike_get? h key).entryIsEndless, ih]
  | drop known _ ih =>
    rw [isEndless, ih]
    simp [entryIsEndless, Value.null]
  | thin known mapping thinned _ ih =>
    rw [isEndless, isEndless, (alike_get? h _).entryIsEndless_thinned thinned, ih]

theorem get?_eq_none (h : ∀ e ∈ base, e.1.same k = false) : base.get? k = none := by
  simpa [get?] using h

theorem put_eq_append (h : ∀ e ∈ base, e.1.same k = false) : base.put k v = base ++ [(k, v)] := by
  induction base with
  | nil => rfl
  | cons e base ih =>
    obtain ⟨key, w⟩ := e
    have hkey : key.same k = false := h _ List.mem_cons_self
    rw [put, hkey, ih fun e he => h e (List.mem_cons_of_mem _ he)]
    rfl

/-- Entries at different keys none of which is null. -/
structure IsSettled (entries : Entries) : Prop where
  mapping : entries.IsMapping
  stated : ∀ e ∈ entries, e.2.isNull = false

theorem laidOver_isNull {merged : Value} (h : laidOver below v = some merged) :
    merged.isNull = false := by
  cases v with
  | scalar s => cases s <;> simp [laidOver] at h <;> subst h <;> rfl
  | map entries =>
    rw [laidOver] at h
    split at h <;> obtain rfl := Option.some.inj h <;> rfl
  | loop label body =>
    simp only [laidOver] at h
    split at h
    · obtain ⟨_, -, rfl⟩ := Option.map_eq_some_iff.mp h
      rfl
    · obtain rfl := Option.some.inj h
      rfl
  | list | set | pair | again =>
    simp only [laidOver, Option.some.injEq] at h
    subst h
    rfl

theorem IsSettled.overlay (h : IsSettled base) (layer : Entries) :
    IsSettled (overlay base layer) := by
  induction layer generalizing base with
  | nil => simpa [Config.overlay] using h
  | cons e layer ih =>
    obtain ⟨key, v⟩ := e
    rw [overlay_cons]
    cases hmerged : laidOver (base.get? key) v with
    | none => exact ih h
    | some merged =>
      refine ih ⟨h.mapping.put, fun e he => ?_⟩
      rcases mem_put he with ⟨hv, -⟩ | he
      · exact hv ▸ laidOver_isNull hmerged
      · exact h.stated e he

theorem laidOver_none (hv : v.isNull = false) : laidOver none v = some v := by
  cases v with
  | scalar s => cases s <;> simp_all [laidOver, Value.isNull]
  | loop label body => simp [laidOver]
  | map | list | set | pair | again => simp [laidOver]

/-- A combination of layers stays as it is when it is laid over nothing. -/
theorem IsSettled.overlay_nil (h : IsSettled layer) : Config.overlay [] layer = layer := by
  -- Entries at keys that are not there yet go to the end, one after the other.
  have append (base : Entries) (apart : ∀ e ∈ base, ∀ f ∈ layer, e.1.same f.1 = false) :
      Config.overlay base layer = base ++ layer := by
    induction layer generalizing base with
    | nil => simp [Config.overlay]
    | cons f layer ih =>
      obtain ⟨key, v⟩ := f
      obtain ⟨hfirst, hrest⟩ := List.pairwise_cons.mp h.mapping
      have hbase : ∀ e ∈ base, e.1.same key = false := fun e he => apart e he _ List.mem_cons_self
      rw [overlay_cons, get?_eq_none hbase, laidOver_none (h.stated _ List.mem_cons_self),
        Option.map_some, Option.getD_some, put_eq_append hbase]
      rw [ih ⟨hrest, fun e he => h.stated e (List.mem_cons_of_mem _ he)⟩, List.append_assoc]
      · rfl
      · intro e he f hf
        rcases List.mem_append.mp he with he | he
        · exact apart e he f (List.mem_cons_of_mem _ hf)
        · rw [List.mem_singleton.mp he]
          exact hfirst f hf
  simpa using append [] (by simp)

end ToolHost.Config
