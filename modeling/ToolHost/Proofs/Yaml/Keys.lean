import ToolHost.Proofs.Config.Layers
import ToolHost.Yaml.Document

/-!
# The keys of a document

A mapping of a document has no key twice, whatever the document says: of equal keys the first one
is kept with the last value, and entries that are merged from other mappings go the same way. This
is so while values are made from the nodes, and it stays so when they are put together.
-/
namespace ToolHost

open Entries

namespace Value

/-- A value with no key twice in a mapping, nor in the mappings that are values there. What is in a
list does not matter. -/
inductive IsKeyed : Value → Prop
  | scalar (s : Scalar) : IsKeyed (.scalar s)
  | list (items : List Value) : IsKeyed (.list items)
  | set (members : List Scalar) : IsKeyed (.set members)
  | pair (first second : Value) : IsKeyed (.pair first second)
  | map {entries : Entries} (mapping : entries.IsMapping) (values : ∀ e ∈ entries, IsKeyed e.2) :
      IsKeyed (.map entries)
  | loop (label : Nat) {body : Value} (h : IsKeyed body) : IsKeyed (.loop label body)
  | again (label : Nat) (isMap : Bool) : IsKeyed (.again label isMap)

variable {v whole : Value} {label : Nat} {entries : Entries}

theorem filledEntries_eq (label : Nat) (whole : Value) (entries : Entries) :
    filledEntries label whole entries = entries.map fun e => (e.1, filled label whole e.2) := by
  induction entries with
  | nil => rfl
  | cons e entries ih => rw [filledEntries, ih, List.map_cons]

theorem IsKeyed.filled (h : v.IsKeyed) (hwhole : whole.IsKeyed) :
    (filled label whole v).IsKeyed := by
  induction h with
  | scalar => exact .scalar _
  | list => exact .list _
  | set => exact .set _
  | pair => exact .pair _ _
  | map mapping _ ih =>
    rw [Value.filled, filledEntries_eq]
    refine .map (List.pairwise_map.mpr mapping) fun e he => ?_
    obtain ⟨old, hold, rfl⟩ := List.mem_map.mp he
    exact ih old hold
  | loop l hbody ih =>
    rw [Value.filled]
    split
    · exact .loop l hbody
    · exact .loop l ih
  | again l isMap =>
    rw [Value.filled]
    split
    · exact hwhole
    · exact .again l isMap

/-- The entries of a mapping whose keys are apart, also of one that contains itself. -/
theorem IsKeyed.entries? (h : v.IsKeyed) (hentries : v.entries? = some entries) :
    IsKeyed (.map entries) := by
  have hkeyed : v.unrolled.IsKeyed := by
    cases h with
    | loop label hbody => exact hbody.filled (.loop label hbody)
    | _ => constructor <;> assumption
  rw [Value.entries?] at hentries
  cases hv : v.unrolled with
  | map found =>
    simp only [hv, Option.some.injEq] at hentries
    exact hentries ▸ hv ▸ hkeyed
  | _ => simp [hv] at hentries

end Value

namespace Yaml

variable {α β : Type} {p : α → Prop} {q : β → Prop}

/-- Parts of a mapping no two of which have the same key. -/
def AreApart (parts : List (Scalar × α)) : Prop := parts.Pairwise fun e f => e.1.same f.1 = false

def Made.IsKeyed : Made → Prop
  | .map entries => AreApart entries
  | _ => True

theorem AreApart.zip {keys : List Scalar} (h : keys.Pairwise fun k l => k.same l = false)
    (values : List α) : AreApart (keys.zip values) := by
  induction keys generalizing values with
  | nil => exact .nil
  | cons key keys ih =>
    obtain ⟨hfirst, hrest⟩ := List.pairwise_cons.mp h
    cases values with
    | nil => exact .nil
    | cons v values =>
      rw [List.zip_cons_cons]
      exact .cons (fun e he => hfirst e.1 (List.of_mem_zip he).1) (ih hrest values)

theorem AreApart.put {parts : List (Scalar × Nat)} (h : AreApart parts) (k : Scalar) (v : Nat) :
    AreApart (Make.mappingParts.put parts k v) := by
  rw [Make.mappingParts.put]
  split
  · -- Only values change.
    refine List.pairwise_map.mpr (h.imp fun {e f} hef => ?_)
    split <;> split <;> exact hef
  next hnew =>
    refine List.pairwise_append.mpr ⟨h, List.pairwise_singleton _ _, fun e he f hf => ?_⟩
    rw [List.mem_singleton.mp hf]
    simpa using fun hsame => hnew (List.any_eq_true.mpr ⟨e, he, hsame⟩)

/-! ## Making -/

def Making.IsKeyed (m : Making) : Prop := ∀ id, ∀ x ∈ m.made.getD id none, x.IsKeyed

/-- A step that leaves all keys apart, and what it gives. -/
def Gives (x : Make α) (p : α → Prop) : Prop :=
  ∀ m, m.IsKeyed → ∀ a m', x m = .ok (a, m') → m'.IsKeyed ∧ p a

theorem getD_replicate_none (n i : Nat) :
    (Array.replicate n (none : Option α)).getD i none = none := by
  simp only [Array.getD_eq_getD_getElem?, Array.getElem?_replicate]
  split <;> rfl

theorem getD_setIfInBounds (xs : Array α) (i j : Nat) (x d : α) :
    (xs.setIfInBounds i x).getD j d = if i = j ∧ i < xs.size then x else xs.getD j d := by
  simp only [Array.getD_eq_getD_getElem?, Array.getElem?_setIfInBounds]
  by_cases hij : i = j
  · by_cases hi : i < xs.size
    · simp [hij, hij ▸ hi]
    · simp [hij, hij ▸ hi]
  · simp [hij]

namespace Gives

theorem pure {a : α} (h : p a) : Gives (pure a : Make α) p := by
  rintro m hm _ _ ⟨⟩
  exact ⟨hm, h⟩

theorem throw (e : Error) : Gives (throw e : Make α) p := by
  rintro m hm _ _ ⟨⟩

theorem bind {x : Make α} {f : α → Make β} (hx : Gives x p) (hf : ∀ a, p a → Gives (f a) q) :
    Gives (x >>= f) q := by
  intro m hm b m' h
  change (x m >>= fun r => f r.1 r.2) = .ok (b, m') at h
  cases hxm : x m with
  | error e =>
    rw [hxm] at h
    cases h
  | ok r =>
    obtain ⟨hkeyed, ha⟩ := hx m hm r.1 r.2 hxm
    rw [hxm] at h
    exact hf r.1 ha r.2 hkeyed b m' h

theorem ite {c : Prop} [Decidable c] {x y : Make α} (hx : Gives x p) (hy : Gives y p) :
    Gives (if c then x else y) p := by
  split
  · exact hx
  · exact hy

theorem lift (x : Except Error α) : Gives (liftM x : Make α) fun _ => True := by
  intro m hm a m' h
  cases x with
  | error e => cases h
  | ok b =>
    obtain ⟨rfl, rfl⟩ := Prod.mk.inj (Except.ok.inj h)
    exact ⟨hm, trivial⟩

theorem get : Gives (get : Make Making) Making.IsKeyed := by
  rintro m hm _ _ ⟨⟩
  exact ⟨hm, hm⟩

theorem modify {f : Making → Making} (h : ∀ m, m.IsKeyed → (f m).IsKeyed) :
    Gives (modify f : Make Unit) fun _ => True := by
  rintro m hm _ _ ⟨⟩
  exact ⟨h m hm, trivial⟩

theorem forM {l : List α} {f : α → Make Unit} (h : ∀ a ∈ l, Gives (f a) fun _ => True) :
    Gives (l.forM f) fun _ => True := by
  induction l with
  | nil => exact pure trivial
  | cons a l ih =>
    exact bind (h a List.mem_cons_self) fun _ _ => ih fun b hb => h b (List.mem_cons_of_mem _ hb)

theorem mapM {l : List α} {f : α → Make β} (h : ∀ a ∈ l, Gives (f a) fun _ => True) :
    Gives (l.mapM f) fun _ => True := by
  induction l with
  | nil => exact pure trivial
  | cons a l ih =>
    rw [List.mapM_cons]
    exact bind (h a List.mem_cons_self) fun _ _ =>
      bind (ih fun b hb => h b (List.mem_cons_of_mem _ hb)) fun _ _ => pure trivial

theorem foldlM {l : List α} {f : β → α → Make β} (h : ∀ b a, q b → Gives (f b a) q) {b : β}
    (hb : q b) : Gives (l.foldlM f b) q := by
  induction l generalizing b with
  | nil => exact pure hb
  | cons a l ih => exact bind (h b a hb) fun b' hb' => ih hb'

end Gives

namespace Make

theorem gives_nodeAt (id : Nat) : Gives (nodeAt id) fun _ => True :=
  .bind .get fun _ _ => .pure trivial

theorem gives_setNode (id : Nat) (n : Node) : Gives (setNode id n) fun _ => True :=
  .modify fun _ hm => hm

theorem gives_setMade (id : Nat) {x : Made} (hx : x.IsKeyed) :
    Gives (setMade id x) fun _ => True := by
  refine .modify fun m hm j y hy => ?_
  rw [getD_setIfInBounds] at hy
  split at hy
  · obtain rfl := Option.some.inj hy
    exact hx
  · exact hm j y hy

theorem gives_textOf (fuel id : Nat) : Gives (textOf fuel id) fun _ => True := by
  induction fuel generalizing id with
  | zero => exact .throw _
  | succ fuel ih =>
    rw [textOf]
    refine .bind (gives_nodeAt id) fun n _ => ?_
    cases n with
    | scalar => exact .pure trivial
    | sequence => exact .throw _
    | mapping kind entries =>
      refine .bind .get fun m _ => ?_
      dsimp only
      split
      · exact ih _
      · exact .throw _

theorem gives_begin (id : Nat) : Gives (begin id) fun _ => True := by
  have later (x : Made) (hx : x.IsKeyed) : Gives (do
      setMade id x
      modify fun m => { m with waiting := id :: m.waiting }
      return x) fun _ => True :=
    .bind (gives_setMade id hx) fun _ _ => .bind (.modify fun _ hm => hm) fun _ _ => .pure trivial
  have made (kind : Kind) (text : String) : Gives (do
      let s ← scalarOf kind text
      setMade id (.scalar s)
      return Made.scalar s) fun _ => True :=
    .bind (.lift _) fun s _ => .bind (gives_setMade id (x := .scalar s) trivial) fun _ _ =>
      .pure trivial
  rw [begin]
  refine .bind .get fun m hm => ?_
  dsimp only
  split
  · exact .pure trivial
  · refine .bind (gives_nodeAt id) fun n _ => ?_
    split
    · exact later _ trivial
    · exact later _ trivial
    · exact later _ List.Pairwise.nil
    · exact later _ trivial
    · exact .throw _
    · exact .throw _
    · exact .throw _
    · refine .bind (gives_textOf _ id) fun text _ => ?_
      split <;> exact .ite (.bind (.throw (p := fun _ => True) _) fun _ _ => made _ text)
        (made _ text)

theorem gives_key (id : Nat) : Gives (key id) fun _ => True := by
  rw [key]
  refine .bind (gives_begin id) fun x _ => ?_
  cases x with
  | scalar s => exact .pure trivial
  | _ => exact .throw _

theorem gives_contribution {entriesOf : Nat → Make (List (Nat × Nat))}
    (h : ∀ v, Gives (entriesOf v) fun _ => True) (v : Nat) :
    Gives (contribution entriesOf v) fun _ => True := by
  rw [contribution]
  refine .bind (gives_nodeAt v) fun n _ => ?_
  cases n with
  | mapping => exact h v
  | scalar => exact .throw _
  | sequence kind items =>
    refine .bind (.mapM fun item _ => .bind (gives_nodeAt item) fun n _ => ?_) fun parts _ =>
      .pure trivial
    cases n with
    | mapping => exact h item
    | _ => exact .throw _

theorem gives_flatten (fuel id index : Nat) (merged : List (Nat × Nat)) :
    Gives (flatten fuel id index merged) fun _ => True := by
  induction fuel generalizing id index merged with
  | zero =>
    rw [flatten]
    exact .throw _
  | succ fuel ih =>
    rw [flatten]
    refine .bind (gives_nodeAt id) fun n _ => ?_
    cases n with
    | mapping kind entries =>
      dsimp only
      split
      · exact .ite (gives_setNode _ _) (.pure trivial)
      next k v _ =>
        refine .bind (gives_nodeAt k) fun keyNode _ => .ite ?_ (.ite ?_ (ih _ _ _))
        · refine .bind (gives_setNode _ _) fun _ _ =>
            .bind (gives_contribution (fun v => ?_) v) fun _ _ => ih _ _ _
          refine .bind (ih v 0 []) fun _ _ => .bind (gives_nodeAt v) fun n _ => ?_
          split <;> exact .pure trivial
        · exact .bind (gives_setNode _ _) fun _ _ => ih _ _ _
    | _ => exact .throw _

/-- The keys of a mapping are put together one by one. -/
theorem gives_parts (id : Nat) : Gives (do
    flatten mostMerged id 0 []
    match ← nodeAt id with
    | .mapping _ entries =>
      entries.foldlM (fun parts (k, v) => do
        let s ← key k
        let _ ← begin v
        return mappingParts.put parts s v) []
    | _ => fail) AreApart := by
  refine .bind (gives_flatten _ id 0 []) fun _ _ => .bind (gives_nodeAt id) fun n _ => ?_
  cases n with
  | mapping kind entries =>
    refine .foldlM (fun parts e hparts => ?_) List.Pairwise.nil
    exact .bind (gives_key e.1) fun s _ => .bind (gives_begin e.2) fun _ _ =>
      .pure (hparts.put s e.2)
  | _ => exact .throw _

theorem gives_mappingParts (id : Nat) : Gives (mappingParts id) AreApart := by
  have parts := gives_parts id
  rw [mappingParts]
  refine .bind (gives_nodeAt id) fun n _ => ?_
  cases n with
  | mapping => exact parts
  | _ => exact .bind (.throw (p := fun _ => True) _) fun _ _ => parts

theorem gives_pairParts (id : Nat) : Gives (pairParts id) fun _ => True := by
  rw [pairParts]
  refine .bind (gives_nodeAt id) fun n _ => ?_
  split
  · exact .bind (gives_begin _) fun _ _ => .bind (gives_begin _) fun _ _ => .pure trivial
  · exact .throw _

theorem gives_complete (id : Nat) : Gives (complete id) fun _ => True := by
  rw [complete]
  refine .bind (gives_nodeAt id) fun n _ => ?_
  split
  · exact .bind (.forM fun item _ => .bind (gives_begin item) fun _ _ => .pure trivial) fun _ _ =>
      gives_setMade id trivial
  · exact .bind (.mapM fun item _ => gives_pairParts item) fun _ _ => gives_setMade id trivial
  · exact .bind (gives_mappingParts id) fun parts hparts => gives_setMade id hparts
  · exact .bind (gives_mappingParts id) fun _ _ => gives_setMade id trivial
  · exact .throw _

theorem gives_completeAll (rounds : Nat) : Gives (completeAll rounds) fun _ => True := by
  induction rounds with
  | zero => exact .pure trivial
  | succ rounds ih =>
    rw [completeAll]
    refine .bind .get fun m _ => ?_
    split
    · exact .pure trivial
    · exact .bind (.modify fun _ hm => hm) fun _ _ => .bind (.forM fun id _ => gives_complete id)
        fun _ _ => ih

end Make

/-! ## Putting together -/

structure Assembly.IsKeyed (a : Assembly) : Prop where
  made : ∀ id, ∀ x ∈ a.made.getD id none, x.IsKeyed
  known : ∀ id, ∀ v ∈ a.known.getD id none, v.IsKeyed

namespace Assembly

/-- A value that is put together has its keys apart, and so have those that are known then. -/
def Yields (x : StateM Assembly α) (p : α → Prop) : Prop :=
  ∀ a : Assembly, a.IsKeyed → (x a).2.IsKeyed ∧ p (x a).1

namespace Yields

theorem pure {a : α} (h : p a) : Yields (pure a : StateM Assembly α) p := fun _ ha => ⟨ha, h⟩

theorem bind {x : StateM Assembly α} {f : α → StateM Assembly β} (hx : Yields x p)
    (hf : ∀ a, p a → Yields (f a) q) : Yields (x >>= f) q :=
  fun a ha => hf (x a).1 (hx a ha).2 (x a).2 (hx a ha).1

theorem get : Yields (get : StateM Assembly Assembly) IsKeyed := fun _ ha => ⟨ha, ha⟩

theorem mapM {l : List α} {f : α → StateM Assembly β} (h : ∀ a ∈ l, Yields (f a) q) :
    Yields (l.mapM f) fun bs => ∀ b ∈ bs, q b := by
  induction l with
  | nil => exact pure (by simp)
  | cons a l ih =>
    rw [List.mapM_cons]
    exact bind (h a List.mem_cons_self) fun b hb =>
      bind (ih fun c hc => h c (List.mem_cons_of_mem _ hc)) fun bs hbs =>
        pure (List.forall_mem_cons.mpr ⟨hb, hbs⟩)

end Yields

/-- What is known of a node is a value whose keys are apart. -/
theorem yields_known (id : Nat) {v : Value} (hv : v.IsKeyed) :
    Yields (modify fun a => { a with known := a.known.setIfInBounds id (some v) }) fun _ => True := by
  refine fun a ha => ⟨⟨ha.made, fun j w hw => ?_⟩, trivial⟩
  change w ∈ (a.known.setIfInBounds id (some v)).getD j none at hw
  rw [getD_setIfInBounds] at hw
  split at hw
  · obtain rfl := Option.some.inj hw
    exact hv
  · exact ha.known j w hw

theorem yields_value (fuel : Nat) (around : List Nat) (id : Nat) :
    Yields (value fuel around id) fun part => part.1.IsKeyed := by
  induction fuel generalizing around id with
  | zero => exact .pure (.scalar .null)
  | succ fuel ih =>
    have closed (part : Part) (hpart : part.1.IsKeyed) : Yields (do
        let v := if part.2.isEmpty then part.1 else .loop id part.1
        let labels := part.2.eraseDups.filter (· != id)
        if labels.isEmpty then
          modify fun a => { a with known := a.known.setIfInBounds id (some v) }
        return (v, labels)) fun part : Part => part.1.IsKeyed := by
      have hv : (if part.2.isEmpty then part.1 else .loop id part.1).IsKeyed := by
        split
        · exact hpart
        · exact .loop id hpart
      dsimp only
      split
      · exact .bind (yields_known id hv) fun _ _ => .pure hv
      · exact .pure hv
    rw [value]
    refine .bind .get fun a ha => ?_
    cases hknown : a.known.getD id none with
    | some v => exact .pure (ha.known id v hknown)
    | none =>
      dsimp only
      split
      · exact .pure (.again _ _)
      · split
        · exact .bind (.pure (.scalar _)) closed
        · exact .bind (.pure (.set _)) closed
        · exact .bind (.mapM fun item _ => ih _ item) fun _ _ => .bind (.pure (.list _)) closed
        next entries hmade =>
          -- The keys are those that were told apart when the mapping was made.
          have hkeys : AreApart entries := by
            cases hx : a.made.getD id none with
            | none => simp [hx] at hmade
            | some x =>
              obtain rfl : x = .map entries := by simpa [hx] using hmade
              exact ha.made id _ hx
          refine .bind (.mapM fun e _ => ih _ e.2) fun parts hparts => .bind (.pure ?_) closed
          refine .map (AreApart.zip (List.pairwise_map.mpr hkeys) _) fun e he => ?_
          obtain ⟨part, hpart, heq⟩ := List.mem_map.mp (List.of_mem_zip he).2
          exact heq ▸ hparts part hpart
        · exact .bind (.mapM fun e _ => ih _ e.1) fun _ _ => .bind (.mapM fun e _ => ih _ e.2)
            fun _ _ => .bind (.pure (.list _)) closed

end Assembly

/-- No mapping of a document has a key twice. -/
theorem isKeyed_load {text : List Char} {v : Value} (h : load text = .ok (some v)) :
    v.IsKeyed := by
  rw [load] at h
  cases hgraph : Graph.ofText text with
  | error e =>
    rw [hgraph] at h
    cases h
  | ok g =>
    obtain ⟨nodes, root⟩ := g
    rw [hgraph] at h
    cases root with
    | none => cases h
    | some root =>
      let make : Make Unit := do
        let _ ← Make.begin root
        Make.completeAll (nodes.size + 1)
      have hmake : Gives make fun _ => True :=
        .bind (Make.gives_begin root) fun _ _ => Make.gives_completeAll _
      change (make { nodes, made := .replicate nodes.size none } >>= fun r => Except.ok (some
        (Assembly.value (nodes.size + 1) [] root
          { made := r.2.made, known := .replicate nodes.size none }).1.1)) = .ok (some v) at h
      cases hmade : make { nodes, made := .replicate nodes.size none } with
      | error e =>
        rw [hmade] at h
        cases h
      | ok r =>
        rw [hmade] at h
        have hkeyed : r.2.IsKeyed := by
          refine (hmake _ (fun id x hx => ?_) r.1 r.2 hmade).1
          rw [getD_replicate_none] at hx
          cases hx
        obtain rfl := Option.some.inj (Except.ok.inj h)
        refine (Assembly.yields_value (nodes.size + 1) [] root
          { made := r.2.made, known := .replicate nodes.size none } ⟨hkeyed, fun id w hw => ?_⟩).2
        rw [getD_replicate_none] at hw
        cases hw

end Yaml
end ToolHost
