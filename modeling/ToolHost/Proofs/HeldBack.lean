import Mathlib.Computability.Language
import ToolHost.Proofs.Terminal.Plain
import ToolHost.Proofs.Terminal.Sequences

/-!
# What is held back

The filter hands on what it is given, all of it, once and in order, but for what it holds back. It
holds back the longest end of what it has in hand that is an escape sequence only begun, and nothing
where no end is one. A line feed behind such a beginning is held back with it.
-/
namespace ToolHost.Terminal

open scoped Computability

/-! ### Beginnings of escape sequences -/

/-- Texts of one character of a kind. -/
def oneOf (P : Char → Prop) : Language Char := {s | ∃ c, P c ∧ s = [c]}

/-- The characters of parameters that are waited for. -/
def heldParameters : List Char := "0123456789;:?".toList

/-- An ESC alone, with parameters of a control sequence, or with an operating system command that
has no terminator yet. -/
def begun : Language Char :=
  {[esc]} * (1 + {['[']} * (oneOf (· ∈ heldParameters))∗ +
    {[']']} * (oneOf fun c => c ≠ '\x07' ∧ c ≠ esc)∗)

/-- Beginnings that reach to the end of a text, or to a line feed there. -/
def begunAtEnd : Language Char := begun * (1 + {['\n']})

theorem mem_kstar_oneOf (P : Char → Prop) (s : List Char) : s ∈ (oneOf P)∗ ↔ ∀ c ∈ s, P c := by
  rw [Language.mem_kstar]
  constructor
  · rintro ⟨parts, rfl, hparts⟩ c hc
    obtain ⟨part, hpart, hc⟩ := List.mem_flatten.1 hc
    obtain ⟨d, hd, rfl⟩ := hparts part hpart
    rwa [List.mem_singleton.1 hc]
  · intro h
    refine ⟨s.map fun c => [c], (List.flatMap_singleton' s).symm, fun part hpart => ?_⟩
    obtain ⟨c, hc, rfl⟩ := List.mem_map.1 hpart
    exact ⟨c, h c hc, rfl⟩

theorem isHeldParameter_iff (c : Char) : isHeldParameter c ↔ c ∈ heldParameters := by
  have hsmall : ∀ n < 64, isHeldParameter (.ofNat n) ↔ .ofNat n ∈ heldParameters := by decide
  have hlisted : heldParameters.all (·.toNat < 64) := by decide
  have hheld (h : isHeldParameter c) : c.toNat < 64 := by
    simp only [isHeldParameter, Bool.or_eq_true, Bool.and_eq_true, decide_eq_true_eq,
      char_le_iff, Char.reduceToNat] at h
    rcases h with ((h | rfl) | rfl) | rfl
    · omega
    all_goals decide
  by_cases hc : c.toNat < 64
  · simpa using hsmall c.toNat hc
  · exact iff_of_false (fun h => hc (hheld h)) fun h =>
      hc (of_decide_eq_true (List.all_eq_true.1 hlisted c h))

theorem endsHere_iff (s : List Char) : endsHere s ↔ s = [] ∨ s = ['\n'] := by
  rw [endsHere, Bool.or_eq_true, List.isEmpty_iff, decide_eq_true_eq]

theorem endsHere_iff_mem (s : List Char) : endsHere s ↔ s ∈ (1 + {['\n']} : Language Char) :=
  endsHere_iff s

/-- The three kinds of beginnings. -/
theorem cons_mem_begunAtEnd_iff (c : Char) (rest : List Char) :
    c :: rest ∈ begunAtEnd ↔ c = esc ∧ (endsHere rest ∨
      (∃ params behind, rest = '[' :: params ++ behind ∧ (∀ d ∈ params, isHeldParameter d) ∧
        endsHere behind) ∨
      ∃ payload behind, rest = ']' :: payload ++ behind ∧ (∀ d ∈ payload, d ≠ '\x07' ∧ d ≠ esc) ∧
        endsHere behind) := by
  simp only [isHeldParameter_iff, endsHere_iff_mem, ← mem_kstar_oneOf]
  constructor
  · rintro ⟨_, ⟨_, rfl, tail, htail, rfl⟩, behind, hbehind, hall⟩
    obtain ⟨rfl, rfl⟩ : esc = c ∧ tail ++ behind = rest := List.cons.inj hall
    refine ⟨rfl, ?_⟩
    rcases htail with (rfl | ⟨_, rfl, params, hparams, rfl⟩) | ⟨_, rfl, payload, hpayload, rfl⟩
    · exact .inl hbehind
    · exact .inr (.inl ⟨params, behind, rfl, hparams, hbehind⟩)
    · exact .inr (.inr ⟨payload, behind, rfl, hpayload, hbehind⟩)
  · rintro ⟨rfl, hrest⟩
    have hbegun {tail behind : List Char} (htail : esc :: tail ∈ begun)
        (hbehind : behind ∈ (1 + {['\n']} : Language Char)) :
        esc :: (tail ++ behind) ∈ begunAtEnd := ⟨_, htail, behind, hbehind, rfl⟩
    rcases hrest with hrest | ⟨params, behind, rfl, hparams, hbehind⟩ |
      ⟨payload, behind, rfl, hpayload, hbehind⟩
    · have halone : [esc] ∈ begun := ⟨_, rfl, [], .inl (.inl rfl), rfl⟩
      exact hbegun halone hrest
    · exact hbegun ⟨_, rfl, _, .inl (.inr ⟨_, rfl, params, hparams, rfl⟩), rfl⟩ hbehind
    · exact hbegun ⟨_, rfl, _, .inr ⟨_, rfl, payload, hpayload, rfl⟩, rfl⟩ hbehind

/-- As much as can be parameters is taken to be parameters. -/
theorem exists_params_iff (s : List Char) :
    (∃ params behind, s = params ++ behind ∧ (∀ d ∈ params, isHeldParameter d) ∧ endsHere behind) ↔
      endsHere (s.dropWhile isHeldParameter) := by
  constructor
  · rintro ⟨params, behind, rfl, hparams, hbehind⟩
    rw [List.dropWhile_append_of_pos hparams]
    rcases (endsHere_iff behind).1 hbehind with rfl | rfl <;> decide
  · intro h
    exact ⟨_, _, List.takeWhile_append_dropWhile.symm, fun _ hd => List.mem_takeWhile_imp hd, h⟩

/-- A line feed at the end may be part of the command. -/
theorem exists_payload_iff (s : List Char) :
    (∃ payload behind, s = payload ++ behind ∧ (∀ d ∈ payload, d ≠ '\x07' ∧ d ≠ esc) ∧
      endsHere behind) ↔ s.all fun c => c != '\x07' && c != esc := by
  simp only [List.all_eq_true, Bool.and_eq_true, bne_iff_ne]
  constructor
  · rintro ⟨payload, behind, rfl, hpayload, hbehind⟩ c hc
    rcases List.mem_append.1 hc with hc | hc
    · exact hpayload c hc
    · rcases (endsHere_iff behind).1 hbehind with rfl | rfl
      · cases hc
      · rw [List.mem_singleton.1 hc]
        decide
  · intro h
    exact ⟨s, [], (List.append_nil s).symm, h, rfl⟩

/-- What follows an ESC is unfinished exactly if the two are a beginning. -/
theorem isUnfinished_iff (rest : List Char) : isUnfinished rest ↔ esc :: rest ∈ begunAtEnd := by
  rw [cons_mem_begunAtEnd_iff, and_iff_right rfl]
  fun_cases isUnfinished rest with
  | case1 params =>
    rw [← exists_params_iff]
    simp [endsHere_iff]
  | case2 payload =>
    rw [← exists_payload_iff]
    simp [endsHere_iff]
  | case3 _ hcontrol hcommand =>
    constructor
    · exact .inl
    · rintro (h | ⟨_, _, rfl, -⟩ | ⟨_, _, rfl, -⟩)
      · exact h
      · exact absurd rfl (hcontrol _)
      · exact absurd rfl (hcommand _)

theorem exists_esc_of_mem {s : List Char} (h : s ∈ begunAtEnd) : ∃ rest, s = esc :: rest := by
  obtain ⟨_, ⟨_, rfl, tail, -, rfl⟩, behind, -, rfl⟩ := h
  exact ⟨tail ++ behind, rfl⟩

/-! ### The longest end -/

/-- The longest end of a text that belongs to a language, or nothing where no end does. -/
inductive IsLongestEnd (L : Language Char) (s : List Char) : List Char → Prop
  | found {held : List Char} (suffix : held <:+ s) (mem : held ∈ L)
      (longest : ∀ t, t <:+ s → t ∈ L → t.length ≤ held.length) : IsLongestEnd L s held
  | none (missing : ∀ t, t <:+ s → t ∉ L) : IsLongestEnd L s []

theorem IsLongestEnd.cons {L : Language Char} {s held : List Char} (h : IsLongestEnd L s held)
    {c : Char} (hwhole : c :: s ∉ L) : IsLongestEnd L (c :: s) held := by
  cases h with
  | found suffix mem longest =>
    refine .found (suffix.trans (List.suffix_cons c s)) mem fun t ht htL => ?_
    obtain rfl | ht := List.suffix_cons_iff.1 ht
    · exact absurd htL hwhole
    · exact longest t ht htL
  | none missing =>
    refine .none fun t ht htL => ?_
    obtain rfl | ht := List.suffix_cons_iff.1 ht
    · exact hwhole htL
    · exact missing t ht htL

/-- The cut is made before the first ESC that will do, and that leaves the longest end. -/
theorem holdBack_isLongestEnd (s : List Char) : IsLongestEnd begunAtEnd s (holdBack s).2 := by
  fun_induction holdBack s with
  | case1 =>
    refine .none fun t ht htL => ?_
    obtain ⟨rest, rfl⟩ := exists_esc_of_mem htL
    exact List.cons_ne_nil _ _ (List.suffix_nil.1 ht)
  | case2 c rest h =>
    obtain ⟨rfl, hopen⟩ : c = esc ∧ isUnfinished rest := by simpa using h
    exact .found List.suffix_rfl ((isUnfinished_iff rest).1 hopen) fun t ht _ => ht.length_le
  | case3 c rest h now held hrest ih =>
    rw [hrest] at ih
    refine ih.cons fun hwhole => h ?_
    obtain ⟨_, hesc⟩ := exists_esc_of_mem hwhole
    obtain ⟨rfl, -⟩ := List.cons.inj hesc
    simpa using (isUnfinished_iff rest).2 hwhole

/-! ### One portion after another -/

namespace Filter

/-- The filter after some portions. -/
def after (f : Filter) (portions : List (List Char)) : Filter :=
  portions.foldl (fun f portion => (f.feed portion).2) f

/-- What the filter shows of portions, one after another. -/
def showings (f : Filter) : List (List Char) → List StyledText
  | [] => []
  | portion :: rest => (f.feed portion).1 :: (f.feed portion).2.showings rest

end Filter

/-- What is shown of texts that are read one after another, with the style carried over. -/
def readTexts (style : Style) : List (List Char) → List StyledText
  | [] => []
  | s :: rest => (readText style s).1 :: readTexts (readText style s).2 rest

namespace Filter

theorem showings_eq (f : Filter) (portions : List (List Char)) :
    f.showings portions = readTexts f.style (readings f.held portions) := by
  induction portions generalizing f with
  | nil => rfl
  | cons portion rest ih =>
    rw [showings, ih]
    rfl

/-- Nothing is lost, repeated or put in another order by one portion. -/
theorem feed_parts (f : Filter) (portion : List Char) :
    (holdBack (f.held ++ portion)).1 ++ (f.feed portion).2.held = f.held ++ portion :=
  holdBack_parts (f.held ++ portion)

/-- Nor is it by any number of them. -/
theorem after_parts (f : Filter) (portions : List (List Char)) :
    (readings f.held portions).flatten ++ (f.after portions).held = f.held ++ portions.flatten := by
  induction portions generalizing f with
  | nil => simp [readings, after]
  | cons portion rest ih =>
    calc (readings f.held (portion :: rest)).flatten ++ (f.after (portion :: rest)).held
      _ = (holdBack (f.held ++ portion)).1 ++
          ((readings (f.feed portion).2.held rest).flatten ++
            ((f.feed portion).2.after rest).held) := List.append_assoc _ _ _
      _ = (holdBack (f.held ++ portion)).1 ++ (f.feed portion).2.held ++ rest.flatten := by
        rw [ih, List.append_assoc]
      _ = f.held ++ (portion :: rest).flatten := by
        rw [feed_parts, List.append_assoc, List.flatten_cons]

/-- What is held back after some portions is the end of all of them. -/
theorem held_after (portions : List (List Char)) :
    (({} : Filter).after portions).held = (holdBack portions.flatten).2 := by
  have hparts := ({} : Filter).after_parts portions
  have hempty : holdBack [] = ([], []) := rfl
  have hread := flatten_readings hempty portions
  rw [List.nil_append] at hparts hread
  rw [hread] at hparts
  exact List.append_cancel_left (hparts.trans (holdBack_parts _).symm)

end Filter

/-- After any portions, what was read and what is held back are the portions, in order; what is held
back begins with an ESC, if it is anything; and of the next portion, together with it, the longest
end that is a beginning is held back. What was read is what the filter has shown. -/
theorem handed_on_or_held (portions : List (List Char)) :
    let f := ({} : Filter).after portions
    ({} : Filter).showings portions = readTexts none (readings [] portions) ∧
    (readings [] portions).flatten ++ f.held = portions.flatten ∧
    (f.held = [] ∨ f.held.head? = some esc) ∧
    ∀ portion, IsLongestEnd begunAtEnd (f.held ++ portion) (f.feed portion).2.held := by
  intro f
  refine ⟨Filter.showings_eq {} portions, Filter.after_parts {} portions, ?_,
    fun portion => holdBack_isLongestEnd (f.held ++ portion)⟩
  have hheld : f.held = (holdBack portions.flatten).2 := Filter.held_after portions
  rw [hheld]
  cases holdBack_cases portions.flatten with
  | inl hnone => exact .inl hnone
  | inr hsome =>
    obtain ⟨rest, hrest, -⟩ := hsome
    exact .inr (congrArg List.head? hrest)

-- The line feed behind parameters is held back with them.
example : (({} : Filter).feed "a\x1b[3\n".toList).2.held = "\x1b[3\n".toList := by decide

end ToolHost.Terminal
