import ToolHost.Proofs.Terminal.Portions

/-!
# The characters that are shown

Styles apart, output in portions shows the characters among the lexemes of all that is read of it,
and behind them at most one line feed of what was held back to the end. Nothing is held back but
from the last ESC on.
-/
namespace ToolHost.Terminal

/-- The character that a lexeme shows, if it shows one. -/
def Lexeme.text : Lexeme → List Char
  | .char c => if isUnshown c then [] else [c]
  | _ => []

theorem Lexeme.map_fst_cells (style : Style) (lexeme : Lexeme) :
    (lexeme.cells style).map Prod.fst = lexeme.text := by
  cases lexeme with
  | char c =>
    by_cases hfeed : c = '\n'
    · subst hfeed
      rfl
    · by_cases hunshown : isUnshown c <;> simp [cells, text, hfeed, hunshown]
  | _ => rfl

theorem map_fst_paint (style : Style) (ls : List Lexeme) :
    (paint style ls).map Prod.fst = ls.flatMap Lexeme.text := by
  induction ls generalizing style with
  | nil => rfl
  | cons lexeme ls ih =>
    rw [paint, List.map_append, Lexeme.map_fst_cells, ih, List.flatMap_cons]

theorem mem_text_iff {c : Char} (hshown : isUnshown c = false) (ls : List Lexeme) :
    c ∈ ls.flatMap Lexeme.text ↔ .char c ∈ ls := by
  simp only [List.mem_flatMap]
  constructor
  · rintro ⟨lexeme, hmem, hc⟩
    cases lexeme with
    | char d =>
      by_cases hd : isUnshown d
      · simp [Lexeme.text, hd] at hc
      · obtain rfl : c = d := by simpa [Lexeme.text, hd] using hc
        exact hmem
    | _ => cases hc
  · exact fun hmem => ⟨.char c, hmem, by simp [Lexeme.text, hshown]⟩

/-! ### What is held back at the end -/

/-- Nothing is unfinished that has an ESC behind it. -/
theorem isUnfinished_of_mem {s : List Char} (h : esc ∈ s) : isUnfinished s = false := by
  have hends {t : List Char} (ht : esc ∈ t) : endsHere t = false := by
    rw [endsHere, Bool.or_eq_false_iff, List.isEmpty_eq_false_iff, decide_eq_false_iff_not]
    refine ⟨List.ne_nil_of_mem ht, fun hfeed => ?_⟩
    rw [hfeed, List.mem_singleton] at ht
    exact absurd ht (by decide)
  fun_cases isUnfinished s with
  | case1 params =>
    have hparams : esc ∈ params := (List.mem_cons.1 h).resolve_left (by decide)
    rw [← List.takeWhile_append_dropWhile (p := isHeldParameter) (l := params)] at hparams
    refine hends ((List.mem_append.1 hparams).resolve_left fun htake => ?_)
    exact absurd (List.mem_takeWhile_imp htake) (by decide)
  | case2 payload =>
    have hpayload : esc ∈ payload := (List.mem_cons.1 h).resolve_left (by decide)
    rw [List.all_eq_false]
    exact ⟨esc, hpayload, by decide⟩
  | case3 _ hcontrol hcommand => exact hends h

theorem holdBack_cases (s : List Char) :
    (holdBack s).2 = [] ∨ ∃ rest, (holdBack s).2 = esc :: rest ∧ isUnfinished rest := by
  fun_induction holdBack s with
  | case1 => exact .inl rfl
  | case2 c rest h =>
    obtain ⟨rfl, hopen⟩ : c = esc ∧ isUnfinished rest := by simpa using h
    exact .inr ⟨rest, rfl, hopen⟩
  | case3 c rest _ now held hrest ih => simpa [hrest] using ih

theorem holdBack_of_unfinished {rest : List Char} (h : isUnfinished rest) (before : List Char) :
    holdBack (before ++ esc :: rest) = (before, esc :: rest) := by
  induction before with
  | nil => simp [holdBack, h]
  | cons c before ih =>
    have hclosed : isUnfinished (before ++ esc :: rest) = false := isUnfinished_of_mem (by simp)
    rw [List.cons_append, holdBack, hclosed, ih]
    simp

theorem plain_flush (f : Filter) : f.flush.1.plain = abandon f.held := by
  have hlast (s : List Char) (hs : s = [] ∨ s = ['\n']) : (readText f.style s).1.plain = s := by
    rcases hs with rfl | rfl <;> rfl
  refine hlast _ ?_
  unfold abandon
  split
  · exact .inl rfl
  · split
    · exact .inr rfl
    · exact .inl rfl

/-- Whether output in portions is read to its end: no number in it has too many digits. -/
def IsLegible (portions : List (List Char)) : Prop :=
  ∀ lexeme ∈ (readings [] portions).flatMap lexemes, lexeme.isReadable

instance (portions : List (List Char)) : Decidable (IsLegible portions) :=
  inferInstanceAs (Decidable (∀ lexeme ∈ (readings [] portions).flatMap lexemes, lexeme.isReadable))

/-- All characters that are shown of output in portions. -/
theorem plain_readAll (portions : List (List Char)) :
    (({} : Filter).readAll portions).map StyledText.plain =
      if IsLegible portions then
        some (((readings [] portions).flatMap lexemes).flatMap Lexeme.text ++
          abandon (holdBack portions.flatten).2)
      else none := by
  have hfed := Filter.feedAll_readings (f := {}) (by rfl) portions
  have hmap := congrArg (Option.map fun r => r.1.map Prod.fst ++ abandon r.2.held) hfed
  simp only [Option.map_map, Function.comp_def, StyledText.map_fst_cells, List.nil_append] at hmap
  simp only [Filter.readAll, Option.map_map, Function.comp_def, StyledText.plain_append,
    plain_flush]
  rw [hmap]
  change Option.map _ (if IsLegible portions then _ else _) = _
  split
  · rw [Option.map_some, map_fst_paint]
  · rfl

/-- Something can be said of the characters that are shown exactly if the output is read to its end
and it can be said of the characters among the lexemes and of what is left at the end. -/
theorem exists_readAll_iff (portions : List (List Char)) (P : List Char → Prop) :
    (∃ text, ({} : Filter).readAll portions = some text ∧ P text.plain) ↔
      IsLegible portions ∧ P (((readings [] portions).flatMap lexemes).flatMap Lexeme.text ++
        abandon (holdBack portions.flatten).2) := by
  have hplain := plain_readAll portions
  by_cases hlegible : IsLegible portions
  · rw [if_pos hlegible] at hplain
    obtain ⟨text, hread, htext⟩ := Option.map_eq_some_iff.1 hplain
    simp [hread, htext, hlegible]
  · rw [if_neg hlegible, Option.map_eq_none_iff] at hplain
    simp [hplain, hlegible]

end ToolHost.Terminal
