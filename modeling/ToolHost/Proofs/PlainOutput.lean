import ToolHost.Proofs.Terminal.Plain
import ToolHost.Proofs.Terminal.Sequences

/-!
# Line feeds and escape characters on display

As many line feeds are shown of output in portions as are in it, whatever escape sequences surround
them. There is one exception: an operating system command that is never terminated is held back to
the end with all that is behind it, and what is held back then is dropped with its line feeds.

No ESC is shown so long as every ESC of a line that is read begins a sequence or belongs to one.
That is a matter of the portions, too: a control sequence that is cut behind an intermediate
character is not held back, so its ESC begins no sequence in the portion it came with. What is held
back to the end shows no ESC in any case.
-/
namespace ToolHost.Terminal

/-! ### Line feeds -/

/-- The lexemes of a stretch of output show the line feeds in it. -/
theorem count_text_lexemes (s : List Char) :
    ((lexemes s).flatMap Lexeme.text).count '\n' = s.count '\n' := by
  have hline {line : List Char} (hfree : '\n' ∉ line) :
      ((lineLexemes line).flatMap Lexeme.text).count '\n' = 0 := by
    rw [List.count_eq_zero, mem_text_iff (by decide)]
    intro hmem
    exact hfree ((chars_sublist_of_mem_lineLexemes hmem).subset (by simp [Lexeme.chars]))
  have hbehind (rest : List (List Char)) (hfree : ∀ line ∈ rest, '\n' ∉ line) :
      ((rest.flatMap fun line => .char '\n' :: lineLexemes line).flatMap Lexeme.text).count '\n' =
        rest.length := by
    induction rest with
    | nil => rfl
    | cons line rest ih =>
      obtain ⟨hfirst, hrest⟩ := List.forall_mem_cons.1 hfree
      have hfeed : (Lexeme.char '\n').text = ['\n'] := rfl
      rw [List.flatMap_cons, List.flatMap_append, List.flatMap_cons, List.count_append,
        List.count_append, hfeed, hline hfirst, ih hrest, List.length_cons]
      simp [Nat.add_comm]
  obtain ⟨first, rest, hcut⟩ := Text.exists_cut_eq_cons '\n' s
  have hfree : ∀ line ∈ first :: rest, '\n' ∉ line := fun line hmem =>
    (Text.sublist_of_mem_cut (hcut ▸ hmem)).2
  obtain ⟨hfirst, hrest⟩ := List.forall_mem_cons.1 hfree
  have hlength := Text.length_cut '\n' s
  rw [hcut, List.length_cons] at hlength
  rw [lexemes, hcut, linesLexemes_cons, List.flatMap_append, List.count_append, hline hfirst,
    hbehind rest hrest]
  omega

theorem count_text_readings (portions : List (List Char)) :
    (((readings [] portions).flatMap lexemes).flatMap Lexeme.text).count '\n' =
      (readings [] portions).flatten.count '\n' := by
  induction readings [] portions with
  | nil => rfl
  | cons s rest ih =>
    rw [List.flatMap_cons, List.flatMap_append, List.count_append, count_text_lexemes, ih,
      List.flatten_cons, List.count_append]

/-- Of a sequence that never completes the line feeds are kept, unless it is an operating system
command with a line feed in it. -/
theorem count_abandon_iff {rest : List Char} (h : isUnfinished rest) :
    (abandon (esc :: rest)).count '\n' = (esc :: rest).count '\n' ↔
      ¬∃ payload, rest = ']' :: payload ∧ '\n' ∈ payload := by
  have hends (before : List Char) {last : List Char} (hfree : '\n' ∉ before) (hlast : endsHere last) :
      (if (before ++ last).getLast? = some '\n' then ['\n'] else []).count '\n' =
        (before ++ last).count '\n' := by
    have hnone : before.count '\n' = 0 := List.count_eq_zero.2 hfree
    rw [endsHere, Bool.or_eq_true, List.isEmpty_iff, decide_eq_true_eq] at hlast
    rcases hlast with rfl | rfl
    · have : before.getLast? ≠ some '\n' := fun hget => hfree (List.mem_of_getLast? hget)
      simp [this, hnone]
    · simp [hnone]
  fun_cases isUnfinished rest with
  | case1 params =>
    have hfree : '\n' ∉ esc :: '[' :: params.takeWhile isHeldParameter := by
      simp only [List.mem_cons, not_or]
      refine ⟨by decide, by decide, fun htake => ?_⟩
      exact absurd (List.mem_takeWhile_imp htake) (by decide)
    have hkept := hends _ hfree h
    rw [List.cons_append, List.cons_append, List.takeWhile_append_dropWhile] at hkept
    simpa [abandon, esc] using hkept
  | case2 payload => simp [abandon, esc, List.count_eq_zero, eq_comm]
  | case3 _ hcontrol hcommand =>
    have hopen : isUnfinished rest = endsHere rest := by
      rw [isUnfinished]
      · exact fun params hparams => hcontrol params hparams
      · exact fun payload hpayload => hcommand payload hpayload
    have hkept := hends [esc] (by decide) (hopen ▸ h)
    have habandon : abandon (esc :: rest) =
        if (esc :: rest).getLast? = some '\n' then ['\n'] else [] := by
      rw [abandon]
      exact fun payload hpayload => hcommand payload (List.cons.inj hpayload).2
    rw [habandon]
    refine iff_of_true hkept ?_
    rintro ⟨payload, hpayload, -⟩
    exact hcommand payload hpayload

/-- Whether output ends within an operating system command that has a line feed in it: there is
neither an ESC nor a bell behind its beginning. -/
def BreaksOff (s : List Char) : Prop :=
  ∃ before payload, s = before ++ esc :: ']' :: payload ∧ esc ∉ payload ∧ '\x07' ∉ payload ∧
    '\n' ∈ payload

theorem isUnfinished_command {payload : List Char} :
    isUnfinished (']' :: payload) ↔ esc ∉ payload ∧ '\x07' ∉ payload := by
  simp only [isUnfinished, List.all_eq_true, Bool.and_eq_true, bne_iff_ne, ne_eq]
  constructor
  · exact fun h => ⟨fun hmem => (h _ hmem).2 rfl, fun hmem => (h _ hmem).1 rfl⟩
  · exact fun h c hc => ⟨fun heq => h.2 (heq ▸ hc), fun heq => h.1 (heq ▸ hc)⟩

/-- The line feeds of what is held back to the end are kept unless the output breaks off. -/
theorem count_held_iff (s : List Char) :
    (abandon (holdBack s).2).count '\n' = (holdBack s).2.count '\n' ↔ ¬BreaksOff s := by
  have hbreaks (hoff : BreaksOff s) : ∃ payload, (holdBack s).2 = esc :: ']' :: payload ∧
      '\n' ∈ payload := by
    obtain ⟨before, payload, rfl, hesc, hbell, hfeed⟩ := hoff
    rw [holdBack_of_unfinished (isUnfinished_command.2 ⟨hesc, hbell⟩)]
    exact ⟨payload, rfl, hfeed⟩
  rcases holdBack_cases s with hnone | ⟨rest, hheld, hopen⟩
  · rw [hnone]
    refine iff_of_true rfl fun hoff => ?_
    obtain ⟨payload, hpayload, -⟩ := hbreaks hoff
    exact absurd (hnone.symm.trans hpayload) (List.cons_ne_nil _ _).symm
  · rw [hheld, count_abandon_iff hopen, not_iff_not]
    constructor
    · rintro ⟨payload, rfl, hfeed⟩
      obtain ⟨hesc, hbell⟩ := isUnfinished_command.1 hopen
      exact ⟨_, payload, hheld ▸ (holdBack_parts s).symm, hesc, hbell, hfeed⟩
    · intro hoff
      obtain ⟨payload, hpayload, hfeed⟩ := hbreaks hoff
      exact ⟨payload, (List.cons.inj (hheld.symm.trans hpayload)).2, hfeed⟩

/-- Output in portions is read to its end with all its line feeds exactly if no number in it has too
many digits and it does not break off within an operating system command with a line feed in it. -/
theorem line_feeds_kept_iff (portions : List (List Char)) :
    (∃ text, ({} : Filter).readAll portions = some text ∧
      text.plain.count '\n' = portions.flatten.count '\n') ↔
    IsLegible portions ∧ ¬BreaksOff portions.flatten := by
  rw [exists_readAll_iff portions fun plain => plain.count '\n' = portions.flatten.count '\n']
  refine and_congr_right fun _ => ?_
  have hparts := congrArg (List.count '\n') (holdBack_parts portions.flatten)
  have hempty : holdBack [] = ([], []) := rfl
  have hread := flatten_readings hempty portions
  rw [List.nil_append] at hread
  rw [List.count_append] at hparts
  rw [← count_held_iff, List.count_append, count_text_readings, hread, ← hparts,
    Nat.add_left_cancel_iff]

/-- A title that is never terminated takes the line behind it away. -/
theorem line_feeds_lost_title :
    ((({} : Filter).readAll ["a\x1b]0;t\nb".toList]).map fun text => text.plain) = some ['a'] ∧
      ["a\x1b]0;t\nb".toList].flatten.count '\n' = 1 := by
  decide

/-! ### Escape characters -/

theorem esc_notMem_abandon (held : List Char) : esc ∉ abandon held := by
  unfold abandon
  split
  · exact List.not_mem_nil
  · split
    · decide
    · exact List.not_mem_nil

/-- Whether an ESC strays in one of the lines that a stretch of output is read in. -/
def HasStray (s : List Char) : Prop :=
  ∃ line ∈ Text.cut '\n' s, Strays (overwritten (chomp line))

theorem esc_mem_lexemes_iff (s : List Char) : .char esc ∈ lexemes s ↔ HasStray s := by
  rw [mem_lexemes_iff (by decide)]
  simp only [lineLexemes, esc_mem_lex_iff, HasStray]

/-- Output in portions is read to its end without an ESC on display exactly if no number in it has
too many digits and no ESC strays in what is read of any portion. -/
theorem escapes_hidden_iff (portions : List (List Char)) :
    (∃ text, ({} : Filter).readAll portions = some text ∧ esc ∉ text.plain) ↔
      IsLegible portions ∧ ∀ s ∈ readings [] portions, ¬HasStray s := by
  rw [exists_readAll_iff portions fun plain => esc ∉ plain]
  refine and_congr_right fun _ => ?_
  rw [List.mem_append, mem_text_iff (by decide), List.mem_flatMap]
  simp only [esc_mem_lexemes_iff, esc_notMem_abandon, or_false, not_exists, not_and]

/-- A control sequence that is cut behind its intermediate character is shown as it is written. -/
theorem escapes_shown_parted :
    ((({} : Filter).readAll ["\x1b[3 ".toList, "q".toList]).map fun text => text.plain) =
        some [esc, '[', '3', ' ', 'q'] ∧
      ((({} : Filter).readAll ["\x1b[3 q".toList]).map fun text => text.plain) = some [] := by
  decide

end ToolHost.Terminal
