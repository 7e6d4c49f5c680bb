import Mathlib.Data.List.Infix
import Mathlib.Data.List.Nodup
import Mathlib.Data.List.TakeWhile
import ToolHost.CommandLine.Reading

/-!
# Ambiguous arguments

An argument on its own is refused only if it shortens two long options at once, up to an equals
sign if it has one. To the whole command line that happens with two dashes in front of an equals
sign, and with what the options for the version and for being verbose have in common; to the mode
that runs the tool it never does. Behind two dashes nothing is looked at.
-/
namespace ToolHost.CommandLine

variable {f : Form} {arg : String} {item : Item} {c : Char} {joined : List Char}

/-- The names of a form's options. -/
def Form.spellings (f : Form) : List (List Char) := f.names.map (·.1.toList)

/-- The names of a form are apart and without an equals sign, the short ones of one letter. -/
def Form.IsNamed (f : Form) : Prop :=
  f.spellings.Nodup ∧ ∀ s ∈ f.spellings, '=' ∉ s ∧ (s.take 2 = ['-', '-'] ∨ s.length = 2)

instance (f : Form) : Decidable f.IsNamed := inferInstanceAs (Decidable (_ ∧ _))

/-! ### Names and candidates -/

/-- An argument up to its equals sign. -/
def stem (arg : String) : List Char := arg.toList.takeWhile (· != '=')

theorem toList_of_cutAtEquals {name value : String} (h : cutAtEquals arg = some (name, value)) :
    name.toList = stem arg := by
  unfold cutAtEquals at h
  dsimp only at h
  split at h
  · obtain ⟨rfl, -⟩ := Prod.mk.inj (Option.some.inj h)
    exact String.toList_ofList
  · cases h

theorem stem_of_cutAtEquals (h : cutAtEquals arg = none) : stem arg = arg.toList := by
  unfold cutAtEquals at h
  dsimp only at h
  split at h
  · cases h
  · next hdrop =>
    have hparts := List.takeWhile_append_dropWhile (p := (· != '=')) (l := arg.toList)
    rwa [hdrop, List.append_nil] at hparts

theorem isSome_flag?_iff : (f.flag? arg).isSome ↔ arg.toList ∈ f.spellings := by
  rw [Form.flag?, Form.spellings, List.mem_map, Option.isSome_iff_ne_none, Ne,
    List.lookup_eq_none_iff]
  simp only [← Bool.not_eq_false, bne_eq_false_iff_eq, not_forall, not_not, exists_prop]
  exact exists_congr fun n => and_congr_right fun _ => eq_comm.trans String.toList_inj.symm

/-- The option that an argument names in full, up to its equals sign. -/
def Form.named? (f : Form) (arg : String) : Option Written :=
  match f.flag? arg with
  | some x => some ⟨some x, arg, none⟩
  | none =>
    match cutAtEquals arg with
    | some (name, value) => (f.flag? name).map fun x => ⟨some x, name, some (.value value)⟩
    | none => none

theorem isSome_named?_iff (hf : f.IsNamed) :
    (f.named? arg).isSome ↔ stem arg ∈ f.spellings := by
  have hwhole (h : arg.toList ∈ f.spellings) :
      stem arg = arg.toList :=
    List.takeWhile_eq_self_iff.2 fun c hc => bne_iff_ne.2 fun heq => (hf.2 _ h).1 (heq ▸ hc)
  unfold Form.named?
  cases hflag : f.flag? arg with
  | some x =>
    have hmem := isSome_flag?_iff.1 (Option.isSome_of_eq_some hflag)
    exact iff_of_true rfl ((hwhole hmem).symm ▸ hmem)
  | none =>
    have hnot : arg.toList ∉ f.spellings := fun h => by
      simpa [hflag] using isSome_flag?_iff.2 h
    cases hcut : cutAtEquals arg with
    | none => exact iff_of_false Bool.false_ne_true ((stem_of_cutAtEquals hcut).symm ▸ hnot)
    | some parts =>
      rw [Option.isSome_map, isSome_flag?_iff, toList_of_cutAtEquals hcut]

/-- Of long options all are candidates that the argument shortens. -/
theorem length_candidates_long (h : arg.toList = '-' :: '-' :: joined) :
    (f.candidates arg).length =
      f.spellings.countP (stem arg <+: ·) := by
  have hcount (name : String) (value : Option Joined)
      (hname : name.toList = stem arg) :
      ((f.names.filter fun n => name.isPrefixOf n.1).map fun n =>
        (⟨some n.2, n.1, value⟩ : Written)).length =
        f.spellings.countP (stem arg <+: ·) := by
    rw [List.length_map, ← List.countP_eq_length_filter, Form.spellings, List.countP_map, ← hname]
    refine List.countP_congr fun n _ => ?_
    rw [Function.comp_apply, decide_eq_true_eq]
    exact String.startsWith_string_iff
  unfold Form.candidates
  split
  · cases hcut : cutAtEquals arg with
    | none => exact hcount arg none (stem_of_cutAtEquals hcut).symm
    | some parts => exact hcount parts.1 _ (toList_of_cutAtEquals hcut)
  · next hdash hshort =>
    exact (hdash (List.cons.inj (List.cons.inj (hshort.symm.trans h)).2).1).elim
  · next hlong _ => exact (hlong _ h).elim

/-- Of short options at most one is a candidate. -/
theorem length_candidates_short (hf : f.IsNamed) (h : arg.toList = '-' :: c :: joined)
    (hc : c ≠ '-') : (f.candidates arg).length ≤ 1 := by
  have hcount (g : String × Flag → Option Written)
      (hg : ∀ n ∈ f.names, (g n).isSome → n.1.toList = ['-', c]) :
      (f.names.filterMap g).length ≤ 1 := by
    have hone := List.nodup_iff_count_le_one.1 hf.1 ['-', c]
    rw [List.length_filterMap_eq_countP]
    rw [Form.spellings, List.count, List.countP_map] at hone
    exact (List.countP_mono_left fun n hn hsome => by simpa using hg n hn hsome).trans hone
  unfold Form.candidates
  split
  · next hlong => exact absurd (List.cons.inj (List.cons.inj (h.symm.trans hlong)).2).1 hc
  · next d rest _ hshort =>
    obtain ⟨rfl, rfl⟩ := List.cons.inj (List.cons.inj (h.symm.trans hshort)).2
    refine hcount _ fun n hn hsome => ?_
    split at hsome
    · next heq => rw [heq, String.toList_ofList]
    · split at hsome
      · next hprefix =>
        obtain ⟨more, hmore⟩ := String.startsWith_string_iff.1 hprefix
        rw [h] at hmore
        rcases (hf.2 _ (List.mem_map_of_mem hn)).2 with hdashes | hlength
        · rw [← hmore] at hdashes
          exact absurd (List.cons.inj (List.cons.inj hdashes).2).1 hc
        · rw [← hmore] at hlength ⊢
          obtain rfl : joined = [] := by
            simp only [List.length_append, List.length_cons] at hlength
            exact List.length_eq_zero_iff.1 (by omega)
          obtain rfl : more = [] := by simpa using hlength
          rfl
      · cases hsome
  · exact Nat.zero_le _

/-! ### What an argument is on its own -/

theorem text_of_classify (h : f.classify arg = .ok item) : item.text = arg := by
  unfold Form.classify at h
  split at h
  · exact Except.ok.inj h ▸ rfl
  · exact Except.ok.inj h ▸ rfl
  · dsimp only at h
    split at h
    · exact Except.ok.inj h ▸ rfl
    · split at h
      · exact Except.ok.inj h ▸ rfl
      · split at h <;> exact Except.ok.inj h ▸ rfl
      · cases h
  · exact Except.ok.inj h ▸ rfl

/-- What begins with no dash is a word. -/
theorem classify_of_head? (h : arg.toList.head? ≠ some '-') : f.classify arg = .ok (.word arg) := by
  unfold Form.classify
  split
  · rfl
  · rfl
  · next hdash => exact absurd (hdash ▸ rfl) h
  · rfl

/-- An argument is refused only if it names no option and may be a form of several. -/
theorem exists_classify_iff (h : arg.toList = '-' :: c :: joined) :
    (∃ item, f.classify arg = .ok item) ↔
      (f.named? arg).isSome ∨ (f.candidates arg).length ≤ 1 := by
  unfold Form.classify
  split
  · next hnil => cases h.symm.trans hnil
  · next hsingle => cases h.symm.trans hsingle
  · dsimp only
    split
    · next w hexact =>
      have hnamed : f.named? arg = some w := hexact
      exact iff_of_true ⟨_, rfl⟩ (.inl (Option.isSome_of_eq_some hnamed))
    · next hexact =>
      have hnamed : f.named? arg = none := hexact
      split
      · next w hone => exact iff_of_true ⟨_, rfl⟩ (.inr (hone ▸ le_rfl))
      · next hnone =>
        refine iff_of_true ?_ (.inr (hnone ▸ Nat.zero_le 1))
        split <;> exact ⟨_, rfl⟩
      · next hone hnone =>
        have hseveral : ¬(f.candidates arg).length ≤ 1 := by
          rw [Nat.le_one_iff_eq_zero_or_eq_one, List.length_eq_zero_iff, List.length_eq_one_iff]
          rintro (hnil | ⟨w, hsingle⟩)
          · exact hnone hnil
          · exact hone w hsingle
        refine iff_of_false ?_ (by simp [hnamed, hseveral])
        rintro ⟨item, hitem⟩
        cases hitem
  · next hdash => exact (hdash _ h).elim

theorem exists_classify_long_iff (hf : f.IsNamed) (h : arg.toList = '-' :: '-' :: joined) :
    (∃ item, f.classify arg = .ok item) ↔
      stem arg ∈ f.spellings ∨
        f.spellings.countP (stem arg <+: ·) ≤ 1 := by
  rw [exists_classify_iff h, isSome_named?_iff hf, length_candidates_long h]

/-- What does not begin with two dashes is not refused. -/
theorem exists_classify_short (hf : f.IsNamed) (h : ¬['-', '-'] <+: arg.toList) :
    ∃ item, f.classify arg = .ok item := by
  match hcs : arg.toList with
  | [] => exact ⟨_, classify_of_head? (by simp [hcs])⟩
  | [d] => exact ⟨.word arg, by simp [Form.classify, hcs]⟩
  | d :: c :: joined =>
    by_cases hd : d = '-'
    · subst hd
      rw [hcs] at h
      refine (exists_classify_iff hcs).2 (.inr (length_candidates_short hf hcs ?_))
      rintro rfl
      exact h ⟨joined, rfl⟩
    · exact ⟨_, classify_of_head? (by simp [hcs, hd])⟩

/-! ### All the arguments -/

variable {args rest : List String} {items : List Item}

theorem items_cons (harg : arg ≠ "--") (h : f.classify arg = .ok item) :
    f.items (arg :: rest) = (item :: ·) <$> f.items rest := by
  rw [Form.items, if_neg harg, h]
  rfl

/-- Every argument is looked at by itself, up to two dashes. -/
theorem exists_items_iff :
    (∃ items, f.items args = .ok items) ↔
      ∀ arg ∈ args.takeWhile (· ≠ "--"), ∃ item, f.classify arg = .ok item := by
  induction args with
  | nil => exact iff_of_true ⟨[], rfl⟩ (by simp)
  | cons arg rest ih =>
    by_cases hdashes : arg = "--"
    · rw [Form.items, if_pos hdashes]
      exact iff_of_true ⟨_, rfl⟩ (by simp [hdashes])
    · rw [List.takeWhile_cons_of_pos (by simpa using hdashes), List.forall_mem_cons, ← ih]
      cases hitem : f.classify arg with
      | error stop =>
        rw [Form.items, if_neg hdashes, hitem]
        exact iff_of_false (fun ⟨_, h⟩ => nomatch h) (fun ⟨⟨_, h⟩, _⟩ => nomatch h)
      | ok item =>
        rw [items_cons hdashes hitem]
        cases f.items rest with
        | error stop => exact iff_of_false (fun ⟨_, h⟩ => nomatch h) (fun ⟨_, ⟨_, h⟩⟩ => nomatch h)
        | ok items => exact iff_of_true ⟨_, rfl⟩ ⟨⟨_, rfl⟩, ⟨_, rfl⟩⟩

/-- No argument is changed. -/
theorem text_of_items (h : f.items args = .ok items) : items.map Item.text = args := by
  induction args generalizing items with
  | nil => exact Except.ok.inj h ▸ rfl
  | cons arg rest ih =>
    by_cases hdashes : arg = "--"
    · rw [Form.items, if_pos hdashes] at h
      obtain rfl := Except.ok.inj h
      rw [List.map_cons, List.map_map, hdashes]
      exact congrArg _ (List.map_id' rest)
    · cases hitem : f.classify arg with
      | error stop =>
        rw [Form.items, if_neg hdashes, hitem] at h
        cases h
      | ok item =>
        rw [items_cons hdashes hitem] at h
        cases hitems : f.items rest with
        | error stop =>
          rw [hitems] at h
          cases h
        | ok more =>
          rw [hitems] at h
          obtain rfl := Except.ok.inj h
          rw [List.map_cons, text_of_classify hitem, ih hitems]

/-! ### The whole command line, and the mode that runs the tool -/

/-- What several long options of the whole command line begin with, and none of them is. -/
def sharedStems : List (List Char) := ["--", "--v", "--ve", "--ver"].map String.toList

/-- Whether an argument, up to its equals sign, shortens more than one option of the whole command
line. -/
def IsAmbiguous (arg : String) : Prop := stem arg ∈ sharedStems

instance (arg : String) : Decidable (IsAmbiguous arg) := inferInstanceAs (Decidable (_ ∈ _))

theorem isNamed_mainForm : mainForm.IsNamed := by decide +kernel

theorem isNamed_exec : (modeForm .exec).IsNamed := by decide +kernel

/-- What begins several names begins two that are different. -/
theorem exists_of_countP (hf : f.IsNamed) {start : List Char}
    (h : 1 < f.spellings.countP (start <+: ·)) :
    ∃ a ∈ f.spellings, ∃ b ∈ f.spellings, a ≠ b ∧ start ∈ a.inits ∧ start ∈ b.inits := by
  rw [List.countP_eq_length_filter] at h
  have hnodup := hf.1.filter (start <+: ·)
  match hfound : f.spellings.filter (start <+: ·) with
  | [] => simp [hfound] at h
  | [_] => simp [hfound] at h
  | a :: b :: more =>
    rw [hfound] at hnodup
    have hmem {s : List Char} (hs : s ∈ a :: b :: more) : s ∈ f.spellings ∧ start ∈ s.inits := by
      have hs' := List.mem_filter.1 (hfound ▸ hs)
      exact ⟨hs'.1, (List.mem_inits _ _).2 (of_decide_eq_true hs'.2)⟩
    obtain ⟨ha, hstart⟩ := hmem (List.mem_cons_self ..)
    obtain ⟨hb, hstart'⟩ := hmem (List.mem_cons_of_mem _ (List.mem_cons_self ..))
    refine ⟨a, ha, b, hb, ?_, hstart, hstart'⟩
    rintro rfl
    exact (List.nodup_cons.1 hnodup).1 (List.mem_cons_self ..)

theorem dashes_stem (h : arg.toList = '-' :: '-' :: joined) : ['-', '-'] <+: stem arg := by
  rw [stem, h]
  exact ⟨_, rfl⟩

/-- The whole command line refuses the ambiguous arguments and no other. -/
theorem exists_classify_mainForm_iff :
    (∃ item, mainForm.classify arg = .ok item) ↔ ¬IsAmbiguous arg := by
  by_cases hdashes : ['-', '-'] <+: arg.toList
  · obtain ⟨joined, hjoined⟩ := hdashes
    have hstem := dashes_stem hjoined.symm
    rw [exists_classify_long_iff isNamed_mainForm hjoined.symm, ← not_iff_not, not_not, not_or,
      not_le]
    constructor
    · rintro ⟨-, hseveral⟩
      obtain ⟨a, ha, b, hb, hab, hina, hinb⟩ := exists_of_countP isNamed_mainForm hseveral
      have hshared : ∀ a ∈ mainForm.spellings, ∀ b ∈ mainForm.spellings, a ≠ b →
          ∀ s ∈ a.inits, s ∈ b.inits → ['-', '-'] <+: s → s ∈ sharedStems := by
        decide +kernel
      exact hshared a ha b hb hab _ hina hinb hstem
    · intro hamb
      have hrefused : ∀ s ∈ sharedStems,
          s ∉ mainForm.spellings ∧ 1 < mainForm.spellings.countP (s <+: ·) := by
        decide +kernel
      exact hrefused _ hamb
  · refine iff_of_true (exists_classify_short isNamed_mainForm hdashes) fun hamb => hdashes ?_
    have hbegins : ∀ s ∈ sharedStems, ['-', '-'] <+: s := by decide +kernel
    exact (hbegins _ hamb).trans (List.takeWhile_prefix _)

/-- Behind the mode that runs the tool nothing is refused. -/
theorem exists_classify_exec (arg : String) :
    ∃ item, (modeForm .exec).classify arg = .ok item := by
  by_cases hdashes : ['-', '-'] <+: arg.toList
  · obtain ⟨joined, hjoined⟩ := hdashes
    refine (exists_classify_long_iff isNamed_exec hjoined.symm).2 (.inr ?_)
    by_contra hnot
    have hseveral := not_le.1 hnot
    obtain ⟨a, ha, b, hb, hab, hina, hinb⟩ := exists_of_countP isNamed_exec hseveral
    have hapart : ∀ a ∈ (modeForm .exec).spellings, ∀ b ∈ (modeForm .exec).spellings, a ≠ b →
        ∀ s ∈ a.inits, s ∈ b.inits → ¬['-', '-'] <+: s := by
      decide +kernel
    exact hapart a ha b hb hab _ hina hinb (dashes_stem hjoined.symm)
  · exact exists_classify_short isNamed_exec hdashes

end ToolHost.CommandLine
