import ToolHost.Shell.Quote
import Mathlib.Tactic

/-!
# Words survive a command line

A word that is written on a command line is read back as it was: a harmless one is read outside
quotes from its first character on, and of any other one the reader collects character by character
what stands between the quotes, with a detour through double quotes for each single quote.
-/
namespace ToolHost.Shell

variable {c : Char} {word rest : List Char}

/-- A harmless character has no meaning for the reader. -/
theorem plain_of_harmless (h : isHarmless c = true) :
    isSeparator c = false ∧ c ≠ '\'' ∧ c ≠ '"' ∧ c ≠ '\\' := by
  have apart {d : Char} (hd : isHarmless d = false) : c ≠ d := by
    rintro rfl
    rw [h] at hd
    cases hd
  refine ⟨?_, apart (by decide), apart (by decide), apart (by decide)⟩
  simp [isSeparator, apart (show isHarmless ' ' = false by decide),
    apart (show isHarmless '\t' = false by decide), apart (show isHarmless '\r' = false by decide),
    apart (show isHarmless '\n' = false by decide)]

/-- Harmless characters go to the word under way. -/
theorem wordsFrom_bare_harmless (h : ∀ c ∈ word, isHarmless c = true) (done : List Char) :
    wordsFrom .bare done (word ++ rest) = wordsFrom .bare (word.reverse ++ done) rest := by
  induction word generalizing done with
  | nil => rfl
  | cons c word ih =>
    obtain ⟨hseparator, hsingle, hdouble, hescape⟩ := plain_of_harmless (h c List.mem_cons_self)
    rw [List.cons_append, wordsFrom]
    simp only [hseparator, hsingle, hdouble, hescape, if_false, Bool.false_eq_true]
    rw [ih (fun d hd => h d (List.mem_cons_of_mem _ hd)), List.reverse_cons, List.append_assoc]
    rfl

/-- Between single quotes everything goes to the word under way. -/
theorem wordsFrom_quoted (word done : List Char) :
    wordsFrom .singleQuoted done (word.flatMap quoteChar ++ '\'' :: rest) =
      wordsFrom .bare (word.reverse ++ done) rest := by
  induction word generalizing done with
  | nil => simp [wordsFrom]
  | cons c word ih =>
    rw [List.flatMap_cons, List.append_assoc, List.reverse_cons, List.append_assoc,
      List.singleton_append, ← ih]
    by_cases hc : c = '\''
    · subst hc
      simp [quoteChar, wordsFrom, isSeparator]
    · simp [quoteChar, wordsFrom, hc]

/-- A word that was written is read as a whole. -/
theorem wordsFrom_quoteWord (word done rest : List Char) :
    wordsFrom .between done (quoteWord word ++ rest) = wordsFrom .bare word.reverse rest := by
  rw [quoteWord]
  split
  next h =>
    obtain ⟨hnonempty, hall⟩ := Bool.and_eq_true_iff.mp h
    cases word with
    | nil => cases hnonempty
    | cons c word =>
      have hharmless := List.all_eq_true.mp hall
      obtain ⟨hseparator, hsingle, hdouble, hescape⟩ :=
        plain_of_harmless (hharmless c List.mem_cons_self)
      rw [List.cons_append, wordsFrom]
      simp only [hseparator, hsingle, hdouble, hescape, if_false, Bool.false_eq_true]
      rw [wordsFrom_bare_harmless fun d hd => hharmless d (List.mem_cons_of_mem _ hd),
        List.reverse_cons]
  next =>
    rw [List.cons_append, List.cons_append, List.append_assoc, List.singleton_append, wordsFrom]
    simp [isSeparator, wordsFrom_quoted]

/-- A command line is its words, each written for itself, with a blank in between. -/
theorem toList_join (words : List String) :
    (join words).toList = [' '].intercalate (words.map fun w => quoteWord w.toList) := by
  rw [join, String.toList_intercalate, List.map_map]
  congr 1
  exact List.map_congr_left fun w _ => String.toList_ofList

/-- The words of a command line are those that were written on it. -/
theorem split_join (words : List String) : split (join words) = .ok words := by
  have read (words : List String) : wordsFrom .between []
      ([' '].intercalate (words.map fun w => quoteWord w.toList)) =
        .ok (words.map String.toList) := by
    induction words with
    | nil => rfl
    | cons w words ih =>
      cases words with
      | nil =>
        have hone := wordsFrom_quoteWord w.toList [] []
        rw [List.append_nil] at hone
        simp [hone, wordsFrom]
      | cons v words =>
        simp only [List.map_cons, List.intercalate_cons_cons, List.append_assoc,
          List.singleton_append] at ih ⊢
        rw [wordsFrom_quoteWord, wordsFrom]
        simp only [isSeparator, decide_true, Bool.true_or, if_true]
        rw [ih, Except.map, List.reverse_reverse]
  rw [split, toList_join, read, Except.map, List.map_map]
  have hback : String.ofList ∘ String.toList = id := by
    funext s
    exact String.ofList_toList
  rw [hback, List.map_id]

end ToolHost.Shell
