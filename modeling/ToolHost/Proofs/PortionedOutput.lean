import ToolHost.Proofs.Terminal.Portions

/-!
# Output read in portions

The filter shows of output in portions what it shows of the same output in one piece, so long as no
cut parts what belongs together: a line that is overwritten from its start, or an escape sequence
that is not held back. What is cut is the output less what is held back, so a cut inside a control
sequence or an operating system command, before its terminator, is none.
-/
namespace ToolHost.Terminal

/-- Whether a cut leaves the line that it falls into as it is: of what has been read until there and
what is read next. -/
def KeepsLine (read next : List Char) : Prop := Joins (lastLine read) (firstLine next)

instance (read next : List Char) : Decidable (KeepsLine read next) :=
  inferInstanceAs (Decidable (Joins _ _))

/-- All characters shown, with their styles, are those of the output in one piece; and it is read to
its end exactly if that can be. -/
theorem readAll_eq_whole (portions : List (List Char)) (h : Cuts KeepsLine [] [] portions) :
    (({} : Filter).readAll portions).map StyledText.cells =
      (({} : Filter).readAll [portions.flatten]).map StyledText.cells := by
  have hread (portions : List (List Char)) (h : Cuts Apart [] [] portions) :
      (({} : Filter).feedAll portions).map (fun r => (r.1.cells, r.2)) =
        if ∀ lexeme ∈ lexemes (holdBack portions.flatten).1, lexeme.isReadable then
          some (paint none (lexemes (holdBack portions.flatten).1),
            ⟨restyle none (lexemes (holdBack portions.flatten).1), (holdBack portions.flatten).2⟩)
        else none := by
    obtain ⟨more, hmore, hfed⟩ := Filter.feedAll_eq (f := {}) (by rfl) h
    simp only [List.nil_append, lexemes_nil] at hmore hfed
    rwa [← hmore] at hfed
  have hwhole : Cuts Apart [] [] [portions.flatten] := ⟨by simp [Apart], trivial⟩
  have hsame : (({} : Filter).feedAll portions).map (fun r => (r.1.cells, r.2)) =
      (({} : Filter).feedAll [portions.flatten]).map (fun r => (r.1.cells, r.2)) := by
    rw [hread _ (h.mono fun _ _ => apart_of_joins), hread _ hwhole, List.flatten_singleton]
  have hflush := congrArg (Option.map fun r => r.1 ++ r.2.flush.1.cells) hsame
  simpa [Filter.readAll, Function.comp_def] using hflush

theorem readAll_eq_whole_link :
    let portions := ["a\x1b[3", "1mb\r", "\nc\x1b]8;;x", "\x1b\\d\x1b", "[0me"].map String.toList
    Cuts KeepsLine [] [] portions ∧
      (({} : Filter).readAll portions).map StyledText.cells =
        (({} : Filter).readAll [portions.flatten]).map StyledText.cells :=
  ⟨by decide, readAll_eq_whole _ (by decide)⟩

theorem readAll_ne_whole :
    (({} : Filter).readAll ["abc\r".toList, "d".toList]).map StyledText.cells ≠
      (({} : Filter).readAll ["abc\rd".toList]).map StyledText.cells := by
  decide

end ToolHost.Terminal
