import Mathlib.Data.List.Chain
import ToolHost.Proofs.Terminal.Portions
import ToolHost.Proofs.Terminal.Sequences

/-!
# Well-formed output

Output made of ordinary characters, line feeds, carriage returns in front of line feeds, and
complete control sequences falls into the pieces of which it was written, and what may still be
unfinished is never more than the beginning of one control sequence. So such output can be cut
anywhere.
-/
namespace ToolHost.Terminal

/-- A piece of well-formed output. -/
inductive Piece
  | char (c : Char) (ordinary : c ≠ esc ∧ c ≠ '\n' ∧ c ≠ '\r')
  | feed
  | ret
  | control (params : List Char) (final : Char)
      (digits : ∀ c ∈ params, c.isDigit ∨ c = ';' ∨ c = ':' ∨ c = '?')
      (ends : '@' ≤ final ∧ final ≤ '~')

namespace Piece

def chars : Piece → List Char
  | char c _ => [c]
  | feed => ['\n']
  | ret => ['\r']
  | control params final _ _ => esc :: '[' :: params ++ [final]

/-- What may stand behind a piece: a carriage return only goes on with another one or with the line
feed. -/
def Precedes : Piece → Piece → Prop
  | ret, ret | ret, feed => True
  | ret, _ => False
  | _, _ => True

/-- Whether a piece can be read: where it selects a rendition, no number has too many digits. -/
def IsReadable : Piece → Prop
  | control params final _ _ =>
    final = 'm' → ∀ param ∈ Text.cut ';' params, Terminal.isReadable param
  | _ => True

/-- What is shown of pieces: every character in the style that all the renditions before it make
up. -/
def shows (style : Style) : List Piece → List (Char × Style)
  | [] => []
  | char c _ :: rest =>
    if c ∈ ['\x07', '\x08', '\x0b', '\x0c'] then shows style rest
    else (c, style) :: shows style rest
  | feed :: rest => ('\n', none) :: shows style rest
  | ret :: rest => shows style rest
  | control params final _ _ :: rest =>
    shows (if final = 'm' then style.render params else style) rest

/-- The lexemes of a piece. -/
def lexemes : Piece → List Lexeme
  | char c _ => [.char c]
  | feed => [.char '\n']
  | ret => []
  | control params final _ _ => [if final = 'm' then .rendition params else .control]

/-- A piece that takes its place within a line. -/
def IsInline : Piece → Prop
  | char .. | control .. => True
  | feed | ret => False

end Piece

/-- The output that pieces make up. -/
def spelled (ps : List Piece) : List Char := ps.flatMap Piece.chars

@[simp] theorem spelled_nil : spelled [] = [] := rfl

@[simp] theorem spelled_cons (p : Piece) (ps : List Piece) :
    spelled (p :: ps) = p.chars ++ spelled ps := rfl

@[simp] theorem spelled_append (ps qs : List Piece) :
    spelled (ps ++ qs) = spelled ps ++ spelled qs := List.flatMap_append

/-! ### Characters of a control sequence -/

section Characters

variable {c : Char}

theorem parameter_digits (h : c.isDigit ∨ c = ';' ∨ c = ':' ∨ c = '?') :
    isParameter c ∧ isHeldParameter c ∧ c ≠ esc ∧ c ≠ '\n' ∧ c ≠ '\r' := by
  rcases h with h | rfl | rfl | rfl
  · simp only [Char.isDigit, Bool.and_eq_true, decide_eq_true_eq] at h
    have low : '0' ≤ c := h.1
    have high : c ≤ '9' := h.2
    have last : c ≤ '?' := char_le_iff.mpr ((char_le_iff.mp high).trans (by decide))
    refine ⟨by simp [isParameter, low, last], by simp [isHeldParameter, low, high], ?_, ?_, ?_⟩ <;>
      (rintro rfl; exact absurd low (by decide))
  · decide
  · decide
  · decide

theorem final_ends (h : '@' ≤ c ∧ c ≤ '~') :
    isFinal c ∧ isParameter c = false ∧ isIntermediate c = false ∧ isHeldParameter c = false ∧
      c ≠ esc ∧ c ≠ '\n' ∧ c ≠ '\r' := by
  have from_at : 64 ≤ c.toNat := char_le_iff.mp h.1
  have above {d : Char} (hd : d.toNat < 64) : ¬ c ≤ d := fun hc =>
    absurd (from_at.trans (char_le_iff.mp hc)) (not_le.mpr hd)
  have other {d : Char} (hd : d.toNat < 64) : c ≠ d := fun e =>
    above hd (char_le_iff.mpr (e ▸ le_rfl))
  refine ⟨by simp [isFinal, h], ?_, ?_, ?_, other (by decide), other (by decide), other (by decide)⟩
  · simp [isParameter, above (d := '?') (by decide)]
  · simp [isIntermediate, above (d := '/') (by decide)]
  · simp [isHeldParameter, above (d := '9') (by decide), other (d := ';') (by decide),
      other (d := ':') (by decide), other (d := '?') (by decide)]

end Characters

/-! ### Lexemes -/

theorem lex_char {c : Char} (h : c ≠ esc) (rest : List Char) :
    lex (c :: rest) = .char c :: lex rest := by
  simp [lex, lexFrom, h]

theorem lexFrom_append (s rest : List Char) : lexFrom s.length (s ++ rest) = lexFrom 0 rest := by
  induction s with
  | nil => rfl
  | cons c s ih => exact ih

theorem sequence?_control {params : List Char} {final : Char}
    (digits : ∀ c ∈ params, c.isDigit ∨ c = ';' ∨ c = ':' ∨ c = '?')
    (ends : '@' ≤ final ∧ final ≤ '~') (rest : List Char) :
    sequence? ('[' :: params ++ final :: rest) =
      some (if final = 'm' then .rendition params else .control, params.length + 2) := by
  have whole : IsControl params [] final :=
    ⟨fun c hc => (parameter_digits (digits c hc)).1, nofun, (final_ends ends).1⟩
  simpa using whole.sequence?_eq rest

/-- A piece within a line is read as such, whatever stands behind it. -/
theorem Piece.IsInline.lex_append {p : Piece} (h : p.IsInline) (rest : List Char) :
    lex (p.chars ++ rest) = p.lexemes ++ lex rest := by
  cases p with
  | char c ordinary => exact lex_char ordinary.1 rest
  | control params final digits ends =>
    have whole := sequence?_control digits ends rest
    have skipped := lexFrom_append ('[' :: params ++ [final]) rest
    rw [List.append_assoc, List.singleton_append, List.length_append, List.length_cons] at skipped
    have text : (Piece.control params final digits ends).chars ++ rest =
        esc :: ('[' :: params ++ final :: rest) := by simp [Piece.chars]
    rw [text, lex, lexFrom, if_pos rfl, whole]
    exact congrArg _ skipped
  | feed => exact h.elim
  | ret => exact h.elim

section Line

variable {line : List Piece} (inline : ∀ p ∈ line, p.IsInline)

include inline

theorem lex_spelled : lex (spelled line) = line.flatMap Piece.lexemes := by
  induction line with
  | nil => rfl
  | cons p line ih =>
    rw [spelled_cons, (inline p List.mem_cons_self).lex_append,
      ih fun q hq => inline q (List.mem_cons_of_mem _ hq), List.flatMap_cons]

/-- Within a line there is neither a line feed nor a carriage return. -/
theorem notMem_spelled : '\n' ∉ spelled line ∧ '\r' ∉ spelled line := by
  have within : ∀ c ∈ spelled line, c ≠ '\n' ∧ c ≠ '\r' := by
    intro c hc
    obtain ⟨p, hp, hm⟩ := List.mem_flatMap.mp hc
    cases p with
    | char d ordinary => exact List.mem_singleton.mp hm ▸ ordinary.2
    | control params final digits ends =>
      simp only [Piece.chars, List.cons_append, List.mem_cons, List.mem_append, List.not_mem_nil,
        or_false] at hm
      rcases hm with rfl | rfl | hm | rfl
      · decide
      · decide
      · exact (parameter_digits (digits c hm)).2.2.2
      · exact (final_ends ends).2.2.2.2.2
    | feed => exact (inline _ hp).elim
    | ret => exact (inline _ hp).elim
  exact ⟨fun h => (within _ h).1 rfl, fun h => (within _ h).2 rfl⟩

theorem lineLexemes_spelled (r : Nat) :
    lineLexemes (spelled line ++ List.replicate r '\r') = line.flatMap Piece.lexemes := by
  have noReturn := (notMem_spelled inline).2
  have returns : (List.replicate r '\r').all (· == '\r') := by simp
  have whole := lineLexemes_of_notMem noReturn
  rw [lineLexemes] at whole
  rw [lineLexemes, chomp_append_of_all returns, whole, lex_spelled inline]

end Line

theorem cut_of_notMem {sep : Char} {s : List Char} (h : sep ∉ s) : Text.cut sep s = [s] := by
  induction s with
  | nil => rfl
  | cons c s ih =>
    obtain ⟨hc, hs⟩ := not_or.mp (mt List.mem_cons.mpr h)
    exact Text.cut_cons_ne (Ne.symm hc) (ih hs)

/-- Output that goes on behind a line and carriage returns. -/
theorem lexemes_behind {line : List Piece} (inline : ∀ p ∈ line, p.IsInline) (r : Nat)
    {ps : List Piece} (chain : ps.IsChain Piece.Precedes)
    (front : r ≠ 0 → (Piece.ret :: ps).IsChain Piece.Precedes) :
    lexemes (spelled line ++ List.replicate r '\r' ++ spelled ps) =
      line.flatMap Piece.lexemes ++ ps.flatMap Piece.lexemes := by
  induction ps generalizing line r with
  | nil =>
    have none : '\n' ∉ spelled line ++ List.replicate r '\r' := by
      simp [(notMem_spelled inline).1, List.mem_replicate]
    rw [spelled_nil, List.append_nil, lexemes, cut_of_notMem none]
    exact (lineLexemes_spelled inline r).trans (List.append_nil _).symm
  | cons p ps ih =>
    have rest : ps.IsChain Piece.Precedes := chain.tail
    -- A piece within the line joins it; there are no carriage returns in front of it.
    have join (hp : p.IsInline) (bare : ¬ Piece.ret.Precedes p) :
        lexemes (spelled line ++ List.replicate r '\r' ++ spelled (p :: ps)) =
          line.flatMap Piece.lexemes ++ (p :: ps).flatMap Piece.lexemes := by
      have none : r = 0 := by
        by_contra hr
        exact bare (List.isChain_cons_cons.mp (front hr)).1
      have wider : ∀ q ∈ line ++ [p], q.IsInline := by
        simpa [or_imp, forall_and] using ⟨inline, hp⟩
      have longer := ih wider 0 rest fun h => absurd rfl h
      simpa [none] using longer
    cases p with
    | char c ordinary => exact join trivial id
    | control params final digits ends => exact join trivial id
    | ret =>
      have more := ih inline (r + 1) rest fun _ => chain
      rw [List.replicate_succ'] at more
      simpa [Piece.chars, Piece.lexemes] using more
    | feed =>
      have none : '\n' ∉ spelled line ++ List.replicate r '\r' := by
        simp [(notMem_spelled inline).1, List.mem_replicate]
      have nothing : ∀ q ∈ ([] : List Piece), q.IsInline := List.forall_mem_nil _
      have next : lexemes (spelled ps) = ps.flatMap Piece.lexemes :=
        ih nothing 0 rest fun h => absurd rfl h
      have bare : Text.cut '\n' (spelled line ++ List.replicate r '\r') =
          [] ++ [spelled line ++ List.replicate r '\r'] := cut_of_notMem none
      have cut := Text.cut_append bare (Text.cut_cons_self '\n' (spelled ps))
      obtain ⟨first, more, hcut⟩ := Text.exists_cut_eq_cons '\n' (spelled ps)
      have text : spelled (.feed :: ps) = '\n' :: spelled ps := rfl
      rw [text, lexemes, cut, List.append_nil, List.nil_append, hcut, linesLexemes,
        lineLexemes_spelled inline, ← hcut, ← lexemes, next]
      · rfl
      · simp

/-- Well-formed output has the lexemes of its pieces. -/
theorem lexemes_spelled {ps : List Piece} (chain : ps.IsChain Piece.Precedes) :
    lexemes (spelled ps) = ps.flatMap Piece.lexemes :=
  have nothing : ∀ q ∈ ([] : List Piece), q.IsInline := nofun
  lexemes_behind nothing 0 chain fun h => absurd rfl h

theorem paint_lexemes (style : Style) (ps : List Piece) :
    paint style (ps.flatMap Piece.lexemes) = Piece.shows style ps := by
  induction ps generalizing style with
  | nil => rfl
  | cons p ps ih =>
    rw [List.flatMap_cons, paint_append, ih]
    cases p with
    | char c ordinary =>
      obtain ⟨_, noFeed, noReturn⟩ := ordinary
      by_cases unshown : c ∈ ['\x07', '\x08', '\x0b', '\x0c']
      · have hidden : isUnshown c := by
          simp only [List.mem_cons, List.not_mem_nil, or_false] at unshown
          rcases unshown with rfl | rfl | rfl | rfl <;> rfl
        simp [Piece.lexemes, paint, Lexeme.cells, Piece.shows, noFeed, hidden, unshown, Lexeme.restyle]
      · have visible : isUnshown c = false := by
          simp only [List.mem_cons, List.not_mem_nil, or_false, not_or] at unshown
          simp [isUnshown, unshown, noReturn]
        simp [Piece.lexemes, paint, Lexeme.cells, Piece.shows, noFeed, visible, unshown, Lexeme.restyle]
    | feed => rfl
    | ret => rfl
    | control params final digits ends =>
      by_cases m : final = 'm' <;>
        simp [Piece.lexemes, paint, Lexeme.cells, Piece.shows, m, Lexeme.restyle]

theorem Piece.isReadable_of_mem {p : Piece} (h : p.IsReadable) :
    ∀ lexeme ∈ p.lexemes, lexeme.isReadable := by
  intro lexeme hm
  cases p with
  | control params final digits ends =>
    rw [List.mem_singleton.mp hm]
    split
    · next m => exact List.all_eq_true.mpr (h m)
    · rfl
  | char c ordinary => rw [List.mem_singleton.mp hm]; rfl
  | feed => rw [List.mem_singleton.mp hm]; rfl
  | ret => cases hm

/-! ### What is held back of it -/

/-- Nothing of a piece is held back once it is complete. -/
theorem holdBack_piece (p : Piece) (rest : List Char) :
    holdBack (p.chars ++ rest) = (p.chars ++ (holdBack rest).1, (holdBack rest).2) := by
  cases p with
  | char c ordinary =>
    exact holdBack_append_of_notMem (by simpa [Piece.chars] using ordinary.1.symm) rest
  | feed => exact holdBack_append_of_notMem (by decide) rest
  | ret => exact holdBack_append_of_notMem (by decide) rest
  | control params final digits ends =>
    obtain ⟨_, _, _, noHeld, noEsc, noFeed, _⟩ := final_ends ends
    have behind : esc ∉ '[' :: params ++ [final] := by
      intro hm
      simp only [List.cons_append, List.mem_cons, List.mem_append, List.not_mem_nil, or_false] at hm
      rcases hm with e | hm | e
      · exact absurd e (by decide)
      · exact (parameter_digits (digits _ hm)).2.2.1 rfl
      · exact noEsc e.symm
    have finished : isUnfinished ('[' :: params ++ [final] ++ rest) = false := by
      have dropped : (params ++ [final] ++ rest).dropWhile isHeldParameter = final :: rest := by
        rw [List.append_assoc, List.dropWhile_append_of_pos fun c hc =>
          (parameter_digits (digits c hc)).2.1]
        exact List.dropWhile_cons_of_neg (by simp [noHeld])
      rw [List.cons_append, List.cons_append, isUnfinished, dropped]
      simp [endsHere, noFeed]
    have text : (Piece.control params final digits ends).chars = esc :: ('[' :: params ++ [final]) :=
      rfl
    rw [text, List.cons_append, holdBack, finished, holdBack_append_of_notMem behind]
    rfl

theorem holdBack_spelled (ps : List Piece) (rest : List Char) :
    holdBack (spelled ps ++ rest) = (spelled ps ++ (holdBack rest).1, (holdBack rest).2) := by
  induction ps with
  | nil => rfl
  | cons p ps ih =>
    rw [spelled_cons, List.append_assoc, holdBack_piece, ih]
    simp

/-- The beginning of the first of some pieces, of which the end at least is missing. -/
def IsBegun (part : List Char) : List Piece → Prop
  | [] => part = []
  | p :: _ => part <+: p.chars.dropLast

/-- A piece that is not complete is held back. -/
theorem IsBegun.holdBack {part : List Char} {more : List Piece} (h : IsBegun part more) :
    holdBack part = ([], part) := by
  obtain _ | ⟨c, rest⟩ := part
  · rfl
  cases more with
  | nil => cases h
  | cons p more =>
    cases p with
    | control params final digits ends =>
      have begun : c :: rest <+: esc :: '[' :: params := by
        have dropped : (Piece.control params final digits ends).chars.dropLast =
            esc :: '[' :: params := by
          change ((esc :: '[' :: params) ++ [final]).dropLast = _
          exact List.dropLast_concat
        exact dropped ▸ h
      obtain ⟨rfl, opened⟩ := List.cons_prefix_cons.mp begun
      have unfinished : isUnfinished rest := by
        obtain _ | ⟨d, held⟩ := rest
        · rfl
        · obtain ⟨rfl, within⟩ := List.cons_prefix_cons.mp opened
          have none : held.dropWhile isHeldParameter = [] :=
            List.dropWhile_eq_nil_iff.mpr fun x hx =>
              (parameter_digits (digits x (within.subset hx))).2.1
          rw [isUnfinished, none]
          rfl
      rw [Terminal.holdBack, unfinished]
      rfl
    | char d ordinary => cases List.prefix_nil.mp h
    | feed => cases List.prefix_nil.mp h
    | ret => cases List.prefix_nil.mp h

theorem Piece.chars_ne_nil (p : Piece) : p.chars ≠ [] := by
  cases p <;> exact List.cons_ne_nil _ _

/-- The beginning of well-formed output is some of its pieces and a part of the next. -/
theorem exists_done {s : List Char} {ps : List Piece} (h : s <+: spelled ps) :
    ∃ done more part, ps = done ++ more ∧ s = spelled done ++ part ∧ IsBegun part more := by
  induction ps generalizing s with
  | nil => exact ⟨[], [], [], rfl, List.prefix_nil.mp h, rfl⟩
  | cons p ps ih =>
    by_cases whole : p.chars <+: s
    · obtain ⟨rest, rfl⟩ := whole
      obtain ⟨done, more, part, rfl, rfl, begun⟩ := ih ((List.prefix_append_right_inj _).mp h)
      exact ⟨p :: done, more, part, rfl, by simp, begun⟩
    · have short : s <+: p.chars :=
        (List.prefix_or_prefix_of_prefix h (List.prefix_append _ _)).resolve_right whole
      refine ⟨[], p :: ps, s, rfl, rfl, ?_⟩
      rw [← List.dropLast_concat_getLast p.chars_ne_nil, List.prefix_concat_iff] at short
      refine short.resolve_left fun e => whole ?_
      have same : s = p.chars := e.trans (List.dropLast_concat_getLast p.chars_ne_nil)
      exact same ▸ List.prefix_refl _

/-- Of the beginning of well-formed output what is read are complete pieces. -/
theorem exists_holdBack {s : List Char} {ps : List Piece} (h : s <+: spelled ps) :
    ∃ done more part, ps = done ++ more ∧ s = spelled done ++ part ∧ IsBegun part more ∧
      holdBack s = (spelled done, part) := by
  obtain ⟨done, more, part, rfl, rfl, begun⟩ := exists_done h
  refine ⟨done, more, part, rfl, rfl, begun, ?_⟩
  rw [holdBack_spelled, begun.holdBack, List.append_nil]

/-- Well-formed output can be cut anywhere. -/
theorem cuts_spelled {ps : List Piece} (chain : ps.IsChain Piece.Precedes) {read held : List Char}
    {portions : List (List Char)} (h : read ++ held ++ portions.flatten <+: spelled ps)
    (cut : holdBack (read ++ held) = (read, held)) : Cuts Apart read held portions := by
  induction portions generalizing read held with
  | nil => trivial
  | cons portion rest ih =>
    rw [List.flatten_cons, ← List.append_assoc] at h
    have next := holdBack_append (read ++ held) portion
    rw [cut] at next
    have parts := holdBack_parts (held ++ portion)
    refine ⟨?_, ih ?_ ?_⟩
    · have before : read ++ held <+: spelled ps :=
        ((List.prefix_append _ _).trans (List.prefix_append _ _)).trans h
      obtain ⟨done, more, part, rfl, _, _, first⟩ := exists_holdBack before
      obtain ⟨rfl, rfl⟩ := Prod.mk.inj (cut.symm.trans first)
      have behind : held ++ portion <+: spelled more := by
        have whole := (List.prefix_append _ rest.flatten).trans h
        rw [spelled_append, List.append_assoc] at whole
        exact (List.prefix_append_right_inj _).mp whole
      obtain ⟨after, more, part, rfl, _, _, second⟩ := exists_holdBack behind
      rw [Apart, second, ← spelled_append, lexemes_spelled, lexemes_spelled, lexemes_spelled,
        List.flatMap_append]
      · exact chain.right_of_append.left_of_append
      · exact chain.left_of_append
      · rw [← List.append_assoc] at chain
        exact chain.left_of_append
    · rwa [List.append_assoc read, parts, ← List.append_assoc]
    · rw [List.append_assoc, parts, ← List.append_assoc]
      exact next

/-! ### What is shown of it -/

namespace Filter

/-- Whatever of well-formed output has come in portions is shown, but for a control sequence that
is not complete. -/
theorem feedAll_spelled {ps : List Piece} (chain : ps.IsChain Piece.Precedes)
    (readable : ∀ p ∈ ps, p.IsReadable) {portions : List (List Char)}
    (h : portions.flatten <+: spelled ps) :
    ∃ done more part text, ps = done ++ more ∧ portions.flatten = spelled done ++ part ∧
      IsBegun part more ∧ text.cells = Piece.shows none done ∧
      ({} : Filter).feedAll portions =
        some (text, ⟨restyle none (done.flatMap Piece.lexemes), part⟩) := by
  obtain ⟨done, more, part, rfl, whole, begun, held⟩ := exists_holdBack h
  have cuts : Cuts Apart [] [] portions := cuts_spelled chain h (by rfl)
  obtain ⟨shown, hshown, hfed⟩ := feedAll_eq (f := {}) (by rfl) cuts
  simp only [List.nil_append, lexemes_nil] at hshown hfed
  rw [held] at hshown hfed
  have lexemes_eq : shown = done.flatMap Piece.lexemes :=
    hshown.symm.trans (lexemes_spelled chain.left_of_append)
  have all : ∀ lexeme ∈ shown, lexeme.isReadable := by
    intro lexeme hm
    rw [lexemes_eq] at hm
    obtain ⟨p, hp, hm⟩ := List.mem_flatMap.mp hm
    exact Piece.isReadable_of_mem (readable p (List.mem_append_left _ hp)) lexeme hm
  rw [if_pos all] at hfed
  obtain ⟨⟨text, f⟩, fed, eq⟩ := Option.map_eq_some_iff.mp hfed
  obtain ⟨cells, rfl⟩ := Prod.mk.inj eq
  refine ⟨done, more, part, text, rfl, whole, begun, ?_, ?_⟩
  · exact cells.trans (lexemes_eq ▸ paint_lexemes none done)
  · rw [fed, lexemes_eq]

/-- The end of well-formed output shows the pieces that are left of it. -/
theorem finish_spelled {ps : List Piece} (chain : ps.IsChain Piece.Precedes) (style : Style)
    {part last : List Char} (h : part ++ last = spelled ps) :
    ((⟨style, part⟩ : Filter).feed last).1.cells ++
      ((⟨style, part⟩ : Filter).feed last).2.flush.1.cells = Piece.shows style ps := by
  obtain ⟨cells, next⟩ := feed_eq ⟨style, part⟩ last
  have held : holdBack (part ++ last) = (spelled ps, []) := by
    rw [h]
    simpa [Terminal.holdBack] using holdBack_spelled ps []
  rw [next, cells, held, lexemes_spelled chain, paint_lexemes]
  exact List.append_nil _

end Filter

end ToolHost.Terminal
