import Mathlib.Data.List.TakeWhile
import Mathlib.Tactic.ByContra
import ToolHost.Proofs.Terminal.Lexemes

/-!
# What begins a sequence

Whether an ESC begins a sequence is told by its grammar: one more character of certain kinds, or a
bracket with parameters, intermediate characters and a final one. A sequence never has a part of
what is behind it, so a line falls apart before any ESC that no sequence reaches.
-/
namespace ToolHost.Terminal

variable {c final : Char} {params middle rest s t : List Char} {lexeme : Lexeme} {length : Nat}

theorem char_le_iff {a b : Char} : a ≤ b ↔ a.toNat ≤ b.toNat := by
  rw [Char.le_def, UInt32.le_iff_toNat_le]
  rfl

theorem isFinal_apart (h : isFinal c) : isParameter c = false ∧ isIntermediate c = false := by
  simp only [isFinal, isParameter, isIntermediate, Bool.and_eq_true, Bool.and_eq_false_iff,
    decide_eq_true_eq, decide_eq_false_iff_not, char_le_iff, Char.reduceToNat] at h ⊢
  omega

theorem isIntermediate_apart (h : isIntermediate c) : isParameter c = false := by
  simp only [isParameter, isIntermediate, Bool.and_eq_true, Bool.and_eq_false_iff,
    decide_eq_true_eq, decide_eq_false_iff_not, char_le_iff, Char.reduceToNat] at h ⊢
  omega

/-- What stands between the bracket of a control sequence and the text behind it. -/
structure IsControl (params middle : List Char) (final : Char) : Prop where
  params : ∀ c ∈ params, isParameter c
  middle : ∀ c ∈ middle, isIntermediate c
  final : isFinal final

namespace IsControl

theorem params_eq (h : IsControl params middle final) (rest : List Char) :
    (params ++ middle ++ final :: rest).takeWhile isParameter = params ∧
      (params ++ middle ++ final :: rest).dropWhile isParameter = middle ++ final :: rest := by
  have hnext : ∀ hd : 0 < (middle ++ final :: rest).length,
      ¬isParameter (middle ++ final :: rest)[0] := by
    intro _
    obtain _ | ⟨c, middle⟩ := middle
    · simp [isFinal_apart h.final]
    · simp [isIntermediate_apart (h.middle c List.mem_cons_self)]
  rw [List.append_assoc, List.takeWhile_append_of_pos h.params,
    List.dropWhile_append_of_pos h.params, List.dropWhile_eq_self_iff.2 hnext,
    List.takeWhile_eq_nil_iff.2 hnext, List.append_nil]
  exact ⟨rfl, rfl⟩

theorem middle_eq (h : IsControl params middle final) (rest : List Char) :
    (middle ++ final :: rest).takeWhile isIntermediate = middle ∧
      (middle ++ final :: rest).dropWhile isIntermediate = final :: rest := by
  have hfinal := (isFinal_apart h.final).2
  rw [List.takeWhile_append_of_pos h.middle, List.dropWhile_append_of_pos h.middle,
    List.takeWhile_cons_of_neg (by simp [hfinal]), List.dropWhile_cons_of_neg (by simp [hfinal]),
    List.append_nil]
  exact ⟨rfl, rfl⟩

theorem sequence?_eq (h : IsControl params middle final) (rest : List Char) :
    sequence? ('[' :: (params ++ middle ++ final :: rest)) =
      some (if final = 'm' then .rendition (params ++ middle) else .control,
        params.length + middle.length + 2) := by
  obtain ⟨htake, hdrop⟩ := h.params_eq rest
  obtain ⟨htake', hdrop'⟩ := h.middle_eq rest
  simp only [sequence?, htake, hdrop, htake', hdrop', h.final, if_true]

theorem esc_notMem (h : IsControl params middle final) :
    esc ∉ '[' :: (params ++ middle ++ [final]) := by
  simp only [List.mem_cons, List.mem_append, List.not_mem_nil, or_false, not_or]
  refine ⟨by decide, ⟨fun hmem => ?_, fun hmem => ?_⟩, ?_⟩
  · exact absurd (h.params _ hmem) (by decide)
  · exact absurd (h.middle _ hmem) (by decide)
  · rintro rfl
    exact absurd h.final (by decide)

end IsControl

/-- A bracket begins a sequence only where a control sequence is complete. -/
theorem exists_isControl {found : Lexeme × Nat} (h : sequence? ('[' :: rest) = some found) :
    ∃ params middle final behind, rest = params ++ middle ++ final :: behind ∧
      IsControl params middle final := by
  simp only [sequence?] at h
  split at h
  · cases h
  · next final behind hfinal =>
    refine ⟨_, (rest.dropWhile isParameter).takeWhile isIntermediate, final, behind, ?_,
      fun c => List.mem_takeWhile_imp (p := isParameter) (l := rest),
      fun c => List.mem_takeWhile_imp, ?_⟩
    · rw [List.append_assoc, ← hfinal, List.takeWhile_append_dropWhile,
        List.takeWhile_append_dropWhile]
    · by_contra hno
      simp [hno] at h

/-- Whether an ESC before a text begins a sequence. -/
inductive Opens : List Char → Prop
  /-- With the one character behind it, at least. -/
  | single (c : Char) (bracket : c ≠ '[') (kind : isParameter c ∨ c = '(' ∨ isFinal c ∧ c ≤ '_')
      (rest : List Char) : Opens (c :: rest)
  /-- As a control sequence. -/
  | control {params middle : List Char} {final : Char} (whole : IsControl params middle final)
      (rest : List Char) : Opens ('[' :: (params ++ middle ++ final :: rest))

/-- Without a bracket one character decides, and whether a command is terminated. -/
theorem sequence?_cons (hc : c ≠ '[') (rest : List Char) :
    sequence? (c :: rest) =
      match if c = ']' then commandPayload? rest else none with
      | some payload => some (.command payload, payload.length + 3)
      | none =>
        if isParameter c ∨ c = '(' ∨ isFinal c ∧ c ≤ '_' then some (.control, 1) else none := by
  rw [sequence?]
  · by_cases hcommand : c = ']'
    · subst hcommand
      rfl
    · by_cases hparameter : isParameter c <;> simp [hcommand, hparameter]
  · exact hc

theorem isSome_sequence?_cons (hc : c ≠ '[') (rest : List Char) :
    (sequence? (c :: rest)).isSome ↔ isParameter c ∨ c = '(' ∨ isFinal c ∧ c ≤ '_' := by
  rw [sequence?_cons hc]
  by_cases hcommand : c = ']'
  · subst hcommand
    have hkind : isFinal ']' ∧ ']' ≤ '_' := by decide
    cases commandPayload? rest <;> simp [hkind]
  · by_cases hkind : isParameter c ∨ c = '(' ∨ isFinal c ∧ c ≤ '_' <;> simp [hcommand, hkind]

theorem isSome_sequence?_iff (rest : List Char) : (sequence? rest).isSome ↔ Opens rest := by
  constructor
  · intro h
    obtain _ | ⟨c, rest⟩ := rest
    · cases h
    · by_cases hc : c = '['
      · subst hc
        obtain ⟨found, hfound⟩ := Option.isSome_iff_exists.1 h
        obtain ⟨params, middle, final, behind, rfl, whole⟩ := exists_isControl hfound
        exact .control whole behind
      · exact .single c hc ((isSome_sequence?_cons hc rest).1 h) rest
  · rintro (⟨c, bracket, kind, rest⟩ | ⟨whole, rest⟩)
    · exact (isSome_sequence?_cons bracket rest).2 kind
    · rw [whole.sequence?_eq]
      rfl

theorem sequence?_eq_none_iff (rest : List Char) : sequence? rest = none ↔ ¬Opens rest := by
  rw [← isSome_sequence?_iff, Option.not_isSome_iff_eq_none]

theorem Opens.append (h : Opens s) (t : List Char) : Opens (s ++ t) := by
  cases h with
  | single c bracket kind rest => exact .single c bracket kind (rest ++ t)
  | control whole rest =>
    rw [List.cons_append, List.append_assoc, List.cons_append]
    exact .control whole (rest ++ t)

/-- A text whose beginning is no longer than another beginning has it as a beginning of that. -/
theorem exists_append_of_length_le {a b : List Char} (h : a ++ t = s ++ b)
    (hle : a.length ≤ s.length) : ∃ more, s = a ++ more := by
  have hprefix : a <+: s :=
    List.prefix_of_prefix_length_le (h ▸ List.prefix_append a t) (List.prefix_append s b) hle
  obtain ⟨more, hmore⟩ := hprefix
  exact ⟨more, hmore.symm⟩

/-- No sequence goes on over an ESC. -/
theorem opens_append_esc_iff (s t : List Char) : Opens (s ++ esc :: t) ↔ Opens s := by
  refine ⟨fun h => ?_, fun h => h.append _⟩
  obtain ⟨u, hu⟩ : ∃ u, u = s ++ esc :: t := ⟨_, rfl⟩
  rw [← hu] at h
  cases h with
  | single c bracket kind rest =>
    obtain _ | ⟨d, s⟩ := s
    · obtain rfl : c = esc := (List.cons.inj hu).1
      exact absurd kind (by decide)
    · obtain rfl : c = d := (List.cons.inj hu).1
      exact .single c bracket kind s
  | @control params middle final whole rest =>
    have hsplit : ('[' :: (params ++ middle ++ [final])) ++ rest = s ++ esc :: t := by
      rw [← hu]
      simp
    have hshort : ('[' :: (params ++ middle ++ [final])).length ≤ s.length := by
      by_contra hlong
      obtain ⟨more, hmore⟩ := exists_append_of_length_le hsplit.symm (Nat.le_of_not_le hlong)
      rw [hmore, List.append_assoc] at hsplit
      obtain _ | ⟨d, more⟩ := more
      · rw [hmore, List.append_nil] at hlong
        exact hlong le_rfl
      · obtain rfl : d = esc := (List.cons.inj (List.append_cancel_left hsplit)).1
        exact whole.esc_notMem (hmore ▸ by simp)
    obtain ⟨more, rfl⟩ := exists_append_of_length_le hsplit hshort
    have := Opens.control whole more
    simpa using this

/-! ### Sequences and what is behind them -/

/-- An operating system command is told from its own characters. -/
theorem commandPayload?_eq_some {payload : List Char} (h : commandPayload? s = some payload) :
    ∃ rest, s = payload ++ esc :: '\\' :: rest ∧
      ∀ rest, commandPayload? (payload ++ esc :: '\\' :: rest) = some payload := by
  fun_induction commandPayload? s generalizing payload with
  | case1 => cases h
  | case2 rest =>
    obtain rfl := Option.some.inj h
    exact ⟨rest, rfl, fun _ => rfl⟩
  | case3 => cases h
  | case4 c rest hopen hfeed ih =>
    obtain ⟨inner, hinner, rfl⟩ := Option.map_eq_some_iff.1 h
    obtain ⟨behind, rfl, hbehind⟩ := ih hinner
    refine ⟨behind, rfl, fun more => ?_⟩
    rw [List.cons_append, commandPayload?, if_neg hfeed, hbehind, Option.map_some]
    -- The command does not end before: it would have ended there in front of `behind`, too.
    rintro tail rfl htail
    obtain _ | ⟨d, inner⟩ := inner
    · exact absurd (List.cons.inj htail).1 (by decide)
    · obtain rfl : d = '\\' := (List.cons.inj htail).1
      exact hopen _ rfl rfl

theorem commandPayload?_append {payload : List Char} (h : commandPayload? s = some payload)
    (t : List Char) : commandPayload? (s ++ t) = some payload := by
  obtain ⟨rest, rfl, hown⟩ := commandPayload?_eq_some h
  simpa using hown (rest ++ t)

/-- A sequence has at least one character behind its ESC, and is none itself. -/
theorem sequence?_proper (h : sequence? s = some (lexeme, length)) :
    0 < length ∧ ∀ c, lexeme ≠ .char c := by
  obtain _ | ⟨c, s⟩ := s
  · cases h
  by_cases hc : c = '['
  · subst hc
    obtain ⟨params, middle, final, behind, rfl, whole⟩ := exists_isControl h
    obtain ⟨rfl, rfl⟩ := Prod.mk.inj (Option.some.inj ((whole.sequence?_eq behind).symm.trans h))
    refine ⟨Nat.succ_pos _, fun c => ?_⟩
    split <;> exact nofun
  · rw [sequence?_cons hc] at h
    split at h
    · obtain ⟨rfl, rfl⟩ := Prod.mk.inj (Option.some.inj h)
      exact ⟨Nat.succ_pos _, nofun⟩
    · split at h
      · obtain ⟨rfl, rfl⟩ := Prod.mk.inj (Option.some.inj h)
        exact ⟨Nat.one_pos, nofun⟩
      · cases h

/-- A sequence that ends before some text is the same without that text. -/
theorem sequence?_of_append (h : sequence? (s ++ t) = some (lexeme, length))
    (hle : length ≤ s.length) : sequence? s = some (lexeme, length) := by
  obtain _ | ⟨c, s⟩ := s
  · exact absurd (sequence?_proper h).1 (Nat.not_lt.2 hle)
  rw [List.cons_append] at h
  by_cases hc : c = '['
  · subst hc
    obtain ⟨params, middle, final, behind, hsplit, whole⟩ := exists_isControl h
    rw [hsplit, whole.sequence?_eq] at h
    obtain ⟨rfl, rfl⟩ := Prod.mk.inj (Option.some.inj h)
    have hshort : (params ++ middle ++ [final]).length ≤ s.length := by
      simp only [List.length_append, List.length_cons, List.length_nil] at hle ⊢
      omega
    have hown : (params ++ middle ++ [final]) ++ behind = s ++ t := by simp [hsplit]
    obtain ⟨more, rfl⟩ := exists_append_of_length_le hown hshort
    simpa using whole.sequence?_eq more
  · rw [sequence?_cons hc] at h ⊢
    by_cases hcommand : c = ']'
    · subst hcommand
      rw [if_pos rfl] at h ⊢
      cases hpayload : commandPayload? (s ++ t) with
      | some payload =>
        rw [hpayload] at h
        obtain ⟨rfl, rfl⟩ := Prod.mk.inj (Option.some.inj h)
        obtain ⟨rest, hsplit, hown⟩ := commandPayload?_eq_some hpayload
        have hshort : (payload ++ [esc, '\\']).length ≤ s.length := by
          simp only [List.length_append, List.length_cons, List.length_nil] at hle ⊢
          omega
        have hfront : (payload ++ [esc, '\\']) ++ rest = s ++ t := by simp [hsplit]
        obtain ⟨more, rfl⟩ := exists_append_of_length_le hfront hshort
        have := hown more
        simp [this]
      | none =>
        have hnone : commandPayload? s = none := by
          by_contra hsome
          obtain ⟨payload, hown⟩ := Option.ne_none_iff_exists'.1 hsome
          cases hpayload.symm.trans (commandPayload?_append hown t)
        rwa [hpayload, ← hnone] at h
    · rwa [if_neg hcommand] at h ⊢

/-! ### ESCs outside of sequences -/

/-- Whether a line has an ESC that no sequence before it reaches and that begins none. -/
def Strays (line : List Char) : Prop :=
  ∃ before rest, line = before ++ esc :: rest ∧ lex line = lex before ++ lex (esc :: rest) ∧
    ¬Opens rest

theorem lexFrom_esc_of_not_opens (h : ¬Opens rest) :
    lexFrom 0 (esc :: rest) = .char esc :: lexFrom 0 rest := by
  rw [lexFrom, if_pos rfl, (sequence?_eq_none_iff rest).2 h]

/-- How far a sequence goes, with what it designates. -/
theorem lexFrom_esc (h : sequence? rest = some (lexeme, length)) :
    lexFrom 0 (esc :: rest) =
      lexeme :: lexFrom (if rest.head? = some '(' then 1 + designated rest.tail else length)
        rest := by
  rw [lexFrom, if_pos rfl, h]

/-- What a parenthesis takes with it is told without an ESC that it does not reach. -/
theorem designated_append_esc (h : designated (s ++ esc :: t) ≤ s.length) :
    designated (s ++ esc :: t) = designated s := by
  obtain _ | ⟨c, s⟩ := s
  · exact Nat.le_zero.1 h
  · have hsame : (sequence? (s ++ esc :: t)).isSome = (sequence? s).isSome := by
      rw [Bool.eq_iff_iff, isSome_sequence?_iff, isSome_sequence?_iff, opens_append_esc_iff]
    rw [List.cons_append, designated, designated, hsame]

/-- A sequence that does not reach an ESC is read without it. -/
theorem lexFrom_esc_before (h : sequence? (s ++ esc :: t) = some (lexeme, length)) :
    let reach := if (s ++ esc :: t).head? = some '(' then 1 + designated (s ++ esc :: t).tail
      else length
    reach ≤ s.length → lexFrom 0 (esc :: s) = lexeme :: lexFrom reach s := by
  intro reach hreach
  obtain _ | ⟨c, s⟩ := s
  · have hopen : Opens ([] ++ esc :: t) := (isSome_sequence?_iff _).1 (h ▸ rfl)
    cases (opens_append_esc_iff [] t).1 hopen
  by_cases hc : c = '('
  · subst hc
    have hshort : 1 + designated (s ++ esc :: t) ≤ s.length + 1 := by simpa [reach] using hreach
    have hone (rest : List Char) : sequence? ('(' :: rest) = some (.control, 1) := by
      rw [sequence?_cons (by decide)]
      simp
    obtain ⟨rfl, -⟩ := Prod.mk.inj (Option.some.inj ((hone _).symm.trans h))
    rw [lexFrom_esc (hone s)]
    simp [reach, designated_append_esc (s := s) (t := t) (by omega)]
  · have hlength : reach = length := by simp [reach, hc]
    rw [lexFrom_esc (sequence?_of_append h (hlength ▸ hreach)), hlength]
    simp [hc]

theorem exists_stray {skip : Nat} {line : List Char} (h : .char esc ∈ lexFrom skip line) :
    ∃ before rest, line = before ++ esc :: rest ∧ skip ≤ before.length ∧
      lexFrom skip line = lexFrom skip before ++ lex (esc :: rest) ∧ ¬Opens rest := by
  fun_induction lexFrom skip line with
  | case1 => cases h
  | case2 skip c line ih =>
    obtain ⟨before, rest, rfl, hskip, hlex, hstray⟩ := ih h
    exact ⟨c :: before, rest, rfl, Nat.succ_le_succ hskip, hlex, hstray⟩
  | case3 line hnone ih =>
    have hopen := (sequence?_eq_none_iff line).1 hnone
    obtain _ | h := List.mem_cons.1 h
    · exact ⟨[], line, rfl, Nat.zero_le _, (lexFrom_esc_of_not_opens hopen).symm, hopen⟩
    · obtain ⟨before, rest, rfl, -, hlex, hstray⟩ := ih h
      have hbefore : ¬Opens before := fun hb => hopen (hb.append _)
      refine ⟨esc :: before, rest, rfl, Nat.zero_le _, ?_, hstray⟩
      rw [lexFrom_esc_of_not_opens hbefore, hlex, List.cons_append]
  | case4 line lexeme length hsome reach ih =>
    have hrest : .char esc ∈ lexFrom reach line :=
      (List.mem_cons.1 h).resolve_left fun heq => (sequence?_proper hsome).2 esc heq.symm
    obtain ⟨before, rest, rfl, hreach, hlex, hstray⟩ := ih hrest
    refine ⟨esc :: before, rest, rfl, Nat.zero_le _, ?_, hstray⟩
    rw [hlex, lexFrom_esc_before hsome hreach, List.cons_append]
  | case5 c line hc ih =>
    have hrest : .char esc ∈ lexFrom 0 line :=
      (List.mem_cons.1 h).resolve_left fun heq => hc (Lexeme.char.inj heq).symm
    obtain ⟨before, rest, rfl, -, hlex, hstray⟩ := ih hrest
    refine ⟨c :: before, rest, rfl, Nat.zero_le _, ?_, hstray⟩
    rw [lexFrom, if_neg hc, hlex, List.cons_append]

/-- An ESC is among the lexemes of a line exactly if it has one outside of sequences. -/
theorem esc_mem_lex_iff (line : List Char) : .char esc ∈ lex line ↔ Strays line := by
  constructor
  · intro h
    obtain ⟨before, rest, hline, -, hlex, hstray⟩ := exists_stray h
    exact ⟨before, rest, hline, hlex, hstray⟩
  · rintro ⟨before, rest, -, hlex, hstray⟩
    have hself : lex (esc :: rest) = .char esc :: lex rest := lexFrom_esc_of_not_opens hstray
    rw [hlex, hself]
    exact List.mem_append_right _ List.mem_cons_self

end ToolHost.Terminal
