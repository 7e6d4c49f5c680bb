import ToolHost.Proofs.Terminal.Pieces
import ToolHost.Proofs.Terminal.Plain

/-!
# Operating system commands are hidden

Of output made of ordinary characters, line feeds and complete operating system commands nothing of
a command is shown, so long as each ends with ESC and a backslash. A command that ends with a bell
is not held back either, but it is not read as one: it goes on to the end of the next command on its
line that ends with ESC and a backslash, and takes all between away; and if there is none its
payload is shown.
-/
namespace ToolHost.Terminal

/-- How an operating system command ends. -/
inductive Terminator
  | bell
  | backslash
  deriving DecidableEq, Repr

def Terminator.chars : Terminator → List Char
  | bell => ['\x07']
  | backslash => [esc, '\\']

/-- Whether a payload says nothing that ends a command or a line. -/
def IsPayload (payload : List Char) : Prop :=
  ∀ c ∈ payload, c ≠ esc ∧ c ≠ '\x07' ∧ c ≠ '\n' ∧ c ≠ '\r'

instance (payload : List Char) : Decidable (IsPayload payload) :=
  List.decidableBAll _ payload

/-- A segment of output with operating system commands. -/
inductive Segment
  | char (c : Char) (ordinary : c ≠ esc ∧ c ≠ '\n' ∧ c ≠ '\r')
  | feed
  | command (payload : List Char) (closed : IsPayload payload) (last : Terminator)

namespace Segment

def chars : Segment → List Char
  | char c _ => [c]
  | feed => ['\n']
  | command payload _ last => esc :: ']' :: payload ++ last.chars

/-- The output that segments make up. -/
def spelled (segments : List Segment) : List Char := segments.flatMap chars

/-- What is to be seen of a segment. -/
def text : Segment → List Char
  | char c _ => if isUnshown c then [] else [c]
  | feed => ['\n']
  | command .. => []

/-- Whether a segment does not end with a bell. -/
def IsTerminated : Segment → Prop
  | command _ _ last => last = .backslash
  | _ => True

/-- Whether a command on this line ends with ESC and a backslash. -/
def closes : List Segment → Bool
  | [] => false
  | feed :: _ => false
  | command _ _ .backslash :: _ => true
  | _ :: rest => closes rest

/-- What is shown of segments, within a command that an earlier bell did not end or outside. -/
def displayed : Bool → List Segment → List Char
  | _, [] => []
  | _, feed :: rest => '\n' :: displayed false rest
  | true, command _ _ .backslash :: rest => displayed false rest
  | true, _ :: rest => displayed true rest
  | false, command payload _ .bell :: rest =>
    if closes rest then displayed true rest
    else payload.filter (!isUnshown ·) ++ displayed false rest
  | false, s :: rest => s.text ++ displayed false rest

@[simp] theorem spelled_nil : spelled [] = [] := rfl

@[simp] theorem spelled_cons (s : Segment) (rest : List Segment) :
    spelled (s :: rest) = s.chars ++ spelled rest := rfl

theorem displayed_of_isTerminated {segments : List Segment} (h : ∀ s ∈ segments, s.IsTerminated) :
    displayed false segments = segments.flatMap text := by
  induction segments with
  | nil => rfl
  | cons s rest ih =>
    obtain ⟨hfirst, hrest⟩ := List.forall_mem_cons.1 h
    rw [List.flatMap_cons, ← ih hrest]
    cases s with
    | char c ordinary => rfl
    | feed => rfl
    | command payload closed last =>
      obtain rfl : last = .backslash := hfirst
      rfl

/-! ### Nothing is held back -/

theorem holdBack_segment (s : Segment) (rest : List Char) :
    holdBack (s.chars ++ rest) = (s.chars ++ (holdBack rest).1, (holdBack rest).2) := by
  cases s with
  | char c ordinary =>
    exact holdBack_append_of_notMem (by simpa [chars] using ordinary.1.symm) rest
  | feed => exact holdBack_append_of_notMem (by decide) rest
  | command payload closed last =>
    have hfree : esc ∉ ']' :: payload := by
      rw [List.mem_cons, not_or]
      exact ⟨by decide, fun hmem => (closed _ hmem).1 rfl⟩
    have hfinished : isUnfinished (']' :: payload ++ last.chars ++ rest) = false := by
      cases last with
      | backslash => exact isUnfinished_of_mem (by simp [Terminator.chars])
      | bell => simp [isUnfinished, Terminator.chars]
    have hlast : holdBack (last.chars ++ rest) =
        (last.chars ++ (holdBack rest).1, (holdBack rest).2) := by
      cases last with
      | bell => exact holdBack_append_of_notMem (by decide) rest
      | backslash =>
        have hopen : isUnfinished ('\\' :: rest) = false := by simp [isUnfinished, endsHere]
        have hslash : holdBack ('\\' :: rest) = _ :=
          holdBack_append_of_notMem (s := ['\\']) (by decide) rest
        change holdBack (esc :: '\\' :: rest) = _
        rw [holdBack, hopen, hslash]
        rfl
    have htext : (command payload closed last).chars ++ rest =
        esc :: (']' :: payload ++ (last.chars ++ rest)) := by simp [chars]
    rw [List.append_assoc] at hfinished
    rw [htext, holdBack, hfinished, holdBack_append_of_notMem hfree, hlast]
    simp [chars]

theorem holdBack_spelled (segments : List Segment) :
    holdBack (spelled segments) = (spelled segments, []) := by
  induction segments with
  | nil => rfl
  | cons s rest ih => rw [spelled_cons, holdBack_segment, ih]

end Segment

/-! ### How commands are read -/

/-- Whether all of a line's beginning belongs to the payload of a command that ends behind it. -/
def IsOpen (payload : List Char) : Prop :=
  ∀ more, commandPayload? (payload ++ more) = (commandPayload? more).map (payload ++ ·)

theorem IsOpen.append {p q : List Char} (hp : IsOpen p) (hq : IsOpen q) : IsOpen (p ++ q) := by
  intro more
  rw [List.append_assoc, hp, hq, Option.map_map]
  simp [Function.comp_def]

theorem isOpen_of_forall {p : List Char} (h : ∀ c ∈ p, c ≠ esc ∧ c ≠ '\n') : IsOpen p := by
  induction p with
  | nil => exact fun more => by simp
  | cons c p ih =>
    obtain ⟨⟨hesc, hfeed⟩, hrest⟩ := List.forall_mem_cons.1 h
    intro more
    rw [List.cons_append, commandPayload?, if_neg hfeed, ih hrest, Option.map_map]
    · rfl
    · exact fun _ hc _ => hesc hc

theorem isOpen_begin : IsOpen [esc, ']'] := by
  intro more
  change commandPayload? (esc :: ']' :: more) = _
  rw [commandPayload?, commandPayload?, if_neg (by decide), if_neg (by decide), Option.map_map]
  · rfl
  · exact fun _ hc _ => absurd hc (by decide)
  · exact fun _ _ h => absurd (List.cons.inj h).1 (by decide)

theorem IsPayload.isOpen {payload : List Char} (h : IsPayload payload) : IsOpen payload :=
  isOpen_of_forall fun c hc => ⟨(h c hc).1, (h c hc).2.2.1⟩

theorem lex_append_of_notMem {s : List Char} (h : esc ∉ s) (rest : List Char) :
    lex (s ++ rest) = s.map .char ++ lex rest := by
  induction s with
  | nil => rfl
  | cons c s ih =>
    obtain ⟨hc, hs⟩ := not_or.1 (mt List.mem_cons.2 h)
    rw [List.cons_append, lex_char (Ne.symm hc), ih hs]
    rfl

/-- A command that ends with ESC and a backslash is read as a whole. -/
theorem lex_command {payload : List Char} (h : IsOpen payload) (rest : List Char) :
    lex (esc :: ']' :: payload ++ [esc, '\\'] ++ rest) = .command payload :: lex rest := by
  have hpayload : commandPayload? (payload ++ esc :: '\\' :: rest) = some payload := by
    rw [h]
    simp [commandPayload?, esc]
  have hwhole : sequence? (']' :: (payload ++ esc :: '\\' :: rest)) =
      some (.command payload, payload.length + 3) := by
    rw [sequence?_cons (by decide), if_pos rfl, hpayload]
  have hskip := lexFrom_append (']' :: payload ++ [esc, '\\']) rest
  have hread := lexFrom_esc hwhole
  simp only [List.head?_cons, Option.some.injEq, Char.reduceEq, if_false] at hread
  simp only [List.append_assoc, List.cons_append, List.nil_append, List.length_cons,
    List.length_append, List.length_nil] at hskip ⊢
  exact hread.trans (congrArg _ hskip)

/-- A command that does not end is read as one that is empty, and then its payload. -/
theorem lex_unclosed {payload rest : List Char} (hesc : esc ∉ payload)
    (h : commandPayload? (payload ++ rest) = none) :
    lex (esc :: ']' :: payload ++ rest) = .control :: payload.map .char ++ lex rest := by
  have hwhole : sequence? (']' :: (payload ++ rest)) = some (.control, 1) := by
    rw [sequence?_cons (by decide), if_pos rfl, h]
    exact if_pos (by decide)
  have hread := lexFrom_esc hwhole
  simp only [List.head?_cons, Option.some.injEq, Char.reduceEq, if_false] at hread
  exact hread.trans (congrArg (Lexeme.control :: ·) (lex_append_of_notMem hesc rest))

/-! ### Lines without carriage returns -/

/-- A text without line feeds goes with the first line behind it. -/
theorem cut_append_of_notMem {s rest first : List Char} {more : List (List Char)} (h : '\n' ∉ s)
    (hcut : Text.cut '\n' rest = first :: more) :
    Text.cut '\n' (s ++ rest) = (s ++ first) :: more := by
  have hone : Text.cut '\n' s = [] ++ [s] := cut_of_notMem h
  exact Text.cut_append hone hcut

theorem firstLine_append {s : List Char} (h : '\n' ∉ s) (rest : List Char) :
    firstLine (s ++ rest) = s ++ firstLine rest := by
  obtain ⟨first, more, hcut⟩ := Text.exists_cut_eq_cons '\n' rest
  simp [firstLine, cut_append_of_notMem h hcut, hcut]

/-- What a line begins with is read in front of the rest of the output if it is read so in front of
the rest of the line. -/
theorem lexemes_append_of_lex {s rest : List Char} {ls : List Lexeme} (hfeed : '\n' ∉ s)
    (hret : '\r' ∉ s ++ rest) (h : lex (s ++ firstLine rest) = ls ++ lex (firstLine rest)) :
    lexemes (s ++ rest) = ls ++ lexemes rest := by
  obtain ⟨first, more, hcut⟩ := Text.exists_cut_eq_cons '\n' rest
  have hwhole := cut_append_of_notMem hfeed hcut
  have hfirst : firstLine rest = first := by simp [firstLine, hcut]
  have hline : lineLexemes (s ++ first) = lex (s ++ first) := by
    have hmem : s ++ first ∈ Text.cut '\n' (s ++ rest) := hwhole ▸ List.mem_cons_self
    exact lineLexemes_of_notMem fun hin => hret ((Text.sublist_of_mem_cut hmem).1.subset hin)
  have hrest : lineLexemes first = lex first := by
    have hmem : first ∈ Text.cut '\n' rest := hcut ▸ List.mem_cons_self
    exact lineLexemes_of_notMem fun hin =>
      hret (List.mem_append_right _ ((Text.sublist_of_mem_cut hmem).1.subset hin))
  rw [hfirst] at h
  rw [lexemes, lexemes, hwhole, hcut, linesLexemes_cons, linesLexemes_cons, hline, hrest, h,
    List.append_assoc]

theorem lexemes_feed (rest : List Char) : lexemes ('\n' :: rest) = .char '\n' :: lexemes rest := by
  obtain ⟨first, more, hcut⟩ := Text.exists_cut_eq_cons '\n' rest
  rw [lexemes, lexemes, Text.cut_cons_self, hcut, linesLexemes_cons, linesLexemes_cons]
  rfl

/-! ### What is shown -/

namespace Segment

/-- Whether lexemes can be read and show these characters. -/
def Displays (ls : List Lexeme) (chars : List Char) : Prop :=
  (∀ lexeme ∈ ls, lexeme.isReadable) ∧ ls.flatMap Lexeme.text = chars

theorem Displays.append {ls ls' : List Lexeme} {chars chars' : List Char} (h : Displays ls chars)
    (h' : Displays ls' chars') : Displays (ls ++ ls') (chars ++ chars') := by
  refine ⟨fun lexeme hmem => ?_, by rw [List.flatMap_append, h.2, h'.2]⟩
  exact (List.mem_append.1 hmem).elim (h.1 lexeme) (h'.1 lexeme)

theorem displays_chars (s : List Char) :
    Displays (s.map .char) (s.filter (!isUnshown ·)) := by
  refine ⟨fun lexeme hmem => ?_, ?_⟩
  · obtain ⟨c, -, rfl⟩ := List.mem_map.1 hmem
    rfl
  · induction s with
    | nil => rfl
    | cons c s ih =>
      rw [List.map_cons, List.flatMap_cons, ih, Lexeme.text, List.filter_cons]
      by_cases hc : isUnshown c <;> simp [hc]

/-- Only a line feed ends a line, and there is no carriage return. -/
theorem notMem_chars (s : Segment) : '\r' ∉ s.chars ∧ (s ≠ feed → '\n' ∉ s.chars) := by
  cases s with
  | char c ordinary => simpa [chars] using ⟨ordinary.2.2.symm, ordinary.2.1.symm⟩
  | feed => exact ⟨by decide, fun h => absurd rfl h⟩
  | command payload closed last =>
    have hend : '\r' ∉ last.chars ∧ '\n' ∉ last.chars := by cases last <;> decide
    have hinside : '\r' ∉ payload ∧ '\n' ∉ payload :=
      ⟨fun h => (closed _ h).2.2.2 rfl, fun h => (closed _ h).2.2.1 rfl⟩
    simp [chars, hend, hinside, esc]

theorem notMem_spelled (segments : List Segment) : '\r' ∉ spelled segments := by
  intro hmem
  obtain ⟨s, -, hs⟩ := List.mem_flatMap.1 hmem
  exact s.notMem_chars.1 hs

theorem isOpen_char {c : Char} (ordinary : c ≠ esc ∧ c ≠ '\n' ∧ c ≠ '\r') : IsOpen [c] :=
  isOpen_of_forall fun _ hd => List.mem_singleton.1 hd ▸ ⟨ordinary.1, ordinary.2.1⟩

theorem isOpen_bell {payload : List Char} (closed : IsPayload payload) :
    IsOpen (command payload closed .bell).chars :=
  isOpen_begin.append (closed.isOpen.append (isOpen_of_forall (List.forall_mem_singleton.2 (by decide))))

/-- Where no command ends on a line none ends behind a text on it. -/
theorem commandPayload?_of_closes {segments : List Segment} (h : closes segments = false) :
    commandPayload? (firstLine (spelled segments)) = none := by
  induction segments with
  | nil => rfl
  | cons s rest ih =>
    have hpass (hopen : IsOpen s.chars) (hfeed : s ≠ feed) (hrest : closes rest = false) :
        commandPayload? (firstLine (s.chars ++ spelled rest)) = none := by
      rw [firstLine_append (s.notMem_chars.2 hfeed), hopen, ih hrest, Option.map_none]
    cases s with
    | feed => rfl
    | char c ordinary => exact hpass (isOpen_char ordinary) nofun h
    | command payload closed last =>
      cases last with
      | backslash => cases h
      | bell => exact hpass (isOpen_bell closed) nofun h

/-- A command that ends with ESC and a backslash shows nothing. -/
theorem displays_command {payload rest shown : List Char} (hopen : IsOpen payload)
    (hfeed : '\n' ∉ payload) (hret : '\r' ∉ payload ++ rest) (h : Displays (lexemes rest) shown) :
    Displays (lexemes (esc :: ']' :: payload ++ [esc, '\\'] ++ rest)) shown := by
  have hread : lexemes (esc :: ']' :: payload ++ [esc, '\\'] ++ rest) =
      [.command payload] ++ lexemes rest :=
    lexemes_append_of_lex (by simp [hfeed, esc]) (by simpa [esc] using hret) (lex_command hopen _)
  have hfirst : Displays [.command payload] [] := ⟨by simp [Lexeme.isReadable], rfl⟩
  rw [hread]
  exact hfirst.append h

/-- A command that does not end shows its payload. -/
theorem displays_unclosed {payload rest shown : List Char} (hesc : esc ∉ payload)
    (hfeed : '\n' ∉ payload) (hret : '\r' ∉ payload ++ rest)
    (hend : commandPayload? (payload ++ firstLine rest) = none)
    (h : Displays (lexemes rest) shown) :
    Displays (lexemes (esc :: ']' :: payload ++ rest))
      (payload.filter (!isUnshown ·) ++ shown) := by
  have hread : lexemes (esc :: ']' :: payload ++ rest) =
      ([.control] ++ payload.map .char) ++ lexemes rest :=
    lexemes_append_of_lex (by simp [hfeed, esc]) (by simpa [esc] using hret)
      (lex_unclosed hesc hend)
  have hfirst : Displays [.control] [] := ⟨by simp [Lexeme.isReadable], rfl⟩
  rw [hread]
  exact (hfirst.append (displays_chars payload)).append h

/-- What segments show: as such, and behind the beginning of a command that ends on their line. -/
theorem displays_spelled (segments : List Segment) :
    Displays (lexemes (spelled segments)) (displayed false segments) ∧
      ∀ payload, IsOpen payload → '\n' ∉ payload → '\r' ∉ payload → closes segments →
        Displays (lexemes (esc :: ']' :: payload ++ spelled segments))
          (displayed true segments) := by
  induction segments with
  | nil =>
    refine ⟨⟨List.forall_mem_nil _, rfl⟩, fun payload hp hn hr h => ?_⟩
    cases h
  | cons s rest ih =>
    have hret := notMem_spelled rest
    have hfeed := s.notMem_chars.2
    -- Behind the beginning of a command a segment goes into the payload.
    have hwithin (hs : IsOpen s.chars) (hfeed : '\n' ∉ s.chars) (payload : List Char)
        (hopen : IsOpen payload) (hn : '\n' ∉ payload) (hr : '\r' ∉ payload) (h : closes rest) :
        Displays (lexemes (esc :: ']' :: payload ++ spelled (s :: rest)))
          (displayed true rest) := by
      have hmore := ih.2 (payload ++ s.chars) (hopen.append hs) (by simp [hn, hfeed])
        (by simp [hr, s.notMem_chars.1]) h
      simpa using hmore
    cases s with
    | char c ordinary =>
      refine ⟨?_, hwithin (isOpen_char ordinary) (hfeed (by simp))⟩
      have hread : lexemes ([c] ++ spelled rest) = [.char c] ++ lexemes (spelled rest) :=
        lexemes_append_of_lex (hfeed (by simp)) (by simp [hret, ordinary.2.2.symm])
          (lex_append_of_notMem (by simpa using ordinary.1.symm) _)
      have hfirst : Displays [.char c] (char c ordinary).text :=
        ⟨by simp [Lexeme.isReadable], by simp [Lexeme.text, text]⟩
      rw [spelled_cons, chars, hread]
      exact hfirst.append ih.1
    | feed =>
      refine ⟨?_, fun payload hp hn hr h => by cases h⟩
      have hread : lexemes (spelled (feed :: rest)) = [.char '\n'] ++ lexemes (spelled rest) :=
        lexemes_feed _
      have hfirst : Displays [.char '\n'] ['\n'] := ⟨by simp [Lexeme.isReadable], rfl⟩
      rw [hread]
      exact hfirst.append ih.1
    | command payload closed last =>
      have hinside : esc ∉ payload ∧ '\n' ∉ payload ∧ '\r' ∉ payload :=
        ⟨fun h => (closed _ h).1 rfl, fun h => (closed _ h).2.2.1 rfl,
          fun h => (closed _ h).2.2.2 rfl⟩
      cases last with
      | backslash =>
        refine ⟨?_, fun before hp hn hr _ => ?_⟩
        · have hshown := displays_command closed.isOpen hinside.2.1 (by simp [hinside, hret]) ih.1
          simpa [chars, Terminator.chars, displayed, text] using hshown
        · have hshown := displays_command (hp.append (isOpen_begin.append closed.isOpen))
            (by simp [hn, hinside, esc]) (by simp [hr, hinside, hret, esc]) ih.1
          simpa [chars, Terminator.chars, displayed] using hshown
      | bell =>
        refine ⟨?_, hwithin (isOpen_bell closed) (hfeed (by simp))⟩
        have hbell : IsOpen (payload ++ ['\x07']) :=
          closed.isOpen.append (isOpen_of_forall (List.forall_mem_singleton.2 (by decide)))
        by_cases h : closes rest
        · have hshown := ih.2 (payload ++ ['\x07']) hbell (by simp [hinside]) (by simp [hinside]) h
          simpa [chars, Terminator.chars, displayed, h] using hshown
        · have hend : commandPayload? (payload ++ ['\x07'] ++ firstLine (spelled rest)) = none := by
            rw [hbell, commandPayload?_of_closes (by simpa using h), Option.map_none]
          have hshown := displays_unclosed (by simpa [esc] using hinside.1) (by simp [hinside])
            (by simp [hinside, hret]) hend ih.1
          simpa [chars, Terminator.chars, displayed, h, isUnshown] using hshown

end Segment

/-- Of output made of ordinary characters, line feeds and complete commands, read at once, all is
shown that is not a command, and nothing else, if every command ends with ESC and a backslash. -/
theorem commands_hidden (segments : List Segment) :
    ∃ text, ({} : Filter).readAll [Segment.spelled segments] = some text ∧
      text.plain = Segment.displayed false segments ∧
      ((∀ s ∈ segments, s.IsTerminated) → text.plain = segments.flatMap Segment.text) := by
  obtain ⟨hlegible, hshown⟩ := (Segment.displays_spelled segments).1
  have hheld := Segment.holdBack_spelled segments
  have hreadings : readings [] [Segment.spelled segments] = [Segment.spelled segments] := by
    simp [readings, hheld]
  have hplain : ((readings [] [Segment.spelled segments]).flatMap lexemes).flatMap Lexeme.text ++
      abandon (holdBack [Segment.spelled segments].flatten).2 =
        Segment.displayed false segments := by
    rw [hreadings, List.flatten_singleton, hheld, List.flatMap_singleton, hshown]
    exact List.append_nil _
  refine (exists_readAll_iff _ fun plain => plain = Segment.displayed false segments ∧
    ((∀ s ∈ segments, s.IsTerminated) → plain = segments.flatMap Segment.text)).2 ⟨?_, hplain, ?_⟩
  · rwa [IsLegible, hreadings, List.flatMap_singleton]
  · rw [hplain]
    exact Segment.displayed_of_isTerminated

/-- A title, a link and its end, with a backspace and a line feed between them. -/
def titled (last : Terminator) : List Segment :=
  [.command "0;t".toList (by decide) last, .char 'w' (by decide), .char '\x08' (by decide), .feed,
    .command "8;;u".toList (by decide) .backslash, .char 'y' (by decide),
    .command "8;;".toList (by decide) .backslash]

theorem commands_hidden_titled :
    (∀ s ∈ titled .backslash, s.IsTerminated) ∧
      ∃ text, ({} : Filter).readAll [Segment.spelled (titled .backslash)] = some text ∧
        text.plain = ['w', '\n', 'y'] := by
  have hterminated : ∀ s ∈ titled .backslash, s.IsTerminated := by
    simp [titled, Segment.IsTerminated]
  obtain ⟨text, hread, -, hplain⟩ := commands_hidden (titled .backslash)
  exact ⟨hterminated, text, hread, hplain hterminated⟩

/-- The payload of a command that ends with a bell is shown. -/
theorem commands_shown_bell :
    (({} : Filter).readAll [Segment.spelled (titled .bell)]).map StyledText.plain =
        some ['0', ';', 't', 'w', '\n', 'y'] ∧
      (titled .bell).flatMap Segment.text = ['w', '\n', 'y'] := by
  decide

end ToolHost.Terminal
