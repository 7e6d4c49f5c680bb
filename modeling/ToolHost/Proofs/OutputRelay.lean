import Mathlib
import ToolHost.Proofs.DisplayOrder
import ToolHost.Proofs.Terminal.Pieces

/-!
# Output as it is shown

Whatever portions the output of a process is read in, they may part a character, a control sequence
or a line: what is put on display are the characters of the output without its control sequences
and carriage returns, each in the style that the renditions before it make up. While the process
runs all of it is on display that has been read, but for a control sequence that is not complete.
A rendition with a number of too many digits breaks the relay.
-/
namespace ToolHost

open Machine (Bytes)
open Text (Utf8.feed Utf8.finish Utf8.decode)
open Terminal (StyledText Piece spelled IsBegun)

/-- What a decoder makes of octets that come in portions. -/
def Text.Utf8.feedEach : Text.Utf8.State → List (List UInt8) → List (List Char)
  | _, [] => []
  | s, portion :: rest => (Text.Utf8.feed s portion).2 :: feedEach (Text.Utf8.feed s portion).1 rest

theorem Text.Utf8.flatten_feedEach (s : Text.Utf8.State) (ps : List (List UInt8)) :
    (feedEach s ps).flatten = (feed s ps.flatten).2 := by
  induction ps generalizing s with
  | nil => rfl
  | cons p ps ih => rw [feedEach, List.flatten_cons, ih, List.flatten_cons, feed_append]

/-- What is decoded of the first octets stays as it is when more of them come. -/
theorem Text.Utf8.feed_prefix_decode (first rest : List UInt8) :
    (feed none first).2 <+: decode (first ++ rest) := by
  unfold decode
  rw [feed_append]
  exact (List.prefix_append _ _).trans (List.prefix_append _ _)

namespace Session

/-! ## A relay and its filter -/

theorem Relay.decoder_hear (r : Relay) (ps : List Bytes) :
    (r.hear ps).decoder = (Utf8.feed r.decoder ps.flatten).1 := by
  induction ps generalizing r with
  | nil => rfl
  | cons p ps ih =>
    rw [List.flatten_cons, Text.Utf8.feed_append]
    exact ih (r.feed p).2

/-- A relay shows what its filter makes of the decoded portions. -/
theorem Relay.feedAll_eq (r : Relay) (ps : List Bytes) :
    r.filter.feedAll (Text.Utf8.feedEach r.decoder ps) =
      if r.canReadAll ps then some ((r.texts ps).flatten, (r.hear ps).filter) else none := by
  induction ps generalizing r with
  | nil => rfl
  | cons p ps ih =>
    have rest := ih (r.feed p).2
    change (r.feed p).2.filter.feedAll (Text.Utf8.feedEach (Utf8.feed r.decoder p).1 ps) = _ at rest
    have can : r.filter.canRead (Utf8.feed r.decoder p).2 = r.canRead p := rfl
    have text : (r.filter.feed (Utf8.feed r.decoder p).2).1 = (r.feed p).1 := rfl
    have next : (r.filter.feed (Utf8.feed r.decoder p).2).2 = (r.feed p).2.filter := rfl
    rw [Text.Utf8.feedEach, Terminal.Filter.feedAll, can, text, next, rest, Relay.canReadAll]
    by_cases here : r.canRead p
    · by_cases there : (r.feed p).2.canReadAll ps
      · rw [if_pos here, if_pos there, if_pos (by simp [here, there]), Relay.texts, if_pos here]
        rfl
      · rw [if_pos here, if_neg there, if_neg (by simp [there])]
        rfl
    · rw [if_neg here, if_neg (by simp [here])]

/-- A text without characters is not missed on the display. -/
theorem cells_filter (ts : List StyledText) :
    (ts.filter (!·.plain.isEmpty)).flatMap StyledText.cells = StyledText.cells ts.flatten := by
  induction ts with
  | nil => rfl
  | cons t ts ih =>
    rw [List.flatten_cons, StyledText.cells_append, ← ih]
    by_cases h : t.plain.isEmpty
    · have none : t.cells = [] := by
        rw [List.isEmpty_iff, ← StyledText.map_fst_cells] at h
        exact List.map_eq_nil_iff.mp h
      simp [h, none]
    · simp [h]

section Showing

variable {ps : List Bytes} {pieces : List Piece} (chain : pieces.IsChain Piece.Precedes)
  (readable : ∀ q ∈ pieces, q.IsReadable)

include chain readable

/-- What of well-formed output was read can be read, and is shown but for a control sequence that
is not complete. -/
theorem showing_spelled (h : (Utf8.feed none ps.flatten).2 <+: spelled pieces) :
    ∃ done more part, pieces = done ++ more ∧ IsBegun part more ∧
      (Utf8.feed none ps.flatten).2 = spelled done ++ part ∧
      ({} : Relay).canReadAll ps ∧
      StyledText.cells (({} : Relay).texts ps).flatten = Piece.shows none done ∧
      (({} : Relay).hear ps).filter =
        ⟨Terminal.restyle none (done.flatMap Piece.lexemes), part⟩ := by
  have decoded := Text.Utf8.flatten_feedEach none ps
  rw [← decoded] at h ⊢
  obtain ⟨done, more, part, text, split, whole, begun, cells, fed⟩ :=
    Terminal.Filter.feedAll_spelled chain readable h
  have relayed : ({} : Terminal.Filter).feedAll (Text.Utf8.feedEach none ps) = _ :=
    Relay.feedAll_eq {} ps
  rw [fed] at relayed
  by_cases can : ({} : Relay).canReadAll ps
  · rw [if_pos can] at relayed
    obtain ⟨rfl, filter⟩ := Prod.mk.inj (Option.some.inj relayed)
    exact ⟨done, more, part, split, begun, whole, can, cells, filter.symm⟩
  · rw [if_neg can] at relayed
    cases relayed

theorem showing_whole (h : Utf8.decode ps.flatten = spelled pieces) :
    ({} : Relay).canReadAll ps ∧
      (showing true ps).flatMap StyledText.cells = Piece.shows none pieces := by
  have split : (Utf8.feed none ps.flatten).2 ++ Utf8.finish (Utf8.feed none ps.flatten).1 =
      spelled pieces := h
  obtain ⟨done, more, part, rfl, _, whole, can, cells, filter⟩ :=
    showing_spelled chain readable (split ▸ List.prefix_append _ _)
  refine ⟨can, ?_⟩
  rw [whole, Terminal.spelled_append, List.append_assoc] at split
  have rest := Terminal.Filter.finish_spelled chain.right_of_append
    (Terminal.restyle none (done.flatMap Piece.lexemes)) (List.append_cancel_left split)
  have tail : (({} : Relay).hear ps).tail.1.cells =
      Piece.shows (Terminal.restyle none (done.flatMap Piece.lexemes)) more := by
    rw [← rest, ← filter]
    have decoder := Relay.decoder_hear {} ps
    unfold Relay.tail
    rw [decoder]
    exact StyledText.cells_append _ _
  rw [showing, cells_filter, if_pos rfl, List.flatten_append, StyledText.cells_append, cells,
    List.flatten_singleton, tail, ← Terminal.paint_lexemes, ← Terminal.paint_lexemes,
    ← Terminal.paint_lexemes, List.flatMap_append, Terminal.paint_append]

end Showing

end Session

open Session (heard uttered displayed)

/-- A process writes in portions that part a control sequence, a character and the end of a line. -/
def recital : List Action :=
  [.begin 1 (.session (.text "x") (.start ⟨.here, []⟩)),
    .room (.text "x") (.launched 1 (.ok ⟨7, {}⟩)), .room (.text "x") (.relay 7),
    .room (.text "x") (.output 7 [97, 27, 91, 51]), .room (.text "x") (.relay 7),
    .room (.text "x") (.output 7 [49, 109, 195]), .room (.text "x") (.relay 7),
    .room (.text "x") (.output 7 [169, 13]), .room (.text "x") (.relay 7),
    .room (.text "x") (.output 7 [10]), .room (.text "x") (.relay 7),
    .room (.text "x") (.exit 7 0), .room (.text "x") (.relay 7)]

/-- What the process writes, piece by piece. -/
def recited : List Piece :=
  [.char 'a' (by decide), .control ['3', '1'] 'm' (by simp) (by decide), .char 'é' (by decide),
    .ret, .feed]

/-- A rendition with a number of some length, and a character behind it. -/
def numerous (digits : Nat) : List Piece :=
  [.control (List.replicate digits '1') 'm'
      (fun _ hc => .inl (List.eq_of_mem_replicate hc ▸ rfl)) (by decide),
    .char 'x' (by decide)]

/-- The octets of such output. -/
def numerousOctets (digits : Nat) : Bytes := 27 :: 91 :: List.replicate digits 49 ++ [109, 120]

theorem decode_numerousOctets (digits : Nat) :
    Utf8.feed none (numerousOctets digits) = (none, spelled (numerous digits)) := by
  have ones (n : Nat) : Utf8.feed none (List.replicate n 49) = (none, List.replicate n '1') := by
    induction n with
    | zero => rfl
    | succ n ih =>
      have one : Text.Utf8.step none 49 = (none, ['1']) := by decide
      rw [List.replicate_succ, Utf8.feed, one]
      simp only [ih]
      rfl
  have opening : Utf8.feed none [27, 91] = (none, ['\x1b', '[']) := by decide
  have ending : Utf8.feed none [109, 120] = (none, ['m', 'x']) := by decide
  have split : numerousOctets digits = [27, 91] ++ (List.replicate digits 49 ++ [109, 120]) := rfl
  rw [split, Text.Utf8.feed_append, Text.Utf8.feed_append, opening]
  simp only [ones, ending]
  simp [numerous, Piece.chars, Terminal.esc]

/-- Where a number has too many digits it cannot be read, whatever portions it comes in. -/
theorem not_canReadAll_numerousOctets {digits : Nat} (many : Decimal.mostDigits < digits)
    {ps : List Bytes} (whole : ps.flatten = numerousOctets digits) :
    ({} : Session.Relay).canReadAll ps = false := by
  have chain : (numerous digits).IsChain Piece.Precedes := List.isChain_pair.mpr trivial
  have decoded : (Text.Utf8.feedEach none ps).flatten = spelled (numerous digits) := by
    rw [Text.Utf8.flatten_feedEach, whole, decode_numerousOctets]
  have held : Terminal.holdBack (spelled (numerous digits)) = (spelled (numerous digits), []) := by
    simpa [Terminal.holdBack] using Terminal.holdBack_spelled (numerous digits) []
  have parameter : Text.cut ';' (List.replicate digits '1') = [List.replicate digits '1'] :=
    Terminal.cut_of_notMem fun h => absurd (List.eq_of_mem_replicate h) (by decide)
  have long : Terminal.isReadable (List.replicate digits '1') = false := by
    have one : Text.digitValue? '1' = some 1 := by decide
    simp [Terminal.isReadable, many, one]
  have lost : ¬ (Terminal.Lexeme.rendition (List.replicate digits '1')).isReadable := by
    rw [Terminal.Lexeme.isReadable, parameter, List.all_cons, long]
    exact Bool.false_ne_true
  have cuts : Terminal.Cuts Terminal.Apart [] [] (Text.Utf8.feedEach none ps) :=
    Terminal.cuts_spelled chain (by rw [decoded]; exact List.prefix_refl _) (by rfl)
  obtain ⟨lexemes, same, fed⟩ := Terminal.Filter.feedAll_eq (f := {}) (by rfl) cuts
  rw [decoded, List.nil_append] at same
  change Terminal.lexemes (Terminal.holdBack (spelled (numerous digits))).1 = lexemes at same
  rw [held, Terminal.lexemes_spelled chain] at same
  have unread : ¬ ∀ lexeme ∈ lexemes, lexeme.isReadable := fun all =>
    lost (all _ (same ▸ by simp [numerous, Piece.lexemes]))
  rw [if_neg unread, Option.map_eq_none_iff] at fed
  by_contra can
  have shown := Session.Relay.feedAll_eq {} ps
  rw [if_pos (by simpa using can)] at shown
  cases fed.symm.trans shown

/-- Where a number has too many digits nothing is shown, neither of the sequence nor of what is
behind it. -/
theorem showing_numerousOctets {digits : Nat} (many : Decimal.mostDigits < digits)
    (isOver : Bool) : Session.showing isOver [numerousOctets digits] = [] := by
  have held : Terminal.holdBack (spelled (numerous digits)) = (spelled (numerous digits), []) := by
    simpa [Terminal.holdBack] using Terminal.holdBack_spelled (numerous digits) []
  have lost : ({} : Session.Relay).canRead (numerousOctets digits) = false := by
    simpa [Session.Relay.canReadAll] using
      not_canReadAll_numerousOctets many (List.flatten_singleton (l := numerousOctets digits))
  have filter : (({} : Session.Relay).hear [numerousOctets digits]).filter =
      ⟨Terminal.restyle none (Terminal.lexemes (spelled (numerous digits))), []⟩ := by
    have next := (Terminal.Filter.feed_eq {} (spelled (numerous digits))).2
    rw [List.nil_append, held] at next
    rw [← next]
    change (Terminal.Filter.feed {} (Utf8.feed none (numerousOctets digits)).2).2 = _
    rw [decode_numerousOctets]
  have tail : (({} : Session.Relay).hear [numerousOctets digits]).tail.1.plain = [] := by
    have decoder := Session.Relay.decoder_hear {} [numerousOctets digits]
    rw [List.flatten_singleton, decode_numerousOctets] at decoder
    have nothing : ([] : List Char) ++ [] = spelled [] := rfl
    have rest := Terminal.Filter.finish_spelled .nil
      (Terminal.restyle none (Terminal.lexemes (spelled (numerous digits)))) nothing
    rw [← StyledText.map_fst_cells, Session.Relay.tail, decoder, filter]
    refine List.map_eq_nil_iff.mpr ((StyledText.cells_append _ _).trans ?_)
    exact rest
  cases isOver <;> simp [Session.showing, Session.Relay.texts, lost, tail]

end ToolHost
