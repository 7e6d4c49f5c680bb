import ToolHost.Proofs.CommandLine.Ambiguity

/-!
# The words of the tool

What stands behind the mode that runs the tool is handed over as it is, whatever it resembles, and
the options in front of the mode are read as if they stood alone. That fails for one reason: every
argument is first looked at by the whole command line, also one that is meant for the tool, and an
ambiguous one is refused there.
-/
namespace ToolHost.CommandLine

/-- An option in front of the mode, with its value. -/
inductive Lead
  | louder
  | directory (long : Bool) (path : String)
  | toolDirectory (path : String)
  deriving DecidableEq, Repr

namespace Lead

/-- What is written. -/
def words : Lead → List String
  | louder => ["-v"]
  | directory long path => [if long then "--cwd" else "-C", path]
  | toolDirectory path => ["--tool-dir", path]

/-- Whether an option may stand on a command line, by itself. -/
def IsValid (l : Lead) : Prop := ∃ i, read l.words = .ok i

def directory? : Lead → Option String
  | directory _ path => some path
  | _ => none

def toolDirectory? : Lead → Option String
  | toolDirectory path => some path
  | _ => none

/-- What is read. -/
def option : Lead → Key × Option String
  | louder => (.verbose, none)
  | directory _ path => (.directory, some path)
  | toolDirectory path => (.toolDirectory, some path)

end Lead

/-- What options in front of a mode ask for: to be as loud as there are options for it, and the
directories that are named last. -/
def asked (leads : List Lead) : Invocation where
  verbosity := leads.count .louder
  directory := (leads.filterMap Lead.directory?).getLast?
  toolDirectory := (leads.filterMap Lead.toolDirectory?).getLast?

variable {l : Lead} {leads : List Lead} {path : String}

/-! ### Options in front of the mode -/

/-- Some arguments are read as some options, whatever follows them. -/
def Reads (args : List String) (options : List (Key × Option String)) : Prop :=
  ∃ items, (∀ rest, mainForm.items (args ++ rest) = (items ++ ·) <$> mainForm.items rest) ∧
    ∀ r rest, mainForm.readItems r (items ++ rest) =
      mainForm.readItems { r with options := r.options ++ options } rest

theorem Reads.nil : Reads [] [] :=
  ⟨[], fun rest => by cases h : mainForm.items rest <;> simp [h], fun r rest => by simp⟩

theorem Reads.append {args args' : List String} {options options' : List (Key × Option String)}
    (h : Reads args options) (h' : Reads args' options') :
    Reads (args ++ args') (options ++ options') := by
  obtain ⟨items, hitems, hread⟩ := h
  obtain ⟨items', hitems', hread'⟩ := h'
  refine ⟨items ++ items', fun rest => ?_, fun r rest => ?_⟩
  · rw [List.append_assoc, hitems, hitems', Functor.map_map]
    simp
  · rw [List.append_assoc, hread, hread', List.append_assoc]

theorem takeAll_of_plain {f : Form} {r : Reading} {key : Key} {value : Option String}
    (hhelp : key ≠ .help) (hversion : key ≠ .version) :
    f.takeAll r [(key, value)] = .ok { r with options := r.options ++ [(key, value)] } := by
  cases key <;> first | contradiction | rfl

variable {name : String} {x : Flag}

/-- An option with its value still to come takes the word behind it. -/
theorem readItems_pending {r : Reading} {rest : List Item} (hx : x.metavar.isSome) :
    mainForm.readItems r (.option name ⟨some x, name, none⟩ :: rest) =
      match rest with
      | .word value :: rest =>
        match mainForm.takeAll r [(x.key, some value)] with
        | .error s => .error s
        | .ok r => mainForm.readItems r rest
      | _ => .error (mainForm.misuseOf x "expected one argument") := by
  have hexpand : mainForm.expand x ⟨some x, name, none⟩ = .ok ⟨[], some x, none⟩ := by
    rw [Form.expand, Flag.alone, if_pos hx]
  rw [Form.readItems]
  dsimp only
  rw [hexpand]
  rfl

/-- An option without a value is taken by itself. -/
theorem readItems_alone {r : Reading} {rest : List Item} (hx : x.metavar.isSome = false)
    (hhelp : x.key ≠ .help) (hversion : x.key ≠ .version) :
    mainForm.readItems r (.option name ⟨some x, name, none⟩ :: rest) =
      mainForm.readItems { r with options := r.options ++ [(x.key, none)] } rest := by
  have hexpand : mainForm.expand x ⟨some x, name, none⟩ = .ok ⟨[(x.key, none)], none, none⟩ := by
    rw [Form.expand, Flag.alone, hx]
    rfl
  rw [Form.readItems]
  dsimp only
  rw [hexpand]
  dsimp only [Option.toList]
  rw [takeAll_of_plain hhelp hversion, List.append_nil]

theorem exists_items_of_read {args : List String} {i : Invocation} (h : read args = .ok i) :
    ∃ items r, mainForm.items args = .ok items ∧ mainForm.readItems {} items = .ok r := by
  rw [read, Form.read] at h
  cases hitems : mainForm.items args with
  | error stop => rw [hitems] at h; cases h
  | ok items =>
    cases hread : mainForm.readItems {} items with
    | error stop => rw [hitems] at h; simp [bind, Except.bind, hread] at h
    | ok r => exact ⟨items, r, rfl, hread⟩

/-- What an option takes as its value is a word. -/
theorem word_of_read (hname : name ≠ "--")
    (hoption : mainForm.classify name = .ok (.option name ⟨some x, name, none⟩))
    (hx : x.metavar.isSome) (hvalid : ∃ i, read [name, path] = .ok i) :
    path ≠ "--" ∧ mainForm.classify path = .ok (.word path) := by
  obtain ⟨i, hi⟩ := hvalid
  obtain ⟨items, r, hitems, hread⟩ := exists_items_of_read hi
  rw [items_cons hname hoption] at hitems
  by_cases hpath : path = "--"
  · subst hpath
    obtain rfl := Except.ok.inj hitems
    rw [readItems_pending hx] at hread
    cases hread
  · refine ⟨hpath, ?_⟩
    cases hitem : mainForm.classify path with
    | error stop =>
      rw [Form.items, if_neg hpath, hitem] at hitems
      cases hitems
    | ok item =>
      rw [items_cons hpath hitem] at hitems
      obtain rfl := Except.ok.inj hitems
      rw [readItems_pending hx] at hread
      have htext := text_of_classify hitem
      cases item with
      | word value => rw [← htext]; rfl
      | dashes => cases hread
      | option text w => cases hread

/-- An option with its value is read as that, whatever follows. -/
theorem reads_pair (hname : name ≠ "--")
    (hoption : mainForm.classify name = .ok (.option name ⟨some x, name, none⟩))
    (hx : x.metavar.isSome) (hhelp : x.key ≠ .help) (hversion : x.key ≠ .version)
    (hvalid : ∃ i, read [name, path] = .ok i) : Reads [name, path] [(x.key, some path)] := by
  obtain ⟨hpath, hword⟩ := word_of_read hname hoption hx hvalid
  refine ⟨[.option name ⟨some x, name, none⟩, .word path], fun rest => ?_, fun r rest => ?_⟩
  · rw [List.cons_append, List.cons_append, items_cons hname hoption, items_cons hpath hword,
      List.nil_append, Functor.map_map]
    rfl
  · rw [List.cons_append, readItems_pending hx]
    dsimp only [List.cons_append, List.nil_append]
    rw [takeAll_of_plain hhelp hversion]

theorem Lead.reads (h : l.IsValid) : Reads l.words [l.option] := by
  cases l with
  | louder =>
    refine ⟨[.option "-v" ⟨mainForm.flag? "-v", "-v", none⟩], fun rest => ?_, fun r rest => ?_⟩
    · exact items_cons (by decide) (by rfl)
    · exact readItems_alone (x := ⟨.verbose, _, _, _⟩) rfl (by decide) (by decide)
  | directory long path =>
    cases long with
    | false =>
      exact reads_pair (x := ⟨.directory, _, _, _⟩) (by decide) (by rfl) rfl (by decide)
        (by decide) h
    | true =>
      exact reads_pair (x := ⟨.directory, _, _, _⟩) (by decide) (by rfl) rfl (by decide)
        (by decide) h
  | toolDirectory path =>
    exact reads_pair (x := ⟨.toolDirectory, _, _, _⟩) (by decide) (by rfl) rfl (by decide)
      (by decide) h

/-- Options in front of the mode are read one after another. -/
theorem reads_leads (h : ∀ l ∈ leads, l.IsValid) :
    Reads (leads.flatMap Lead.words) (leads.map Lead.option) := by
  induction leads with
  | nil => exact .nil
  | cons l leads ih =>
    rw [List.forall_mem_cons] at h
    exact (Lead.reads h.1).append (ih h.2)

/-! ### What they ask for -/

theorem value?_leads {key : Key} {g : Lead → Option String} {operands : List String}
    (hg : ∀ l : Lead, (if l.option.1 = key then some l.option else none) =
      (g l).map fun path => (key, some path)) :
    Reading.value? ⟨leads.map Lead.option, operands, []⟩ key = (leads.filterMap g).getLast? := by
  have hfilter : (leads.map Lead.option).filter (·.1 = key) =
      (leads.filterMap g).map fun path => (key, some path) := by
    rw [List.filter_map, List.map_filterMap, ← List.filterMap_eq_filter, List.map_filterMap]
    refine List.filterMap_congr fun l _ => ?_
    rw [← hg l]
    by_cases hkey : l.option.1 = key <;> simp [hkey, Option.guard]
  rw [Reading.value?, hfilter, List.getLast?_map]
  cases (leads.filterMap g).getLast? <;> rfl

theorem verbosity_leads :
    ((leads.map Lead.option).filter (·.1 = .verbose)).length = leads.count .louder := by
  rw [← List.countP_eq_length_filter, List.countP_map, List.count]
  refine List.countP_congr fun l _ => ?_
  cases l <;> simp [Lead.option]

/-! ### The mode, and the tool -/

/-- What a command line asks for that has been read. -/
def Reading.concluded (r : Reading) : Except Stop Invocation := do
  let (mode, more) ← readMode r.operands
  let extras := r.extras ++ more
  if !extras.isEmpty then
    throw (.misuse mainForm ("unrecognized arguments: " ++ " ".intercalate extras))
  return {
    verbosity := (r.options.filter (·.1 = .verbose)).length
    directory := r.value? .directory
    toolDirectory := r.value? .toolDirectory
    mode }

theorem read_append {args rest : List String} {options : List (Key × Option String)}
    {items : List Item} {r : Reading} (h : Reads args options)
    (hitems : mainForm.items rest = .ok items)
    (hread : mainForm.readItems { options } items = .ok r) : read (args ++ rest) = r.concluded := by
  obtain ⟨items', hitems', hread'⟩ := h
  have hwhole : mainForm.read (args ++ rest) = .ok r := by
    rw [Form.read, hitems', hitems]
    exact (hread' {} items).trans hread
  rw [read, hwhole]
  rfl

variable {first : String}

theorem ne_dashes (hfirst : first.toList.head? ≠ some '-') : first ≠ "--" := by
  rintro rfl
  exact hfirst (by decide)

/-- With the first word all that follows is taken. -/
theorem readItems_word {f : Form} {r : Reading} {word : String} {items : List Item}
    (hf : f.operands ≠ .none) :
    f.readItems r (.word word :: items) =
      .ok { r with operands := word :: items.map Item.text } := by
  rw [Form.readItems]
  · split
    · rfl
    · rfl
    · next hnone => exact absurd hnone hf
  · exact fun _ _ h => nomatch h

/-- Behind the mode, what the tool is given is taken as it is. -/
theorem readMode_exec (hfirst : first.toList.head? ≠ some '-') (rest : List String) :
    readMode ("exec" :: first :: rest) = .ok (some (.exec (first :: rest)), []) := by
  obtain ⟨items, hitems⟩ := exists_items_iff.2 fun arg (_ : arg ∈ rest.takeWhile _) =>
    exists_classify_exec arg
  have hread : (modeForm .exec).read (first :: rest) = .ok { operands := first :: rest } := by
    rw [Form.read, items_cons (ne_dashes hfirst) (classify_of_head? hfirst), hitems]
    exact (readItems_word (f := modeForm .exec) (by decide)).trans (by rw [text_of_items hitems])
  rw [readMode]
  change ((modeForm .exec).read (first :: rest) >>= fun r => _) = _
  rw [hread]
  rfl

/-- The options of a reading without a mode, or with one that nothing is left of. -/
theorem concluded_leads {operands : List String} {mode : Option Mode}
    (hmode : readMode operands = .ok (mode, [])) :
    Reading.concluded ⟨leads.map Lead.option, operands, []⟩ = .ok { asked leads with mode } := by
  rw [Reading.concluded, hmode]
  have hdirectory : Reading.value? ⟨leads.map Lead.option, operands, []⟩ .directory =
      (leads.filterMap Lead.directory?).getLast? :=
    value?_leads fun l => by cases l <;> rfl
  have htool : Reading.value? ⟨leads.map Lead.option, operands, []⟩ .toolDirectory =
      (leads.filterMap Lead.toolDirectory?).getLast? :=
    value?_leads fun l => by cases l <;> rfl
  rw [hdirectory, htool, verbosity_leads]
  rfl

/-- What the tool is given can be told from options just if none of it is ambiguous. -/
theorem exists_items_words_iff (hfirst : first.toList.head? ≠ some '-') (rest : List String) :
    (∃ items, mainForm.items (first :: rest) = .ok items) ↔
      ∀ word ∈ rest.takeWhile (· ≠ "--"), ¬IsAmbiguous word := by
  rw [exists_items_iff, List.takeWhile_cons_of_pos (by simpa using ne_dashes hfirst),
    List.forall_mem_cons, and_iff_right ⟨_, classify_of_head? hfirst⟩]
  exact forall₂_congr fun _ _ => exists_classify_mainForm_iff

/-- What is behind the mode that runs the tool belongs to the tool, and the options in front of the
mode are read as without it, just if no word of the tool is ambiguous to the whole command line;
words behind two dashes never are. Otherwise the command line is refused. -/
theorem words_left_to_tool (hleads : ∀ l ∈ leads, l.IsValid)
    (hfirst : first.toList.head? ≠ some '-') (rest : List String) :
    read (leads.flatMap Lead.words) = .ok (asked leads) ∧
      ∀ i, read (leads.flatMap Lead.words ++ "exec" :: first :: rest) = .ok i ↔
        i = { asked leads with mode := some (.exec (first :: rest)) } ∧
          ∀ word ∈ rest.takeWhile (· ≠ "--"), ¬IsAmbiguous word := by
  have hreads := reads_leads hleads
  constructor
  · have hnone : mainForm.items [] = .ok [] := rfl
    have hread := read_append hreads hnone rfl
    rw [List.append_nil] at hread
    exact hread.trans (concluded_leads rfl)
  intro i
  have hmode : mainForm.items ("exec" :: first :: rest) =
      (.word "exec" :: ·) <$> mainForm.items (first :: rest) :=
    items_cons (by decide) (classify_of_head? (by decide))
  have hread {items : List Item} (hitems : mainForm.items (first :: rest) = .ok items) :
      read (leads.flatMap Lead.words ++ "exec" :: first :: rest) =
        .ok { asked leads with mode := some (.exec (first :: rest)) } := by
    rw [hitems] at hmode
    have hword : mainForm.readItems { options := leads.map Lead.option } (.word "exec" :: items) =
        .ok ⟨leads.map Lead.option, "exec" :: first :: rest, []⟩ := by
      rw [readItems_word (by decide), text_of_items hitems]
    exact (read_append hreads hmode hword).trans (concluded_leads (readMode_exec hfirst rest))
  -- What is in front is told from options whatever follows, so all depends on the tool's words.
  rw [← exists_items_words_iff hfirst]
  constructor
  · intro h
    obtain ⟨whole, _, hwhole, -⟩ := exists_items_of_read h
    obtain ⟨items, hfront, -⟩ := hreads
    rw [hfront, hmode] at hwhole
    cases hitems : mainForm.items (first :: rest) with
    | error stop => rw [hitems] at hwhole; cases hwhole
    | ok items => exact ⟨Except.ok.inj (h.symm.trans (hread hitems)), items, rfl⟩
  · rintro ⟨rfl, items, hitems⟩
    exact hread hitems

theorem words_left_to_tool_likenesses :
    (∀ l ∈ [.louder, .directory false "-1", .toolDirectory "", .louder], Lead.IsValid l) ∧
      "x".toList.head? ≠ some '-' ∧
      read ["-v", "-C", "-1", "--tool-dir", "", "-v", "exec", "x", "-h", "--versio", "--",
          "--ver"] =
        .ok { verbosity := 2, directory := some "-1", toolDirectory := some "",
              mode := some (.exec ["x", "-h", "--versio", "--", "--ver"]) } := by
  have hlouder : Lead.louder.IsValid := ⟨{ verbosity := 1 }, by decide +kernel⟩
  have hdirectory : (Lead.directory false "-1").IsValid :=
    ⟨{ directory := some "-1" }, by decide +kernel⟩
  have htool : (Lead.toolDirectory "").IsValid :=
    ⟨{ toolDirectory := some "" }, by decide +kernel⟩
  have hleads : ∀ l ∈ [.louder, .directory false "-1", .toolDirectory "", .louder],
      Lead.IsValid l := by
    simp only [List.forall_mem_cons]
    exact ⟨hlouder, hdirectory, htool, hlouder, nofun⟩
  have hfirst : "x".toList.head? ≠ some '-' := by decide
  exact ⟨hleads, hfirst, ((words_left_to_tool hleads hfirst _).2 _).2 ⟨rfl, by decide +kernel⟩⟩

/-- A word of the tool that shortens two options of the whole command line is refused. -/
theorem word_refused_shortened :
    read ["exec", "x", "--ver"] =
      .error (.misuse mainForm "ambiguous option: --ver could match --version, --verbose") := by
  decide +kernel

end ToolHost.CommandLine
