import NamedCells.Proofs.Joining
import NamedCells.Proofs.WrittenCommands

/-!
# Scripts as they are written

A script is written as commands with line ends and semicolons between them.  At the end of every
written command the scan that cuts the script stands outside of quotes, and it has not cut within
the command: the only semicolons in a command are those in the quotation marks of a name.  So the
segments of the script are its commands, as they are written.

## Main definitions

* `Command.Quotable` — the commands that can be written.
* `Script.Written` — the texts of a list of commands.
* `Script.Uncut` — a text within which the scan does not cut.

## Main results

* `Command.uncut_written` — the scan does not cut within a written command.
* `Script.segmentsOf_written` — the segments of a written script are its commands as written.
* `script_round_trip` — **a written script is read as its commands.**
-/

namespace NamedCells

/-! ### How scripts are written -/

/-- An argument that can be written: a name that holds no quotation mark and no line end, or a
number. -/
def Argument.Quotable : Argument → Prop
  | .name s => '"' ∉ s.toList ∧ '\n' ∉ s.toList
  | .number _ => True

instance : (a : Argument) → Decidable a.Quotable
  | .name _ => inferInstanceAs (Decidable (_ ∧ _))
  | .number _ => inferInstanceAs (Decidable True)

/-- A command that can be written. -/
def Command.Quotable (c : Command) : Prop := ∀ a ∈ c.arguments, a.Quotable

instance (c : Command) : Decidable c.Quotable := List.decidableBAll _ c.arguments

namespace Script

/-- What may stand around commands: blanks, line ends among them, and semicolons. -/
def Padding (cs : List Char) : Prop := ∀ c ∈ cs, Text.isBlank c = true ∨ c = ';'

instance (cs : List Char) : Decidable (Padding cs) := List.decidableBAll _ cs

/-- The texts of a list of commands.  Between two of them stands padding in which there is a line
end or a semicolon, and there may be padding at either end. -/
inductive Written : List Command → List Char → Prop where
  | nil : Written [] []
  | pad {commands : List Command} {padding script : List Char} (pads : Padding padding)
    (written : Written commands script) : Written commands (padding ++ script)
  | last {c : Command} {text padding : List Char} (first : c.Written text)
    (pads : Padding padding) : Written [c] (text ++ padding)
  | cons {c : Command} {rest : List Command} {text separator script : List Char}
    (first : c.Written text) (pads : Padding separator)
    (separates : ∃ d ∈ separator, d = '\n' ∨ d = ';') (others : Written rest script) :
    Written (c :: rest) (text ++ (separator ++ script))

/-! ### Texts without cuts -/

variable {q q' q'' : Bool} {c : Char} {cs ds xs more padding : List Char}

/-- A text within which the scan does not cut.  It begins and ends in quotes or not, as `q` and `q'`
say. -/
def Uncut (q : Bool) (cs : List Char) (q' : Bool) : Prop :=
  ∀ more, piecesFrom q (cs ++ more) = (piecesFrom q' more).modifyHead (cs ++ ·)

theorem uncut_nil : Uncut q [] q := by
  intro more
  exact (congrFun List.modifyHead_id (piecesFrom q more)).symm

theorem uncut_singleton (uncut : ¬ Cuts q c) : Uncut q [c] (toggle q c) := by
  intro more
  rw [List.singleton_append, piecesFrom_cons, if_neg uncut]
  rfl

theorem Uncut.append (first : Uncut q cs q') (second : Uncut q' ds q'') :
    Uncut q (cs ++ ds) q'' := by
  intro more
  rw [List.append_assoc, first, second, List.modifyHead_modifyHead]
  congr 1
  funext piece
  exact (List.append_assoc cs ds piece).symm

theorem uncut_of_forall (plain : ∀ c ∈ cs, ¬ Cuts q c ∧ c ≠ '"') : Uncut q cs q := by
  induction cs with
  | nil => exact uncut_nil
  | cons c cs ih =>
    obtain ⟨⟨uncut, noMark⟩, plain⟩ := List.forall_mem_cons.mp plain
    have stays : toggle q c = q := if_neg noMark
    have first : Uncut q [c] q := by
      have one := uncut_singleton uncut
      rwa [stays] at one
    exact first.append (ih plain)

/-- Bare words are not cut. -/
theorem uncut_of_isBare (bare : ∀ c ∈ cs, Text.isBare c = true) : Uncut q cs q := by
  refine uncut_of_forall fun c mem => ?_
  have other (d : Char) (mark : Text.isBare d = false) : c ≠ d := Text.ne_of_apply (bare c mem) mark
  have noLineFeed : c ≠ '\n' := other _ (by decide)
  have noSemicolon : c ≠ ';' := other _ (by decide)
  exact ⟨by simp [Cuts, noLineFeed, noSemicolon], other _ (by decide)⟩

/-- Blanks that end no line are not cut. -/
theorem uncut_of_isBlank (blank : ∀ c ∈ cs, Text.isBlank c = true ∧ c ≠ '\n') : Uncut q cs q := by
  refine uncut_of_forall fun c mem => ?_
  obtain ⟨blank, noLineFeed⟩ := blank c mem
  have noSemicolon : c ≠ ';' := Text.ne_of_apply blank (by decide)
  exact ⟨by simp [Cuts, noLineFeed, noSemicolon], Text.ne_of_apply blank (by decide)⟩

/-- A name in quotation marks is not cut, whatever semicolons are in it. -/
theorem uncut_quoted (noMark : '"' ∉ cs) (noLineFeed : '\n' ∉ cs) :
    Uncut false ('"' :: (cs ++ ['"'])) false := by
  have opens : Uncut false ['"'] true := uncut_singleton (by decide)
  have closes : Uncut true ['"'] false := uncut_singleton (by decide)
  have within : Uncut true cs true := by
    refine uncut_of_forall fun c mem => ⟨?_, ne_of_mem_of_not_mem mem noMark⟩
    simp [Cuts, ne_of_mem_of_not_mem mem noLineFeed]
  exact opens.append (within.append closes)

end Script

/-! ### Written commands in a script -/

/-- The scan does not cut within an argument, and ends outside of quotes. -/
theorem Argument.uncut_written {a : Argument} {text : List Char} (written : a.Written text) :
    Script.Uncut false text false := by
  cases written with
  | name noMark noLineFeed => exact Script.uncut_quoted noMark noLineFeed
  | number denotes same => exact Script.uncut_of_isBare (Binary64.isBare_of_ofChars? denotes)

theorem Argument.uncut_allWritten {as : List Argument} {text : List Char}
    (written : AllWritten as text) : Script.Uncut false text false := by
  induction written with
  | nil => exact Script.uncut_nil
  | cons blanks first others ih =>
    exact (Script.uncut_of_isBlank blanks.2).append ((uncut_written first).append ih)

/-- The scan does not cut within a written command, and ends outside of quotes. -/
theorem Command.uncut_written {c : Command} {text : List Char} (written : c.Written text) :
    Script.Uncut false text false := by
  obtain ⟨word, arguments, spelled, written, rfl⟩ := written
  exact (Script.uncut_of_isBare (Keyword.isBare_of_spelled spelled).2).append
    (Argument.uncut_allWritten written)

theorem Text.sealed_of_isBare {cs : List Char} (nonempty : cs ≠ [])
    (bare : ∀ c ∈ cs, isBare c = true) : Sealed cs :=
  ⟨cs.dropLast, cs.getLast nonempty, (List.dropLast_append_getLast nonempty).symm,
    isBlank_of_isBare (bare _ (List.getLast_mem nonempty))⟩

theorem Argument.sealed_written {a : Argument} {text : List Char} (written : a.Written text) :
    Text.Sealed text := by
  cases written with
  | @name s noMark noLineFeed => exact ⟨'"' :: s.toList, '"', rfl, by decide⟩
  | number denotes same =>
    refine Text.sealed_of_isBare ?_ (Binary64.isBare_of_ofChars? denotes)
    rintro rfl
    cases denotes

theorem Argument.sealed_append {as : List Argument} {text : List Char}
    (written : AllWritten as text) {xs : List Char} (ends : Text.Sealed xs) :
    Text.Sealed (xs ++ text) := by
  induction written generalizing xs with
  | nil => rwa [List.append_nil]
  | @cons a rest gap text more blanks first others ih =>
    have whole : xs ++ (gap ++ (text ++ more)) = (xs ++ gap ++ text) ++ more := by
      simp only [List.append_assoc]
    rw [whole]
    exact ih ((sealed_written first).append _)

/-- A written command is a segment as it is. -/
theorem Command.trim_written {c : Command} {text : List Char} (written : c.Written text) :
    Text.trim text = text ∧ Script.isCommand text = true := by
  obtain ⟨word, arguments, spelled, written, rfl⟩ := written
  obtain ⟨nonempty, bare⟩ := Keyword.isBare_of_spelled spelled
  have ends := Argument.sealed_append written (Text.sealed_of_isBare nonempty bare)
  obtain ⟨d, letters, rfl⟩ := List.exists_cons_of_ne_nil nonempty
  have first : Text.isBare d = true := bare d List.mem_cons_self
  exact ⟨Text.trim_of_sealed (Text.isBlank_of_isBare first) ends,
    (Script.isCommand_cons _ _).mpr (Text.ne_of_apply first (by decide))⟩

/-! ### The segments of a script -/

namespace Script

variable {c : Char} {cs xs more padding : List Char}

/-- A character of padding that does not cut is a blank that ends no line. -/
theorem blank_of_not_cuts (pads : Text.isBlank c = true ∨ c = ';') (uncut : ¬ Cuts false c) :
    Text.isBlank c = true ∧ c ≠ '\n' := by
  rcases pads with blank | semicolon
  · exact ⟨blank, fun lineFeed => uncut (.inl lineFeed)⟩
  · exact absurd (.inr ⟨semicolon, rfl⟩) uncut

theorem piecesFrom_cons_of_cuts (cuts : Cuts false c) :
    piecesFrom false (c :: cs) = [] :: piecesFrom false cs := by
  rw [piecesFrom_cons, if_pos cuts]

/-- Padding in front of a script does not matter. -/
theorem segmentsOf_padding_append (pads : Padding padding) :
    segmentsOf (padding ++ more) = segmentsOf more := by
  induction padding with
  | nil => rfl
  | cons c padding ih =>
    obtain ⟨first, pads⟩ := List.forall_mem_cons.mp pads
    rw [← ih pads, segmentsOf_eq_commands, segmentsOf_eq_commands, List.cons_append]
    by_cases cuts : Cuts false c
    · rw [piecesFrom_cons_of_cuts cuts, commands_cons]
      rfl
    · have blank := blank_of_not_cuts first cuts
      have passes : Uncut false [c] false := uncut_of_isBlank (List.forall_mem_singleton.mpr blank)
      obtain ⟨piece, pieces, cut⟩ := exists_piecesFrom_eq_cons false (padding ++ more)
      rw [← List.singleton_append, passes, cut, List.modifyHead_cons, commands_cons, commands_cons,
        List.singleton_append, Text.trim_cons_of_blank blank.1]

/-- A piece ends at the first cut, and the blanks before the cut are lost. -/
theorem commands_separated (pads : Padding padding) (separates : ∃ d ∈ padding, Cuts false d)
    (command : isCommand (Text.trim xs) = true) (more : List Char) :
    commands ((piecesFrom false (padding ++ more)).modifyHead (xs ++ ·)) =
      Text.trim xs :: segmentsOf more := by
  -- by induction on the padding: a blank before the cut goes to the piece
  induction padding generalizing xs with
  | nil =>
    obtain ⟨d, mem, -⟩ := separates
    cases mem
  | cons c padding ih =>
    obtain ⟨first, pads⟩ := List.forall_mem_cons.mp pads
    by_cases cuts : Cuts false c
    · rw [List.cons_append, piecesFrom_cons_of_cuts cuts, List.modifyHead_cons, List.append_nil,
        commands_cons, if_pos command, ← segmentsOf_eq_commands, segmentsOf_padding_append pads]
    · have blank := blank_of_not_cuts first cuts
      have passes : Uncut false [c] false := uncut_of_isBlank (List.forall_mem_singleton.mpr blank)
      have lost : Text.trim (xs ++ [c]) = Text.trim xs :=
        Text.trim_append_of_blank xs (List.forall_mem_singleton.mpr blank.1)
      have later : ∃ d ∈ padding, Cuts false d := by
        obtain ⟨d, mem, mark⟩ := separates
        rcases List.mem_cons.mp mem with rfl | mem
        · exact absurd mark cuts
        · exact ⟨d, mem, mark⟩
      have moved : ((piecesFrom false ([c] ++ (padding ++ more))).modifyHead (xs ++ ·)) =
          (piecesFrom false (padding ++ more)).modifyHead ((xs ++ [c]) ++ ·) := by
        rw [passes, List.modifyHead_modifyHead]
        congr 1
        funext piece
        exact (List.append_assoc xs [c] piece).symm
      rw [← lost, ← ih pads later (by rw [lost, command]), ← moved]
      rfl

/-- A command in front of padding that separates is a segment. -/
theorem segmentsOf_separated {k : Command} (written : k.Written cs) (pads : Padding padding)
    (separates : ∃ d ∈ padding, Cuts false d) (more : List Char) :
    segmentsOf (cs ++ (padding ++ more)) = cs :: segmentsOf more := by
  obtain ⟨whole, command⟩ := Command.trim_written written
  have separated := commands_separated pads separates (by rw [whole, command]) more
  rw [segmentsOf_eq_commands, Command.uncut_written written, separated, whole]

/-- A command in front of padding alone is a segment. -/
theorem segmentsOf_last {k : Command} (written : k.Written cs) (pads : Padding padding) :
    segmentsOf (cs ++ padding) = [cs] := by
  by_cases separates : ∃ d ∈ padding, Cuts false d
  · have separated := segmentsOf_separated written pads separates []
    rwa [List.append_nil] at separated
  · -- without a cut the padding is blank and goes to the piece, which is trimmed
    have blank : ∀ c ∈ padding, Text.isBlank c = true ∧ c ≠ '\n' := fun c mem =>
      blank_of_not_cuts (pads c mem) fun cuts => separates ⟨c, mem, cuts⟩
    obtain ⟨whole, command⟩ := Command.trim_written written
    have trimmed : Text.trim (cs ++ padding) = cs := by
      rw [Text.trim_append_of_blank cs fun c mem => (blank c mem).1, whole]
    have piece : piecesFrom false (cs ++ padding) = [cs ++ padding] := by
      have uncut := (Command.uncut_written written).append (uncut_of_isBlank blank) []
      simpa using uncut
    rw [segmentsOf_eq_commands, piece, commands_cons, trimmed, if_pos command]
    rfl

/-- **The segments of a written script are its commands as written.** -/
theorem segmentsOf_written {commands : List Command} {script : List Char}
    (written : Written commands script) :
    List.Forall₂ Command.Written commands (segmentsOf script) := by
  induction written with
  | nil => exact .nil
  | pad pads written ih => rwa [segmentsOf_padding_append pads]
  | last first pads =>
    rw [segmentsOf_last first pads]
    exact .cons first .nil
  | cons first pads separates others ih =>
    obtain ⟨d, mem, mark⟩ := separates
    have cuts : Cuts false d := mark.imp_right fun semicolon => ⟨semicolon, rfl⟩
    rw [segmentsOf_separated first pads ⟨d, mem, cuts⟩]
    exact .cons first ih

end Script

/-! ### Every list of commands can be written -/

theorem Argument.exists_written {a : Argument} (quotable : a.Quotable) :
    ∃ text, a.Written text := by
  cases a with
  | name s => exact ⟨_, .name quotable.1 quotable.2⟩
  | number x =>
    obtain ⟨y, denotes, same⟩ := Binary64.ofText?_text x
    exact ⟨x.text.toList, .number denotes same.symm⟩

theorem Argument.exists_allWritten {as : List Argument} (quotable : ∀ a ∈ as, a.Quotable) :
    ∃ text, AllWritten as text := by
  induction as with
  | nil => exact ⟨[], .nil⟩
  | cons a as ih =>
    obtain ⟨first, others⟩ := List.forall_mem_cons.mp quotable
    obtain ⟨text, written⟩ := exists_written first
    obtain ⟨more, allWritten⟩ := ih others
    have blank : Gap [' '] := by decide
    exact ⟨_, .cons blank written allWritten⟩

theorem Keyword.exists_spelled (k : Keyword) :
    ∃ word : List Char, String.ofList (word.map Char.toLower) ∈ k.spellings := by
  have lower : ∃ s ∈ k.spellings, String.ofList (s.toList.map Char.toLower) = s := by
    cases k <;> decide
  obtain ⟨s, mem, same⟩ := lower
  exact ⟨s.toList, by rwa [same]⟩

theorem Command.exists_written {c : Command} (quotable : c.Quotable) : ∃ text, c.Written text := by
  obtain ⟨word, spelled⟩ := c.keyword.exists_spelled
  obtain ⟨arguments, written⟩ := Argument.exists_allWritten quotable
  exact ⟨word ++ arguments, word, arguments, spelled, written, rfl⟩

theorem Script.exists_written {commands : List Command} (quotable : ∀ c ∈ commands, c.Quotable) :
    ∃ script, Written commands script := by
  induction commands with
  | nil => exact ⟨[], .nil⟩
  | cons c commands ih =>
    obtain ⟨first, others⟩ := List.forall_mem_cons.mp quotable
    obtain ⟨text, written⟩ := Command.exists_written first
    obtain ⟨script, rest⟩ := ih others
    have lineFeed : Padding ['\n'] := by decide
    exact ⟨_, .cons written lineFeed ⟨'\n', List.mem_singleton_self _, .inl rfl⟩ rest⟩

/-! ### The round trip -/

/-- Texts of commands are read as the commands, one by one. -/
theorem Command.exists_read {commands : List Command} {texts : List (List Char)}
    (written : List.Forall₂ Command.Written commands texts) :
    ∃ read : List Command, texts.map (fun text => Command.parse (String.ofList text)) =
        read.map .ok ∧ List.Forall₂ Command.Same commands read := by
  induction written with
  | nil => exact ⟨[], rfl, .nil⟩
  | cons first others ih =>
    obtain ⟨d, parsed, same⟩ := Command.parse_written first
    obtain ⟨read, rest, allSame⟩ := ih
    refine ⟨d :: read, ?_, .cons same allSame⟩
    rw [List.map_cons, List.map_cons, parsed, rest]

/-- **A written script is read as its commands.**  Every list of commands without quotation marks
and line ends in their names can be written, and however it is written, cutting the script and
parsing the segments gives the commands again, up to identifying the NaNs. -/
theorem script_round_trip (commands : List Command) (quotable : ∀ c ∈ commands, c.Quotable) :
    (∃ script : String, Script.Written commands script.toList) ∧
    ∀ script : String, Script.Written commands script.toList →
      ∃ read, (Script.segments script).map Command.parse = read.map .ok ∧
        List.Forall₂ Command.Same commands read := by
  constructor
  · obtain ⟨script, written⟩ := Script.exists_written quotable
    exact ⟨String.ofList script, by rwa [String.toList_ofList]⟩
  · intro script written
    obtain ⟨read, parsed, same⟩ := Command.exists_read (Script.segmentsOf_written written)
    refine ⟨read, ?_, same⟩
    rw [Script.segments, List.map_map]
    exact parsed

/-- Marks and blanks in names, and a NaN. -/
theorem script_round_trip_marks_in_names :
    let commands : List Command := [.create "; #" (Binary64.nan true), .get "", .count]
    let script := " ;CREATE\t\"; #\"  nAn ;\n get \"\"\n\ncount"
    (∀ c ∈ commands, c.Quotable) ∧ Script.Written commands script.toList ∧
      ∃ read, (Script.segments script).map Command.parse = read.map .ok ∧
        List.Forall₂ Command.Same commands read := by
  intro commands script
  have quotable : ∀ c ∈ commands, c.Quotable := by decide
  have created : (Command.create "; #" (Binary64.nan true)).Written
      "CREATE\t\"; #\"  nAn".toList := by
    have name : (Argument.name "; #").Written "\"; #\"".toList := .name (by decide) (by decide)
    have denotes : Binary64.ofChars? "nAn".toList = some (Binary64.nan false) := rfl
    have number : (Argument.number (Binary64.nan true)).Written "nAn".toList :=
      .number denotes (by decide)
    have tab : Gap ['\t'] := by decide
    have blanks : Gap [' ', ' '] := by decide
    exact ⟨"CREATE".toList, _, by decide, .cons tab name (.cons blanks number .nil), rfl⟩
  have got : (Command.get "").Written "get \"\"".toList := by
    have name : (Argument.name "").Written "\"\"".toList := .name (by decide) (by decide)
    have blank : Gap [' '] := by decide
    exact ⟨"get".toList, _, by decide, .cons blank name .nil, rfl⟩
  have counted : Command.count.Written "count".toList :=
    ⟨"count".toList, [], by decide, .nil, rfl⟩
  have front : Script.Padding " ;".toList := by decide
  have first : Script.Padding " ;\n ".toList := by decide
  have second : Script.Padding "\n\n".toList := by decide
  have nothing : Script.Padding [] := by decide
  have joined := Script.Written.pad front (.cons created first ⟨';', by decide, .inr rfl⟩
    (.cons got second ⟨'\n', by decide, .inl rfl⟩ (.last counted nothing)))
  have written : Script.Written commands script.toList := by
    simpa [commands, script] using joined
  exact ⟨quotable, written, (script_round_trip commands quotable).2 script written⟩

end NamedCells
