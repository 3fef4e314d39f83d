import NamedCells.Proofs.PrintedLines
import NamedCells.Proofs.TellingApart

/-!
# The line that shows a record

The record of a cell is shown in one line with the name in front as it is, so the separators behind
the name may also be part of it: a cell may be called `a = 1 (revision 1, created)`.  The line is
read from its end.  The word for the latest change, the revision and the number hold no blank, and
they stand behind the last blanks of the line; what is left in front of them is the name.

A line is one line because it shows a cell that is stored: no control character is in its name.

## Main results

* `Text.append_cons_right_inj` — a text is known behind the last place where a character stands.
* `Binary64.blank_notMem_shown` — no number is shown with a blank.
* `Cell.summary_eq_iff` — **records with the same line are the same**, but for what is rounded away.
* `record_line_tells_cell` — **the line tells the cell** in every session.
-/

namespace NamedCells

/-- A text ends behind the last place where a character stands. -/
theorem Text.append_cons_right_inj {c : Char} {xs ys as bs : List Char} (left : c ∉ as)
    (right : c ∉ bs) : xs ++ c :: as = ys ++ c :: bs ↔ xs = ys ∧ as = bs := by
  rw [← List.reverse_inj, List.reverse_append, List.reverse_append, List.reverse_cons,
    List.reverse_cons, List.append_assoc, List.append_assoc, List.singleton_append,
    List.singleton_append, append_cons_inj (by simpa using left) (by simpa using right),
    List.reverse_inj, List.reverse_inj, and_comm]

/-- No number is shown with a blank. -/
theorem Binary64.blank_notMem_shown (x : Binary64) : ' ' ∉ x.shown.toList := by
  rcases x.isFinite_or_shown_mem with finite | word
  · intro mem
    have bare : Text.isBare ' ' = true := isBare_of_ofChars? (ofChars?_shown finite) ' ' mem
    exact absurd bare (by decide)
  · have words : ∀ s ∈ ["#NAN!", "#INF!", "-#INF!"], ' ' ∉ s.toList := by decide
    exact words _ word

theorem Change.word_inj {c d : Change} : c.word = d.word ↔ c = d := by
  cases c <;> cases d <;> decide

namespace Cell

/-- The characters of the line, cut at its last blanks. -/
theorem toList_summary (cell : Cell) :
    cell.summary.toList =
      cell.name.toList ++ " =".toList ++ ' ' :: cell.value.shown.toList ++ ' ' ::
        "(revision".toList ++ ' ' :: ((toString cell.revision).toList ++ [',']) ++ ' ' ::
          (cell.lastChange.word.toList ++ [')']) := by
  simp [summary]

/-- **Records with the same line are the same**, but for the digits that are rounded away. -/
theorem summary_eq_iff {c d : Cell} :
    c.summary = d.summary ↔
      c.name = d.name ∧ c.value.shown = d.value.shown ∧ c.revision = d.revision ∧
        c.lastChange = d.lastChange := by
  have number (n : Nat) : ' ' ∉ (toString n).toList ++ [','] := by
    rw [List.mem_append, not_or]
    refine ⟨fun mem => ?_, by decide⟩
    exact absurd (Text.isBare_of_toString n ' ' mem) (by decide)
  have word (change : Change) : ' ' ∉ change.word.toList ++ [')'] := by
    cases change <;> decide
  have revision : ' ' ∉ "(revision".toList := by decide
  rw [← String.toList_inj, toList_summary, toList_summary,
    Text.append_cons_right_inj (word _) (word _), Text.append_cons_right_inj (number _) (number _),
    Text.append_cons_right_inj revision revision,
    Text.append_cons_right_inj c.value.blank_notMem_shown d.value.blank_notMem_shown]
  simp only [List.append_cancel_right_eq, String.toList_inj, Text.toString_inj, Change.word_inj,
    and_assoc, true_and]

end Cell

/-- A cell that is stored under a well-formed name is shown. -/
theorem Session.execute_inspect_of_get? {g : Engine} {name : String} {cell : Cell}
    (good : Name.fault? name = none) (held : g.registry.get? name = some cell) :
    (execute g (.inspect name)).1 = .output cell.summary := by
  simp only [execute, Engine.cell, Engine.afterReading, Registry.lookup_eq_ok good held]
  rfl

/-- **The line that shows a record tells the cell.**  Take two cells that are stored in any two
sessions.  Each of them bears the name it is stored under, which is well formed, and is shown in a
text without a line end.  The two texts are the same iff the names, the numbers that are shown, the
revisions and the latest changes are the same, whatever stands in the names. -/
theorem record_line_tells_cell {config config' : EngineConfig} {start start' : Engine}
    (accepted : Engine.make config = .ok start) (accepted' : Engine.make config' = .ok start')
    (read read' : List (Except CommandError Command)) {name name' : String} {cell cell' : Cell}
    (held : (Session.afterAll start read).registry.get? name = some cell)
    (held' : (Session.afterAll start' read').registry.get? name' = some cell') :
    let shown := (Session.execute (Session.afterAll start read) (.inspect name)).1
    let shown' := (Session.execute (Session.afterAll start' read') (.inspect name')).1
    (Name.WellFormed name ∧ cell.name = name ∧ shown = .output cell.summary ∧
      '\n' ∉ cell.summary.toList) ∧
    (shown = shown' ↔ name = name' ∧ cell.value.shown = cell'.value.shown ∧
      cell.revision = cell'.revision ∧ cell.lastChange = cell'.lastChange) := by
  intro shown shown'
  have presentable := Session.presentable_afterAll accepted read
  have fits : cell.Fits config name := presentable.registry.cells name cell held
  have fits' : cell'.Fits config' name' :=
    (Session.presentable_afterAll accepted' read').registry.cells name' cell' held'
  have line : shown = .output cell.summary := Session.execute_inspect_of_get? fits.good held
  have line' : shown' = .output cell'.summary := Session.execute_inspect_of_get? fits'.good held'
  have plain : Text.Plain cell.summary.toList :=
    (Session.Prints.record held).plain presentable nofun
  refine ⟨⟨Name.fault?_eq_none_iff.mp fits.good, fits.name_eq, line, plain.notMem (by decide)⟩, ?_⟩
  rw [line, line', Outcome.output.injEq, Cell.summary_eq_iff, fits.name_eq, fits'.name_eq]

/-- In one session a cell is created twice whose name looks like the rest of a record; in another
one it is created with a value that is rounded to the same hundredths, and then set.  Both show the
same number, but the changes differ, and so do the lines. -/
theorem record_line_tells_cell_lookalike :
    let name := "a = 1 (revision 2, redefined)"
    let read := ["create \"a = 1 (revision 2, redefined)\" 7",
      "create \"a = 1 (revision 2, redefined)\" 0.999"].map Command.parse
    let read' := ["create \"a = 1 (revision 2, redefined)\" 1.001",
      "set \"a = 1 (revision 2, redefined)\" 1.001"].map Command.parse
    let line (read : List (Except CommandError Command)) :=
      (Session.execute (Session.afterAll (Engine.new {}) read) (.inspect name)).1
    Engine.make {} = .ok (Engine.new {}) ∧
      line read = .output "a = 1 (revision 2, redefined) = 1.00 (revision 2, redefined)" ∧
      line read ≠ line read' := by
  intro name read read' line
  have accepted : Engine.make {} = .ok (Engine.new {}) := rfl
  have held : (Session.afterAll (Engine.new {}) read).registry.get? name =
      some ⟨name, .value, ⟨0x3feff7ced916872b⟩, 2, .redefined⟩ := by decide +kernel
  have held' : (Session.afterAll (Engine.new {}) read').registry.get? name =
      some ⟨name, .value, ⟨0x3ff004189374bc6a⟩, 2, .assigned⟩ := by decide +kernel
  obtain ⟨⟨-, -, shown, -⟩, same⟩ := record_line_tells_cell accepted accepted read read' held held'
  refine ⟨accepted, shown.trans (by decide +kernel), fun equal => ?_⟩
  obtain ⟨-, -, -, change⟩ := same.mp equal
  cases change

end NamedCells
