import NamedCells.Settings

/-!
# Which documents give settings

The sections of a document and the fields of a section are read one after the other.  Reading one
sets its part of the settings and nothing else, and whether it can be read does not depend on what
was read before.  So a document gives settings iff each of its sections does, and a section that is
written as a table does iff each of its fields is known and has a value of its type.

## Main definitions

* `Redefinition.Written` — an item stands for a choice.
* `Settings.EngineField`, `Settings.LogField` — a known field with a value of its type.

## Main results

* `readRedefinition_eq_ok_iff` — the items that stand for a choice are those that are read as it.
* `EngineConfig.readField_eq_ok_iff` — what reading a field can do.
* `EngineConfig.ofItem_table_isOk_iff`, `readLog_table_isOk_iff` — which tables can be read.
* `Settings.ofEntries_isOk_iff` — **which documents give settings.**
-/

namespace NamedCells

open Toml (Item Entries TableKind)

/-! ### Values -/

/-- The word for a choice. -/
def Redefinition.word : Redefinition → String
  | overwrite => "overwrite"
  | reject => "reject"

/-- An item with nothing in it. -/
inductive Toml.Item.IsEmpty : Item → Prop
  | array : IsEmpty (.array [])
  | table (kind : TableKind) : IsEmpty (.table kind [])
  | tables : IsEmpty (.tables [])

/-- The item that stands for a choice: its word, or a table with the word as its one key and with
nothing under it. -/
inductive Redefinition.Written : Item → Redefinition → Prop
  | word (choice : Redefinition) : Written (.string choice.word) choice
  | key (kind : TableKind) (choice : Redefinition) {content : Item} (empty : content.IsEmpty) :
    Written (.table kind [(choice.word, content)]) choice

namespace Settings

/-- A field of the engine with a value of its type. -/
inductive EngineField : String → Item → Prop
  | redefinition {item : Item} {choice : Redefinition} (written : choice.Written item) :
    EngineField "redefinition" item
  | allowNonFinite (b : Bool) : EngineField "allow_non_finite" (.boolean b)
  | maxCells (n : Nat) : EngineField "max_cells" (.integer n)

/-- A field of the log with a value of its type. -/
inductive LogField : String → Item → Prop
  | filter (text : String) : LogField "filter" (.string text)

end Settings

/-! ### Results -/

section Results

variable {ε α β : Type} {x : Except ε α} {b : β}

theorem bind_eq_ok_iff {f : α → Except ε β} :
    x >>= f = .ok b ↔ ∃ a, x = .ok a ∧ f a = .ok b := by
  cases x with
  | error e => exact ⟨nofun, nofun⟩
  | ok a => exact ⟨fun ok => ⟨a, rfl, ok⟩, fun ⟨_, same, ok⟩ => Except.ok.inj same ▸ ok⟩

theorem map_eq_ok_iff {f : α → β} : x.map f = .ok b ↔ ∃ a, x = .ok a ∧ f a = b := by
  cases x <;> simp [Except.map]

end Results

/-! ### Items -/

section Items

variable {item : Item}

theorem readText_eq_ok_iff {text : String} : readText item = .ok text ↔ item = .string text := by
  cases item <;> simp [readText]

theorem readFlag_eq_ok_iff {b : Bool} : readFlag item = .ok b ↔ item = .boolean b := by
  cases item <;> simp [readFlag]

theorem readCount_eq_ok_iff {n : Nat} : readCount item = .ok n ↔ item = .integer n := by
  cases item with
  | integer m => cases m <;> simp [readCount, ← Int.ofNat_eq_natCast]
  | _ => simp [readCount]

theorem readRedefinitionName_eq_ok_iff {name : String} {choice : Redefinition} :
    readRedefinitionName name = .ok choice ↔ name = choice.word := by
  constructor
  · intro ok
    rw [readRedefinitionName] at ok
    split at ok
    · next named =>
      obtain rfl := Except.ok.inj ok
      exact named
    · split at ok
      · next named =>
        obtain rfl := Except.ok.inj ok
        exact named
      · cases ok
  · rintro rfl
    cases choice <;> rfl

theorem checkChoiceContent_eq_ok_iff : checkChoiceContent item = .ok () ↔ item.IsEmpty := by
  constructor
  · intro ok
    rw [checkChoiceContent.eq_def] at ok
    split at ok
    · exact .table _
    · cases ok
    · exact .array
    · cases ok
    · exact .tables
    all_goals cases ok
  · rintro (_ | _ | _) <;> rfl

theorem readRedefinition_eq_ok_iff {choice : Redefinition} :
    readRedefinition item = .ok choice ↔ choice.Written item := by
  constructor
  · intro ok
    rw [readRedefinition.eq_def] at ok
    split at ok
    · obtain rfl := readRedefinitionName_eq_ok_iff.mp ok
      exact .word choice
    · obtain ⟨choice', named, behind⟩ := bind_eq_ok_iff.mp ok
      obtain ⟨_, checked, same⟩ := bind_eq_ok_iff.mp behind
      obtain rfl := Except.ok.inj same
      obtain rfl := readRedefinitionName_eq_ok_iff.mp named
      exact .key _ _ (checkChoiceContent_eq_ok_iff.mp checked)
    · cases ok
    · cases ok
  · rintro (_ | ⟨kind, _, empty⟩)
    · exact readRedefinitionName_eq_ok_iff.mpr rfl
    · have named := readRedefinitionName_eq_ok_iff.mpr (Eq.refl choice.word)
      have checked := checkChoiceContent_eq_ok_iff.mpr empty
      exact bind_eq_ok_iff.mpr ⟨choice, named, bind_eq_ok_iff.mpr ⟨(), checked, rfl⟩⟩

end Items

/-! ### Entries read one after the other -/

section Entries

variable {ε σ : Type} {step : σ → String × Item → Except ε σ} {s : σ} {entries : Entries}

/-- Entries are read to their end iff each of them can be read, whatever was read before. -/
theorem foldlM_isOk_iff {Good : String × Item → Prop}
    (each : ∀ s entry, (∃ s', step s entry = .ok s') ↔ Good entry) :
    (∃ s', entries.foldlM step s = .ok s') ↔ ∀ entry ∈ entries, Good entry := by
  induction entries generalizing s with
  | nil => exact ⟨fun _ => nofun, fun _ => ⟨s, rfl⟩⟩
  | cons entry entries ih =>
    simp only [List.foldlM_cons, bind_eq_ok_iff, List.forall_mem_cons, ← each s entry]
    constructor
    · rintro ⟨s', s₁, first, others⟩
      exact ⟨⟨s₁, first⟩, ih.mp ⟨s', others⟩⟩
    · rintro ⟨⟨s₁, first⟩, others⟩
      obtain ⟨s', others⟩ := ih.mpr others
      exact ⟨s', s₁, first, others⟩

end Entries

/-! ### Sections -/

section Sections

variable {config config' : EngineConfig} {settings settings' : Settings} {field name : String}
  {item : Item} {kind : TableKind} {entries document : Entries} {filter : Option String}

/-- Reading a field of the engine sets it and nothing else, and there are three fields. -/
theorem EngineConfig.readField_eq_ok_iff : config.readField field item = .ok config' ↔
    (field = "redefinition" ∧ ∃ choice : Redefinition, choice.Written item ∧
      { config with redefinition := choice } = config') ∨
    (field = "allow_non_finite" ∧ ∃ b, item = .boolean b ∧
      { config with allowNonFinite := b } = config') ∨
    (field = "max_cells" ∧ ∃ n : Nat, item = .integer n ∧
      { config with maxCells := n } = config') := by
  rw [readField]
  split
  · next same => simp [same, map_eq_ok_iff, readRedefinition_eq_ok_iff]
  · split
    · next same => simp [same, map_eq_ok_iff, readFlag_eq_ok_iff]
    · split
      · next same => simp [same, map_eq_ok_iff, readCount_eq_ok_iff]
      · simp [*]

/-- Reading the field of the log. -/
theorem readLogField_eq_ok_iff : readLogField field item = .ok filter ↔
    field = "filter" ∧ ∃ text, item = .string text ∧ some text = filter := by
  rw [readLogField]
  split
  · next same => simp [same, map_eq_ok_iff, readText_eq_ok_iff]
  · simp [*]

/-- Reading a section sets it and nothing else, and there are two sections. -/
theorem Settings.readSectionNamed_eq_ok_iff :
    settings.readSectionNamed name item = .ok settings' ↔
      (name = "engine" ∧ ∃ engine, EngineConfig.ofItem item = .ok engine ∧
        { settings with engine } = settings') ∨
      (name = "log" ∧ ∃ logFilter, readLog item = .ok logFilter ∧
        { settings with logFilter } = settings') := by
  rw [readSectionNamed]
  split
  · next same => simp [same, map_eq_ok_iff]
  · split
    · next same => simp [same, map_eq_ok_iff]
    · simp [*]

theorem EngineConfig.readField_isOk_iff :
    (∃ config', config.readField field item = .ok config') ↔ Settings.EngineField field item := by
  constructor
  · rintro ⟨config', ok⟩
    obtain ⟨rfl, choice, written, -⟩ | ⟨rfl, b, rfl, -⟩ | ⟨rfl, n, rfl, -⟩ :=
      readField_eq_ok_iff.mp ok
    · exact .redefinition written
    · exact .allowNonFinite b
    · exact .maxCells n
  · rintro (written | b | n)
    · exact ⟨_, readField_eq_ok_iff.mpr (.inl ⟨rfl, _, written, rfl⟩)⟩
    · exact ⟨_, readField_eq_ok_iff.mpr (.inr (.inl ⟨rfl, b, rfl, rfl⟩))⟩
    · exact ⟨_, readField_eq_ok_iff.mpr (.inr (.inr ⟨rfl, n, rfl, rfl⟩))⟩

theorem readLogField_isOk_iff :
    (∃ filter, readLogField field item = .ok filter) ↔ Settings.LogField field item := by
  constructor
  · rintro ⟨filter, ok⟩
    obtain ⟨rfl, text, rfl, -⟩ := readLogField_eq_ok_iff.mp ok
    exact .filter text
  · rintro ⟨text⟩
    exact ⟨_, readLogField_eq_ok_iff.mpr ⟨rfl, text, rfl, rfl⟩⟩

/-- A section of the engine that is written as a table gives its fields by name. -/
theorem EngineConfig.ofItem_table : EngineConfig.ofItem (.table kind entries) =
    entries.foldlM (fun config entry => config.readField entry.1 entry.2) {} := rfl

/-- A section of the log that is written as a table gives its field by name. -/
theorem readLog_table : readLog (.table kind entries) =
    entries.foldlM (fun _ entry => readLogField entry.1 entry.2) none := rfl

theorem Settings.ofEntries_eq : ofEntries document =
    document.foldlM (fun settings entry => settings.readSectionNamed entry.1 entry.2) {} := rfl

theorem EngineConfig.ofItem_table_isOk_iff :
    (∃ config, ofItem (.table kind entries) = .ok config) ↔
      ∀ entry ∈ entries, Settings.EngineField entry.1 entry.2 := by
  rw [ofItem_table]
  exact foldlM_isOk_iff fun _ _ => readField_isOk_iff

theorem readLog_table_isOk_iff :
    (∃ filter, readLog (.table kind entries) = .ok filter) ↔
      ∀ entry ∈ entries, Settings.LogField entry.1 entry.2 := by
  rw [readLog_table]
  exact foldlM_isOk_iff fun _ _ => readLogField_isOk_iff

/-- A document gives settings iff each of its sections is one of the two, and gives the policy of
the engine or the filter of the log. -/
theorem Settings.ofEntries_isOk_iff : (∃ settings, ofEntries document = .ok settings) ↔
    ∀ entry ∈ document, (entry.1 = "engine" ∧ ∃ engine, EngineConfig.ofItem entry.2 = .ok engine) ∨
      (entry.1 = "log" ∧ ∃ filter, readLog entry.2 = .ok filter) := by
  rw [ofEntries_eq]
  refine foldlM_isOk_iff fun settings entry => ?_
  constructor
  · rintro ⟨settings', ok⟩
    obtain ⟨same, engine, read, -⟩ | ⟨same, filter, read, -⟩ := readSectionNamed_eq_ok_iff.mp ok
    · exact .inl ⟨same, engine, read⟩
    · exact .inr ⟨same, filter, read⟩
  · rintro (⟨same, engine, read⟩ | ⟨same, filter, read⟩)
    · exact ⟨_, readSectionNamed_eq_ok_iff.mpr (.inl ⟨same, engine, read, rfl⟩)⟩
    · exact ⟨_, readSectionNamed_eq_ok_iff.mpr (.inr ⟨same, filter, read, rfl⟩)⟩

end Sections

end NamedCells
