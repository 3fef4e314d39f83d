import NamedCells.Proofs.DistinctKeys
import NamedCells.Proofs.LoadedSettings
import NamedCells.Proofs.SettingsSections

/-!
# Settings are read by the names of their fields

If a document has a section or a field that the settings do not have, it gives no settings at all: a
misspelt name is always told and never takes effect.  Otherwise, if every value is of the type of
its field, each field of the settings has the value that stands in the document, or its default if
the document does not have the field.  Nothing here depends on the order of the document.  For this
no key may stand twice in a table, as the last one would count, and in a document that was read none
does.

## Main definitions

* `Toml.HasField` — a field stands in a section of a document.
* `Toml.Reordered` — documents that differ in the order of sections and keys only.
* `Settings.Misspelt` — a document has a name that is not known.
* `Settings.WellTyped` — a document has known names only, with values of their types.
* `Settings.FieldsOf` — settings have what a document says, and the defaults otherwise.
* `FileEntry.Offers` — a file is small enough to be read, and has a text.
* `SettingsWarning.SaysUnparsed` — the words of a warning say that a text was not taken.

## Main results

* `part_of_foldlM` — what one key leaves behind, wherever it stands.
* `Settings.fieldsOf_of_ofEntries` — **the settings that a document gives are those of its fields.**
* `Settings.FieldsOf.unique` — the order of the document does not matter.
* `settings_by_field` — **no misspelt name takes effect, and every field does.**
-/

namespace NamedCells

open Toml (Item Entries TableKind)

/-! ### Fields of a document -/

/-- Under the key of a section, which is written as a table, stands the item. -/
def Toml.HasField (document : Entries) (name key : String) (item : Item) : Prop :=
  ∃ kind entries, (name, .table kind entries) ∈ document ∧ (key, item) ∈ entries

/-- Tables with the same keys and items, in any order and however they are written. -/
inductive Toml.Item.SameKeys : Item → Item → Prop
  | table {kind kind' : TableKind} {entries entries' : Entries} (moved : entries.Perm entries') :
    SameKeys (.table kind entries) (.table kind' entries')

/-- Documents with the same sections, each with the same keys and items: the order of sections and
keys, and whether a section has a header, may differ. -/
structure Toml.Reordered (document document' : Entries) : Prop where
  /-- Every section of the one document is one of the other. -/
  there : ∀ name item, (name, item) ∈ document →
    ∃ item', (name, item') ∈ document' ∧ item.SameKeys item'
  /-- The other way round. -/
  back : ∀ name item', (name, item') ∈ document' →
    ∃ item, (name, item) ∈ document ∧ item.SameKeys item'

/-- The value of a field is what stands in the document, or its default if the field is not
there. -/
structure FieldIs {α : Type} (document : Entries) (name key : String) (Means : Item → α → Prop)
    (default value : α) : Prop where
  /-- An item that is there means the value. -/
  given : ∀ item, Toml.HasField document name key item → Means item value
  /-- Without an item the value is the default. -/
  missing : (∀ item, ¬ Toml.HasField document name key item) → value = default

namespace Settings

/-- A document has a section or a field whose name is not known. -/
inductive Misspelt (document : Entries) : Prop
  | unknownSection {name : String} {item : Item} (stands : (name, item) ∈ document)
    (unknown : name ∉ ["engine", "log"])
  | unknownInEngine {key : String} {item : Item} (stands : Toml.HasField document "engine" key item)
    (unknown : key ∉ ["redefinition", "allow_non_finite", "max_cells"])
  | unknownInLog {key : String} {item : Item} (stands : Toml.HasField document "log" key item)
    (unknown : key ∉ ["filter"])

/-- A section that is known and written as a table, whose fields are known and have values of their
types. -/
inductive KnownSection : String → Item → Prop
  | engine {kind : TableKind} {entries : Entries}
    (fields : ∀ key item, (key, item) ∈ entries → EngineField key item) :
    KnownSection "engine" (.table kind entries)
  | log {kind : TableKind} {entries : Entries}
    (fields : ∀ key item, (key, item) ∈ entries → LogField key item) :
    KnownSection "log" (.table kind entries)

/-- A document has known names only, with values of their types, and there is room for a cell. -/
structure WellTyped (document : Entries) : Prop where
  /-- Its sections are known, and so are their fields. -/
  sections : ∀ name item, (name, item) ∈ document → KnownSection name item
  /-- The number of cells is not zero. -/
  room : ∀ n : Nat, Toml.HasField document "engine" "max_cells" (.integer n) → 1 ≤ n

/-- Settings have what a document says, field by field, and the defaults for what it does not
say. -/
structure FieldsOf (document : Entries) (settings : Settings) : Prop where
  redefinition : FieldIs document "engine" "redefinition" Redefinition.Written .overwrite
    settings.engine.redefinition
  allowNonFinite : FieldIs document "engine" "allow_non_finite" (fun item b => item = .boolean b)
    false settings.engine.allowNonFinite
  maxCells : FieldIs document "engine" "max_cells" (fun item (n : Nat) => item = .integer n)
    50000 settings.engine.maxCells
  logFilter : FieldIs document "log" "filter" (fun item text? => ∃ text, item = .string text ∧
    text? = some text) none settings.logFilter

end Settings

/-! ### One key among others -/

/-- What is known after reading about the part of the state that one key sets, if no key stands
twice: it is what the key says, or what it was before if the key does not stand there. -/
theorem part_of_foldlM {ε σ α : Type} {step : σ → String × Item → Except ε σ} {s s' : σ}
    {entries : Entries} (part : σ → α) {key : String} (Means : Item → α → Prop)
    (sets : ∀ {s s' entry}, step s entry = .ok s' →
      if entry.1 = key then Means entry.2 (part s') else part s' = part s)
    (distinct : (entries.map Prod.fst).Nodup) (read : entries.foldlM step s = .ok s') :
    (∀ item, (key, item) ∈ entries → Means item (part s')) ∧
      ((∀ item, (key, item) ∉ entries) → part s' = part s) := by
  induction entries generalizing s with
  | nil =>
    obtain rfl := Except.ok.inj read
    exact ⟨nofun, fun _ => rfl⟩
  | cons entry entries ih =>
    obtain ⟨s₁, first, others⟩ := bind_eq_ok_iff.mp read
    obtain ⟨new, distinct⟩ := List.nodup_cons.mp distinct
    obtain ⟨given, missing⟩ := ih distinct others
    have step := sets first
    constructor
    · intro item member
      obtain rfl | behind := List.mem_cons.mp member
      · -- the key does not come again, so what it has set stays
        have absent : ∀ item, (key, item) ∉ entries := fun _ present =>
          new (List.mem_map.mpr ⟨_, present, rfl⟩)
        rw [missing absent]
        rwa [if_pos rfl] at step
      · exact given item behind
    · intro absent
      have elsewhere : entry.1 ≠ key := by
        rintro rfl
        exact absent entry.2 List.mem_cons_self
      rw [missing fun item present => absent item (List.mem_cons_of_mem _ present)]
      rwa [if_neg elsewhere] at step

/-! ### Sections -/

section Sections

variable {config config' : EngineConfig} {settings settings' : Settings} {field name key : String}
  {item : Item} {document : Entries} {filter : Option String}

/-- **A misspelt document gives no settings.** -/
theorem Settings.Misspelt.ofEntries_ne_ok (misspelt : Misspelt document) (settings : Settings) :
    ofEntries document ≠ .ok settings := by
  intro given
  have sections := ofEntries_isOk_iff.mp ⟨settings, given⟩
  cases misspelt with
  | unknownSection stands unknown =>
    obtain ⟨rfl, -⟩ | ⟨rfl, -⟩ := sections _ stands <;> simp at unknown
  | unknownInEngine stands unknown =>
    obtain ⟨kind, entries, here, member⟩ := stands
    obtain ⟨-, read⟩ | ⟨other, -⟩ := sections _ here
    · have known := EngineConfig.ofItem_table_isOk_iff.mp read _ member
      cases known <;> simp at unknown
    · simp at other
  | unknownInLog stands unknown =>
    obtain ⟨kind, entries, here, member⟩ := stands
    obtain ⟨other, -⟩ | ⟨-, read⟩ := sections _ here
    · simp at other
    · have known := readLog_table_isOk_iff.mp read _ member
      cases known
      simp at unknown

/-- A document with known names and values of their types gives settings. -/
theorem Settings.WellTyped.exists_ofEntries (wellTyped : WellTyped document) :
    ∃ settings, ofEntries document = .ok settings := by
  refine ofEntries_isOk_iff.mpr fun (name, item) stands => ?_
  cases wellTyped.sections name item stands with
  | engine fields =>
    exact .inl ⟨rfl, EngineConfig.ofItem_table_isOk_iff.mpr fun (key, item) => fields key item⟩
  | log fields =>
    exact .inr ⟨rfl, readLog_table_isOk_iff.mpr fun (key, item) => fields key item⟩

/-- What reading a field of the engine does to each of the three. -/
theorem EngineConfig.parts_of_readField (read : config.readField field item = .ok config') :
    (if field = "redefinition" then config'.redefinition.Written item
      else config'.redefinition = config.redefinition) ∧
    (if field = "allow_non_finite" then item = .boolean config'.allowNonFinite
      else config'.allowNonFinite = config.allowNonFinite) ∧
    (if field = "max_cells" then item = .integer config'.maxCells
      else config'.maxCells = config.maxCells) := by
  obtain ⟨rfl, choice, written, rfl⟩ | ⟨rfl, b, written, rfl⟩ | ⟨rfl, n, written, rfl⟩ :=
    readField_eq_ok_iff.mp read
  · simpa using written
  · simpa using written
  · simpa using written

/-- What reading the field of the log does to it. -/
theorem part_of_readLogField {before : Option String}
    (read : readLogField field item = .ok filter) :
    if field = "filter" then ∃ text, item = .string text ∧ filter = some text
      else filter = before := by
  obtain ⟨rfl, text, written, rfl⟩ := readLogField_eq_ok_iff.mp read
  simpa using written

/-- What reading a section does to each of the two. -/
theorem Settings.parts_of_readSectionNamed
    (read : settings.readSectionNamed name item = .ok settings') :
    (if name = "engine" then EngineConfig.ofItem item = .ok settings'.engine
      else settings'.engine = settings.engine) ∧
    (if name = "log" then readLog item = .ok settings'.logFilter
      else settings'.logFilter = settings.logFilter) := by
  obtain ⟨rfl, engine, given, rfl⟩ | ⟨rfl, filter, given, rfl⟩ := readSectionNamed_eq_ok_iff.mp read
  · simpa using given
  · simpa using given

/-- What is known about a field from what is known about its section. -/
theorem fieldIs_of_section {ε ρ α : Type} {step : ρ → String × Item → Except ε ρ}
    {initial value : ρ} (part : ρ → α) {Means : Item → α → Prop}
    (sets : ∀ {s s' entry}, step s entry = .ok s' →
      if entry.1 = key then Means entry.2 (part s') else part s' = part s)
    (distinct : ∀ {kind entries}, (name, .table kind entries) ∈ document →
      (entries.map Prod.fst).Nodup)
    (given : ∀ {kind entries}, (name, .table kind entries) ∈ document →
      entries.foldlM step initial = .ok value)
    (missing : (∀ kind entries, (name, .table kind entries) ∉ document) → value = initial) :
    FieldIs document name key Means (part initial) (part value) := by
  constructor
  · rintro item ⟨kind, entries, here, member⟩
    exact (part_of_foldlM part Means sets (distinct here) (given here)).1 item member
  · intro absent
    by_cases here : ∃ kind entries, (name, Item.table kind entries) ∈ document
    · obtain ⟨kind, entries, here⟩ := here
      have absent : ∀ item, (key, item) ∉ entries := fun item member =>
        absent item ⟨kind, entries, here, member⟩
      exact (part_of_foldlM part Means sets (distinct here) (given here)).2 absent
    · simp only [not_exists] at here
      rw [missing here]

/-- **The settings that a document gives are those of its fields**, if its names are known and its
values are of their types. -/
theorem Settings.fieldsOf_of_ofEntries (wellTyped : WellTyped document)
    (distinct : Toml.Table.KeysDistinct ⟨.headed, document⟩)
    (given : ofEntries document = .ok settings) : FieldsOf document settings := by
  rw [ofEntries_eq] at given
  have keys {name : String} {kind : TableKind} {entries : Entries}
      (here : (name, .table kind entries) ∈ document) : (entries.map Prod.fst).Nodup := by
    have sectionDistinct : Toml.Table.KeysDistinct ⟨kind, entries⟩ :=
      .of_table (distinct.items _ here)
    exact sectionDistinct.keys
  have unlisted {name : String} (absent : ∀ kind entries, (name, .table kind entries) ∉ document)
      (item : Item) : (name, item) ∉ document := by
    intro stands
    cases wellTyped.sections name item stands <;> exact absent _ _ stands
  -- first the sections of the document, then the fields of each section
  obtain ⟨engineGiven, engineMissing⟩ := part_of_foldlM Settings.engine
    (fun item engine => EngineConfig.ofItem item = .ok engine)
    (fun read => (parts_of_readSectionNamed read).1) distinct.keys given
  obtain ⟨logGiven, logMissing⟩ := part_of_foldlM Settings.logFilter
    (fun item filter => readLog item = .ok filter)
    (fun read => (parts_of_readSectionNamed read).2) distinct.keys given
  have engineField {α : Type} {key : String} (part : EngineConfig → α) {Means : Item → α → Prop}
      (sets : ∀ {s s' : EngineConfig} {entry : String × Item},
        s.readField entry.1 entry.2 = .ok s' →
          if entry.1 = key then Means entry.2 (part s') else part s' = part s) :
      FieldIs document "engine" key Means (part {}) (part settings.engine) :=
    fieldIs_of_section part sets keys (fun here => engineGiven _ here) fun absent =>
      engineMissing (unlisted absent)
  constructor
  · exact engineField EngineConfig.redefinition fun read =>
      (EngineConfig.parts_of_readField read).1
  · exact engineField EngineConfig.allowNonFinite fun read =>
      (EngineConfig.parts_of_readField read).2.1
  · exact engineField EngineConfig.maxCells fun read =>
      (EngineConfig.parts_of_readField read).2.2
  · exact fieldIs_of_section id part_of_readLogField keys (fun here => logGiven _ here)
      fun absent => logMissing (unlisted absent)

end Sections

/-! ### Order -/

section Order

variable {document document' : Entries} {settings settings' : Settings} {name key : String}
  {item : Item}

theorem Toml.Reordered.hasField_iff (reordered : Toml.Reordered document document') :
    Toml.HasField document name key item ↔ Toml.HasField document' name key item := by
  constructor
  · rintro ⟨kind, entries, here, member⟩
    obtain ⟨_, there, ⟨moved⟩⟩ := reordered.there _ _ here
    exact ⟨_, _, there, moved.mem_iff.mp member⟩
  · rintro ⟨kind, entries, there, member⟩
    obtain ⟨_, here, ⟨moved⟩⟩ := reordered.back _ _ there
    exact ⟨_, _, here, moved.mem_iff.mpr member⟩

theorem Settings.KnownSection.sameKeys {item' : Item} (known : KnownSection name item)
    (same : item.SameKeys item') : KnownSection name item' := by
  obtain ⟨moved⟩ := same
  cases known with
  | engine fields => exact .engine fun key item there => fields key item (moved.mem_iff.mpr there)
  | log fields => exact .log fun key item there => fields key item (moved.mem_iff.mpr there)

theorem Settings.WellTyped.reordered (wellTyped : WellTyped document)
    (reordered : Toml.Reordered document document') : WellTyped document' where
  sections name item' there := by
    obtain ⟨item, here, same⟩ := reordered.back name item' there
    exact (wellTyped.sections name item here).sameKeys same
  room n there := wellTyped.room n (reordered.hasField_iff.mpr there)

/-- A field has one value only. -/
theorem FieldIs.unique {α : Type} {Means : Item → α → Prop} {default value value' : α}
    (reordered : Toml.Reordered document document')
    (is : FieldIs document name key Means default value)
    (is' : FieldIs document' name key Means default value')
    (single : ∀ {item v v'}, Means item v → Means item v' → v = v') : value = value' := by
  by_cases there : ∃ item, Toml.HasField document name key item
  · obtain ⟨item, there⟩ := there
    exact single (is.given item there) (is'.given item (reordered.hasField_iff.mp there))
  · simp only [not_exists] at there
    rw [is.missing there, is'.missing fun item there' =>
      there item (reordered.hasField_iff.mpr there')]

/-- Documents that differ in order only have the same fields. -/
theorem Settings.FieldsOf.unique (reordered : Toml.Reordered document document')
    (fields : FieldsOf document settings) (fields' : FieldsOf document' settings') :
    settings = settings' := by
  have redefinition := fields.redefinition.unique reordered fields'.redefinition fun one other =>
    Except.ok.inj ((readRedefinition_eq_ok_iff.mpr one).symm.trans
      (readRedefinition_eq_ok_iff.mpr other))
  have allowNonFinite := fields.allowNonFinite.unique reordered fields'.allowNonFinite
    fun one other => Item.boolean.inj (one.symm.trans other)
  have maxCells := fields.maxCells.unique reordered fields'.maxCells
    fun one other => Int.ofNat.inj (Item.integer.inj (one.symm.trans other))
  have logFilter := fields.logFilter.unique reordered fields'.logFilter
    fun ⟨text, one, same⟩ ⟨text', other, same'⟩ => by
      rw [same, same', Item.string.inj (one.symm.trans other)]
  obtain ⟨⟨_, _, _⟩, _⟩ := settings
  obtain ⟨⟨_, _, _⟩, _⟩ := settings'
  simp only at redefinition allowNonFinite maxCells logFilter
  rw [redefinition, allowNonFinite, maxCells, logFilter]

/-- The policy of well-typed settings is sound. -/
theorem Settings.FieldsOf.sound (fields : FieldsOf document settings)
    (wellTyped : WellTyped document) : settings.engine.fault? = none := by
  refine EngineConfig.fault?_eq_none_iff.mpr ?_
  by_cases there : ∃ item, Toml.HasField document "engine" "max_cells" item
  · obtain ⟨item, there⟩ := there
    obtain rfl := fields.maxCells.given item there
    exact wellTyped.room _ there
  · simp only [not_exists] at there
    rw [fields.maxCells.missing there]
    decide

end Order

/-! ### Files -/

section Files

/-- There is a file that is no larger than allowed, and it has a text. -/
structure FileEntry.Offers (entry : FileEntry) (text : String) : Prop where
  something : entry.isThere = true
  small : ∃ bytes, entry.size = .ok bytes ∧ bytes ≤ maxSettingsBytes
  read : entry.readText = .ok text

/-- A file that stays as it is offers the text that its bytes encode. -/
theorem FileEntry.Offers.of_file {content : ByteArray} {text : String}
    (small : content.size ≤ maxSettingsBytes)
    (read : decodeText content.data.toList = .ok text) : (file content).Offers text :=
  ⟨rfl, ⟨content.size, rfl, small⟩, read⟩

variable {usual : Option String} {files : String → FileEntry} {source : SettingsSource}
  {path text : String} {document : Entries}

theorem Settings.load_eq_ofText (reader : String → Option Entries)
    (place : path? usual source = some path) (offers : (files path).Offers text) :
    load reader usual files source = ofText reader path text := by
  obtain ⟨something, ⟨bytes, measured, small⟩, read⟩ := offers
  rw [load, place]
  dsimp only [ofEntry]
  rw [something, measured, read]
  rw [if_neg (by decide)]
  dsimp only
  rw [if_neg (Nat.not_lt.mpr small)]

theorem Settings.Misspelt.load_eq (misspelt : Misspelt document)
    (place : path? usual source = some path) (offers : (files path).Offers text)
    (parsed : Toml.parse? text = some document) :
    ∃ fault, load Toml.parse? usual files source = ({}, [.unfit path fault]) := by
  rw [load_eq_ofText _ place offers, ofText, parsed]
  dsimp only
  cases given : ofEntries document with
  | ok settings => exact absurd given (misspelt.ofEntries_ne_ok settings)
  | error fault => exact ⟨fault, rfl⟩

theorem Settings.WellTyped.load_eq (wellTyped : WellTyped document)
    (place : path? usual source = some path) (offers : (files path).Offers text)
    (parsed : Toml.parse? text = some document) :
    ∃ settings, FieldsOf document settings ∧
      load Toml.parse? usual files source = (settings, []) := by
  obtain ⟨settings, given⟩ := wellTyped.exists_ofEntries
  have fields : FieldsOf document settings :=
    fieldsOf_of_ofEntries wellTyped (Toml.keysDistinct_of_parse? parsed) given
  refine ⟨settings, fields, ?_⟩
  rw [load_eq_ofText _ place offers, ofText, parsed]
  dsimp only
  rw [given]
  dsimp only [withSoundEngine]
  rw [fields.sound wellTyped]

end Files

/-- The words of a warning say that the text of a file was not taken. -/
def SettingsWarning.SaysUnparsed (w : SettingsWarning) : Prop :=
  "Failed to parse ".toList <+: w.message.toList

/-- **No misspelt name takes effect, and every field does, in any order.**  Let the file that
settings are read from be no larger than allowed, and its text a document.

* If the document has a section or a field that is not known, the settings are the default ones,
  whatever else there is, and there is one warning, which says that the text was not taken.
* If its sections are known and written as tables, its fields are known and have values of their
  types, and there is room for a cell, there is no warning, and each field has the value that stands
  in the document, or its default if the field is not there.  Every file with the same sections and
  fields in another order gives the same settings. -/
theorem settings_by_field (usual : Option String) (files : String → FileEntry)
    (source : SettingsSource) {path text : String} {document : Entries}
    (place : Settings.path? usual source = some path) (offers : (files path).Offers text)
    (parsed : Toml.parse? text = some document) :
    let loaded := Settings.load Toml.parse? usual files source
    (Settings.Misspelt document → ∃ w, loaded = ({}, [w]) ∧ w.SaysUnparsed) ∧
    (Settings.WellTyped document →
      loaded.2 = [] ∧ Settings.FieldsOf document loaded.1 ∧
      ∀ files' text' document', (files' path).Offers text' →
        Toml.parse? text' = some document' → Toml.Reordered document document' →
        Settings.load Toml.parse? usual files' source = loaded) := by
  intro loaded
  constructor
  · intro misspelt
    obtain ⟨fault, same⟩ := misspelt.load_eq place offers parsed
    exact ⟨.unfit path fault, same, SettingsWarning.begins_opening (.unfit path fault)⟩
  · intro wellTyped
    obtain ⟨settings, fields, same⟩ := wellTyped.load_eq place offers parsed
    have same : loaded = (settings, []) := same
    rw [same]
    refine ⟨rfl, fields, ?_⟩
    intro files' text' document' offers' parsed' reordered
    obtain ⟨settings', fields', same'⟩ :=
      (wellTyped.reordered reordered).load_eq place offers' parsed'
    rw [same', fields.unique reordered fields']

/-- The same two fields in two orders, and a misspelt one. -/
theorem settings_by_field_two_orders :
    let text := "engine.max_cells = 10\nlog.filter = \"debug\"\n"
    let text' := "[log]\nfilter = \"debug\"\n[engine]\nmax_cells = 10\n"
    let misspelt := "[log]\n[engine]\nmax_celss = 10\n"
    let load (text : String) :=
      Settings.load Toml.parse? none (fun _ => .file text.toUTF8) { file := some "c.toml" }
    (load text).2 = [] ∧ (load text).1.engine.maxCells = 10 ∧ load text' = load text ∧
      ∃ w, load misspelt = ({}, [w]) ∧ w.SaysUnparsed := by
  intro text text' misspelt load
  let engine (kind : TableKind) (key : String) : String × Item :=
    ("engine", .table kind [(key, .integer 10)])
  let log (kind : TableKind) : String × Item := ("log", .table kind [("filter", .string "debug")])
  have parsed : Toml.parse? text = some [engine .dotted "max_cells", log .dotted] := by
    decide +kernel
  have parsed' : Toml.parse? text' = some [log .headed, engine .headed "max_cells"] := by
    decide +kernel
  have parsedMisspelt : Toml.parse? misspelt =
      some [("log", .table .headed []), engine .headed "max_celss"] := by
    decide +kernel
  have wellTyped : Settings.WellTyped [engine .dotted "max_cells", log .dotted] := by
    constructor
    · intro name item stands
      obtain ⟨rfl, rfl⟩ | ⟨rfl, rfl⟩ := by simpa [engine, log] using stands
      · refine .engine fun key item field => ?_
        obtain ⟨rfl, rfl⟩ := by simpa using field
        exact .maxCells 10
      · refine .log fun key item field => ?_
        obtain ⟨rfl, rfl⟩ := by simpa using field
        exact .filter "debug"
    · intro n field
      have ten : (n : Int) = 10 := by simpa [Toml.HasField, engine, log] using field
      omega
  have reordered : Toml.Reordered [engine .dotted "max_cells", log .dotted]
      [log .headed, engine .headed "max_cells"] := by
    constructor
    · intro name item stands
      obtain ⟨rfl, rfl⟩ | ⟨rfl, rfl⟩ := by simpa [engine, log] using stands
      · exact ⟨_, List.mem_cons_of_mem _ List.mem_cons_self, .table (.refl _)⟩
      · exact ⟨_, List.mem_cons_self, .table (.refl _)⟩
    · intro name item stands
      obtain ⟨rfl, rfl⟩ | ⟨rfl, rfl⟩ := by simpa [engine, log] using stands
      · exact ⟨_, List.mem_cons_of_mem _ List.mem_cons_self, .table (.refl _)⟩
      · exact ⟨_, List.mem_cons_self, .table (.refl _)⟩
  have found : Settings.Misspelt [("log", .table .headed []), engine .headed "max_celss"] :=
    .unknownInEngine ⟨_, _, List.mem_cons_of_mem _ List.mem_cons_self, List.mem_cons_self⟩
      (by decide)
  have offers : (FileEntry.file text.toUTF8).Offers text :=
    .of_file (by decide +kernel) rfl
  have offers' : (FileEntry.file text'.toUTF8).Offers text' :=
    .of_file (by decide +kernel) rfl
  have offersMisspelt : (FileEntry.file misspelt.toUTF8).Offers misspelt :=
    .of_file (by decide +kernel) rfl
  obtain ⟨-, taken⟩ := settings_by_field none (fun _ => .file text.toUTF8)
    { file := some "c.toml" } rfl offers parsed
  obtain ⟨silent, fields, same⟩ := taken wellTyped
  obtain ⟨told, -⟩ := settings_by_field none (fun _ => .file misspelt.toUTF8)
    { file := some "c.toml" } rfl offersMisspelt parsedMisspelt
  refine ⟨silent, ?_, ?_, told found⟩
  · have ten := fields.maxCells.given (.integer 10) ⟨_, _, List.mem_cons_self, List.mem_cons_self⟩
    exact (Int.ofNat.inj (Item.integer.inj ten)).symm
  · exact same _ text' _ offers' parsed' reordered

end NamedCells
