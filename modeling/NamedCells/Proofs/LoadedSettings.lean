import NamedCells.Engine
import NamedCells.Settings.Load

/-!
# Settings are applied as a whole or not at all

Whatever reads documents, loading settings always ends with settings that an engine can be made
with, and with no more than one warning.  Its many ends come down to four: no file was looked for or
found where nobody named one; a file was named or found but gives no settings, and then the warning
comes with the default settings; the settings of a file were taken but for the policy of the engine,
which is not sound; or they were taken as they are.

## Main definitions

* `Settings.parse?` — the settings that a text gives.
* `Settings.LoadOutcome` — what loading can come to.
* `SettingsWarning.SaysEngineIgnored` — the words of a warning say that the policy is not taken.

## Main results

* `Settings.load_outcome` — loading comes to one of its outcomes.
* `SettingsWarning.saysEngineIgnored_iff` — only an unsound policy is warned about in these words.
* `settings_whole_or_default` — **settings are applied as a whole or not at all.**
-/

namespace NamedCells

namespace Settings

/-- The settings that a text gives, if it is a document that gives any. -/
def parse? (reader : String → Option Toml.Entries) (text : String) : Option Settings :=
  (reader text).bind fun document => (ofEntries document).toOption

/-- What loading can come to. -/
inductive LoadOutcome (reader : String → Option Toml.Entries) (usual : Option String)
    (files : String → FileEntry) (source : SettingsSource) :
    Settings × List SettingsWarning → Prop
  /-- No file was to be read. -/
  | unasked (nowhere : path? usual source = none) : LoadOutcome reader usual files source ({}, [])
  /-- There is no file in the place where the user keeps settings. -/
  | unset {path : String} (place : path? usual source = some path)
    (unnamed : source.file = none) (nothing : (files path).isThere = false) :
    LoadOutcome reader usual files source ({}, [])
  /-- There is no file where the caller named one. -/
  | notFound {path : String} (place : path? usual source = some path)
    (named : source.file = some path) (nothing : (files path).isThere = false) :
    LoadOutcome reader usual files source ({}, [.notFound path])
  /-- The size of the file is not told. -/
  | unmeasured {path : String} {e : OsError} (place : path? usual source = some path)
    (something : (files path).isThere = true) (unknown : (files path).size = .error e) :
    LoadOutcome reader usual files source ({}, [.unmeasured path e])
  /-- The file is too large. -/
  | tooLarge {path : String} {bytes : Nat} (place : path? usual source = some path)
    (something : (files path).isThere = true) (measured : (files path).size = .ok bytes)
    (large : maxSettingsBytes < bytes) :
    LoadOutcome reader usual files source ({}, [.tooLarge path bytes])
  /-- The file cannot be read. -/
  | unreadable {path : String} {fault : ReadFault} (place : path? usual source = some path)
    (something : (files path).isThere = true) (failed : (files path).readText = .error fault) :
    LoadOutcome reader usual files source ({}, [.unreadable path fault])
  /-- The text of the file is no document. -/
  | malformed {path text : String} (place : path? usual source = some path)
    (something : (files path).isThere = true) (read : (files path).readText = .ok text)
    (none : parse? reader text = none) :
    LoadOutcome reader usual files source ({}, [.malformed path])
  /-- The document of the file gives no settings. -/
  | unfit {path text : String} {fault : SettingsFault} (place : path? usual source = some path)
    (something : (files path).isThere = true) (read : (files path).readText = .ok text)
    (none : parse? reader text = none) :
    LoadOutcome reader usual files source ({}, [.unfit path fault])
  /-- The policy of the engine that the file gives is not sound. -/
  | unsound {path text : String} {settings : Settings} {fault : ConfigFault}
    (place : path? usual source = some path) (something : (files path).isThere = true)
    (read : (files path).readText = .ok text) (given : parse? reader text = some settings)
    (found : settings.engine.fault? = some fault) :
    LoadOutcome reader usual files source
      ({ settings with engine := {} }, [.unsoundEngine path fault])
  /-- The settings of the file are taken. -/
  | taken {path text : String} {settings : Settings} (place : path? usual source = some path)
    (something : (files path).isThere = true) (read : (files path).readText = .ok text)
    (given : parse? reader text = some settings) (sound : settings.engine.fault? = none) :
    LoadOutcome reader usual files source (settings, [])

variable {reader : String → Option Toml.Entries} {usual : Option String}
  {files : String → FileEntry} {source : SettingsSource} {path text : String}

theorem file_eq_of_path? (place : path? usual source = some path) (named : source.file.isSome) :
    source.file = some path := by
  obtain ⟨file, same⟩ := Option.isSome_iff_exists.mp named
  rw [path?, same] at place
  split at place
  · cases place
  · rw [same, ← place, Option.some_or]

/-- What a text that was read comes to. -/
theorem ofText_outcome (place : path? usual source = some path)
    (something : (files path).isThere = true) (read : (files path).readText = .ok text) :
    LoadOutcome reader usual files source (ofText reader path text) := by
  rw [ofText]
  cases document : reader text with
  | none =>
    have none : parse? reader text = none := by simp [parse?, document]
    exact .malformed place something read none
  | some entries =>
    dsimp only
    cases given : ofEntries entries with
    | error fault =>
      have none : parse? reader text = none := by simp [parse?, document, given, Except.toOption]
      exact .unfit place something read none
    | ok settings =>
      have given : parse? reader text = some settings := by
        simp [parse?, document, given, Except.toOption]
      dsimp only [withSoundEngine]
      cases found : settings.engine.fault? with
      | none => exact .taken place something read given found
      | some fault => exact .unsound place something read given found

/-- What is found at a path comes to one of the outcomes. -/
theorem ofEntry_outcome (place : path? usual source = some path) :
    LoadOutcome reader usual files source
      (ofEntry reader path source.file.isSome (files path)) := by
  unfold ofEntry
  cases something : (files path).isThere with
  | false =>
    rw [if_pos (by decide)]
    cases named : source.file.isSome with
    | false => exact .unset place (by simpa using named) something
    | true => exact .notFound place (file_eq_of_path? place named) something
  | true =>
    rw [if_neg (by decide)]
    cases measured : (files path).size with
    | error e => exact .unmeasured place something measured
    | ok bytes =>
      dsimp only
      split
      · next large => exact .tooLarge place something measured large
      · cases read : (files path).readText with
        | error fault => exact .unreadable place something read
        | ok text => exact ofText_outcome place something read

/-- **Loading comes to one of its outcomes.** -/
theorem load_outcome (reader : String → Option Toml.Entries) (usual : Option String)
    (files : String → FileEntry) (source : SettingsSource) :
    LoadOutcome reader usual files source (load reader usual files source) := by
  unfold load
  cases place : path? usual source with
  | none => exact .unasked place
  | some path => exact ofEntry_outcome place

end Settings

/-! ### Words -/

namespace SettingsWarning

/-- The words that a warning begins with, in front of the path. -/
def opening : SettingsWarning → String
  | .notFound _ => "Config file not found: "
  | .tooLarge .. => "Refusing to read "
  | .unmeasured .. => "Failed to read metadata for "
  | .unreadable .. => "Failed to read "
  | .malformed _ | .unfit .. => "Failed to parse "
  | .unsoundEngine .. => "Ignoring [engine] in "

/-- A warning begins with its words. -/
theorem begins_opening (w : SettingsWarning) : w.opening.toList <+: w.message.toList := by
  have longer {s t : String} (u : String) (begins : s.toList <+: t.toList) :
      s.toList <+: (t ++ u).toList := by
    rw [String.toList_append]
    exact begins.trans (List.prefix_append _ _)
  cases w with
  | notFound => exact longer _ List.prefix_rfl
  | malformed => exact longer _ List.prefix_rfl
  | unmeasured => exact longer _ (longer _ (longer _ List.prefix_rfl))
  | unreadable => exact longer _ (longer _ (longer _ List.prefix_rfl))
  | unfit => exact longer _ (longer _ (longer _ List.prefix_rfl))
  | unsoundEngine => exact longer _ (longer _ (longer _ List.prefix_rfl))
  | tooLarge =>
    exact longer _ (longer _ (longer _ (longer _ (longer _ (longer _ List.prefix_rfl)))))

/-- The words of a warning say that the policy of the engine is not taken. -/
def SaysEngineIgnored (w : SettingsWarning) : Prop :=
  "Ignoring [engine]".toList <+: w.message.toList

/-- Only an unsound policy is warned about in these words. -/
theorem saysEngineIgnored_iff {w : SettingsWarning} :
    w.SaysEngineIgnored ↔ ∃ path fault, w = .unsoundEngine path fault := by
  constructor
  · intro ignored
    have alike := List.prefix_or_prefix_of_prefix ignored w.begins_opening
    cases w with
    | unsoundEngine path fault => exact ⟨path, fault, rfl⟩
    | notFound | tooLarge | unmeasured | unreadable | malformed | unfit =>
      dsimp only [opening] at alike
      exact absurd alike (by decide)
  · rintro ⟨path, fault, rfl⟩
    have begins : "Ignoring [engine]".toList <+: "Ignoring [engine] in ".toList := by decide
    exact begins.trans (begins_opening (.unsoundEngine path fault))

end SettingsWarning

/-! ### What holds of every outcome -/

namespace Settings.LoadOutcome

variable {reader : String → Option Toml.Entries} {usual : Option String}
  {files : String → FileEntry} {source : SettingsSource}
  {loaded : Settings × List SettingsWarning} {w : SettingsWarning}

theorem hasRoom (outcome : LoadOutcome reader usual files source loaded) :
    1 ≤ loaded.1.engine.maxCells := by
  have default : 1 ≤ ({} : EngineConfig).maxCells := by decide
  cases outcome with
  | taken place something read given sound => exact EngineConfig.fault?_eq_none_iff.mp sound
  | _ => exact default

/-- Each end of the loading warns of one thing, or of nothing. -/
theorem length_le_one (outcome : LoadOutcome reader usual files source loaded) :
    loaded.2.length ≤ 1 := by
  cases outcome with
  | unasked | unset | taken => exact Nat.zero_le 1
  | _ => exact Nat.le_refl 1

/-- Where there is nothing to be read and nobody named a file, the settings are the default ones. -/
theorem eq_default (outcome : LoadOutcome reader usual files source loaded)
    (nothing : ∀ path, path? usual source = some path →
      source.file = none ∧ (files path).isThere = false) : loaded = ({}, []) := by
  have unmet {path : String} (place : path? usual source = some path)
      (something : (files path).isThere = true) : False := by
    rw [(nothing path place).2] at something
    cases something
  cases outcome with
  | unasked | unset => rfl
  | notFound place named =>
    rw [(nothing _ place).1] at named
    cases named
  | unmeasured place something | tooLarge place something | unreadable place something
  | malformed place something | unfit place something | unsound place something
  | taken place something => exact (unmet place something).elim

/-- A warning comes with the default settings, unless it says that the policy is not taken. -/
theorem eq_default_of_warning (outcome : LoadOutcome reader usual files source loaded)
    (warned : w ∈ loaded.2) (other : ¬ w.SaysEngineIgnored) : loaded.1 = {} := by
  cases outcome with
  | unasked | unset | taken => cases warned
  | unsound =>
    obtain rfl := List.mem_singleton.mp warned
    exact absurd (SettingsWarning.saysEngineIgnored_iff.mpr ⟨_, _, rfl⟩) other
  | _ => rfl

/-- If the policy is not taken, it is the default one, and all else is what the file says. -/
theorem of_saysEngineIgnored (outcome : LoadOutcome reader usual files source loaded)
    (warned : w ∈ loaded.2) (ignored : w.SaysEngineIgnored) :
    loaded.1.engine = {} ∧ ∃ path text written, path? usual source = some path ∧
      (files path).readText = .ok text ∧ parse? reader text = some written ∧
      loaded.1.logFilter = written.logFilter := by
  obtain ⟨path, fault, rfl⟩ := SettingsWarning.saysEngineIgnored_iff.mp ignored
  cases outcome with
  | unasked | unset | taken => cases warned
  | unsound place something read given => exact ⟨rfl, _, _, _, place, read, given, rfl⟩
  | _ => cases List.mem_singleton.mp warned

/-- Without a warning the settings are those of the text that is found, if anything is. -/
theorem of_silent (outcome : LoadOutcome reader usual files source loaded)
    (silent : loaded.2 = []) {path : String} (place : path? usual source = some path)
    (something : (files path).isThere = true) :
    ∃ text, (files path).readText = .ok text ∧ parse? reader text = some loaded.1 := by
  cases outcome with
  | unasked nowhere =>
    rw [nowhere] at place
    cases place
  | unset found unnamed nothing =>
    obtain rfl := Option.some.inj (found.symm.trans place)
    rw [nothing] at something
    cases something
  | taken found _ read given =>
    obtain rfl := Option.some.inj (found.symm.trans place)
    exact ⟨_, read, given⟩
  | _ => cases silent

end Settings.LoadOutcome

/-- **Settings are applied as a whole or not at all.**  Whatever reads documents, and whatever is
found where files are looked for, loading gives settings and warnings, of which this holds:

* There is an engine with the policy of the settings, as it has room for a cell.
* There is no more than one warning.
* If no file is to be read, or the only place looked at is the usual one and there is nothing, the
  settings are the default ones and there is no warning.
* If there is a warning, the settings are the default ones, unless its words are that the policy of
  the engine is not taken; then the policy is the default one, and the filter of the log is that of
  the settings which the text of the file gives.
* If there is something where the file is looked for and there is no warning, it is a text, and the
  settings are the ones that the text gives. -/
theorem settings_whole_or_default (reader : String → Option Toml.Entries) (usual : Option String)
    (files : String → FileEntry) (source : SettingsSource) :
    let loaded := Settings.load reader usual files source
    1 ≤ loaded.1.engine.maxCells ∧
    Engine.make loaded.1.engine = .ok (Engine.new loaded.1.engine) ∧
    loaded.2.length ≤ 1 ∧
    (source.ignoreFiles = true → loaded = ({}, [])) ∧
    (source.file = none → (∀ path, usual = some path → (files path).isThere = false) →
      loaded = ({}, [])) ∧
    (∀ w ∈ loaded.2, ¬ w.SaysEngineIgnored → loaded.1 = {}) ∧
    (∀ w ∈ loaded.2, w.SaysEngineIgnored → loaded.1.engine = {} ∧
      ∃ path text settings, Settings.path? usual source = some path ∧
        (files path).readText = .ok text ∧ Settings.parse? reader text = some settings ∧
        loaded.1.logFilter = settings.logFilter) ∧
    (∀ path, Settings.path? usual source = some path → (files path).isThere = true →
      loaded.2 = [] →
      ∃ text, (files path).readText = .ok text ∧
        Settings.parse? reader text = some loaded.1) := by
  intro loaded
  have outcome : Settings.LoadOutcome reader usual files source loaded :=
    Settings.load_outcome reader usual files source
  have made : Engine.make loaded.1.engine = .ok (Engine.new loaded.1.engine) :=
    Engine.make_eq_ok_iff.mpr ⟨outcome.hasRoom, rfl⟩
  refine ⟨outcome.hasRoom, made, outcome.length_le_one,
    Settings.load_of_ignoreFiles reader files, ?_, fun _ => outcome.eq_default_of_warning,
    fun _ => outcome.of_saysEngineIgnored,
    fun _ place something silent => outcome.of_silent silent place something⟩
  · intro unnamed nothing
    apply outcome.eq_default
    intro path place
    have usual : usual = some path := by
      simp only [Settings.path?, unnamed, Option.none_or, Option.ite_none_left_eq_some] at place
      exact place.2
    exact ⟨unnamed, nothing path usual⟩

/-- A file that leaves no room for any cell: of all it says only the filter of the log is taken. -/
theorem settings_whole_or_default_no_room :
    let text := "[engine]\nredefinition = \"reject\"\nmax_cells = 0\n\n[log]\nfilter = \"info\"\n"
    let files : String → FileEntry := fun _ => .file text.toUTF8
    let source : SettingsSource := { file := some "c.toml" }
    let loaded := Settings.load Toml.parse? none files source
    let w := SettingsWarning.unsoundEngine "c.toml" .zeroCapacity
    loaded.2 = [w] ∧ w.SaysEngineIgnored ∧ loaded.1.engine = {} ∧
      loaded.1.logFilter = some "info" := by
  intro text files source loaded w
  have warned : loaded.2 = [w] := by decide +kernel
  have ignored : w.SaysEngineIgnored := SettingsWarning.saysEngineIgnored_iff.mpr ⟨_, _, rfl⟩
  have given : Settings.parse? Toml.parse? text =
      some ⟨{ redefinition := .reject, maxCells := 0 }, some "info"⟩ := by decide +kernel
  obtain ⟨-, -, -, -, -, -, taken, -⟩ := settings_whole_or_default Toml.parse? none files source
  have among : w ∈ loaded.2 := warned ▸ List.mem_singleton_self w
  obtain ⟨default, path, found, settings, -, read, parsed, filter⟩ := taken w among ignored
  -- every path leads to this text
  have whole : (FileEntry.file text.toUTF8).readText = .ok text := rfl
  obtain rfl : text = found := Except.ok.inj (whole.symm.trans read)
  obtain rfl := Option.some.inj (given.symm.trans parsed)
  exact ⟨warned, ignored, default, filter⟩

end NamedCells
