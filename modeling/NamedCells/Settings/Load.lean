import NamedCells.Files
import NamedCells.Settings
import NamedCells.Toml.Document

/-!
# Loading settings

The settings are read from the file that the caller names or, if none is named, from the one in the
directory where the user keeps settings.  Nothing that is wrong with the file stops the program: the
settings are then the default ones, as a whole, and a warning says why.  The only settings taken
from a faulty file are those of the log, when nothing but the policy of the engine is not sound.

How the text of a file becomes a document is left to a reader that is given, of which nothing is
assumed.  `Toml.parse?` is one.

## Main definitions

* `UserDirectories.settingsPath` — the file of settings of a user.
* `SettingsSource` — where settings are to be read from.
* `SettingsWarning` — why settings of a file are not used.
* `Settings.load` — the settings to use, and the warnings.

## Main results

* `Settings.load_of_ignoreFiles`, `Settings.load_of_named`, `Settings.load_of_unnamed` — which file
  they are from.
-/

namespace NamedCells

/-- Where a user keeps things. -/
structure UserDirectories where
  /-- The directory for settings, if one is set. -/
  configHome : Option String := none
  /-- The home directory, if it is known, be it from the environment or from the system's list of
  users. -/
  home : Option String := none

/-- A name below a directory. -/
def joinPath (directory name : String) : String :=
  if directory.endsWith "/" then directory ++ name else directory ++ "/" ++ name

/-- The file of settings in the directory where the user keeps settings.  A directory that is not
given from the root does not count as set, and where no home directory is known there is no place
for settings, whatever is set. -/
def UserDirectories.settingsPath (user : UserDirectories) : Option String :=
  user.home.map fun home =>
    let directory := (user.configHome.filter (·.startsWith "/")).getD (joinPath home ".config")
    joinPath directory "sheetforge/config.toml"

/-- Where settings are to be read from. -/
structure SettingsSource where
  /-- The file that the caller names, if any. -/
  file : Option String := none
  /-- Whether no file is to be read. -/
  ignoreFiles : Bool := false

/-- The greatest number of bytes of a file of settings. -/
def maxSettingsBytes : Nat := 1024 * 1024

/-- Why settings of a file are not used. -/
inductive SettingsWarning where
  /-- The file that the caller names does not exist. -/
  | notFound (path : String)
  /-- The file is too large to be read. -/
  | tooLarge (path : String) (bytes : Nat)
  /-- The size of the file is not told. -/
  | unmeasured (path : String) (e : OsError)
  /-- The file cannot be read. -/
  | unreadable (path : String) (fault : ReadFault)
  /-- The file is no TOML. -/
  | malformed (path : String)
  /-- The document of the file gives no settings. -/
  | unfit (path : String) (fault : SettingsFault)
  /-- The policy of the engine is not sound. -/
  | unsoundEngine (path : String) (fault : ConfigFault)
  deriving DecidableEq, Repr

/-- The last line of a text. -/
def lastLine (text : String) : String :=
  String.ofList (text.toList.reverse.takeWhile (· ≠ '\n')).reverse

/-- The warning in words.  What the reader of documents has to say about a text that is none is left
out.  Of a fault whose words go over several lines, because a name in the file does, the last line
is kept. -/
def SettingsWarning.message : SettingsWarning → String
  | .notFound path => s!"Config file not found: {path}"
  | .tooLarge path bytes =>
    s!"Refusing to read {path}: file too large ({bytes} bytes, max {maxSettingsBytes})"
  | .unmeasured path e => s!"Failed to read metadata for {path}: " ++ e.message
  | .unreadable path fault => s!"Failed to read {path}: " ++ fault.message
  | .malformed path => s!"Failed to parse {path}"
  | .unfit path fault => s!"Failed to parse {path}: " ++ lastLine fault.message
  | .unsoundEngine path fault => s!"Ignoring [engine] in {path}: " ++ fault.message

namespace Settings

/-- Settings with the default policy of the engine in the place of one that is not sound. -/
def withSoundEngine (path : String) (settings : Settings) : Settings × List SettingsWarning :=
  match settings.engine.fault? with
  | some fault => ({ settings with engine := {} }, [.unsoundEngine path fault])
  | none => (settings, [])

variable (reader : String → Option Toml.Entries)

/-- The settings that a text gives. -/
def ofText (path text : String) : Settings × List SettingsWarning :=
  match reader text with
  | none => ({}, [.malformed path])
  | some document =>
    match ofEntries document with
    | .error fault => ({}, [.unfit path fault])
    | .ok settings => settings.withSoundEngine path

/-- The settings that are found at a path; `isNamed` says that the caller named it. -/
def ofEntry (path : String) (isNamed : Bool) (entry : FileEntry) :
    Settings × List SettingsWarning :=
  if !entry.isThere then ({}, if isNamed then [.notFound path] else [])
  else
    match entry.size with
    | .error e => ({}, [.unmeasured path e])
    | .ok bytes =>
      if maxSettingsBytes < bytes then ({}, [.tooLarge path bytes])
      else
        match entry.readText with
        | .error fault => ({}, [.unreadable path fault])
        | .ok text => ofText reader path text

/-- The path of the file that settings are read from, if one is: the one that the caller names, or
else the `usual` one. -/
def path? (usual : Option String) (source : SettingsSource) : Option String :=
  if source.ignoreFiles then none else source.file.or usual

/-- The settings to use, and the warnings. -/
def load (usual : Option String) (files : String → FileEntry) (source : SettingsSource) :
    Settings × List SettingsWarning :=
  match path? usual source with
  | none => ({}, [])
  | some path => ofEntry reader path source.file.isSome (files path)

/-! ### Where settings come from -/

variable {usual : Option String} (files : String → FileEntry) {source : SettingsSource}

/-- No file is read if none is to be read, whatever is named. -/
theorem load_of_ignoreFiles (ignored : source.ignoreFiles = true) :
    load reader usual files source = ({}, []) := by
  simp [load, path?, ignored]

/-- The file that the caller names is the only one that is looked at. -/
theorem load_of_named {path : String} (heeded : source.ignoreFiles = false)
    (named : source.file = some path) :
    load reader usual files source = ofEntry reader path true (files path) := by
  simp [load, path?, heeded, named]

/-- Where the caller names no file it is the usual one, if there is a place for one. -/
theorem load_of_unnamed (heeded : source.ignoreFiles = false) (unnamed : source.file = none) :
    load reader usual files source =
      match usual with
      | none => ({}, [])
      | some path => ofEntry reader path false (files path) := by
  simp only [load, path?, heeded, unnamed, Option.none_or]
  cases usual <;> rfl

end Settings

end NamedCells
