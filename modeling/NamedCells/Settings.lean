import NamedCells.Binary64.Shortest
import NamedCells.Config
import NamedCells.Text.Quoted
import NamedCells.Toml.Item

/-!
# Settings

The settings of the program are read from a document with two sections: `engine` is the policy of
the engine and `log` has the filter of the log.  Every section and every field may be missing, and
an unknown one is an error: a misspelt field is never ignored.  A section may also be an array,
which gives its fields by position.  The first fault in the order of the document is reported.

## Main definitions

* `Settings` — the settings; every field has a default.
* `SettingsFault` — why a document gives no settings.
* `Settings.ofEntries` — the settings that a document gives.
-/

namespace NamedCells

/-- The settings of the program. -/
structure Settings where
  /-- The policy of the engine. -/
  engine : EngineConfig := {}
  /-- The filter of the log, if one is set. -/
  logFilter : Option String := none
  deriving DecidableEq, Repr

/-- What stands in a document where something else was expected. -/
inductive Found where
  | integer (value : Int)
  | float (value : Binary64)
  | boolean (value : Bool)
  | string (text : String)
  | sequence
  | map
  deriving DecidableEq, Repr

/-- A double with a point: an integer gets one zero after it. -/
def pointedText (x : Binary64) : String :=
  if x.isFinite && !x.text.toList.contains '.' then x.text ++ ".0" else x.text

/-- What was found, in words. -/
def Found.message : Found → String
  | .integer n => s!"integer `{n}`"
  | .float x => "floating point `" ++ pointedText x ++ "`"
  | .boolean b => if b then "boolean `true`" else "boolean `false`"
  | .string s => "string " ++ Text.quote s
  | .sequence => "sequence"
  | .map => "map"

/-- What an item is when something else was expected.  A date counts as a map, of which it could
be made. -/
def Found.ofItem : Toml.Item → Found
  | .string s => .string s
  | .integer n => .integer n
  | .float x => .float x
  | .boolean b => .boolean b
  | .datetime => .map
  | .array _ => .sequence
  | .table .. => .map
  | .tables _ => .sequence

/-- Why a document gives no settings. -/
inductive SettingsFault where
  /-- A field that the section, or the document, does not have. -/
  | unknownField (field : String) (known : List String)
  /-- A word that is none of the choices. -/
  | unknownVariant (variant : String) (known : List String)
  /-- An item of another type. -/
  | wrongType (found : Found) (expected : String)
  /-- An item of the right type with an impossible value. -/
  | wrongValue (found : Found) (expected : String)
  /-- A choice that is neither a word nor a table. -/
  | choiceNeedsWordOrTable
  /-- A table that should have the choice as its one key. -/
  | choiceNeedsOneKey (isEmpty : Bool)
  /-- A choice with something other than a table under its key. -/
  | choiceNeedsTable (found : String)
  /-- A choice with a table that is not empty under its key. -/
  | choiceNeedsEmptyTable
  /-- A choice with an array of tables that is not empty under its key. -/
  | choiceNeedsEmptyArray
  deriving DecidableEq, Repr

/-- The names that are known, in words. -/
def knownNames : List String → String
  | [] => "nothing"
  | [a] => s!"`{a}`"
  | [a, b] => s!"`{a}` or `{b}`"
  | names => "one of " ++ ", ".intercalate (names.map fun a => s!"`{a}`")

/-- The fault in words. -/
def SettingsFault.message : SettingsFault → String
  | .unknownField field known => s!"unknown field `{field}`, expected " ++ knownNames known
  | .unknownVariant variant known =>
    s!"unknown variant `{variant}`, expected " ++ knownNames known
  | .wrongType found expected => "invalid type: " ++ found.message ++ ", expected " ++ expected
  | .wrongValue found expected => "invalid value: " ++ found.message ++ ", expected " ++ expected
  | .choiceNeedsWordOrTable => "wanted string or table"
  | .choiceNeedsOneKey isEmpty =>
    if isEmpty then "wanted exactly 1 element, found 0 elements"
    else "wanted exactly 1 element, more than 1 element"
  | .choiceNeedsTable found => "expected table, found " ++ found
  | .choiceNeedsEmptyTable => "expected empty table"
  | .choiceNeedsEmptyArray => "expected empty array"

/-! ### Fields -/

/-- The text that an item is. -/
def readText : Toml.Item → Except SettingsFault String
  | .string s => .ok s
  | item => .error (.wrongType (.ofItem item) "a string")

/-- The truth value that an item is. -/
def readFlag : Toml.Item → Except SettingsFault Bool
  | .boolean b => .ok b
  | item => .error (.wrongType (.ofItem item) "a boolean")

/-- The number of things that an item is. -/
def readCount : Toml.Item → Except SettingsFault Nat
  | .integer (.ofNat n) => .ok n
  | .integer n => .error (.wrongValue (.integer n) "usize")
  | item => .error (.wrongType (.ofItem item) "usize")

/-- The choices of what creating a cell does whose name is taken. -/
def redefinitionNames : List String := ["overwrite", "reject"]

/-- The choice with a name. -/
def readRedefinitionName (name : String) : Except SettingsFault Redefinition :=
  if name = "overwrite" then .ok .overwrite
  else if name = "reject" then .ok .reject
  else .error (.unknownVariant name redefinitionNames)

/-- Refuse whatever may not stand under the key of a choice. -/
def checkChoiceContent : Toml.Item → Except SettingsFault Unit
  | .table _ [] => .ok ()
  | .table _ _ => .error .choiceNeedsEmptyTable
  | .array [] => .ok ()
  | .array _ => .error .choiceNeedsEmptyTable
  | .tables [] => .ok ()
  | .tables _ => .error .choiceNeedsEmptyArray
  | .string _ => .error (.choiceNeedsTable "string")
  | .integer _ => .error (.choiceNeedsTable "integer")
  | .float _ => .error (.choiceNeedsTable "float")
  | .boolean _ => .error (.choiceNeedsTable "boolean")
  | .datetime => .error (.choiceNeedsTable "datetime")

/-- The choice that an item is: a word, or a table with the word as its one key. -/
def readRedefinition : Toml.Item → Except SettingsFault Redefinition
  | .string name => readRedefinitionName name
  | .table _ [(name, content)] => do
    let choice ← readRedefinitionName name
    checkChoiceContent content
    return choice
  | .table _ entries => .error (.choiceNeedsOneKey entries.isEmpty)
  | _ => .error .choiceNeedsWordOrTable

/-! ### Sections -/

/-- The items of a section that gives its fields by position, or the keys of one that gives them
by name. -/
inductive Section where
  | byName (entries : Toml.Entries)
  | byPosition (items : List Toml.Item)

/-- The name under which a date gives its text when it is taken apart. -/
def datetimeField : String := "$__toml_private_datetime"

/-- An item as a section. -/
def readSection (expected : String) : Toml.Item → Except SettingsFault Section
  | .table _ entries => .ok (.byName entries)
  | .array items => .ok (.byPosition items)
  | .tables elements => .ok (.byPosition (elements.map (.table .headed)))
  | .datetime => .ok (.byName [(datetimeField, .datetime)])
  | item => .error (.wrongType (.ofItem item) expected)

/-- The fields of the section of the engine, in the order of their positions. -/
def engineFields : List String := ["redefinition", "allow_non_finite", "max_cells"]

/-- A policy with one field read. -/
def EngineConfig.readField (config : EngineConfig) (field : String) (item : Toml.Item) :
    Except SettingsFault EngineConfig :=
  if field = "redefinition" then
    (readRedefinition item).map fun redefinition => { config with redefinition }
  else if field = "allow_non_finite" then
    (readFlag item).map fun allowNonFinite => { config with allowNonFinite }
  else if field = "max_cells" then
    (readCount item).map fun maxCells => { config with maxCells }
  else .error (.unknownField field engineFields)

/-- The policy that an item is. -/
def EngineConfig.ofItem (item : Toml.Item) : Except SettingsFault EngineConfig := do
  let entries := match ← readSection "struct EngineConfig" item with
    | .byName entries => entries
    | .byPosition items => engineFields.zip items
  entries.foldlM (fun config (field, item) => config.readField field item) {}

/-- The fields of the section of the log, in the order of their positions. -/
def logFields : List String := ["filter"]

/-- The filter of the log that a field of the section gives. -/
def readLogField (field : String) (item : Toml.Item) : Except SettingsFault (Option String) :=
  if field = "filter" then (readText item).map some
  else .error (.unknownField field logFields)

/-- The filter of the log that an item gives. -/
def readLog (item : Toml.Item) : Except SettingsFault (Option String) := do
  let entries := match ← readSection "struct LogConfig" item with
    | .byName entries => entries
    | .byPosition items => logFields.zip items
  entries.foldlM (fun _ (field, item) => readLogField field item) none

namespace Settings

/-- The sections. -/
def sections : List String := ["engine", "log"]

/-- Settings with one section read. -/
def readSectionNamed (settings : Settings) (name : String) (item : Toml.Item) :
    Except SettingsFault Settings :=
  if name = "engine" then (EngineConfig.ofItem item).map fun engine => { settings with engine }
  else if name = "log" then (readLog item).map fun logFilter => { settings with logFilter }
  else .error (.unknownField name sections)

/-- The settings that a document gives. -/
def ofEntries (document : Toml.Entries) : Except SettingsFault Settings :=
  document.foldlM (fun settings (name, item) => settings.readSectionNamed name item) {}

end Settings

end NamedCells
