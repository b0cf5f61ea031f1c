import Liquid.FileSystem
import Liquid.Json.Merge
import Liquid.Json.Reader
import Liquid.Log.Filter
import Liquid.Text.Blank
import Liquid.Text.Case
import Liquid.Toml.Reader

/-!
# Settings

What a host can set: in a file, and above that by environment variables. (`SPEC_FULL.md`, section
9.)

- `Settings`: the settings; their default values are those of the fields.
- `Settings.toJson`, `Settings.decode?`: settings as a JSON object, and back. All fields must be
  there, and each must have the right type.
- `Settings.ofLayer?`: a JSON value that is put over the defaults, and then read.
- `Settings.ofToml`, `Settings.ofJson`: settings from the text of a file.
- `Settings.override`: environment variables over settings, each field by itself.
- `Settings.logFilter`: the filter for log events.
- `Settings.localTemplates`, `LocalTemplates.ofRoots`: the templates below the directories, and
  those below given ones with the pattern of the defaults.
-/

namespace Liquid

open Text

/-- What a host can set. -/
structure Settings where
  /-- Whether logs are meant for people. -/
  debug : Bool := false
  /-- The least level of log events. -/
  logLevel : String := "info"
  /-- The directories that are searched for included templates. -/
  templateDirs : List String := []
  /-- The pattern of the file names of included templates. -/
  templatePattern : String := "_\x7bname\x7d.liquid"
  /-- How deep includes may be nested. -/
  maxIncludeDepth : Nat := 32
  deriving DecidableEq, Repr

namespace Settings

/-! ### Values of settings -/

/-- A truth value. -/
def bool? : Json → Option Bool
  | .bool b => some b
  | _ => none

/-- A string. -/
def string? : Json → Option String
  | .string s => some s
  | _ => none

/-- A list of strings. -/
def strings? : Json → Option (List String)
  | .array elements => elements.mapM string?
  | _ => none

/-- A whole number that is not negative. -/
def count? : Json → Option Nat
  | .integer i => if 0 ≤ i then some i.toNat else none
  | _ => none

/-- The value of a member, if the object has it and it is of the right type. -/
def field? {α : Type} (read? : Json → Option α) (key : String) (members : Keyed Json) : Option α :=
  (Keyed.get? key members).bind read?

/-! ### Files -/

/-- The members of the object that settings are written as. -/
def members (settings : Settings) : Keyed Json :=
  [("debug", .bool settings.debug),
   ("log_level", .string settings.logLevel),
   ("max_include_depth", .integer settings.maxIncludeDepth),
   ("template_dirs", .array (settings.templateDirs.map .string)),
   ("template_pattern", .string settings.templatePattern)]

/-- Settings as a JSON object. -/
def toJson (settings : Settings) : Json := .object settings.members

/-- The settings of an object. It must have all fields; other members do not count. -/
def ofMembers? (members : Keyed Json) : Option Settings := do
  some
    { debug := ← field? bool? "debug" members
      logLevel := ← field? string? "log_level" members
      templateDirs := ← field? strings? "template_dirs" members
      templatePattern := ← field? string? "template_pattern" members
      maxIncludeDepth := ← field? count? "max_include_depth" members }

/-- The settings of a JSON value: an object, or an array of all fields in their order. -/
def decode? : Json → Option Settings
  | .object members => ofMembers? members
  | .array [debug, level, directories, pattern, depth] => do
    some ⟨← bool? debug, ← string? level, ← strings? directories, ← string? pattern,
      ← count? depth⟩
  | _ => none

/-- The settings of a JSON value over the defaults. -/
def ofLayer? (j : Json) : Option Settings := decode? (Json.merge (toJson {}) j)

/-- The settings of a value that a text was read as. `format` is the name of its format. -/
def ofRead (format : String) : Option Json → Except Error Settings
  | none => .error (.configuration (.malformedSettings format))
  | some j =>
    match ofLayer? j with
    | some settings => .ok settings
    | none => .error (.configuration (.unfitSettings format))

/-- The settings in the text of a TOML file. -/
def ofToml (text : String) : Except Error Settings :=
  ofRead "TOML" ((Toml.parse? text).map Toml.toJson)

/-- The settings in the text of a JSON file. -/
def ofJson (text : String) : Except Error Settings := ofRead "JSON" (Json.parse? text)

/-- The settings in a TOML file. -/
def ofTomlFile (disk : Disk) (path : String) : Except Error Settings :=
  match disk.readText path with
  | .ok text => ofToml text
  | .error problem => .error (.configuration (.unreadableSettings path problem))

/-! ### Environment variables -/

/-- Whether the text of a variable switches something on. -/
def switchesOn (text : String) : Bool :=
  ["true", "1", "yes"].contains (String.ofList (lower text.toList))

/-- The directories that a text divided by colons names. -/
def directories (text : String) : List String :=
  (((splitOn [':'] text.toList).map trim).filter fun name => !name.isEmpty).map String.ofList

/-- The include depth that a text gives. -/
def depthOf (text : String) : Except Error Nat :=
  match Decimal.readNat? UInt64.size (trim text.toList) with
  | some n => .ok n
  | none => .error (.configuration (.includeDepth text))

/-- Environment variables over settings. A variable that is not set changes nothing. -/
def override (settings : Settings) (environment : Keyed String) : Except Error Settings := do
  let read (name : String) := Keyed.get? name environment
  let depth ← match read "LIQUID_MAX_INCLUDE_DEPTH" with
    | some text => depthOf text
    | none => pure settings.maxIncludeDepth
  return {
    debug := ((read "LIQUID_DEBUG").map switchesOn).getD settings.debug
    logLevel := (read "LIQUID_LOG_LEVEL").getD settings.logLevel
    templateDirs := ((read "LIQUID_TEMPLATE_DIRS").map directories).getD settings.templateDirs
    templatePattern := (read "LIQUID_TEMPLATE_PATTERN").getD settings.templatePattern
    maxIncludeDepth := depth }

/-- The names of the variables. -/
def variableNames : List String :=
  ["LIQUID_DEBUG", "LIQUID_LOG_LEVEL", "LIQUID_TEMPLATE_DIRS", "LIQUID_TEMPLATE_PATTERN",
   "LIQUID_MAX_INCLUDE_DEPTH"]

/-! ### Use -/

/-- The path of a template's file below one of the directories. -/
def partialPath (settings : Settings) (name : String) : String :=
  Liquid.partialPath settings.templatePattern name

/-- The templates below the directories. -/
def localTemplates (settings : Settings) (disk : Disk) : LocalTemplates :=
  ⟨settings.templateDirs, settings.templatePattern, disk⟩

/-- The target of the log events of compiling and rendering. -/
def logTarget : String := "liquid_rs_template"

/-- The filter for log events. What is no filter stands for `info`. For people, compiling and
rendering are shown from the debug level on, unless the settings name their target. -/
def logFilter (settings : Settings) : LogFilter :=
  let filter := (LogFilter.parse? settings.logLevel).getD (.ofDirectives [{ level := .info }])
  if settings.debug && !occursIn logTarget.toList settings.logLevel.toList then
    filter.add { target := some logTarget, level := .debug }
  else filter

end Settings

/-- The templates below some roots, with the pattern of the defaults. -/
def LocalTemplates.ofRoots (roots : List String) (disk : Disk) : LocalTemplates :=
  ({ templateDirs := roots } : Settings).localTemplates disk

end Liquid
