import Liquid.Command.Arguments
import Liquid.Engine
import Liquid.Settings
import Liquid.Value.Json

/-!
# Running commands

- `contextData`: template data, which must be a JSON object.
- `Settings.engine`: the engine that settings ask for.
- `Arguments.settings`, `Arguments.run`: the settings for a command line, and what its command
  writes.
- `Arguments.files`, `Settings.candidates`: the files that a command may read.
-/

namespace Liquid

/-- Why a file given on the command line cannot be read, as an error. -/
def Disk.readFile (disk : Disk) (path : String) : Except Error String :=
  match disk.readText path with
  | .ok text => .ok text
  | .error problem => .error (.io problem)

/-- The variables in template data, by name. -/
def contextData (json : String) : Except Error (List (String × Value)) :=
  match Json.parse? json with
  | none => .error (.configuration .malformedData)
  | some j =>
    match Value.ofJson j with
    | .dict entries => .ok entries
    | v => .error (.configuration (.dataNotObject v.toJson.write))

namespace Settings

/-- The engine that settings ask for. Without directories there are no included templates. -/
def engine (settings : Settings) (disk : Disk) : Engine :=
  { fileSystem :=
      if settings.templateDirs.isEmpty then .blank
      else .files (settings.localTemplates disk)
    maxIncludeDepth := settings.maxIncludeDepth }

/-- The files that a template of that name may be in. -/
def candidates (settings : Settings) (name : String) : List String :=
  settings.templateDirs.map (joinPath · (settings.partialPath name))

end Settings

namespace Arguments

/-- The settings of the file that is named, or else the defaults, under the environment
variables. -/
def baseSettings (arguments : Arguments) (environment : Keyed String) (disk : Disk) :
    Except Error Settings := do
  let settings ← match arguments.config with
    | some path => Settings.ofTomlFile disk path
    | none => pure {}
  settings.override environment

/-- The settings with the directories of the command line behind all others. -/
def settings (arguments : Arguments) (environment : Keyed String) (disk : Disk) :
    Except Error Settings := do
  let base ← arguments.baseSettings environment disk
  return { base with templateDirs := base.templateDirs ++ arguments.templates }

/-- The template data of a command line. -/
def context (arguments : Arguments) (disk : Disk) : Except Error (List (String × Value)) :=
  match arguments.data, arguments.dataFile with
  | some json, _ => contextData json
  | none, some path => do contextData (← disk.readFile path)
  | none, none => .ok []

/-- What the command writes. -/
def run (arguments : Arguments) (environment : Keyed String) (disk : Disk) :
    Except Error String := do
  let settings ← arguments.settings environment disk
  let engine := settings.engine disk
  let template ← engine.parse (← disk.readFile arguments.file)
  match arguments.command with
  | .check => return arguments.file ++ ": ok\n"
  | .render =>
    let data ← arguments.context disk
    (template.render (engine.newContext.merge data)).1

/-- The files that are named on the command line. -/
def files (arguments : Arguments) : List String :=
  arguments.config.toList ++ [arguments.file] ++ arguments.dataFile.toList

end Arguments

end Liquid
