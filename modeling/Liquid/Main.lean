import Liquid.Command.Run

/-!
# The command line

Reads the files and variables that a command asks for, runs it on them, and prints what it writes.
A file that a template includes becomes known when the command misses it; the command is then run
again with that file.
-/

namespace Liquid.CommandLine

/-- Files that have been read, by path. -/
abbrev Snapshot := Keyed (Except IoProblem (List UInt8))

/-- The files that have been read as a disk. -/
def Snapshot.disk (snapshot : Snapshot) : Disk := fun path =>
  (Keyed.get? path snapshot).getD (.error .notFound)

/-- Why a file cannot be read. -/
def problemOf : IO.Error → IoProblem
  | .noFileOrDirectory _ code _ => if code = 20 then .notDirectory else .notFound
  | .inappropriateType _ code text =>
    if code = 20 then .notDirectory
    else if code = 21 then .isDirectory
    else .other text
  | e => .other (toString e)

/-- Reads a file. -/
def readBytes (path : String) : IO (Except IoProblem (List UInt8)) := do
  try return .ok (← IO.FS.readBinFile path).toList
  catch e => return .error (problemOf e)

/-- Reads files and adds them to those that have been read. -/
def readAll (snapshot : Snapshot) (paths : List String) : IO Snapshot :=
  paths.foldlM (fun snapshot path => do
    return Keyed.insert path (← readBytes path) snapshot) snapshot

/-- The environment variables that settings depend on. -/
def readVariables : IO (Keyed String) :=
  Settings.variableNames.foldlM (fun environment name => do
    match ← IO.getEnv name with
    | some text => return Keyed.insert name text environment
    | none => return environment) []

/-- The files that a command misses, among those that have not been read. -/
def missing (arguments : Arguments) (environment : Keyed String) (snapshot : Snapshot) :
    Except Error String → List String
  | .error (.missingInclude (.noSuchTemplate name)) =>
    match arguments.settings environment snapshot.disk with
    | .ok settings =>
      (settings.candidates name).filter fun path => !Keyed.contains path snapshot
    | .error _ => []
  | _ => []

/-- Runs a command until it misses no file any more. -/
partial def run (arguments : Arguments) (environment : Keyed String) (snapshot : Snapshot) :
    IO (Except Error String) := do
  let result := arguments.run environment snapshot.disk
  match missing arguments environment snapshot result with
  | [] => return result
  | paths => run arguments environment (← readAll snapshot paths)

/-- What is printed for a mistake on the command line. -/
def usageText : UsageError → String
  | .missingSubcommand => "a subcommand is required"
  | .invalidSubcommand => "unrecognized subcommand"
  | .missingRequiredArgument => "a template file is required"
  | .unknownArgument => "unexpected argument"
  | .invalidValue => "an option needs a value"
  | .tooManyValues => "an option takes no value"
  | .argumentConflict => "arguments exclude each other"
  | .displayHelp => ""

/-- What is printed when help is asked for. -/
def helpText : String :=
  String.join ("Render and check Liquid templates\n\nCommands:\n" :: Command.all.map fun command =>
    "  " ++ command.name ++ "  " ++ command.help ++ "\n")

end Liquid.CommandLine

open Liquid CommandLine in
/-- Runs the command line. -/
def main (words : List String) : IO UInt32 := do
  match Arguments.parse Command.all words with
  | .error .displayHelp =>
    IO.print helpText
    return 0
  | .error e =>
    IO.eprintln ("error: " ++ usageText e)
    return 2
  | .ok arguments =>
    let snapshot ← readAll [] arguments.files
    match ← run arguments (← readVariables) snapshot with
    | .ok output =>
      IO.print output
      return 0
    | .error e =>
      IO.eprintln ("error: " ++ e.message)
      return 1
