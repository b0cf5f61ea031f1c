import Liquid.Text.Search

/-!
# Command-line arguments

How the words of a command line are divided into a command, options and a file. (`SPEC_FULL.md`,
section 9.)

- `Option`s: `--name value`, `--name=value`, `-n value` and `-nvalue`. Behind a lone `--` every word
  is taken as it is.
- `UsageError`: the kinds of mistakes. Reading stops at the first one.
- `Grammar`: what is allowed in front of the name of a command, and behind it.
- `Reading`: what the words read so far say. A word that completes an option takes effect when the
  next one is read, and only then it is seen that an option has no value or stands there twice.
- `Arguments.parse`: reads a whole command line.
-/

namespace Liquid

/-- A mistake on the command line. -/
inductive UsageError where
  /-- There is no command. -/
  | missingSubcommand
  /-- There is no such command. -/
  | invalidSubcommand
  /-- An argument that is required is missing. -/
  | missingRequiredArgument
  /-- There is no such option, or no place for a further argument. -/
  | unknownArgument
  /-- An option has no value. -/
  | invalidValue
  /-- An option that has no value is given one. -/
  | tooManyValues
  /-- An option stands there twice, or with another that excludes it. -/
  | argumentConflict
  /-- Not a mistake: help is asked for. -/
  | displayHelp
  deriving DecidableEq, Repr

/-- A command. -/
inductive Command where
  /-- Checks that a template can be compiled. -/
  | check
  /-- Renders a template. -/
  | render
  deriving DecidableEq, Repr

namespace Command

/-- All commands, by name. -/
def all : List Command := [check, render]

/-- The name of a command. -/
def name : Command → String
  | check => "check"
  | render => "render"

/-- What a command does, in a few words. -/
def help : Command → String
  | check => "Check a template for syntax errors"
  | render => "Render a template with JSON data"

end Command

/-- A named argument. -/
inductive Flag where
  /-- The settings file. -/
  | config
  /-- A directory with included templates; there can be many. -/
  | templates
  /-- Template data. -/
  | data
  /-- A file with template data. -/
  | dataFile
  /-- Asks for help, and has no value. -/
  | help
  deriving DecidableEq, Repr

namespace Flag

/-- The name of a flag, behind two dashes. -/
def long : Flag → String
  | config => "config"
  | templates => "templates"
  | data => "data"
  | dataFile => "data-file"
  | help => "help"

/-- The letter of a flag, behind one dash. -/
def short? : Flag → Option Char
  | config => some 'c'
  | templates => some 't'
  | data => some 'd'
  | dataFile => none
  | help => some 'h'

end Flag

namespace Arguments

/-- What a part of the command line is read by. -/
structure Grammar where
  /-- The flags that are known. -/
  flags : List Flag
  /-- Whether there is a place for a file. -/
  takesFile : Bool
  /-- The names of commands. -/
  commands : List String

/-- The part in front of the name of a command. Where there are commands, `help` is one, too. -/
def Grammar.top (commands : List Command) : Grammar :=
  { flags := [.config, .help]
    takesFile := false
    commands := if commands.isEmpty then [] else commands.map Command.name ++ ["help"] }

/-- The part behind the name of a command. -/
def Grammar.behind : Command → Grammar
  | .check => ⟨[.templates, .config, .help], true, []⟩
  | .render => ⟨[.templates, .data, .dataFile, .config, .help], true, []⟩

/-- An option whose effect has not been taken yet. -/
inductive Pending where
  /-- No option. -/
  | nothing
  /-- An option that waits for its value. -/
  | waiting (flag : Flag)
  /-- An option with its value. -/
  | complete (flag : Flag) (value : String)
  deriving DecidableEq, Repr

/-- What has been read. -/
structure Reading where
  /-- The options with their values. -/
  values : List (Flag × String) := []
  /-- The file. -/
  file : Option String := none
  /-- The last option, if it has not taken effect yet. -/
  pending : Pending := .nothing

namespace Reading

/-- The value of an option. -/
def value? (r : Reading) (flag : Flag) : Option String := r.values.lookup flag

/-- Gives an option a value. Only directories may be given twice. -/
def add (r : Reading) (flag : Flag) (value : String) : Except UsageError Reading :=
  if flag ≠ .templates ∧ (r.value? flag).isSome then .error .argumentConflict
  else .ok { r with values := r.values ++ [(flag, value)], pending := .nothing }

/-- Lets the last option take effect. -/
def settle (r : Reading) : Except UsageError Reading :=
  match r.pending with
  | .nothing => .ok r
  | .waiting _ => .error .invalidValue
  | .complete flag value => r.add flag value

/-- Begins an option, with the value that is attached to it if there is one. -/
def begin (r : Reading) (flag : Flag) (attached : Option String) : Except UsageError Reading := do
  let r ← r.settle
  match flag, attached with
  | .help, _ => throw .displayHelp
  | flag, some value => r.add flag value
  | flag, none => return { r with pending := .waiting flag }

end Reading

/-- Reads a word behind two dashes: a name, and a value if there is an equals sign. -/
def readLong (grammar : Grammar) (r : Reading) (word : List Char) : Except UsageError Reading :=
  let (name, attached) := match Text.cutAt? ['='] word with
    | some cut => (String.ofList cut.1, some (String.ofList cut.2))
    | none => (String.ofList word, none)
  match grammar.flags.find? (·.long == name), attached with
  | none, _ => .error .unknownArgument
  | some .help, some _ => .error .tooManyValues
  | some flag, attached => r.begin flag attached

/-- Reads a word behind one dash: a letter, and what follows it as the value. -/
def readShort (grammar : Grammar) (r : Reading) (letter : Char) (rest : List Char) :
    Except UsageError Reading :=
  let attached := match rest with
    | [] => none
    | '=' :: value => some (String.ofList value)
    | value => some (String.ofList value)
  match grammar.flags.find? (·.short? == some letter) with
  | some flag => r.begin flag attached
  | none => .error .unknownArgument

/-- Reads a word that is no option. `verbatim` says whether a lone `--` stands in front of it. -/
def readPlain (grammar : Grammar) (verbatim : Bool) (r : Reading) (word : String) :
    Except UsageError Reading :=
  if grammar.takesFile && r.file.isNone then do return { ← r.settle with file := some word }
  else if grammar.commands.isEmpty || (verbatim && grammar.commands.contains word) then
    .error .unknownArgument
  else .error .invalidSubcommand

/-- Reads words up to the name of a command or to the end. Gives what has been read, and the command
with the words behind it. -/
def read (grammar : Grammar) : (verbatim : Bool) → Reading → List String →
    Except UsageError (Reading × Option (String × List String))
  | _, r, [] => .ok (r, none)
  | true, r, word :: rest => do read grammar true (← readPlain grammar true r word) rest
  | false, r, word :: rest =>
    match r.pending, word.toList with
    | _, ['-', '-'] => read grammar true r rest
    | _, '-' :: '-' :: name => do read grammar false (← readLong grammar r name) rest
    | _, '-' :: letter :: value => do
      read grammar false (← readShort grammar r letter value) rest
    | .waiting flag, _ => read grammar false { r with pending := .complete flag word } rest
    | _, _ =>
      if grammar.commands.contains word then .ok (r, some (word, rest))
      else do read grammar false (← readPlain grammar false r word) rest

/-- Reads what stands behind `help`: the name of a command, or nothing. -/
def readHelp (grammar : Grammar) : List String → UsageError
  | [] => .displayHelp
  | [name] => if grammar.commands.contains name then .displayHelp else .invalidSubcommand
  | _ => .invalidSubcommand

end Arguments

/-- What a command line says. -/
structure Arguments where
  /-- The command. -/
  command : Command
  /-- The template file. -/
  file : String
  /-- The settings file. -/
  config : Option String
  /-- The directories with included templates. -/
  templates : List String
  /-- Template data. -/
  data : Option String
  /-- The file with template data. -/
  dataFile : Option String
  deriving DecidableEq, Repr

namespace Arguments

/-- Reads what stands behind the name of a command. -/
def readCommand (command : Command) (words : List String) : Except UsageError Arguments := do
  let (r, _) ← read (.behind command) false {} words
  let r ← r.settle
  let data := r.value? .data
  let dataFile := r.value? .dataFile
  if data.isSome && dataFile.isSome then throw .argumentConflict
  match r.file with
  | none => throw .missingRequiredArgument
  | some file =>
    return {
      command, file, data, dataFile
      config := r.value? .config
      templates := (r.values.filter (·.1 == .templates)).map Prod.snd }

/-- Reads a command line for the given commands, without the name of the program. The settings file
may be named in front of the command or behind it, and there it counts more. -/
def parse (commands : List Command) (words : List String) : Except UsageError Arguments := do
  let grammar := Grammar.top commands
  let (r, found) ← read grammar false {} words
  match found with
  | none =>
    let _ ← r.settle
    throw .missingSubcommand
  | some (name, rest) =>
    match commands.find? (·.name == name) with
    | none => throw (readHelp grammar rest)
    | some command =>
      let arguments ← readCommand command rest
      let r ← r.settle
      return { arguments with config := arguments.config <|> r.value? .config }

end Arguments

end Liquid
