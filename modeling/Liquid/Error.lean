/-!
# Errors

Everything that can go wrong, by cause. The wording stands in one place, `Error.message`.
(`SPEC_FULL.md`, section 8.)

- `MarkupProblem`: markup that does not have the form of the construct it belongs to.
- `IoProblem`, `MissingInclude`, `ConfigProblem`: files, partials and settings.
- `Error`: all of these, and the failures of a render.
- `Error.isParseError`: the errors that compiling a template can end in.

A look-up that finds nothing is no error anywhere: it gives nil.
-/

namespace Liquid

/-- Why markup does not have the form of the construct it belongs to. -/
inductive MarkupProblem where
  /-- An opening `{{` or `{%` with no closing counterpart behind it. -/
  | unclosed (opener : String)
  /-- A tag without a name. -/
  | unnamedTag
  /-- An `end…` tag inside a block that it does not close. -/
  | misplacedEnd (name block : String)
  /-- A path with a character that no variable name has. -/
  | variableName
  /-- A filter name that is empty or holds something else than letters, digits and `_`. -/
  | filterName (name : String)
  /-- A comparison that is neither one operand nor two with an operator between them. -/
  | condition
  /-- An operator that does not exist. -/
  | unknownOperator (operator : String)
  /-- An `assign` without a name, an equals sign and a value. -/
  | assign
  /-- A `capture` without exactly one name. -/
  | capture
  /-- A `case` without a subject. -/
  | caseSubject
  /-- A `when` without a value. -/
  | whenValues
  /-- A `cycle` without a value. -/
  | cycle
  /-- A loop without a variable, `in` and a collection. -/
  | loop (tag : String)
  /-- An `include` without a quoted template name. -/
  | includeName
  /-- What a registered tag refuses, in its own words. -/
  | host (message : String)
  deriving DecidableEq, Repr

/-- The wording of a markup problem. -/
def MarkupProblem.message : MarkupProblem → String
  | unclosed opener => "Markup starting with '" ++ opener ++ "' was not properly terminated"
  | unnamedTag => "Tag was not properly terminated"
  | misplacedEnd name block =>
    "'" ++ name ++ "' is not a valid delimiter for " ++ block ++ " tags. use end" ++ block
  | variableName => "Invalid variable name"
  | filterName name => "Invalid filter name '" ++ name ++ "'"
  | condition => "Invalid condition"
  | unknownOperator operator => "Unknown operator " ++ operator
  | assign => "Syntax Error in 'assign' - Valid syntax: assign [var] = [source]"
  | capture => "Syntax Error in 'capture' - Valid syntax: capture [var]"
  | caseSubject => "Syntax Error in 'case' - Valid syntax: case [condition]"
  | whenValues => "Syntax Error in 'when' - Valid when condition: when [condition]"
  | cycle => "Syntax Error in 'cycle' - Valid syntax: cycle [name :] var [, var2, var3 ...]"
  | loop tag =>
    "Syntax Error in '" ++ tag ++ "' - Valid syntax: " ++ tag ++ " [item] in [collection]"
  | includeName =>
    "Error in tag 'include' - Valid syntax: include '[template]' (with|for) [object|collection]"
  | host message => message

/-- Why a file cannot be read. -/
inductive IoProblem where
  /-- There is nothing under that path. -/
  | notFound
  /-- The path leads through something that is no directory. -/
  | notDirectory
  /-- The path is that of a directory. -/
  | isDirectory
  /-- The file does not hold text. -/
  | notText
  /-- The path, or a name in it, is too long. -/
  | nameTooLong
  /-- The path holds a null character. -/
  | nullInPath
  /-- Anything else, in the words of the system. -/
  | other (text : String)
  deriving DecidableEq, Repr

/-- The wording of an input problem. -/
def IoProblem.message : IoProblem → String
  | notFound => "No such file or directory (os error 2)"
  | notDirectory => "Not a directory (os error 20)"
  | isDirectory => "Is a directory (os error 21)"
  | notText => "stream did not contain valid UTF-8"
  | nameTooLong => "File name too long (os error 36)"
  | nullInPath => "file name contained an unexpected NUL byte"
  | other text => text

/-- Why a template cannot be had. -/
inductive MissingInclude where
  /-- There is no file system to read templates from. -/
  | notAllowed
  /-- The file system has no template of that name. -/
  | noSuchTemplate (name : String)
  /-- The file of the template cannot be read. -/
  | unreadable (path : String) (problem : IoProblem)
  /-- Anything else, in the words of the host. -/
  | other (text : String)
  deriving DecidableEq, Repr

/-- The wording of a missing template. -/
def MissingInclude.message : MissingInclude → String
  | notAllowed => "This liquid context does not allow includes."
  | noSuchTemplate name => "No such template '" ++ name ++ "'"
  | unreadable path problem =>
    "Error reading template '" ++ path ++ "': " ++ problem.message
  | other text => text

/-- Why settings or data are refused. -/
inductive ConfigProblem where
  /-- The settings file is not well-formed. -/
  | malformedSettings (format : String)
  /-- A setting has a value of the wrong type. -/
  | unfitSettings (format : String)
  /-- The settings file cannot be read. -/
  | unreadableSettings (path : String) (problem : IoProblem)
  /-- The include depth given by the environment is no number. -/
  | includeDepth (text : String)
  /-- Template data is not well-formed. -/
  | malformedData
  /-- Template data is not an object; the text is what it is instead. -/
  | dataNotObject (json : String)
  deriving DecidableEq, Repr

/-- The wording of a configuration problem. -/
def ConfigProblem.message : ConfigProblem → String
  | malformedSettings format => "Failed to parse " ++ format ++ ":"
  | unfitSettings format => "Failed to deserialize settings from " ++ format ++ ":"
  | unreadableSettings path problem =>
    "Failed to read TOML file '" ++ path ++ "': " ++ problem.message
  | includeDepth text =>
    "LIQUID_MAX_INCLUDE_DEPTH must be a non-negative integer, got '" ++ text ++ "'"
  | malformedData => "Invalid JSON data:"
  | dataNotObject json => "Template data must be a JSON object, got " ++ json

/-- An error. -/
inductive Error where
  /-- Markup of the wrong form; `text` quotes it. -/
  | markup (problem : MarkupProblem) (text : String)
  /-- A tag that is neither built in nor registered. -/
  | unknownTag (tag text : String)
  /-- A block that the template ends in. -/
  | unterminatedBlock (tag : String)
  /-- A template that cannot be had. -/
  | missingInclude (cause : MissingInclude)
  /-- A template name that the file system refuses. -/
  | illegalTemplateName (name : String)
  /-- Includes nested deeper than `limit`. -/
  | includeDepthExceeded (name : String) (limit : Nat)
  /-- A failure that a filter reports. -/
  | filter (name message : String)
  /-- An attempt to remove the global scope. -/
  | globalScope
  /-- Any other failure of a render. -/
  | render (message : String)
  /-- A configuration that is refused. -/
  | configuration (problem : ConfigProblem)
  /-- A file that cannot be read. -/
  | io (problem : IoProblem)
  /-- A date format that asks for the time zone of a date that has none. -/
  | dateWithoutZone
  /-- A list with values in an order that contradicts itself. -/
  | contradictoryOrder
  deriving DecidableEq, Repr

/-- The wording of an error. -/
def Error.message : Error → String
  | markup problem text => "Liquid syntax error: " ++ problem.message ++ " in: " ++ text
  | unknownTag tag text => "Unknown tag '" ++ tag ++ "' in: " ++ text
  | unterminatedBlock tag =>
    "'" ++ tag ++ "' tag was never closed, expected '\x7b% end" ++ tag ++ " %\x7d'"
  | missingInclude cause => "Missing include: " ++ cause.message
  | illegalTemplateName name => "Illegal template name: '" ++ name ++ "'"
  | includeDepthExceeded name limit =>
    "Include depth of " ++ toString limit ++ " exceeded while including '" ++ name ++ "'"
  | filter name message => "Filter '" ++ name ++ "' failed: " ++ message
  | globalScope => "Context stack error: cannot pop the global scope"
  | render message => "Render error: " ++ message
  | configuration problem => "Configuration error: " ++ problem.message
  | io problem => "IO error: " ++ problem.message
  | dateWithoutZone => "a date without time zone cannot be written with one"
  | contradictoryOrder => "the order of the values contradicts itself"

/-- Whether an error is one of compiling a template. -/
def Error.isParseError : Error → Bool
  | markup .. | unknownTag .. | unterminatedBlock .. | missingInclude .. | illegalTemplateName ..
  | includeDepthExceeded .. => true
  | _ => false

end Liquid
