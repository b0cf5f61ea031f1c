import Liquid.FileTree
import Liquid.Text.CharClass

/-!
# File systems

Where included templates come from. (`SPEC_FULL.md`, section 7.)

- `FileSystem`: nowhere, a collection in memory, files under some roots, or what the host reads by
  itself.
- `FileSystem.read`: the source of a template.
- `FileSystem.add`: a collection in memory with one more template.
- `partialPath`: the path of a template's file, from a pattern in which `{name}` stands for the last
  part of the template's name.
- `LocalTemplates.isLegalName`: the names that a file system on disk takes. They hold no dot and do
  not begin with a slash, so that nothing leads out of the roots.
-/

namespace Liquid

open Text

/-- The part of a name up to its last slash and the part behind it, if it has one. -/
def splitLastSlash? (name : List Char) : Option (List Char × List Char) :=
  match name.reverse.dropWhile (· != '/') with
  | _ :: directory => some (directory.reverse, (name.reverse.takeWhile (· != '/')).reverse)
  | [] => none

/-- What stands for the last part of a name in a pattern. -/
def namePlaceholder : List Char := "\x7bname\x7d".toList

/-- The path of a template's file below a root. -/
def partialPath (pattern name : String) : String :=
  let fill (base : List Char) := replaceAll namePlaceholder base pattern.toList
  String.ofList (match splitLastSlash? name.toList with
    | some (directory, base) => directory ++ '/' :: fill base
    | none => fill name.toList)

/-- A path below a root. An absolute path stays as it is. -/
def joinPath (root path : String) : String :=
  match path.toList, root.toList.getLast? with
  | '/' :: _, _ => path
  | _, none => path
  | _, some '/' => root ++ path
  | _, some _ => root ++ "/" ++ path

/-- Templates in files below some roots. -/
structure LocalTemplates where
  /-- The directories that are searched, in this order. -/
  roots : List String
  /-- The pattern of the file names. -/
  pattern : String
  /-- The files. -/
  disk : Disk

namespace LocalTemplates

/-- A character that a template name may begin with. -/
def isNameChar (c : Char) : Bool := isAsciiAlphanumeric c || c == '_'

/-- Whether a name is made of ASCII letters, digits, underscores and slashes, without a slash in
front. -/
def isLegalName : List Char → Bool
  | [] => false
  | c :: rest => isNameChar c && rest.all fun c => isNameChar c || c == '/'

/-- The path of a template below a root. -/
def relativePath (fs : LocalTemplates) (name : String) : Except Error String :=
  if isLegalName name.toList then .ok (partialPath fs.pattern name)
  else .error (.illegalTemplateName name)

/-- The path of a template below the first root, whether there is such a file or not. -/
def fullPath (fs : LocalTemplates) (name : String) : Except Error String := do
  let path ← fs.relativePath name
  return match fs.roots with
    | [] => path
    | root :: _ => joinPath root path

/-- Reads the first of the paths that is a file. -/
def readFirst (disk : Disk) (name : String) : (paths : List String) → Except Error String
  | [] => .error (.missingInclude (.noSuchTemplate name))
  | path :: rest =>
    match disk.readText path with
    | .ok text => .ok text
    | .error .notText => .error (.missingInclude (.unreadable path .notText))
    | .error (.other text) => .error (.missingInclude (.unreadable path (.other text)))
    | .error _ => readFirst disk name rest

/-- The source of a template: the file below the first root that has it. -/
def read (fs : LocalTemplates) (name : String) : Except Error String := do
  let path ← fs.relativePath name
  readFirst fs.disk name (fs.roots.map (joinPath · path))

end LocalTemplates

/-- Why a host has no source for a name. -/
inductive NoSource where
  /-- There is no such template, or it cannot be had. -/
  | missing (cause : MissingInclude)
  /-- The name is refused. -/
  | illegalName (name : String)
  deriving DecidableEq, Repr

/-- The error that a missing source is reported as. -/
def NoSource.toError : NoSource → Error
  | missing cause => .missingInclude cause
  | illegalName name => .illegalTemplateName name

/-- Where included templates come from. -/
inductive FileSystem where
  /-- There are none. -/
  | blank
  /-- Sources by name. -/
  | memory (templates : Keyed String)
  /-- Files. -/
  | files (templates : LocalTemplates)
  /-- What the host has under a name. -/
  | host (source : String → Except NoSource String)

/-- The source of a template. -/
def FileSystem.read : FileSystem → String → Except Error String
  | blank, _ => .error (.missingInclude .notAllowed)
  | memory templates, name =>
    match Keyed.get? name templates with
    | some source => .ok source
    | none => .error (.missingInclude (.noSuchTemplate name))
  | files templates, name => templates.read name
  | host source, name => (source name).mapError NoSource.toError

/-- Adds a template to a collection in memory, in place of one of the same name. Nothing can be
added to others. -/
def FileSystem.add (fs : FileSystem) (name source : String) : FileSystem :=
  match fs with
  | memory templates => memory (Keyed.insert name source templates)
  | blank | files _ | host _ => fs

end Liquid
