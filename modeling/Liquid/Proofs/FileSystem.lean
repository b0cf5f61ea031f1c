import Liquid.FileSystem
import Liquid.Proofs.Expression.Failure
import Liquid.Proofs.Keyed

/-!
# Errors of compiling

- `Error.isParseError_of_inText`: what is wrong with a text is an error of compiling.
- `Error.InFileSystem`, `FileSystem.read_failsWith`: a file system has no other errors than that a
  template is missing or its name refused, and these are errors of compiling, too.
-/

namespace Liquid

open Error (InText)

theorem Error.isParseError_of_inText {e : Error} (h : InText e) : e.isParseError = true := by
  cases e with
  | markup | unknownTag | unterminatedBlock => rfl
  | missingInclude | illegalTemplateName | includeDepthExceeded | filter | globalScope | render
  | configuration | io | dateWithoutZone | contradictoryOrder => exact h.elim

/-- The error says that a template is missing, or that its name is refused. -/
def Error.InFileSystem : Error → Prop
  | .missingInclude .. | .illegalTemplateName .. => True
  | _ => False

theorem Error.isParseError_of_inFileSystem {e : Error} (h : e.InFileSystem) :
    e.isParseError = true := by
  cases e with
  | missingInclude | illegalTemplateName => rfl
  | markup | unknownTag | unterminatedBlock | includeDepthExceeded | filter | globalScope | render
  | configuration | io | dateWithoutZone | contradictoryOrder => exact h.elim

theorem LocalTemplates.readFirst_failsWith (disk : Disk) (name : String) (paths : List String) :
    FailsWith Error.InFileSystem (readFirst disk name paths) := by
  induction paths with
  | nil => exact failsWith_error trivial
  | cons path rest ih =>
    unfold readFirst
    split
    · exact failsWith_ok _ _
    · exact failsWith_error trivial
    · exact failsWith_error trivial
    · exact ih

theorem LocalTemplates.read_failsWith (fs : LocalTemplates) (name : String) :
    FailsWith Error.InFileSystem (fs.read name) := by
  refine FailsWith.bind ?_ fun path => readFirst_failsWith _ _ _
  unfold relativePath
  split
  · exact failsWith_ok _ _
  · exact failsWith_error trivial

theorem FileSystem.read_failsWith (fs : FileSystem) (name : String) :
    FailsWith Error.InFileSystem (fs.read name) := by
  cases fs with
  | blank => exact failsWith_error trivial
  | memory templates =>
    simp only [read]
    split
    · exact failsWith_ok _ _
    · exact failsWith_error trivial
  | files templates => exact templates.read_failsWith name
  | host source =>
    simp only [read]
    rcases source name with (cause | name) | text
    · exact failsWith_error trivial
    · exact failsWith_error trivial
    · exact failsWith_ok _ _

/-- A template that is added under another name does not change what can be had. -/
theorem FileSystem.read_add_of_ne {fs : FileSystem} {name other source text : String}
    (hname : name ≠ other) (h : fs.read other = .ok text) :
    (fs.add name source).read other = .ok text := by
  cases fs with
  | memory templates =>
    have hold : Keyed.get? other templates = some text := by
      simp only [read] at h
      cases hget : Keyed.get? other templates with
      | none =>
        rw [hget] at h
        cases h
      | some old =>
        rw [hget] at h
        exact congrArg some (Except.ok.inj h)
    simp only [add, read, Keyed.get?_insert_of_some hname hold]
  | blank | files templates | host text => exact h

end Liquid
