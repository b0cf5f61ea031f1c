import Liquid.FileSystem
import Liquid.Filter.Standard
import Liquid.Text.Literal
import Liquid.Template.Parser
import Liquid.Template.Render

/-!
# Engines

An engine holds what compiling and rendering need from the host. (`SPEC_FULL.md`, section 7.)

- `Engine`: the file system, the registered tags, the filters and the limit of nested includes.
- `Engine.parse`, `Engine.getTemplate`: compile a source, or a template of the file system.
- `Engine.newContext`: a context with the filters of the engine.
- `Template.render`, `Template.renderWith`: render in a given context, or in a new one.
- `Library`: filters and tags that are registered together.
-/

namespace Liquid

/-- A compiled template. -/
structure Template where
  /-- The name under which it was read from a file system. -/
  name : Option String
  /-- The tree. -/
  nodes : List Node

/-- What compiling and rendering need from the host. -/
structure Engine where
  /-- Where included templates come from. -/
  fileSystem : FileSystem := .blank
  /-- The registered tags. -/
  tags : Keyed CustomTag := []
  /-- The filters. -/
  filters : FilterRegistry := .standard
  /-- How deep includes may be nested. -/
  maxIncludeDepth : Nat := 32

/-- Filters and tags under a common name. -/
structure Library where
  /-- The name of the library. -/
  name : String
  /-- The filters, in the order in which they were added. -/
  filters : List (String × Filter) := []
  /-- The tags. -/
  tags : Keyed CustomTag := []

namespace Library

/-- Adds a filter. -/
def addFilter (library : Library) (name : String) (filter : Filter) : Library :=
  { library with filters := library.filters ++ [(name, filter)] }

/-- Adds a tag, in place of one of the same name. -/
def addTag (library : Library) (name : String) (tag : CustomTag) : Library :=
  { library with tags := Keyed.insert name tag library.tags }

/-- Whether the library has a filter of that name. -/
def hasFilter (library : Library) (name : String) : Bool := library.filters.any (·.1 == name)

/-- Whether the library has a tag of that name. -/
def hasTag (library : Library) (name : String) : Bool := Keyed.contains name library.tags

/-- What is in the library, on one line. -/
def describe (library : Library) : String :=
  "Library \x7b name: " ++ Text.Literal.quote library.name
    ++ ", filters: " ++ Text.Literal.quoteAll (library.filters.map Prod.fst)
    ++ ", tags: " ++ Text.Literal.quoteAll (Keyed.keys library.tags) ++ " \x7d"

end Library

namespace Engine

/-- Registers a tag, in place of one of the same name. -/
def registerTag (engine : Engine) (name : String) (tag : CustomTag) : Engine :=
  { engine with tags := Keyed.insert name tag engine.tags }

/-- Registers a filter, in place of one of the same name. -/
def registerFilter (engine : Engine) (name : String) (filter : Filter) : Engine :=
  { engine with filters := Keyed.insert name filter engine.filters }

/-- Registers all filters and tags of a library. -/
def registerLibrary (engine : Engine) (library : Library) : Engine :=
  { engine with
    filters := Keyed.insertAll engine.filters library.filters
    tags := Keyed.insertAll engine.tags library.tags }

/-- The tree of a source, when includes may be nested `depth` deep. A template that is one include
too deep is not even read. -/
def compile (engine : Engine) : (depth : Nat) → (source : String) → Except Error (List Node)
  | 0, source =>
    Template.parseTokens
      ⟨engine.tags, fun name => .error (.includeDepthExceeded name engine.maxIncludeDepth)⟩
      (tokenize source)
  | depth + 1, source =>
    Template.parseTokens
      ⟨engine.tags, fun name => do engine.compile depth (← engine.fileSystem.read name)⟩
      (tokenize source)

/-- Compiles a source. -/
def parse (engine : Engine) (source : String) : Except Error Template := do
  return ⟨none, ← engine.compile engine.maxIncludeDepth source⟩

/-- Compiles a template of the file system. -/
def getTemplate (engine : Engine) (name : String) : Except Error Template := do
  return ⟨some name, ← engine.compile engine.maxIncludeDepth (← engine.fileSystem.read name)⟩

/-- A context with the filters of the engine, for the objects of a host. -/
def newContext (engine : Engine) (attributes : Attributes := .none) : Context :=
  Context.withFilters engine.filters attributes

/-- What is registered, on one line. -/
def describe (engine : Engine) : String :=
  "Engine \x7b tags: " ++ Text.Literal.quoteAll (Keyed.keys engine.tags)
    ++ ", filters: FilterRegistry \x7b filters: "
    ++ Text.Literal.quoteAll (Keyed.keys engine.filters)
    ++ " \x7d, max_include_depth: " ++ toString engine.maxIncludeDepth ++ ", .. \x7d"

end Engine

namespace Template

/-- Renders in a context, and gives the context that is left behind. -/
def render (template : Template) : Rendering := renderAll template.nodes

/-- Renders in a new context with the standard filters, further ones, registers and variables. -/
def renderWith (template : Template) (assigns : List (String × Value))
    (filters : List (String × Filter)) (registers : List (String × Value))
    (attributes : Attributes := .none) : Except Error String :=
  let context := Context.withFilters (Keyed.insertAll FilterRegistry.standard filters) attributes
  let context := registers.foldl (fun c entry => c.setRegister entry.1 entry.2) context
  (template.render (context.merge assigns)).1

end Template

end Liquid
