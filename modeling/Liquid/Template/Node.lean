import Liquid.Pipeline
import Liquid.Condition
import Liquid.Loop
import Liquid.Cycle
import Liquid.Inclusion

/-!
# Template trees

A compiled template is a list of nodes. (`SPEC_FULL.md`, section 4.)

- `Node`: text, an output, or a tag with its bodies. A body that may be missing, such as that of
  `else`, is an empty list then: rendering nothing and rendering no body are the same.
- `TagAction`: what a registered tag does when it is rendered.
- `BuiltinTag`: the names that are taken, in front of all registered ones.
- `CustomTag`: a tag that a host can register under a name of its own.
- `CustomTag.simple`, `CustomTag.block`: text made of arguments, and a block whose output is
  changed.
-/

namespace Liquid

/-- What a registered tag does when it is rendered: it renders bodies one after the other, and puts
out what it makes of that. -/
structure TagAction where
  /-- How many times a body is rendered, given the values of the arguments; or the message of the
  error that the tag fails with. -/
  steps : List Value → Except String Nat := fun _ => .ok 1
  /-- Which of the bodies is rendered at a step. -/
  body : Nat → Nat := fun _ => 0
  /-- Whether the bodies are rendered in a scope of their own. -/
  ownScope : Bool := true
  /-- What is put out, given the values of the arguments and the output of the bodies. -/
  finish : List Value → String → String := fun _ output => output

/-- A part of a compiled template. -/
inductive Node where
  /-- Text that stands for itself. -/
  | text (text : String)
  /-- `{{ … }}` -/
  | output (pipeline : Pipeline)
  /-- `{% assign %}` -/
  | assign (name : String) (pipeline : Pipeline)
  /-- `{% capture %}` -/
  | capture (name : String) (body : List Node)
  /-- `{% comment %}` -/
  | comment
  /-- `{% raw %}` -/
  | raw (text : String)
  /-- `{% cycle %}` -/
  | cycle (cycle : Cycle)
  /-- `{% for %}`, with a body for the case that there is nothing to go over. -/
  | loop (header : LoopHeader) (body otherwise : List Node)
  /-- `{% if %}`, or `{% unless %}` when the first condition is negated: the first branch whose
  condition holds is rendered. -/
  | branch (negated : Bool) (branches : List (Condition × List Node)) (otherwise : List Node)
  /-- `{% case %}`: every clause with a value that equals the subject is rendered. -/
  | case (subject : Expression) (clauses : List (List Expression × List Node))
    (otherwise : List Node)
  /-- `{% include %}`, with the tree of the included template. -/
  | inclusion (header : Inclusion) (body : List Node)
  /-- `{% tablerow %}` -/
  | table (header : LoopHeader) (body : List Node)
  /-- A registered tag, by the name that it is used under, with what it does. -/
  | host (name : String) (action : TagAction) (arguments : List Expression)
    (bodies : List (List Node))

instance : Inhabited Node := ⟨.comment⟩

/-- A built-in tag. -/
inductive BuiltinTag where
  /-- `assign` -/
  | assign
  /-- `capture` -/
  | capture
  /-- `comment` -/
  | comment
  /-- `raw` -/
  | raw
  /-- `cycle` -/
  | cycle
  /-- `for` -/
  | loop
  /-- `if` -/
  | branch
  /-- `unless` -/
  | negatedBranch
  /-- `case` -/
  | case
  /-- `include` -/
  | inclusion
  /-- `tablerow` -/
  | table
  deriving DecidableEq, Repr

namespace BuiltinTag

/-- The built-in tags with their names. -/
def all : List (String × BuiltinTag) :=
  [("assign", assign), ("capture", capture), ("comment", comment), ("raw", raw), ("cycle", cycle),
   ("for", loop), ("if", branch), ("unless", negatedBranch), ("case", case),
   ("include", inclusion), ("tablerow", table)]

/-- The built-in tag of a name. -/
def ofName? (name : String) : Option BuiltinTag := all.lookup name

/-- The names of the built-in tags. -/
def names : List String := all.map Prod.fst

/-- No built-in tag ends a block. -/
theorem ofName?_end (tag : String) : ofName? ("end" ++ tag) = none := by
  rw [ofName?, List.lookup_eq_none_iff]
  intro entry hentry
  have hall : all.all (fun entry => !"end".toList.isPrefixOf entry.1.toList) = true := by decide
  have hentry := List.all_eq_true.1 hall entry hentry
  rw [bne_iff_ne]
  intro heq
  rw [← heq, String.toList_append, List.isPrefixOf_iff_prefix.2 (List.prefix_append _ _)] at hentry
  cases hentry

end BuiltinTag

/-- How a registered tag reads its markup. -/
inductive ArgumentForm where
  /-- Not as expressions. -/
  | none
  /-- As one expression, which must not be missing; the message says so. -/
  | one (message : String)
  /-- As expressions that are divided by commas. -/
  | many

/-- What a delimiter does to a block of a registered tag. -/
inductive Delimiter where
  /-- Another body begins. -/
  | divides
  /-- The block ends. -/
  | ends

/-- The delimiters of a block of a registered tag. -/
structure Delimiters where
  /-- What a tag is to the block when `index` bodies stand in front of the current one. -/
  find? : (index : Nat) → (name : String) → Option Delimiter
  /-- Built-in tags are not among them. -/
  builtin : ∀ index name, (BuiltinTag.ofName? name).isSome = true → find? index name = none

/-- Only the tag of a name is a delimiter, and it ends the block. -/
def Delimiters.endOf (tag : String) : Delimiters where
  find? _ name := if name = "end" ++ tag then some .ends else none
  builtin _ name hname := by
    refine if_neg ?_
    rintro rfl
    rw [BuiltinTag.ofName?_end] at hname
    cases hname

/-- A tag that a host can register. -/
structure CustomTag where
  /-- How it reads its markup. -/
  form : ArgumentForm
  /-- If it is a block, its delimiters, given the name that it was opened under. -/
  delimiters? : Option ((tag : String) → Delimiters)
  /-- What it does, given its markup. -/
  action : (markup : String) → TagAction

namespace CustomTag

/-- A tag that makes text of arguments, which are divided by commas. -/
def simple (function : List Value → String) : CustomTag where
  form := .many
  delimiters? := none
  action _ :=
    { steps := fun _ => .ok 0, ownScope := false, finish := fun values _ => function values }

/-- A block `name … endname` whose body has a scope of its own, and whose output is changed. -/
def block (change : String → String) : CustomTag where
  form := .none
  delimiters? := some .endOf
  action _ := { finish := fun _ output => change output }

end CustomTag

end Liquid
