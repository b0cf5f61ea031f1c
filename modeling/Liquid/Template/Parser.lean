import Liquid.Template.Block
import Liquid.Token

/-!
# Compiling a template

Tokens are read from front to back with a stack of open blocks. A tag is first taken as a delimiter
of the innermost open block, then as a built-in tag, and only then as a registered one; so nothing
that a host registers changes what a template means that compiles without it. (`SPEC_FULL.md`,
section 5.2.)

- `Dialect`: the registered tags, and how an included template is had.
- `Progress`: what has been read so far.
- `Progress.read`: what one token adds to it.
- `Template.parseTokens`: the tree of a list of tokens.
-/

namespace Liquid

/-- What compiling a template depends on. -/
structure Dialect where
  /-- The registered tags. -/
  tags : Keyed CustomTag
  /-- The tree of an included template. -/
  load : String → Except Error (List Node)

/-- An open block, and what stands in front of it. -/
structure Frame where
  /-- The block. -/
  block : Block
  /-- The nodes in front of the block, in the body that holds it. -/
  before : List Node
  deriving Inhabited

/-- A body that is not compiled. -/
inductive Verbatim where
  /-- The text of a `raw` so far. -/
  | raw (text : String)
  /-- A comment in which further comments are open, `depth` of them in all. -/
  | comment (depth : Nat)
  deriving Inhabited

/-- What has been read so far. -/
structure Progress where
  /-- The body that is being read. -/
  nodes : List Node := []
  /-- The open blocks, the innermost first. -/
  frames : List Frame := []
  /-- The verbatim body that is being read, if it is one. -/
  verbatim : Option Verbatim := none
  deriving Inhabited

namespace Progress

/-- The markup of a tag with its delimiters. -/
def tagText (markup : String) : String := (Token.tag markup).source

/-- Adds a node to the current body. -/
def add (p : Progress) (node : Node) : Progress := { p with nodes := p.nodes ++ [node] }

/-- Puts into effect what a tag starts. -/
def start (p : Progress) : Block.Start → Progress
  | .node node => p.add node
  | .block block => { p with nodes := [], frames := ⟨block, p.nodes⟩ :: p.frames }
  | .raw => { p with verbatim := some (.raw "") }
  | .comment => { p with verbatim := some (.comment 1) }

/-- The error for a tag that nothing knows. Inside a block an end tag is taken for a wrong
delimiter. -/
def unknownTag (p : Progress) (name markup : String) : Error :=
  match p.frames with
  | frame :: _ =>
    if "end".toList.isPrefixOf name.toList then
      .markup (.misplacedEnd name frame.block.tag) (tagText markup)
    else .unknownTag name (tagText markup)
  | [] => .unknownTag name (tagText markup)

/-- Reads a tag that is no delimiter. -/
def openTag (d : Dialect) (p : Progress) (name rest markup : String) : Except Error Progress :=
  match BuiltinTag.ofName? name with
  | some tag => p.start <$> Block.openBuiltin d.load tag rest
  | none =>
    match Keyed.get? name d.tags with
    | some custom => p.start <$> Block.openCustom custom name rest
    | none => .error (p.unknownTag name markup)

/-- Reads a tag: a delimiter of the innermost block, or else any other tag. -/
def readTag (d : Dialect) (p : Progress) (name rest markup : String) : Except Error Progress :=
  match p.frames with
  | [] => p.openTag d name rest markup
  | frame :: outer =>
    match frame.block.delimit? name rest p.nodes with
    | none => p.openTag d name rest markup
    | some step => do
      match ← step with
      | .next block => return { p with nodes := [], frames := { frame with block } :: outer }
      | .done node => return { p with nodes := frame.before ++ [node], frames := outer }

/-- The name of a tag token. -/
def tagName? : Token → Option String
  | .tag markup => (Markup.split? markup.toList).map fun parts => String.ofList parts.1
  | _ => none

/-- Reads a token of a verbatim body. -/
def readVerbatim (p : Progress) (token : Token) : Verbatim → Progress
  | .raw text =>
    if tagName? token = some "endraw" then { p.add (.raw text) with verbatim := none }
    else { p with verbatim := some (.raw (text ++ token.source)) }
  | .comment depth =>
    if tagName? token = some "comment" then { p with verbatim := some (.comment (depth + 1)) }
    else if tagName? token = some "endcomment" then
      if depth ≤ 1 then { p.add .comment with verbatim := none }
      else { p with verbatim := some (.comment (depth - 1)) }
    else p

/-- The text of the literal in front. -/
def literalText : List Token → String
  | .literal text :: _ => text
  | _ => ""

/-- Reads a token; `rest` are the tokens behind it. -/
def read (d : Dialect) (p : Progress) (token : Token) (rest : List Token) :
    Except Error Progress :=
  match p.verbatim with
  | some verbatim => .ok (p.readVerbatim token verbatim)
  | none =>
    match token with
    | .literal text =>
      if text.toList = Token.outputOpener ∨ text.toList = Token.tagOpener then
        .error (.markup (.unclosed text) (text ++ literalText rest))
      else .ok (p.add (.text text))
    | .output markup => do return p.add (.output (← Pipeline.parse markup))
    | .tag markup =>
      match Markup.split? markup.toList with
      | none => .error (.markup .unnamedTag (tagText markup))
      | some (name, rest) => p.readTag d (String.ofList name) (String.ofList rest) markup

/-- The tree, if no block is open. -/
def finish (p : Progress) : Except Error (List Node) :=
  match p.verbatim, p.frames with
  | some (.raw _), _ => .error (.unterminatedBlock "raw")
  | some (.comment _), _ => .error (.unterminatedBlock "comment")
  | none, frame :: _ => .error (.unterminatedBlock frame.block.tag)
  | none, [] => .ok p.nodes

/-- Reads all tokens. -/
def readAll (d : Dialect) (p : Progress) : List Token → Except Error Progress
  | [] => .ok p
  | token :: rest => do readAll d (← p.read d token rest) rest

end Progress

namespace Template

/-- The tree of a list of tokens. -/
def parseTokens (d : Dialect) (tokens : List Token) : Except Error (List Node) := do
  (← Progress.readAll d {} tokens).finish

end Template

end Liquid
