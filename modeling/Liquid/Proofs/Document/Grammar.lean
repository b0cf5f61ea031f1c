import Liquid.Engine

/-!
# The grammar of documents

What a template must look like to compile, said without the parser: as trees whose leaves are the
tokens of the template.

- `Item`: a derivation, one constructor for each shape that a piece of a document has.
- `Item.tokens`, `Item.tokensAll`: the tokens that a derivation is written in. Each of them stands
  in one place of it.
- `Item.node?`, `Item.nodes?`: the tree that a derivation compiles to; there is none where a rule of
  the grammar is broken. The rules of single blocks are `Item.blockNode?`, those of `comment` and
  `raw` `Item.verbatimNode?`.

A delimiter is a tag like any other here: which tags may divide a block, in which order, and which
one ends it, is what `Item.blockNode?` says.
-/

namespace Liquid

open Text

/-- A piece of a document. -/
inductive Item where
  /-- Text that stands for itself. -/
  | text (text : String)
  /-- An output with its markup. -/
  | output (markup : String)
  /-- A tag that is complete by itself. -/
  | tag (markup : String)
  /-- An `include` tag, and the document that the included template is. -/
  | inclusion (markup : String) (included : List Item)
  /-- A block that is not compiled: the opening tag, any tokens, and the closing tag. -/
  | verbatim (opening : String) (body : List Token) (closing : String)
  /-- Any other block: the opening tag, the first body, further bodies each with the tag in front of
  it, and the closing tag. -/
  | block (opening : String) (body : List Item) (parts : List (String × List Item))
    (closing : String)

/-- A tag, as its name and the markup behind that. -/
abbrev NamedTag := String × String

/-- The name of a tag and what stands behind it. -/
def NamedTag.ofMarkup? (markup : String) : Option NamedTag :=
  (Markup.split? markup.toList).map fun parts => (String.ofList parts.1, String.ofList parts.2)

namespace Item

/-! ### The tokens of a derivation -/

mutual

/-- The tokens that an item is written in. -/
def tokens : Item → List Token
  | text s => [.literal s]
  | output markup => [.output markup]
  | tag markup => [.tag markup]
  | inclusion markup _ => [.tag markup]
  | verbatim opening body closing => .tag opening :: (body ++ [.tag closing])
  | block opening body parts closing =>
    .tag opening :: (tokensAll body ++ (tokensParts parts ++ [.tag closing]))

/-- The tokens of several items. -/
def tokensAll : List Item → List Token
  | [] => []
  | item :: rest => item.tokens ++ tokensAll rest

/-- The tokens of bodies and of the tags in front of them. -/
def tokensParts : List (String × List Item) → List Token
  | [] => []
  | (markup, body) :: rest => .tag markup :: (tokensAll body ++ tokensParts rest)

end

/-! ### The rules -/

/-- A tag that is complete by itself. -/
def leafNode? (name markup : String) : Option Node :=
  match BuiltinTag.ofName? name with
  | some .assign => (Block.parseAssign markup).toOption
  | some .cycle => (Cycle.parse markup).toOption.map .cycle
  | _ => none

/-- The number of tags of a name. -/
def countTag (name : String) (body : List Token) : Nat :=
  body.countP fun t => Progress.tagName? t == some name

/-- In the body of a comment, every `endcomment` closes a `comment` in front of it. -/
def Balanced (body : List Token) : Prop :=
  (∀ n ≤ body.length, countTag "endcomment" (body.take n) ≤ countTag "comment" (body.take n))
    ∧ countTag "endcomment" body = countTag "comment" body

instance (body : List Token) : Decidable (Balanced body) :=
  inferInstanceAs (Decidable (_ ∧ _))

/-- `comment`, any tokens, and the `endcomment` that balances the comments among them; or `raw`, any
tokens, and the first `endraw`. -/
def verbatimNode? (name : String) (body : List Token) (closing : String) : Option Node :=
  match BuiltinTag.ofName? name with
  | some .comment => if closing = "endcomment" ∧ Balanced body then some .comment else none
  | some .raw =>
    if closing = "endraw" ∧ countTag "endraw" body = 0 then
      some (.raw (String.join (body.map Token.source)))
    else none
  | _ => none

/-- What may follow the body of a `for`: nothing, or `else` and a body. -/
def otherwise? : List (NamedTag × List Node) → Option (List Node)
  | [] => some []
  | [((name, _), body)] => if name = "else" then some body else none
  | _ => none

/-- What may follow the first body of an `if`: `elsif` with a condition, any number of times, and at
the end `else`. -/
def branches? :
    List (NamedTag × List Node) → Option (List (Condition × List Node) × List Node)
  | [] => some ([], [])
  | ((name, markup), body) :: rest =>
    if name = "elsif" then do
      let condition ← (Condition.parse markup).toOption
      let (branches, otherwise) ← branches? rest
      return ((condition, body) :: branches, otherwise)
    else if name = "else" ∧ rest.isEmpty then some ([], body)
    else none

/-- What may follow the head of a `case`: `when` with values and `else`, in any order. Of several
`else` the last one counts. -/
def clauses? :
    List (NamedTag × List Node) →
      Option (List (List Expression × List Node) × Option (List Node))
  | [] => some ([], none)
  | ((name, markup), body) :: rest =>
    if name = "when" then do
      let values ← (Block.parseWhen markup).toOption
      let (clauses, otherwise) ← clauses? rest
      return ((values, body) :: clauses, otherwise)
    else if name = "else" then do
      let (clauses, otherwise) ← clauses? rest
      return (clauses, otherwise.or (some body))
    else none

/-- The subject of a `case`, which must not be missing. -/
def subject? (markup : String) : Option Expression :=
  if (trim markup.toList).isEmpty then none else (Expression.parse markup.toList).toOption

/-- A block that is compiled, up to the tag that ends it. -/
def bodyNode? (name markup : String) (body : List Node) (parts : List (NamedTag × List Node)) :
    Option Node :=
  match BuiltinTag.ofName? name with
  | some .capture => do
    let target ← Markup.word? markup.toList
    if parts.isEmpty then some (.capture (String.ofList target) body) else none
  | some .table => do
    let header ← (LoopHeader.parse "tablerow" markup).toOption
    if parts.isEmpty then some (.table header body) else none
  | some .loop => do
    let header ← (LoopHeader.parse "for" markup).toOption
    return .loop header body (← otherwise? parts)
  | some .branch => do
    let condition ← (Condition.parse markup).toOption
    let (branches, otherwise) ← branches? parts
    return .branch false ((condition, body) :: branches) otherwise
  | some .negatedBranch => do
    let condition ← (Condition.parse markup).toOption
    let (branches, otherwise) ← branches? parts
    return .branch true ((condition, body) :: branches) otherwise
  | some .case => do
    let subject ← subject? markup
    let (clauses, otherwise) ← clauses? parts
    return .case subject clauses (otherwise.getD [])
  | _ => none

/-- A block that is compiled. It ends at the tag that is named after the one that opens it. -/
def blockNode? (name markup : String) (body : List Node) (parts : List (NamedTag × List Node))
    (closing : String) : Option Node :=
  if closing = "end" ++ name then bodyNode? name markup body parts else none

/-! ### The tree of a derivation -/

mutual

/-- The node that an item compiles to, when includes may be nested `depth` deep. -/
def node? (fs : FileSystem) : (depth : Nat) → Item → Option Node
  | _, text s =>
    if s.toList = Token.outputOpener ∨ s.toList = Token.tagOpener then none else some (.text s)
  | _, output markup => (Pipeline.parse markup).toOption.map .output
  | _, tag markup => do
    let (name, rest) ← NamedTag.ofMarkup? markup
    leafNode? name rest
  | 0, inclusion .. => none
  | depth + 1, inclusion markup included => do
    let (name, rest) ← NamedTag.ofMarkup? markup
    let header ← (Inclusion.parse rest).toOption
    let source ← (fs.read header.template).toOption
    let body ← nodes? fs depth included
    if BuiltinTag.ofName? name = some .inclusion ∧ tokensAll included = tokenize source then
      some (.inclusion header body)
    else none
  | _, verbatim opening body closing => do
    let (name, _) ← NamedTag.ofMarkup? opening
    let (closingName, _) ← NamedTag.ofMarkup? closing
    verbatimNode? name body closingName
  | depth, block opening body parts closing => do
    let (name, markup) ← NamedTag.ofMarkup? opening
    let (closingName, _) ← NamedTag.ofMarkup? closing
    let body ← nodes? fs depth body
    let parts ← partsNodes? fs depth parts
    blockNode? name markup body parts closingName

/-- The nodes that items compile to. -/
def nodes? (fs : FileSystem) : (depth : Nat) → List Item → Option (List Node)
  | _, [] => some []
  | depth, item :: rest => do
    let node ← item.node? fs depth
    return node :: (← nodes? fs depth rest)

/-- The bodies that parts of a block compile to, each with the tag in front of it. -/
def partsNodes? (fs : FileSystem) :
    (depth : Nat) → List (String × List Item) → Option (List (NamedTag × List Node))
  | _, [] => some []
  | depth, (markup, body) :: rest => do
    let named ← NamedTag.ofMarkup? markup
    let body ← nodes? fs depth body
    return (named, body) :: (← partsNodes? fs depth rest)

end

end Item

end Liquid
