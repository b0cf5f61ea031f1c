import Liquid.Template.Node

/-!
# Open blocks

A block tag stays open until its end tag, and some tags divide it on the way there. An open block
holds what is known of it so far, apart from the body that is being read. (`SPEC_FULL.md`, section
5.2.)

- `Block`: the open blocks, one constructor for each body that one can be in.
- `Block.tag`: the name that error messages call a block by.
- `Block.delimit?`: what a tag does to the innermost open block, if that tag is one of its
  delimiters: it goes on with another body, or it ends and is a node.
- `Block.openBuiltin`, `Block.openCustom`: what a tag starts: a node that is finished, a block, or
  text that is taken as it is.
-/

namespace Liquid

open Text

/-- An open block, and which of its bodies is being read. -/
inductive Block where
  /-- In a `capture`. -/
  | capture (name : String)
  /-- In a `tablerow`. -/
  | table (header : LoopHeader)
  /-- In the body of a `for`. -/
  | loop (header : LoopHeader)
  /-- In the `else` of a `for`. -/
  | loopElse (header : LoopHeader) (body : List Node)
  /-- In a branch of an `if` or `unless`, behind other branches. -/
  | branch (negated : Bool) (branches : List (Condition × List Node)) (condition : Condition)
  /-- In the `else` of an `if` or `unless`. -/
  | branchElse (negated : Bool) (branches : List (Condition × List Node))
  /-- In a `case`, in front of the first clause; what stands here is dropped. -/
  | caseHead (subject : Expression)
  /-- In a clause of a `case`. -/
  | clause (subject : Expression) (clauses : List (List Expression × List Node))
    (otherwise : List Node) (values : List Expression)
  /-- In an `else` of a `case`. A later `else` takes its place. -/
  | caseElse (subject : Expression) (clauses : List (List Expression × List Node))
  /-- In a registered block, behind other bodies. -/
  | host (tag : String) (delimiters : Delimiters) (action : TagAction)
    (arguments : List Expression) (bodies : List (List Node))
  deriving Inhabited

namespace Block

/-- The tag of an `if` or an `unless`. -/
def branchTag (negated : Bool) : String := if negated then "unless" else "if"

/-- The name of the tag that opened a block. -/
def tag : Block → String
  | capture _ => "capture"
  | table _ => "tablerow"
  | loop _ | loopElse .. => "for"
  | branch negated .. | branchElse negated _ => branchTag negated
  | caseHead _ | clause .. | caseElse .. => "case"
  | host tag .. => tag

/-- What a delimiter does to a block. -/
inductive Step where
  /-- The block goes on with another body. -/
  | next (block : Block)
  /-- The block is complete. -/
  | done (node : Node)
  deriving Inhabited

/-- Reads the values of a `when`, divided by commas, blanks and `or`. -/
def parseWhen (markup : String) : Except Error (List Expression) := do
  let pieces := ((splitUnquoted ',' markup.toList).flatMap fragments).filter
    fun piece => String.ofList piece != "or"
  let values ← pieces.mapM Expression.parse
  if values.isEmpty then throw (.markup .whenValues markup)
  return values

/-- What the delimiter `name` with its markup does to a `case`, given the clauses and the `else`
read so far. -/
def delimitCase? (subject : Expression) (clauses : List (List Expression × List Node))
    (otherwise : List Node) (name markup : String) : Option (Except Error Step) :=
  if name = "when" then
    some do return .next (.clause subject clauses otherwise (← parseWhen markup))
  else if name = "else" then some (.ok (.next (.caseElse subject clauses)))
  else if name = "endcase" then some (.ok (.done (.case subject clauses otherwise)))
  else none

/-- What the tag `name` with its markup does to a block whose current body is `body`; nothing if it
is not one of its delimiters. -/
def delimit? (block : Block) (name markup : String) (body : List Node) :
    Option (Except Error Step) :=
  match block with
  | capture target =>
    if name = "endcapture" then some (.ok (.done (.capture target body))) else none
  | table header => if name = "endtablerow" then some (.ok (.done (.table header body))) else none
  | loop header =>
    if name = "else" then some (.ok (.next (.loopElse header body)))
    else if name = "endfor" then some (.ok (.done (.loop header body [])))
    else none
  | loopElse header first =>
    if name = "endfor" then some (.ok (.done (.loop header first body))) else none
  | branch negated branches condition =>
    let branches := branches ++ [(condition, body)]
    if name = "elsif" then
      some do return .next (.branch negated branches (← Condition.parse markup))
    else if name = "else" then some (.ok (.next (.branchElse negated branches)))
    else if name = "end" ++ branchTag negated then
      some (.ok (.done (.branch negated branches [])))
    else none
  | branchElse negated branches =>
    if name = "end" ++ branchTag negated then some (.ok (.done (.branch negated branches body)))
    else none
  | caseHead subject => delimitCase? subject [] [] name markup
  | clause subject clauses otherwise values =>
    delimitCase? subject (clauses ++ [(values, body)]) otherwise name markup
  | caseElse subject clauses => delimitCase? subject clauses body name markup
  | host tag delimiters action arguments bodies =>
    match delimiters.find? bodies.length name with
    | some .divides => some (.ok (.next (.host tag delimiters action arguments (bodies ++ [body]))))
    | some .ends => some (.ok (.done (.host tag action arguments (bodies ++ [body]))))
    | none => none

/-- What a tag starts. -/
inductive Start where
  /-- Nothing: it is a node by itself. -/
  | node (node : Node)
  /-- A block. -/
  | block (block : Block)
  /-- Text that is taken as it is. -/
  | raw
  /-- Text that is dropped. -/
  | comment
  deriving Inhabited

/-- Reads the name and the value of an `assign`. -/
def parseAssign (markup : String) : Except Error Node := do
  match Markup.assignment? markup.toList with
  | some (name, value) =>
    return .assign (String.ofList name) (← Pipeline.parse (String.ofList value))
  | none => throw (.markup .assign markup)

/-- Reads the name of a `capture`. -/
def parseCapture (markup : String) : Except Error Block :=
  match Markup.word? markup.toList with
  | some name => .ok (.capture (String.ofList name))
  | none => .error (.markup .capture markup)

/-- Reads the subject of a `case`. -/
def parseCase (markup : String) : Except Error Block := do
  if (trim markup.toList).isEmpty then throw (.markup .caseSubject markup)
  return .caseHead (← Expression.parse markup.toList)

/-- What a built-in tag starts. `load` gives the tree of an included template. -/
def openBuiltin (load : String → Except Error (List Node)) (tag : BuiltinTag) (markup : String) :
    Except Error Start :=
  match tag with
  | .assign => .node <$> parseAssign markup
  | .capture => .block <$> parseCapture markup
  | .comment => .ok .comment
  | .raw => .ok .raw
  | .cycle => do return .node (.cycle (← Cycle.parse markup))
  | .loop => do return .block (.loop (← LoopHeader.parse "for" markup))
  | .branch => do return .block (.branch false [] (← Condition.parse markup))
  | .negatedBranch => do return .block (.branch true [] (← Condition.parse markup))
  | .case => .block <$> parseCase markup
  | .inclusion => do
    let header ← Inclusion.parse markup
    return .node (.inclusion header (← load header.template))
  | .table => do return .block (.table (← LoopHeader.parse "tablerow" markup))

/-- Reads the arguments of a registered tag. -/
def parseArguments (form : ArgumentForm) (markup : String) : Except Error (List Expression) :=
  match form with
  | .none => .ok []
  | .one message =>
    if markup = "" then .error (.markup (.host message) markup)
    else do return [← Expression.parse markup.toList]
  | .many =>
    if (trim markup.toList).isEmpty then .ok []
    else (splitUnquoted ',' markup.toList).mapM Expression.parse

/-- What a registered tag starts with its arguments. -/
def startCustom (custom : CustomTag) (name markup : String) (arguments : List Expression) : Start :=
  match custom.delimiters? with
  | none => .node (.host name (custom.action markup) arguments [])
  | some delimiters => .block (.host name (delimiters name) (custom.action markup) arguments [])

/-- What a registered tag starts. -/
def openCustom (custom : CustomTag) (name markup : String) : Except Error Start :=
  startCustom custom name markup <$> parseArguments custom.form markup

end Block

end Liquid
