import Liquid.Template.Node
import Liquid.Rendering

/-!
# Rendering a template

- `Node.render`, `renderAll`: the output of a node and of a list of nodes.
- `Table.cellOpening`, `Table.cellClosing`: the tags that a `tablerow` puts around its cells.
- `TagAction.run`: what a registered tag does.

Bodies of blocks run in a scope of their own, with two exceptions: a registered tag that does
without, and the iterations of a loop, which share one scope.
-/

namespace Liquid

open Rendering

namespace Table

/-- What opens the table. -/
def opening : String := "<tr class=\"row1\">\n"

/-- What ends the last row. -/
def closing : String := "</tr>\n"

/-- What stands in front of the contents of cell `index`. -/
def cellOpening (columns index : Nat) : String :=
  "<td class=\"col" ++ toString (index % columns + 1) ++ "\">"

/-- What stands behind the contents of cell `index` of `length`: behind the last cell of a row that
is not the last row, the next row begins. -/
def cellClosing (columns index length : Nat) : String :=
  if index % columns + 1 = columns ∧ index + 1 ≠ length then
    "</td></tr>\n<tr class=\"row" ++ toString (index / columns + 2) ++ "\">"
  else "</td>"

/-- What is known of cell `index` of `length` in the table `name`. -/
def metadata (name : String) (columns index length : Nat) : Keyed Value :=
  let column := index % columns
  Keyed.insertAll (LoopItems.metadata name index length)
    [("col", .ofNat (column + 1)), ("col0", .ofNat column),
     ("col_first", .bool (column == 0)), ("col_last", .bool (column + 1 == columns)),
     ("row", .ofNat (index / columns + 1))]

end Table

/-- Binds the item of an iteration, and what is known of the iteration. -/
def bindIteration (itemName metaName : String) (item : Value) (data : Keyed Value) (c : Context) :
    Context :=
  (c.set itemName item).set metaName (.dict data)

/-- Whether one of the values equals the subject of a `case`. -/
def matchesSubject (subject : Value) (values : List Expression) (c : Context) : Bool :=
  values.any fun v => Operator.equal.compare subject (v.evaluate c)

/-- Renders bodies as a registered tag does, given the values of its arguments. -/
def TagAction.run (action : TagAction) (values : List Value) (body : Nat → Rendering) : Rendering :=
  match action.steps values with
  | .error message => fail (.render message)
  | .ok n =>
    let rendered := times n fun i => body (action.body i)
    mapOutput (action.finish values) (if action.ownScope then inScope rendered else rendered)

mutual

/-- Renders a node. -/
def Node.render : Node → Rendering
  | .text text => emit text
  | .output pipeline => fun c =>
    match pipeline.evaluate c with
    | .ok v => (.ok v.toText, c)
    | .error e => (.error e, c)
  | .assign name pipeline => fun c =>
    match pipeline.evaluate c with
    | .ok v => (.ok "", c.set name v)
    | .error e => (.error e, c)
  | .capture name body => bindTo name (inScope (renderAll body))
  | .comment => emit ""
  | .raw text => emit text
  | .cycle cycle => fun c => ((.ok (cycle.step c).1), (cycle.step c).2)
  | .loop header body otherwise => fun c =>
    let items := header.items c
    if items.length = 0 then inScope (renderAll otherwise) c
    else
      let start := header.offset c
      let part := items.segment start (header.limit? c)
      let length := part.length
      inScope (part.renderEach header.reversed fun item index =>
          after (bindIteration header.itemName "forloop" item
            (LoopItems.metadata header.name index length)) (renderAll body))
        (c.setRegisterEntry LoopHeader.bookmarks header.name (.ofNat (start + length)))
  | .branch negated branches otherwise =>
    renderBranches negated (inScope (renderAll otherwise)) branches
  | .case subject clauses otherwise => fun c =>
    renderClauses (subject.evaluate c) (inScope (renderAll otherwise)) false clauses c
  | .inclusion header body => fun c =>
    let values := header.bindings c
    inScope (after (Context.merge (header.attributeValues c))
      (each (fun v => after (Context.set header.bindName v) (renderAll body)) values)) c
  | .table header body => fun c =>
    let part := (header.items c).segment (header.offset c) (header.limit? c)
    let length := part.length
    if length = 0 then (.ok "", c)
    else
      let columns := (header.columns? c).getD length
      inScope ((emit Table.opening).andThen
        ((part.renderEach false fun item index =>
            after (bindIteration header.itemName "tablerowloop" item
                (Table.metadata header.name columns index length))
              ((emit (Table.cellOpening columns index)).andThen
                ((renderAll body).andThen
                  (emit (Table.cellClosing columns index length))))).andThen
          (emit Table.closing))) c
  | .host _ action arguments bodies => fun c =>
    action.run (arguments.map (·.evaluate c)) (renderBody bodies) c

/-- Renders nodes one after the other. -/
def renderAll : List Node → Rendering
  | [] => emit ""
  | node :: rest => node.render.andThen (renderAll rest)

/-- Renders body number `i`, if there is one. -/
def renderBody : List (List Node) → (i : Nat) → Rendering
  | [], _ => emit ""
  | body :: _, 0 => renderAll body
  | _ :: rest, i + 1 => renderBody rest i

/-- Renders the first branch whose condition holds, the first condition being negated if
`negated`; or else `otherwise`. -/
def renderBranches (negated : Bool) (otherwise : Rendering) :
    List (Condition × List Node) → Rendering
  | [] => otherwise
  | (condition, body) :: rest => fun c =>
    if condition.evaluate c != negated then inScope (renderAll body) c
    else renderBranches false otherwise rest c

/-- Renders every clause with a value that equals the subject; or else `otherwise`, unless a clause
in front has been rendered. -/
def renderClauses (subject : Value) (otherwise : Rendering) (rendered : Bool) :
    List (List Expression × List Node) → Rendering
  | [] => if rendered then emit "" else otherwise
  | (values, body) :: rest => fun c =>
    if matchesSubject subject values c then
      ((inScope (renderAll body)).andThen (renderClauses subject otherwise true rest)) c
    else renderClauses subject otherwise rendered rest c

end

/-- Nodes that are a single one render as that node. -/
theorem renderAll_singleton (node : Node) : renderAll [node] = node.render := by
  rw [renderAll, renderAll, andThen_emit_empty]

end Liquid
