import Liquid.Log.Directive

/-!
# Log filters

Which log events are shown. A filter is written as directives with commas between them.

- `LogFilter`: the directives, in two lists. Those that ask for a span or for a value of a field
  depend on the spans that an event is inside of; the others can be decided once and for all. A
  directive that asks for fields alone is in both lists.
- `LogFilter.add`: puts a directive where it belongs, in place of one for the same events.
- `LogFilter.parse?`, `LogFilter.toText`: a filter and its text.
-/

namespace Liquid

open Text

/-- Directives, those that tell more of the events in front. -/
structure LogFilter where
  /-- The directives that do not depend on spans. -/
  general : List LogDirective := []
  /-- The directives that depend on spans. -/
  inSpans : List LogDirective := []

namespace LogFilter

/-- Puts a directive into a list. -/
def insert (d : LogDirective) : List LogDirective → List LogDirective
  | [] => [d]
  | e :: rest =>
    match d.order e with
    | .eq => d :: rest
    | .gt => d :: e :: rest
    | .lt => e :: insert d rest

/-- Puts a directive where it belongs. -/
def add (d : LogDirective) (filter : LogFilter) : LogFilter :=
  let isGeneral := d.span.isNone && d.fields.all fun field => field.value.isNone
  let isInSpans := d.span.isSome || !d.fields.isEmpty
  { general := if isGeneral then insert d filter.general else filter.general
    inSpans := if isInSpans then insert d filter.inSpans else filter.inSpans }

/-- The filter of the given directives. Without any, no event is shown. -/
def ofDirectives (directives : List LogDirective) : LogFilter :=
  directives.foldl (fun filter d => filter.add d) {}

/-- Reads a filter. -/
def parse? (text : String) : Option LogFilter :=
  (((splitOn [','] text.toList).filter fun piece => !piece.isEmpty).mapM
    LogDirective.parse?).map ofDirectives

/-- The text of a filter. -/
def toText (filter : LogFilter) : String :=
  ",".intercalate ((filter.general ++ filter.inSpans).map LogDirective.toText)

end LogFilter

end Liquid
