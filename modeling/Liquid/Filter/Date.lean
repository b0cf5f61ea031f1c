import Liquid.Filter.Basic
import Liquid.Date.Format
import Liquid.Date.Reader

/-!
# The date filter

A value is a date if it is an integer, the seconds since 1970, or a string that holds such a
number or a date. The filter leaves everything else alone.
-/

namespace Liquid

/-- The moment that a value stands for. -/
def Value.moment? : Value → Option Moment
  | integer i => Moment.ofUnixTime? i.toInt
  | string s =>
    let text := Text.trim s.toList
    match Decimal.readInt64? text with
    | some i => Moment.ofUnixTime? i.toInt
    | none => Moment.read? text
  | _ => none

/-- Writes a date in the pattern that the argument gives. What is no date stays, and so does a date
without a pattern or with an invalid one. -/
def Filter.date : Filter := fun value arguments =>
  let pattern := textArgument arguments 0
  if pattern.isEmpty then .ok value
  else
    match value.moment?, DateFormat.parse? pattern with
    | some moment, some items =>
      match DateFormat.write? moment items with
      | some text => .ok (.ofChars text)
      | none => .error .dateWithoutZone
    | _, _ => .ok value

end Liquid
