import Liquid.Filter.Text
import Liquid.Filter.List
import Liquid.Filter.Arithmetic
import Liquid.Filter.Date

/-!
# The standard filters

All built-in filters in one registry. (`SPEC_FULL.md`, section 5.5.)
-/

namespace Liquid

/-- Gives the argument for a blank value. -/
def Filter.default : Filter := fun value arguments =>
  .ok (if value.isBlank then arguments.head?.getD .nil else value)

/-- The built-in filters. -/
def FilterRegistry.standard : FilterRegistry :=
  Keyed.insertAll []
    (Filter.textual ++ Filter.onLists ++ Filter.arithmetic
      ++ [("default", Filter.default), ("date", Filter.date)])

end Liquid
