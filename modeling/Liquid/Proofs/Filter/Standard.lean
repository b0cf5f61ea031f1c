import Liquid.Filter.Standard
import Liquid.Proofs.Keyed

/-!
# The standard filters by name

No two of the standard filters have the same name, so a call by name applies the filter that is
listed under it.

- `FilterRegistry.nodup_standard`: the names are different.
- `FilterRegistry.apply_textual`, `FilterRegistry.apply_onLists`, `FilterRegistry.apply_arithmetic`:
  calls of the filters on text, on lists and on numbers.
-/

namespace Liquid.FilterRegistry

/-- No two standard filters have the same name. -/
theorem nodup_standard :
    ((Filter.textual ++ Filter.onLists ++ Filter.arithmetic
      ++ [("default", Filter.default), ("date", Filter.date)]).map Prod.fst).Nodup := by
  decide +kernel

theorem apply_standard {name : String} {filter : Filter}
    (h : (name, filter) ∈ Filter.textual ++ Filter.onLists ++ Filter.arithmetic
      ++ [("default", Filter.default), ("date", Filter.date)])
    (value : Value) (arguments : List Value) :
    standard.apply name value arguments = filter value arguments := by
  rw [apply, standard, Keyed.get?_insertAll_of_mem nodup_standard h]

theorem apply_textual {name : String} {filter : Filter} (h : (name, filter) ∈ Filter.textual)
    (value : Value) (arguments : List Value) :
    standard.apply name value arguments = filter value arguments :=
  apply_standard (List.mem_append_left _ (List.mem_append_left _ (List.mem_append_left _ h)))
    value arguments

theorem apply_onLists {name : String} {filter : Filter} (h : (name, filter) ∈ Filter.onLists)
    (value : Value) (arguments : List Value) :
    standard.apply name value arguments = filter value arguments :=
  apply_standard (List.mem_append_left _ (List.mem_append_left _ (List.mem_append_right _ h)))
    value arguments

theorem apply_arithmetic {name : String} {filter : Filter} (h : (name, filter) ∈ Filter.arithmetic)
    (value : Value) (arguments : List Value) :
    standard.apply name value arguments = filter value arguments :=
  apply_standard (List.mem_append_left _ (List.mem_append_right _ h)) value arguments

end Liquid.FilterRegistry
