import Liquid.Json.Basic

/-!
# One JSON value over another

`Json.merge` puts a value over another one: of two objects the members are merged, key by key, and
in all other cases the value above stands alone.
-/

namespace Liquid.Json

mutual

/-- The value `above` over the value `below`. -/
def merge (below above : Json) : Json :=
  match above with
  | object members =>
    match below with
    | object base => object (mergeMembers base members)
    | _ => object members
  | other => other

/-- The members of an object over those in `base`, one after the other. -/
def mergeMembers (base : Keyed Json) (members : List (String × Json)) : Keyed Json :=
  match members with
  | [] => base
  | (key, j) :: rest =>
    let merged := match Keyed.get? key base with
      | some old => merge old j
      | none => j
    mergeMembers (Keyed.insert key merged base) rest

end

end Liquid.Json
