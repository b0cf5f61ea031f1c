import Liquid.Proofs.Decimal.Digits
import Liquid.Proofs.Except
import Liquid.Proofs.Text.Split
import Liquid.Proofs.Toml.Table
import Liquid.Settings

/-!
# Layers of settings

Defaults, a file and environment variables lie over each other, and each field goes through the
layers by itself.

- `Settings.Fits`: the values that a field can have in a file.
- `Settings.ofLayer?_eq_some_iff`: what a file makes of each field.
- `Settings.override_eq_ok_iff`: what the environment makes of it.
- `Settings.layers`: where a setting comes from, and what makes loading fail.
-/

namespace Liquid.Settings

open Keyed (Ordered get?)
open Text

/-! ### Fields of a file -/

/-- The names that fields have in a file. -/
def fieldNames : List String :=
  ["debug", "log_level", "template_dirs", "template_pattern", "max_include_depth"]

/-- The value has the type of the field of that name. -/
def Fits (key : String) (j : Json) : Prop :=
  match key with
  | "debug" => ∃ b, j = .bool b
  | "log_level" => ∃ s, j = .string s
  | "template_dirs" => ∃ names : List String, j = .array (names.map .string)
  | "template_pattern" => ∃ s, j = .string s
  | "max_include_depth" => ∃ n : Nat, j = .integer n
  | _ => True

theorem bool?_eq_some_iff {j : Json} {b : Bool} : bool? j = some b ↔ j = .bool b := by
  cases j with
  | bool b' => simp [bool?]
  | null | integer | float | string | array | object => simp [bool?]

theorem string?_eq_some_iff {j : Json} {s : String} : string? j = some s ↔ j = .string s := by
  cases j with
  | string s' => simp [string?]
  | null | bool | integer | float | array | object => simp [string?]

theorem mapM_string?_eq_some_iff {elements : List Json} {names : List String} :
    elements.mapM string? = some names ↔ elements = names.map .string := by
  induction elements generalizing names with
  | nil => cases names <;> simp
  | cons j rest ih =>
    rw [List.mapM_cons]
    cases names with
    | nil => cases string? j <;> cases rest.mapM string? <;> simp
    | cons name names => simp [Option.bind_eq_some_iff, string?_eq_some_iff, ih]

theorem strings?_eq_some_iff {j : Json} {names : List String} :
    strings? j = some names ↔ j = .array (names.map .string) := by
  cases j with
  | array elements => simp [strings?, mapM_string?_eq_some_iff]
  | null | bool | integer | float | string | object => simp [strings?]

theorem count?_eq_some_iff {j : Json} {n : Nat} : count? j = some n ↔ j = .integer n := by
  cases j with
  | integer i =>
    simp only [count?, Option.ite_none_right_eq_some, Option.some.injEq, Json.integer.injEq]
    omega
  | null | bool | float | string | array | object => simp [count?]

/-- The value of a field under a file with these members: what stands there if it is of the right
type, and the default if nothing does. -/
def layer {α : Type} (read? : Json → Option α) (default : α) (key : String)
    (members : Keyed Json) : Option α :=
  (get? key members).elim (some default) read?

theorem field?_mergeMembers {α : Type} (read? : Json → Option α) {default : α} (key : String)
    (old : Json) {members : Keyed Json} (hmembers : Ordered members)
    (hbase : get? key ({} : Settings).members = some old) (hold : ∀ inner, old ≠ .object inner)
    (hread : read? old = some default) :
    field? read? key (Json.mergeMembers ({} : Settings).members members)
      = layer read? default key members := by
  rw [field?, layer, Json.get?_mergeMembers hmembers, hbase]
  cases get? key members with
  | none => exact hread
  | some j => exact congrArg read? (Json.merge_eq_above hold j)

/-- What an object over the defaults makes of each field. -/
theorem ofLayer?_eq_some_iff {members : Keyed Json} (hmembers : Ordered members)
    {settings : Settings} :
    ofLayer? (.object members) = some settings ↔
      layer bool? ({} : Settings).debug "debug" members = some settings.debug ∧
      layer string? ({} : Settings).logLevel "log_level" members = some settings.logLevel ∧
      layer strings? ({} : Settings).templateDirs "template_dirs" members =
        some settings.templateDirs ∧
      layer string? ({} : Settings).templatePattern "template_pattern" members =
        some settings.templatePattern ∧
      layer count? ({} : Settings).maxIncludeDepth "max_include_depth" members =
        some settings.maxIncludeDepth := by
  have hdebug := field?_mergeMembers bool? "debug" (.bool false) hmembers
    (by simp [Settings.members, get?]) (by simp) rfl
  have hlevel := field?_mergeMembers string? "log_level" (.string "info") hmembers
    (by simp [Settings.members, get?]) (by simp) rfl
  have hdirectories := field?_mergeMembers strings? "template_dirs" (.array []) hmembers
    (by simp [Settings.members, get?]) (by simp) rfl
  have hpattern := field?_mergeMembers string? "template_pattern"
    (.string ({} : Settings).templatePattern) hmembers
    (by simp [Settings.members, get?]) (by simp) rfl
  have hdepth := field?_mergeMembers count? "max_include_depth" (.integer 32) hmembers
    (by simp [Settings.members, get?]) (by simp) rfl
  show ofMembers? (Json.mergeMembers ({} : Settings).members members) = some settings ↔ _
  rw [ofMembers?, hdebug, hlevel, hdirectories, hpattern, hdepth]
  simp only [Option.bind_eq_bind, Option.bind_eq_some_iff, Option.some.injEq]
  constructor
  · rintro ⟨debug, hdebug, level, hlevel, directories, hdirectories, pattern, hpattern, depth,
      hdepth, rfl⟩
    exact ⟨hdebug, hlevel, hdirectories, hpattern, hdepth⟩
  · rintro ⟨hdebug, hlevel, hdirectories, hpattern, hdepth⟩
    exact ⟨_, hdebug, _, hlevel, _, hdirectories, _, hpattern, _, hdepth, rfl⟩

theorem exists_layer_iff {α : Type} (read? : Json → Option α) (default : α) (key : String)
    (members : Keyed Json) (hread : ∀ j, (∃ value, read? j = some value) ↔ Fits key j) :
    (∃ value, layer read? default key members = some value) ↔
      ∀ j, get? key members = some j → Fits key j := by
  rw [layer]
  cases get? key members with
  | none => simp
  | some j => simp [hread]

/-- An object can be put over the defaults exactly where its fields have their types. -/
theorem exists_ofLayer?_iff {members : Keyed Json} (hmembers : Ordered members) :
    (∃ settings, ofLayer? (.object members) = some settings) ↔
      ∀ key ∈ fieldNames, ∀ j, get? key members = some j → Fits key j := by
  have hdebug := exists_layer_iff bool? ({} : Settings).debug "debug" members
    fun j => by simp [bool?_eq_some_iff, Fits]
  have hlevel := exists_layer_iff string? ({} : Settings).logLevel "log_level" members
    fun j => by simp [string?_eq_some_iff, Fits]
  have hdirectories := exists_layer_iff strings? ({} : Settings).templateDirs "template_dirs"
    members fun j => by simp [strings?_eq_some_iff, Fits]
  have hpattern := exists_layer_iff string? ({} : Settings).templatePattern "template_pattern"
    members fun j => by simp [string?_eq_some_iff, Fits]
  have hdepth := exists_layer_iff count? ({} : Settings).maxIncludeDepth "max_include_depth" members
    fun j => by simp [count?_eq_some_iff, Fits]
  simp only [fieldNames, List.forall_mem_cons, ← hdebug, ← hlevel, ← hdirectories, ← hpattern,
    ← hdepth]
  constructor
  · rintro ⟨settings, h⟩
    obtain ⟨hdebug, hlevel, hdirectories, hpattern, hdepth⟩ := (ofLayer?_eq_some_iff hmembers).1 h
    exact ⟨⟨_, hdebug⟩, ⟨_, hlevel⟩, ⟨_, hdirectories⟩, ⟨_, hpattern⟩, ⟨_, hdepth⟩, by simp⟩
  · rintro ⟨⟨debug, hdebug⟩, ⟨level, hlevel⟩, ⟨directories, hdirectories⟩, ⟨pattern, hpattern⟩,
      ⟨depth, hdepth⟩, -⟩
    exact ⟨⟨debug, level, directories, pattern, depth⟩,
      (ofLayer?_eq_some_iff hmembers).2 ⟨hdebug, hlevel, hdirectories, hpattern, hdepth⟩⟩

/-- Only the fields of an object count. -/
theorem ofLayer?_congr {members members' : Keyed Json} (hmembers : Ordered members)
    (hmembers' : Ordered members')
    (h : ∀ key ∈ fieldNames, get? key members' = get? key members) :
    ofLayer? (.object members') = ofLayer? (.object members) := by
  simp only [fieldNames, List.forall_mem_cons] at h
  obtain ⟨hdebug, hlevel, hdirectories, hpattern, hdepth, -⟩ := h
  refine Option.ext fun settings => ?_
  rw [ofLayer?_eq_some_iff hmembers, ofLayer?_eq_some_iff hmembers']
  simp only [layer, hdebug, hlevel, hdirectories, hpattern, hdepth]

/-! ### The environment -/

theorem depthOf_eq_ok_iff {text : String} {n : Nat} :
    depthOf text = .ok n ↔ Decimal.IsNumeral (trim text.toList) n ∧ n < UInt64.size := by
  rw [← Decimal.readNat?_eq_some_iff, depthOf]
  cases Decimal.readNat? UInt64.size (trim text.toList) with
  | none => simp
  | some m => simp

theorem eq_of_depthOf_eq_error {text : String} {e : Error} (h : depthOf text = .error e) :
    e = .configuration (.includeDepth text) := by
  unfold depthOf at h
  split at h
  · cases h
  · exact (Except.error.inj h).symm

/-- What the environment makes of the include depth. -/
theorem override_eq_ok_iff {settings result : Settings} {environment : Keyed String} :
    settings.override environment = .ok result ↔
      ((get? "LIQUID_MAX_INCLUDE_DEPTH" environment).elim (.ok settings.maxIncludeDepth) depthOf =
        .ok result.maxIncludeDepth) ∧
      result.debug = ((get? "LIQUID_DEBUG" environment).map switchesOn).getD settings.debug ∧
      result.logLevel = (get? "LIQUID_LOG_LEVEL" environment).getD settings.logLevel ∧
      result.templateDirs =
        ((get? "LIQUID_TEMPLATE_DIRS" environment).map directories).getD settings.templateDirs ∧
      result.templatePattern =
        (get? "LIQUID_TEMPLATE_PATTERN" environment).getD settings.templatePattern := by
  obtain ⟨debug, level, dirs, pattern, depth⟩ := result
  rw [override]
  dsimp only
  cases get? "LIQUID_MAX_INCLUDE_DEPTH" environment with
  | none =>
    constructor
    · rintro ⟨⟩
      exact ⟨rfl, rfl, rfl, rfl, rfl⟩
    · rintro ⟨hread, rfl, rfl, rfl, rfl⟩
      cases hread
      rfl
  | some text =>
    dsimp only
    rw [bind_eq_ok_iff]
    constructor
    · rintro ⟨depth', hread, ⟨⟩⟩
      exact ⟨hread, rfl, rfl, rfl, rfl⟩
    · rintro ⟨hread, rfl, rfl, rfl, rfl⟩
      exact ⟨depth, hread, rfl⟩

/-- The environment is refused because of the include depth only. -/
theorem override_eq_error_iff {settings : Settings} {environment : Keyed String} {e : Error} :
    settings.override environment = .error e ↔
      ∃ text, get? "LIQUID_MAX_INCLUDE_DEPTH" environment = some text
        ∧ depthOf text = .error e := by
  rw [override]
  dsimp only
  cases get? "LIQUID_MAX_INCLUDE_DEPTH" environment with
  | none => simp
  | some text =>
    cases hread : depthOf text with
    | ok n => simp [hread]
    | error e' => simp [hread]

/-! ### All layers -/

/-- The object comes from the text of a file, which is loaded to settings or refused. -/
inductive LoadedFrom (members : Keyed Json) : (format : String) → Except Error Settings → Prop
  | json {text : String} (h : Json.parse? text = some (.object members)) :
    LoadedFrom members "JSON" (ofJson text)
  | toml {text : String} (h : (Toml.parse? text).map Toml.toJson = some (.object members)) :
    LoadedFrom members "TOML" (ofToml text)

theorem LoadedFrom.ordered {members : Keyed Json} {format : String}
    {file : Except Error Settings} (h : LoadedFrom members format file) : Ordered members := by
  cases h with
  | json h => exact Json.ordered_of_parse h
  | toml h => exact Toml.ordered_of_parse h

theorem LoadedFrom.file_eq {members : Keyed Json} {format : String}
    {file : Except Error Settings} (h : LoadedFrom members format file) :
    file = ofRead format (some (.object members)) := by
  cases h with
  | json h => rw [ofJson, h]
  | toml h => rw [ofToml, h]

/-- The value of a setting: of its variable if that is set, else of the file if it has the field,
else the default. -/
def uppermost {α : Type} (above? member? : Option α) (default : α) : α :=
  (above?.or member?).getD default

/-- Every setting comes from the uppermost of the three layers that has it. -/
structure Layered (members : Keyed Json) (environment : Keyed String) (result : Settings) :
    Prop where
  debug : result.debug =
    uppermost ((get? "LIQUID_DEBUG" environment).map switchesOn) (field? bool? "debug" members)
      false
  logLevel : result.logLevel =
    uppermost (get? "LIQUID_LOG_LEVEL" environment) (field? string? "log_level" members) "info"
  /-- A variable holds directories with colons between them. -/
  templateDirs : result.templateDirs =
    uppermost ((get? "LIQUID_TEMPLATE_DIRS" environment).map fun text =>
        (((text.toList.splitOn ':').map trim).filter (· ≠ [])).map String.ofList)
      (field? strings? "template_dirs" members) []
  templatePattern : result.templatePattern =
    uppermost (get? "LIQUID_TEMPLATE_PATTERN" environment)
      (field? string? "template_pattern" members) "_\x7bname\x7d.liquid"
  /-- A variable holds a numeral, with blanks around it. -/
  maxIncludeDepth : (get? "LIQUID_MAX_INCLUDE_DEPTH" environment).elim
    (result.maxIncludeDepth = uppermost none (field? count? "max_include_depth" members) 32)
    fun text => Decimal.IsNumeral (trim text.toList) result.maxIncludeDepth

/-- What loading a file with these members makes of the settings, under an environment. -/
structure Layers (members : Keyed Json) (environment : Keyed String) (format : String)
    (file : Except Error Settings) : Prop where
  /-- The file is refused exactly if one of the fields that it has is of the wrong type. -/
  refused_iff : (∃ e, file = .error e) ↔
    ∃ key ∈ fieldNames, ∃ j, get? key members = some j ∧ ¬ Fits key j
  refusal : ∀ e, file = .error e → e = .configuration (.unfitSettings format)
  /-- The environment is refused exactly if the variable of the include depth is set to something
  else than a number of 64 bits. -/
  unreadable_iff : ∀ settings : Settings, (∃ e, settings.override environment = .error e) ↔
    ∃ text, get? "LIQUID_MAX_INCLUDE_DEPTH" environment = some text ∧
      ¬ ∃ n < UInt64.size, Decimal.IsNumeral (trim text.toList) n
  unreadable : ∀ (settings : Settings) (e : Error), settings.override environment = .error e →
    ∃ text, get? "LIQUID_MAX_INCLUDE_DEPTH" environment = some text ∧
      e = .configuration (.includeDepth text)
  layered : ∀ result, (file >>= fun settings => settings.override environment) = .ok result →
    Layered members environment result
  /-- Members that are no fields have no effect. -/
  unknown : ∀ members' file', LoadedFrom members' format file' →
    (∀ key ∈ fieldNames, get? key members' = get? key members) → file' = file

theorem ofRead_object_eq_ok_iff {format : String} {members : Keyed Json} {settings : Settings} :
    ofRead format (some (.object members)) = .ok settings ↔
      ofLayer? (.object members) = some settings := by
  rw [ofRead]
  cases ofLayer? (.object members) with
  | none => simp
  | some settings' => simp

theorem ofRead_object_eq_error_iff {format : String} {members : Keyed Json} {e : Error} :
    ofRead format (some (.object members)) = .error e ↔
      (¬ ∃ settings, ofLayer? (.object members) = some settings) ∧
        e = .configuration (.unfitSettings format) := by
  rw [ofRead]
  cases ofLayer? (.object members) with
  | none => simp [eq_comm]
  | some settings' => simp

theorem directories_eq (text : String) :
    directories text =
      (((text.toList.splitOn ':').map trim).filter (· ≠ [])).map String.ofList := by
  rw [directories, splitOn_singleton]
  congr 2
  funext name
  cases name with
  | nil => rfl
  | cons c rest => rfl

/-- A layer under a variable. -/
theorem getD_eq_uppermost {α : Type} {read? : Json → Option α} {default value : α} {key : String}
    {members : Keyed Json} (h : layer read? default key members = some value)
    (above? : Option α) :
    above?.getD value = uppermost above? (field? read? key members) default := by
  have hvalue : (field? read? key members).getD default = value := by
    rw [layer] at h
    rw [field?]
    cases hget : get? key members with
    | none =>
      rw [hget] at h
      exact Option.some.inj h
    | some j =>
      rw [hget] at h
      show (read? j).getD default = value
      rw [show read? j = some value from h]
      rfl
  cases above? with
  | none => exact hvalue.symm
  | some value' => rfl

theorem exists_ok_of_not_error {ε α : Type} {x : Except ε α} (h : ¬ ∃ e, x = .error e) :
    ∃ a, x = .ok a := by
  cases x with
  | error e => exact absurd ⟨e, rfl⟩ h
  | ok a => exact ⟨a, rfl⟩

/-- The keys of an object of a flag and a null, with the flag. -/
def flagAndNull? : Option Json → Option (String × Bool × String)
  | some (.object [(first, .bool b), (second, .null)]) => some (first, b, second)
  | _ => none

theorem eq_of_flagAndNull? {j : Option Json} {first second : String} {b : Bool}
    (h : flagAndNull? j = some (first, b, second)) :
    j = some (.object [(first, .bool b), (second, .null)]) := by
  unfold flagAndNull? at h
  split at h
  · cases h
    rfl
  · cases h

end Liquid.Settings
