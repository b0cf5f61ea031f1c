import Liquid.Log.Field
import Liquid.Log.Level
import Liquid.Text.Blank

/-!
# Log directives

A directive shows some events from a level on: `level` for all of them, or `target[span]=level`
for those of one target inside one span. Either part can be missing, and the level too; all events
are shown then. A span can ask for a field, as in `[span{field=value}]`.

- `LogDirective.parse?`: reads a directive. Its parts are found in the text without the blanks
  around it, but they are taken from the same places of the text with them. So `info` with a blank
  in front of it is a target, and a blank behind a level spoils it.
- `LogDirective.order`: which of two directives tells less. The one that tells more comes first.
- `LogDirective.toText`: the text of a directive.
-/

namespace Liquid

open Text

/-- A level for some events. -/
structure LogDirective where
  /-- The target; none for all of them. -/
  target : Option String := none
  /-- The span; none for events inside any span or outside of all. -/
  span : Option String := none
  /-- The fields. -/
  fields : List LogField := []
  /-- The level. -/
  level : LogLevel

namespace LogDirective

/-! ### Reading -/

/-- A text to read: each character, with the one that is taken in its place. -/
abbrev Marked := List (Char × Char)

/-- What is taken up to the first of the given characters, and that character with what follows. -/
def cutAtAny (stops : List Char) : Marked → List Char × Option (Char × Marked)
  | [] => ([], none)
  | (c, taken) :: rest =>
    if stops.contains c then ([], some (c, rest))
    else
      let cut := cutAtAny stops rest
      (taken :: cut.1, cut.2)

/-- Whether a target can start with a character. -/
def opensTarget (c : Char) : Bool := isAlphanumeric c || c == '-' || c == ':' || c == '_'

/-- A name, unless it is empty. -/
def name? (text : List Char) : Option String :=
  if text.isEmpty then none else some (String.ofList text)

/-- Reads what follows the bracket in front of a span; `tail` is taken behind all else. There are no
more brackets than `fuel`. A later span takes the place of the one before it, but its fields count
too. -/
def readSpan? (tail : List Char) : (fuel : Nat) → LogDirective → Marked → Option LogDirective
  | 0, _, _ => none
  | fuel + 1, d, text =>
    let behind? (d : LogDirective) (text : Marked) : Option LogDirective :=
      match text with
      | [] => some d
      | ('=', _) :: level =>
        (LogLevel.read? (level.map Prod.snd ++ tail)).map fun level => { d with level }
      | ('[', _) :: text => readSpan? tail fuel d text
      | _ => none
    match cutAtAny [']', '{'] text with
    | (_, none) => none
    | (span, some (']', text)) => behind? { d with span := some (String.ofList span) } text
    | (span, some (_, text)) =>
      match cutAtAny ['}'] text with
      | (field, some (_, (']', _) :: text)) =>
        (LogField.parse? field).bind fun field =>
          behind? { d with span := name? span, fields := d.fields ++ [field] } text
      | _ => none

/-- Reads a level, or else a target. -/
def readWhole (text : List Char) : LogDirective :=
  match LogLevel.ofText? text with
  | some level => { level }
  | none => { target := some (String.ofList text), level := .trace }

/-- Reads a directive. -/
def parse? (text : List Char) : Option LogDirective :=
  let seen := trim text
  let tail := text.drop seen.length
  match seen with
  | [] => none
  | c :: _ =>
    if !opensTarget c && c != '[' then none
    else
      match cutAtAny ['=', '['] (seen.zip text) with
      | (name, none) => some (readWhole (name ++ tail))
      | (name, some ('=', level)) =>
        let target := name? name
        (LogLevel.read? (level.map Prod.snd ++ tail)).map fun level => { target, level }
      | (name, some (_, text)) =>
        readSpan? tail seen.length { target := name? name, level := .trace } text

/-! ### Writing -/

/-- The text of a directive. -/
def toText (d : LogDirective) : String :=
  let fields :=
    if d.fields.isEmpty then ""
    else "\x7b" ++ ",".intercalate (d.fields.map LogField.toText) ++ "\x7d"
  let span :=
    if d.span.isNone && d.fields.isEmpty then ""
    else "[" ++ d.span.getD "" ++ fields ++ "]"
  match d.target.getD "" ++ span with
  | "" => d.level.name
  | events => events ++ "=" ++ d.level.name

/-! ### Order -/

/-- The order of directives by what they tell of events: by the length of the target in UTF-8, by
whether there is a span, by the number of fields, and then by the target, the span and the fields
themselves. The level does not count. -/
def order (a b : LogDirective) : Ordering :=
  (compare (a.target.map String.utf8ByteSize) (b.target.map String.utf8ByteSize)).then <|
  (compare a.span.isSome b.span.isSome).then <|
  (compare a.fields.length b.fields.length).then <|
  (compare a.target b.target).then <|
  (compare a.span b.span).then (compare a.fields b.fields)

end LogDirective

end Liquid
