import Liquid.Decimal.Reader

/-!
# Log levels

- `LogLevel`: how grave a log event is, at least, to be shown.
- `LogLevel.ofText?`: the level that a text stands for.
-/

namespace Liquid

/-- The least level of the events that are shown. -/
inductive LogLevel where
  | off | error | warn | info | debug | trace
  deriving DecidableEq, Repr

namespace LogLevel

/-- The levels. The numbers from 0 on stand for them. -/
def all : List LogLevel := [off, error, warn, info, debug, trace]

/-- The name of a level. -/
def name : LogLevel → String
  | off => "off"
  | error => "error"
  | warn => "warn"
  | info => "info"
  | debug => "debug"
  | trace => "trace"

/-- The level that a text gives by its number, or by its name in any case. -/
def ofText? (text : List Char) : Option LogLevel :=
  match Decimal.readNat? all.length text with
  | some n => all[n]?
  | none => all.find? fun level => level.name == String.ofList (text.map Char.toLower)

/-- Reads the level of a directive. Without one all events are shown. -/
def read? (text : List Char) : Option LogLevel :=
  if text.isEmpty then some trace else ofText? text

end LogLevel

end Liquid
