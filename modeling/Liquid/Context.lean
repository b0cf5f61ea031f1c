import Liquid.Filter.Basic

/-!
# Contexts

What a render reads and changes: variables in scopes, registers, the filters, and the attributes of
the objects of the host. (`SPEC_FULL.md`, sections 4 and 5.3.)

- `View`: what an object of the host sees of the context in which an attribute of it is read.
- `Attributes`: what the host computes from that.
- `Context`: a stack of scopes, the innermost first; the last one is the global scope.
- `Context.push`, `Context.pop?`, `Context.leave`: opening and closing scopes. `pop?` refuses to
  close the global scope; `leave` ends a scope that a block opened.
- `Context.set`, `Context.find?`, `Context.root`: binding in the innermost scope, looking from the
  innermost out.
- `Context.register`, `Context.setRegister` and their entries: what tags remember.
- `Context.view`, `Context.read`: reading an attribute.

An attribute may ask for any expression in the context that it is read in, and so for attributes of
other objects. All of these belong to one host, which knows them. `Attributes` is a function: an
attribute that asks for itself without end has no value, and is none that a host computes.
-/

namespace Liquid

/-- What an object of the host sees of the context that it is read in. -/
structure View where
  /-- The scopes, the innermost first. An object that stands for a value gives way to it. -/
  scopes : List (Keyed Value)
  /-- What tags remember. -/
  registers : Keyed Value
  /-- The filters at hand. -/
  filters : FilterRegistry

/-- What a host computes when an attribute is read: from the object, the name of the attribute and
what is seen of the context to a value. -/
def Attributes : Type := Drop → String → View → Value

/-- The attributes of a host that has none: all of them are nil. -/
def Attributes.none : Attributes := fun _ _ _ => .nil

/-- Variables, registers and filters of a render, and the attributes of objects. -/
structure Context where
  /-- The scopes, the innermost first. -/
  scopes : List (Keyed Value)
  /-- What tags remember from one use to the next. -/
  registers : Keyed Value
  /-- The filters at hand. -/
  filters : FilterRegistry
  /-- The attributes of the objects of the host. -/
  attributes : Attributes

namespace Context

/-- A context with one empty scope. -/
def withFilters (filters : FilterRegistry) (attributes : Attributes := .none) : Context :=
  ⟨[[]], [], filters, attributes⟩

/-! ### Scopes -/

/-- The number of scopes. -/
def depth (c : Context) : Nat := c.scopes.length

/-- Opens a new, empty scope. -/
def push (c : Context) : Context := { c with scopes := [] :: c.scopes }

/-- Closes the innermost scope, unless it is the global one. -/
def pop? (c : Context) : Except Error Context :=
  match c.scopes with
  | _ :: outer :: rest => .ok { c with scopes := outer :: rest }
  | _ => .error .globalScope

/-- Ends the innermost scope, whichever it is. -/
def leave (c : Context) : Context := { c with scopes := c.scopes.tail }

/-- Binds a name in the innermost scope. -/
def set (name : String) (value : Value) (c : Context) : Context :=
  match c.scopes with
  | [] => c
  | inner :: outer => { c with scopes := Keyed.insert name value inner :: outer }

/-- Binds names in the innermost scope, one after the other. -/
def merge (values : List (String × Value)) (c : Context) : Context :=
  values.foldl (fun c entry => c.set entry.1 entry.2) c

/-- The value of a name in the innermost scope that has it. -/
def find? (name : String) (c : Context) : Option Value :=
  c.scopes.findSome? (Keyed.get? name)

/-- The value of a name in the innermost scope that has it; nil if no scope has it. -/
def root (name : String) (c : Context) : Value := (c.find? name).getD .nil

/-! ### Registers -/

/-- A register; nil if it was never set. -/
def register (name : String) (c : Context) : Value := (Keyed.get? name c.registers).getD .nil

/-- Sets a register. -/
def setRegister (name : String) (value : Value) (c : Context) : Context :=
  { c with registers := Keyed.insert name value c.registers }

/-- An entry of a register that is a dictionary; nil if there is none. -/
def registerEntry (group key : String) (c : Context) : Value :=
  match Keyed.get? group c.registers with
  | some (.dict entries) => (Keyed.get? key entries).getD .nil
  | _ => .nil

/-- Sets an entry of a register. A register that is no dictionary becomes one. -/
def setRegisterEntry (group key : String) (value : Value) (c : Context) : Context :=
  let entries := match Keyed.get? group c.registers with
    | some (.dict entries) => entries
    | _ => []
  c.setRegister group (.dict (Keyed.insert key value entries))

/-! ### Attributes -/

/-- What an object of the host sees of the context. -/
def view (c : Context) : View where
  scopes := c.scopes.map (Keyed.mapValues Value.normalize)
  registers := c.registers
  filters := c.filters

/-- The value of an attribute. -/
def read (c : Context) (object : Drop) (name : String) : Value :=
  c.attributes object name c.view

end Context

end Liquid
