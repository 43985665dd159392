import Rulebook.Function.Basic
import Rulebook.Unicode.Case

/-!
# Built-in and configured functions

Six functions are always there. A configuration adds more of them under names of its own: a `FunctionSpec` is an
alias of a built-in function, or a comparator of one field of two objects.

* `Registry.builtins` holds the built-in functions, `Registry.ofSpecs` adds configured ones, which may take the place
  of a built-in function. A blank name is refused.
-/

namespace Rulebook

/-- The functions that are always there. -/
inductive Builtin where
  | deepEqual | caseInsensitive | identity | trim | lowercase | uppercase
  deriving DecidableEq

namespace Builtin

/-- Every built-in function. -/
def all : List Builtin := [deepEqual, caseInsensitive, identity, trim, lowercase, uppercase]

/-- The name of a built-in function. -/
def name : Builtin → String
  | deepEqual => "deep-equal"
  | caseInsensitive => "case-insensitive"
  | identity => "identity"
  | trim => "trim"
  | lowercase => "lowercase"
  | uppercase => "uppercase"

/-- The built-in function with a name. -/
def named? (name : String) : Option Builtin := all.find? fun b => b.name == name

/-- Maps a string and leaves other values alone. -/
def onText (maps : String → String) : Json → Json
  | .str s => .str (maps s)
  | other => other

/-- Whether two values are equal, strings without regard to case. -/
def sameButCase : Json → Json → Bool
  | .str a, .str b => Case.lower a == Case.lower b
  | a, b => a.same b

/-- What a built-in function does. -/
def function : Builtin → Function
  | deepEqual => .comparator Json.same
  | caseInsensitive => .comparator sameButCase
  | identity => .transform id
  | trim => .transform (onText Case.trim)
  | lowercase => .transform (onText Case.lower)
  | uppercase => .transform (onText Case.upper)

end Builtin

/-- Whether two objects hold equal values under a name. -/
def Json.sameField (name : String) (a b : Json) : Bool :=
  match a.field? name, b.field? name with
  | some x, some y => x.same y
  | _, _ => false

/-- A function as a configuration describes it. -/
inductive FunctionSpec where
  | builtin (builtin : Builtin)
  | fieldEquals (field : String)
  deriving DecidableEq

namespace FunctionSpec

/-- The function that is described. -/
def function : FunctionSpec → Function
  | builtin b => b.function
  | fieldEquals field => .comparator (Json.sameField field)

/-- The key of a field comparator. -/
def fieldKey : String := "field-equals"

/-- Reads the object form of an alias: one member that is null, under the name of the built-in function. -/
def aliasOfMembers? : List (String × Json) → Option FunctionSpec
  | [(name, .null)] => (Builtin.named? name).map builtin
  | _ => none

/-- Reads the object form of a field comparator; other members do not matter. -/
def fieldOfMembers? (members : Table Json) : Option FunctionSpec :=
  ((Table.get? members fieldKey).bind Json.text?).map fieldEquals

/-- Reads a description of a function. -/
def ofJson? : Json → Option FunctionSpec
  | .str name => (Builtin.named? name).map builtin
  | .obj members => (aliasOfMembers? members).or (fieldOfMembers? members)
  | _ => none

/-- The description as a value. -/
def toJson : FunctionSpec → Json
  | builtin b => .str b.name
  | fieldEquals field => .obj [(fieldKey, .str field)]

end FunctionSpec

namespace Registry

/-- The built-in functions under their names. -/
def builtins : Registry := Builtin.all.map fun b => (b.name, b.function)

/-- Whether a name holds nothing but blanks. -/
def isBlankName (name : String) : Bool := name.toList.all Case.isBlank

/-- Adds configured functions one after another; there is none for a blank name. -/
def addSpecs (registry : Registry) : List (String × FunctionSpec) → Option Registry
  | [] => some registry
  | (name, spec) :: rest =>
    if isBlankName name then none else addSpecs (Table.put registry name spec.function) rest

/-- The built-in functions and the configured ones. -/
def ofSpecs (specs : List (String × FunctionSpec)) : Option Registry := addSpecs builtins specs

/-- The names among the configured ones that take the place of a function that was there before. -/
def replaced (registry : Registry) : List (String × FunctionSpec) → List String
  | [] => []
  | (name, spec) :: rest =>
    if isBlankName name then []
    else
      (if Table.has registry name then [name] else []) ++ replaced (Table.put registry name spec.function) rest

end Registry

end Rulebook
