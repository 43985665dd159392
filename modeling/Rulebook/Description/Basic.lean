import Rulebook.Json.Basic

/-!
# Descriptions

A description is a tree of plain data: each node has a type, directives in the order in which they apply, and, for
objects, named properties that are descriptions again.

* `Description.count` counts directives through every property.
* `Description.toJson` writes a description as one flat object: the type, the directives, the properties. A
  directive that is called `type` or `properties` is one more member of that object; the later write wins.
-/

namespace Rulebook

/-- The types of values that a description speaks of. -/
inductive TypeTag where
  | any | alternatives | array | boolean | binary | date | function | link | number | object | string | symbol
  deriving DecidableEq, Inhabited

namespace TypeTag

/-- Every type. -/
def all : List TypeTag :=
  [any, alternatives, array, boolean, binary, date, function, link, number, object, string, symbol]

/-- The name of a type. -/
def text : TypeTag → String
  | any => "any"
  | alternatives => "alternatives"
  | array => "array"
  | boolean => "boolean"
  | binary => "binary"
  | date => "date"
  | function => "function"
  | link => "link"
  | number => "number"
  | object => "object"
  | string => "string"
  | symbol => "symbol"

/-- The type with a name. -/
def named? (name : String) : Option TypeTag := all.find? fun tag => tag.text == name

/-- Whether size rules on the type compare the value itself and not its length. -/
def comparesByValue : TypeTag → Bool
  | number | date => true
  | _ => false

end TypeTag

/-- A node of a description. -/
structure Description where
  type : TypeTag
  directives : List (String × Json)
  properties : Option (List (String × Description))
  deriving Inhabited

namespace Description

/-- A description without directives and properties. -/
def ofType (type : TypeTag) : Description := ⟨type, [], none⟩

/-- Writes a directive; a known one keeps its place. -/
def withDirective (d : Description) (name : String) (value : Json) : Description :=
  { d with directives := Table.put d.directives name value }

/-- Writes a property; a known one keeps its place. -/
def withProperty (d : Description) (name : String) (child : Description) : Description :=
  { d with properties := some (Table.put (d.properties.getD []) name child) }

/-- The value of a directive. -/
def directive? (d : Description) (name : String) : Option Json := Table.get? d.directives name

mutual
/-- The number of directives, through every property. -/
def count : Description → Nat
  | ⟨_, directives, none⟩ => directives.length
  | ⟨_, directives, some properties⟩ => directives.length + countAll properties

/-- The number of directives of a list of properties. -/
def countAll : List (String × Description) → Nat
  | [] => 0
  | (_, child) :: rest => count child + countAll rest
end

mutual
/-- The description as one flat object. -/
def toJson : Description → Json
  | ⟨type, directives, none⟩ => .obj (Table.ofList (("type", .str type.text) :: directives))
  | ⟨type, directives, some properties⟩ =>
    .obj (Table.ofList (("type", .str type.text) :: (directives ++ [("properties", .obj (toJsonAll properties))])))

/-- Properties as members of an object. -/
def toJsonAll : List (String × Description) → List (String × Json)
  | [] => []
  | (name, child) :: rest => (name, toJson child) :: toJsonAll rest
end

end Description

end Rulebook
