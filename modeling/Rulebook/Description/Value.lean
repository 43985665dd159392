import Rulebook.Description.Basic
import Rulebook.Unicode.Quoted

/-!
# Descriptions from JSON values

`Description.ofJson` reads a description from a JSON value. Members are read in their order, so the first fault in
that order is the one reported; a missing type is noticed last. The type is a name, or an object with one member
whose key is the name and whose value is null. Properties that are null count as absent.
-/

namespace Rulebook

/-- What stands where something else was expected. -/
inductive Found where
  | integer (value : Int)
  | float (value : Binary64)
  | boolean (value : Bool)
  | string (value : String)
  | null
  | sequence
  | map

/-- What was found, in words. -/
def Found.text : Found → String
  | integer value => "integer \x60" ++ toString value ++ "\x60"
  | float value =>
    let sign := if value.negative then "-" else ""
    "floating point \x60" ++ sign ++ String.ofList (Shortest.decimal value).positional ++ "\x60"
  | boolean value => "boolean \x60" ++ (if value then "true" else "false") ++ "\x60"
  | string value => "string " ++ Quoted.quote value
  | null => "null"
  | sequence => "sequence"
  | map => "map"

/-- What a value is found to be. -/
def Found.ofJson : Json → Found
  | .null => .null
  | .bool value => .boolean value
  | .num (.int value _) => .integer value
  | .num (.float value) => .float value
  | .str value => .string value
  | .arr _ => .sequence
  | .obj _ => .map

/-- Why a value is no description. -/
inductive DescriptionError where
  | notDescription (found : Found)
  | missingType
  | duplicateType
  | duplicateProperties
  | unknownType (name : String)
  | notType (found : Found)
  | notSingle
  | notUnit (found : Found)
  | notTable (found : Found)
  | stated (reason : String)

/-- The reason in words. -/
def DescriptionError.message : DescriptionError → String
  | notDescription found => "invalid type: " ++ found.text ++ ", expected struct SchemaDescription"
  | missingType => "missing field \x60type\x60"
  | duplicateType => "duplicate field \x60type\x60"
  | duplicateProperties => "duplicate field \x60properties\x60"
  | unknownType name =>
    "unknown variant \x60" ++ name ++ "\x60, expected one of "
      ++ ", ".intercalate (TypeTag.all.map fun tag => "\x60" ++ tag.text ++ "\x60")
  | notType found => "invalid type: " ++ found.text ++ ", expected string or map"
  | notSingle => "invalid value: map, expected map with a single key"
  | notUnit found => "invalid type: " ++ found.text ++ ", expected unit"
  | notTable found => "invalid type: " ++ found.text ++ ", expected a map"
  | stated reason => reason

namespace Description

/-- Finds a type by name. -/
def typeNamed (name : String) : Except DescriptionError TypeTag :=
  match TypeTag.named? name with
  | some tag => .ok tag
  | none => .error (.unknownType name)

/-- Reads a type. -/
def typeOfJson : Json → Except DescriptionError TypeTag
  | .str name => typeNamed name
  | .obj [(name, value)] => do
    let tag ← typeNamed name
    match value with
    | .null => .ok tag
    | other => .error (.notUnit (.ofJson other))
  | .obj _ => .error .notSingle
  | other => .error (.notType (.ofJson other))

/-- The structural parts of a node found so far. -/
structure Parts where
  type : Option TypeTag := none
  properties : Option (List (String × Description)) := none
  directives : List (String × Json) := []

/-- The description of the parts of a node; it needs a type. -/
def Parts.finish (parts : Parts) : Except DescriptionError Description :=
  match parts.type with
  | some type => .ok ⟨type, parts.directives, parts.properties⟩
  | none => .error .missingType

mutual
/-- Reads a description from a value. -/
def ofJson : Json → Except DescriptionError Description
  | .obj members => ofMembers {} members
  | other => .error (.notDescription (.ofJson other))

/-- Reads the members of a node, in their order. -/
def ofMembers (parts : Parts) : List (String × Json) → Except DescriptionError Description
  | [] => parts.finish
  | (name, value) :: rest =>
    if name = "type" then
      match typeOfJson value with
      | .error e => .error e
      | .ok tag => ofMembers { parts with type := some tag } rest
    else if name = "properties" then
      match value with
      | .null => ofMembers { parts with properties := none } rest
      | .obj members =>
        match ofProperties members with
        | .error e => .error e
        | .ok properties => ofMembers { parts with properties := some properties } rest
      | other => .error (.notTable (.ofJson other))
    else ofMembers { parts with directives := parts.directives ++ [(name, value)] } rest

/-- Reads the properties of a node, in their order. -/
def ofProperties : List (String × Json) → Except DescriptionError (List (String × Description))
  | [] => .ok []
  | (name, value) :: rest =>
    match ofJson value with
    | .error e => .error e
    | .ok child =>
      match ofProperties rest with
      | .error e => .error e
      | .ok children => .ok ((name, child) :: children)
end

end Description

end Rulebook
