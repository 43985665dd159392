import Rulebook.Description.Value
import Rulebook.Json.Outline

/-!
# Descriptions from texts

`Description.parse` reads a description from the first JSON value of a text. It goes through the text in order, so
the first fault is reported with the path of the node that holds it; where the text is malformed before any other
fault, that is the fault. A text that is followed by something else is read all the same.
-/

namespace Rulebook

/-- A fault in the text of a description. -/
inductive TextError where
  | malformed
  | invalid (path : List String) (cause : DescriptionError)
  | stated (reason : String)

/-- The fault in words; the root has the path `.`. -/
def TextError.message : TextError → String
  | malformed => "invalid JSON"
  | invalid path cause =>
    "at JSON path " ++ (if path.isEmpty then "." else ".".intercalate path) ++ ": " ++ cause.message
  | stated reason => reason

/-- The fault seen from the node that holds the given member. -/
def TextError.under (name : String) : TextError → TextError
  | malformed => malformed
  | invalid path cause => invalid (name :: path) cause
  | stated reason => stated reason

/-- What an outline is found to be, unless it is broken. -/
def Found.ofOutline? : Outline → Option Found
  | .null => some .null
  | .bool value => some (.boolean value)
  | .num (.int value _) => some (.integer value)
  | .num (.float value) => some (.float value)
  | .str value => some (.string value)
  | .arr _ _ => some .sequence
  | .obj _ _ => some .map
  | .broken => none

namespace Description

/-- A fault of the node itself about what was found there. -/
def mismatch (outline : Outline) (cause : Found → DescriptionError) : TextError :=
  match Found.ofOutline? outline with
  | some found => .invalid [] (cause found)
  | none => .malformed

/-- Reads a type. In a text a type is a name or an object with one member. -/
def typeOfOutline : Outline → Except TextError TypeTag
  | .str name => (typeNamed name).mapError (.invalid [])
  | .obj ((name, value) :: rest) closed =>
    match typeNamed name with
    | .error e => .error (.invalid [] e)
    | .ok tag =>
      match value with
      | .null => if rest.isEmpty && closed then .ok tag else .error .malformed
      | other => .error ((mismatch other .notUnit).under name)
  | _ => .error .malformed

/-- What was read of a node: whether properties were seen, besides the parts. -/
structure Reading where
  parts : Parts := {}
  sawProperties : Bool := false

mutual
/-- Reads a description from an outline. -/
def ofOutline : Outline → Except TextError Description
  | .obj members closed => ofOutlineMembers {} closed members
  | other => .error (mismatch other .notDescription)

/-- Reads the members of a node, in the order of the text. -/
def ofOutlineMembers (reading : Reading) (closed : Bool) : List (String × Outline) → Except TextError Description
  | [] =>
    if closed then
      (Parts.finish { reading.parts with directives := Table.ofList reading.parts.directives }).mapError
        (.invalid [])
    else .error .malformed
  | (name, value) :: rest =>
    if name = "type" then
      if reading.parts.type.isSome then .error (.invalid [] .duplicateType)
      else
        match typeOfOutline value with
        | .error e => .error (e.under name)
        | .ok tag =>
          ofOutlineMembers { reading with parts := { reading.parts with type := some tag } } closed rest
    else if name = "properties" then
      if reading.sawProperties then .error (.invalid [] .duplicateProperties)
      else
        match value with
        | .null => ofOutlineMembers { reading with sawProperties := true } closed rest
        | .obj members whole =>
          match ofOutlineProperties members with
          | .error e => .error (e.under name)
          | .ok properties =>
            if whole then
              ofOutlineMembers
                { sawProperties := true
                  parts := { reading.parts with properties := some (Table.ofList properties) } } closed rest
            else .error .malformed
        | other => .error ((mismatch other .notTable).under name)
    else
      match value.json? with
      | none => .error .malformed
      | some json =>
        let parts := { reading.parts with directives := reading.parts.directives ++ [(name, json)] }
        ofOutlineMembers { reading with parts } closed rest

/-- Reads the properties of a node, in the order of the text. -/
def ofOutlineProperties : List (String × Outline) → Except TextError (List (String × Description))
  | [] => .ok []
  | (name, value) :: rest =>
    match ofOutline value with
    | .error e => .error (e.under name)
    | .ok child =>
      match ofOutlineProperties rest with
      | .error e => .error e
      | .ok children => .ok ((name, child) :: children)
end

/-- Reads the description at the front of a text. -/
def parse (text : String) : Except TextError Description := ofOutline (Outline.read text.toList).1

end Description

end Rulebook
