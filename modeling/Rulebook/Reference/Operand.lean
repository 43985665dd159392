import Rulebook.Reference.Basic

/-!
# Operands

An operand is a literal value or a reference. In a description a reference is an object with the key `$ref`, whose
text is the notation, and the optional keys `in` and `adjust`; every other value is a literal.

* `Operand.ofJson` and `Operand.toJson` read and write operands, `Reference.toJson` writes a reference.
* `Reference.ofNotation` reads a value that must be a reference: notation text or such an object.
-/

namespace Rulebook

/-- A literal value or a reference. -/
inductive Operand where
  | literal (value : Json)
  | reference (reference : Reference)

namespace Reference

/-- The key that marks a reference object. -/
def key : String := "$ref"

/-- Applies the members besides the notation, in their order. -/
def withOptions : Reference → List (String × Json) → Except ReferenceError Reference
  | r, [] => .ok r
  | r, (name, value) :: rest =>
    if name = key then withOptions r rest
    else
      match name, value with
      | "in", .bool flag => withOptions { r with isIn := flag } rest
      | "adjust", .str adjust =>
        if adjust = "" then .error (.unsupportedOption name)
        else withOptions { r with adjust := some adjust } rest
      | _, _ => .error (.unsupportedOption name)

/-- Reads a reference object with the given notation member. -/
def ofMembers (written : Json) (members : Table Json) : Except ReferenceError Reference :=
  match written with
  | .str text => do withOptions (← parse text) members
  | other => .error (.notText other)

/-- Reads a value that must be a reference. -/
def ofNotation (value : Json) : Except ReferenceError Reference :=
  match value with
  | .str text => parse text
  | .obj members =>
    match Table.get? members key with
    | some written => ofMembers written members
    | none => .error (.notNotation value)
  | _ => .error (.notNotation value)

/-- The reference as an object. -/
def toJson (r : Reference) : Json :=
  .obj ((key, .str r.text)
    :: ((if r.isIn then [("in", .bool true)] else [])
      ++ (match r.adjust with
        | some adjust => [("adjust", .str adjust)]
        | none => [])))

end Reference

namespace Operand

/-- Reads an operand: an object with the reference key is a reference, all else a literal. -/
def ofJson (value : Json) : Except ReferenceError Operand :=
  match value with
  | .obj members =>
    match Table.get? members Reference.key with
    | some written => (Reference.ofMembers written members).map .reference
    | none => .ok (.literal value)
  | _ => .ok (.literal value)

/-- The operand as a value. -/
def toJson : Operand → Json
  | literal value => value
  | reference r => r.toJson

/-- Equality of operands: literals as values, references by notation. -/
def same : Operand → Operand → Bool
  | literal a, literal b => a.same b
  | reference a, reference b => a.same b
  | _, _ => false

end Operand

end Rulebook
