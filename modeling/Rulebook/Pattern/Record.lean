import Rulebook.Pattern.Basic

/-!
# Patterns in descriptions

In a description a pattern is a text form or a record `pattern`, `flags`, `name`, `invert`, of which only the first
is required. Flags of a record are added to those of its text form.

`Pattern.ofJson` reads a pattern and `Pattern.toJson` writes it: as text, or as a record when it has a name or is
inverted.
-/

namespace Rulebook
namespace Pattern

/-- Adds flag letters; none is unknown, and one that is there already is no fault. -/
def extendFlags : List Char → List Char → Except PatternError (List Char)
  | set, [] => .ok set
  | set, c :: rest => if isFlag c then extendFlags (addFlag c set) rest else .error (.unsupportedExtraFlag c)

/-- The source of a text form. -/
def sourceOf (text : String) : String :=
  match splitLiteral text.toList with
  | some (source, _) => String.ofList source
  | none => text

/-- Applies the members of a record besides its text form, in their order. -/
def withMembers (written : String) : Pattern → List (String × Json) → Except PatternError Pattern
  | p, [] => .ok p
  | p, (name, value) :: rest =>
    if name = "pattern" then withMembers written p rest
    else
      match name, value with
      | "flags", .str extra => do
        let q ← compile (sourceOf written) (← extendFlags p.flags extra.toList)
        withMembers written { q with name := p.name, invert := p.invert } rest
      | "name", .str label => withMembers written { p with name := some label } rest
      | "invert", .bool flag => withMembers written { p with invert := flag } rest
      | _, _ => .error (.unsupportedOption name)

/-- Reads a record. -/
def ofRecord (members : Table Json) : Except PatternError Pattern :=
  match Table.get? members "pattern" with
  | some (.str written) => do withMembers written (← parse written) members
  | some other => .error (.notText other)
  | none => .error .missing

/-- Reads a pattern: a text form or a record. -/
def ofJson (value : Json) : Except PatternError Pattern :=
  match value with
  | .str written => parse written
  | .obj members => ofRecord members
  | other => .error (.notPattern other)

/-- The pattern in a description. -/
def toJson (p : Pattern) : Json :=
  if p.name.isNone && !p.invert then .str p.text
  else
    .obj (("pattern", .str p.text)
      :: ((match p.name with
          | some label => [("name", .str label)]
          | none => [])
        ++ (if p.invert then [("invert", .bool true)] else [])))

end Pattern
end Rulebook
