import Rulebook.Compile.Call

/-!
# Compiling descriptions

A description is compiled node by node: the children of an object first, in their order, then the directives of
the node in theirs, each as method calls on the validator made so far. The first fault ends the work.

* `Compile.node` compiles a node by a given way to compile the descriptions inside it.
* `compile` is the way that uses itself. A description inside another is less deep, which bounds the recursion.
-/

namespace Rulebook

namespace Description

mutual
/-- How deep the description is, nested values included. -/
def depth : Description → Nat
  | ⟨_, directives, none⟩ => Json.depthMembers directives + 1
  | ⟨_, directives, some properties⟩ => max (Json.depthMembers directives) (depthAll properties) + 1

/-- The deepest of a list of properties. -/
def depthAll : List (String × Description) → Nat
  | [] => 0
  | (_, child) :: rest => max (depth child) (depthAll rest)
end

end Description

namespace Compile

open Call (Outcome)

/-- Compiles properties one after another. -/
def children (nested : Description → Outcome Validator) :
    List (String × Description) → Outcome (List (String × Validator))
  | [] => .ok []
  | (name, child) :: rest =>
    match nested child with
    | .error e => .error e
    | .ok v =>
      match children nested rest with
      | .error e => .error e
      | .ok vs => .ok ((name, v) :: vs)

/-- The validator that a node starts from. Properties count only on objects. -/
def seed (nested : Description → Outcome Validator) (d : Description) : Outcome Validator :=
  match d.type, d.properties with
  | .object, none => .ok (.ofChildren none)
  | .object, some properties =>
    match children nested properties with
    | .error e => .error e
    | .ok vs => .ok (.ofChildren (some vs))
  | type, _ => .ok (.ofType type)

/-- Makes calls one after another. -/
def run (v : Validator) : List (Call Validator) → Outcome Validator
  | [] => .ok v
  | call :: rest =>
    match v.apply call.method call.args with
    | .error e => .error (.engine e)
    | .ok v => run v rest

/-- Applies a directive. -/
def directive (nested : Description → Outcome Validator) (functions : Registry) (type : TypeTag) (v : Validator)
    (name : String) (value : Json) : Outcome Validator :=
  match Grammar.lookup name with
  | none => .error (.unknownDirective name)
  | some row =>
    match Call.ofDirective nested functions type row value with
    | .error e => .error e
    | .ok calls => run v calls

/-- Applies directives one after another. -/
def directives (nested : Description → Outcome Validator) (functions : Registry) (type : TypeTag) (v : Validator) :
    List (String × Json) → Outcome Validator
  | [] => .ok v
  | (name, value) :: rest =>
    match directive nested functions type v name value with
    | .error e => .error e
    | .ok v => directives nested functions type v rest

/-- Compiles a node, given a way to compile the descriptions inside it. -/
def node (nested : Description → Outcome Validator) (functions : Registry) (d : Description) : Outcome Validator :=
  match seed nested d with
  | .error e => .error e
  | .ok v => directives nested functions d.type v d.directives

/-- Compiles descriptions up to a depth; deeper ones are left without rules. -/
def within (functions : Registry) : Nat → Description → Outcome Validator
  | 0, d => .ok (.ofType d.type)
  | fuel + 1, d => node (within functions fuel) functions d

end Compile

/-- Compiles a description. -/
def compile (functions : Registry) (d : Description) : Except CompileError Validator :=
  Compile.within functions d.depth d

end Rulebook
