import Rulebook.Compile.Basic

/-!
# Compiling with any engine

The compiler asks an engine for validators and makes method calls on them. It looks into none of them, so the same
work is done with every engine, whatever its validators are.

* `Engine` is what an engine offers. `Engine.memory` keeps a record of the calls.
* `Engine.compile` compiles a description with an engine; what it does with `Engine.memory` is `compile`.
-/

namespace Rulebook

/-- An engine with validators of type `V`. -/
structure Engine (V : Type) where
  /-- A validator of values of a type. -/
  base : TypeTag → Except EngineError V
  /-- A validator of objects, with validators of the children if they are known. -/
  object : Option (List (String × V)) → Except EngineError V
  /-- Calls a method of a validator. -/
  apply : V → String → List (Argument V) → Except EngineError V

namespace Engine

/-- The engine that records calls. -/
def memory : Engine Validator where
  base type := .ok (.ofType type)
  object children := .ok (.ofChildren children)
  apply := Validator.apply

variable {V : Type} (engine : Engine V)

/-- Compiles properties one after another. -/
def children (nested : Description → Call.Outcome V) : List (String × Description) → Call.Outcome (List (String × V))
  | [] => .ok []
  | (name, child) :: rest => do
    let v ← nested child
    return (name, v) :: (← children nested rest)

/-- The validator that a node starts from. Properties count only on objects. -/
def seed (nested : Description → Call.Outcome V) (d : Description) : Call.Outcome V :=
  match d.type, d.properties with
  | .object, none => (engine.object none).mapError .engine
  | .object, some properties => do
    let vs ← children nested properties
    (engine.object (some vs)).mapError .engine
  | type, _ => (engine.base type).mapError .engine

/-- Makes calls one after another. -/
def run (v : V) : List (Call V) → Call.Outcome V
  | [] => .ok v
  | call :: rest => do
    let v ← (engine.apply v call.method call.args).mapError .engine
    run v rest

/-- Applies a directive. -/
def directive (nested : Description → Call.Outcome V) (functions : Registry) (type : TypeTag) (v : V) (name : String)
    (value : Json) : Call.Outcome V :=
  match Grammar.lookup name with
  | none => .error (.unknownDirective name)
  | some row => do
    let calls ← Call.ofDirective nested functions type row value
    engine.run v calls

/-- Applies directives one after another. -/
def directives (nested : Description → Call.Outcome V) (functions : Registry) (type : TypeTag) (v : V) :
    List (String × Json) → Call.Outcome V
  | [] => .ok v
  | (name, value) :: rest => do
    let v ← engine.directive nested functions type v name value
    directives nested functions type v rest

/-- Compiles a node, given a way to compile the descriptions inside it. -/
def node (nested : Description → Call.Outcome V) (functions : Registry) (d : Description) : Call.Outcome V := do
  let v ← engine.seed nested d
  engine.directives nested functions d.type v d.directives

/-- Compiles descriptions up to a depth; deeper ones are left without rules. -/
def within (functions : Registry) : Nat → Description → Call.Outcome V
  | 0, d => (engine.base d.type).mapError .engine
  | fuel + 1, d => engine.node (within functions fuel) functions d

/-- Compiles a description. -/
def compile (functions : Registry) (d : Description) : Call.Outcome V := engine.within functions d.depth d

end Engine

end Rulebook
