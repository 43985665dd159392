import Rulebook.Compile.Basic
import Rulebook.Extract
import Rulebook.Function.Builtin

/-!
# Traces

What compiling and extraction notice on their way, as events in the order in which they are noticed.

* `Compile.trace` follows `compile`: the events of the children of a node come first, then those of its directives,
  and a node that compiles ends with an event of its own. Where compiling fails, the events end.
* `Extract.trace` follows `extract`: the rules of a node that have no directive, then the events of its children.
* `Registry.trace` names the configured functions that take the place of others.
-/

namespace Rulebook

/-- How much an event matters. -/
inductive Level where
  | debug
  | warning
  deriving DecidableEq

/-- Something that is noticed on the way. -/
inductive Event where
  | replacedFunction (name : String)
  | ignoredProperties (type : TypeTag)
  | ignoredToggle (directive : String) (value : Json)
  | compiledNode (type : TypeTag) (directives : Nat)
  | omitted (cause : Omission)

/-- An omission in words. -/
def Omission.message : Omission → String
  | noOperator _ => "comparison without a directive operator; skipping"
  | noSign => "sign rule without a known sign; skipping"
  | unknown _ => "no directive for rule; skipping"
  | writeOnly _ => "write-only directive; skipping"
  | notData .. => "argument is not data; skipping rule"

/-- The particulars of an omission, by name. -/
def Omission.fields : Omission → List (String × String)
  | noOperator method => [("method", method)]
  | noSign => []
  | unknown method => [("method", method)]
  | writeOnly directive => [("directive", directive)]
  | notData directive argument kind => [("argument", argument), ("directive", directive), ("kind", kind)]

namespace Event

/-- How much the event matters. -/
def level : Event → Level
  | ignoredProperties _ | ignoredToggle .. => .warning
  | _ => .debug

/-- The event in words. -/
def message : Event → String
  | replacedFunction _ => "configured function overrides a builtin"
  | ignoredProperties _ => "ignoring 'properties' on a non-object description"
  | ignoredToggle .. => "toggle value is ignored; applying anyway"
  | compiledNode .. => "compiled description node"
  | omitted cause => cause.message

/-- The particulars of an event, by name. -/
def fields : Event → List (String × String)
  | replacedFunction name => [("function", name)]
  | ignoredProperties type => [("schema_type", type.text)]
  | ignoredToggle directive value => [("directive", directive), ("value", value.compact)]
  | compiledNode type count => [("directives", toString count), ("schema_type", type.text)]
  | omitted cause => cause.fields

end Event

/-- The configured functions that take the place of others. -/
def Registry.trace (specs : List (String × FunctionSpec)) : List Event :=
  (Registry.replaced builtins specs).map .replacedFunction

/-! ## Compiling -/

/-- The description inside the value of a directive that is reached when the value is read. -/
def Call.inner? (type : TypeTag) (row : Directive) (value : Json) : Option Description :=
  match row.category, value with
  | .pattern, .obj members =>
    if isKeyMarker value || (pattern (.obj (Table.without members ["schema", "options"]))).toOption.isNone
        || type != .object then none
    else (Table.get? members "schema").bind fun schema => (Description.ofJson schema).toOption
  | .bespoke .condition, .obj members =>
    if Table.has members "reference" then none
    else (Table.get? members "schema").bind fun schema => (Description.ofJson schema).toOption
  | _, _ => none

namespace Compile

/-- Whether a value of a toggle is one that is ignored. -/
def toggleEvents (row : Directive) (value : Json) : List Event :=
  match row.category with
  | .toggle => if value.isTrue then [] else [.ignoredToggle row.name value]
  | _ => []

/-- The events of properties, up to the first that does not compile. -/
def childrenTrace (nested : Description → Call.Outcome Validator) (inner : Description → List Event) :
    List (String × Description) → List Event
  | [] => []
  | (_, child) :: rest =>
    inner child ++ (if (nested child).isOk then childrenTrace nested inner rest else [])

/-- The events of the properties of a node, and a warning where they do not count. -/
def seedTrace (nested : Description → Call.Outcome Validator) (inner : Description → List Event)
    (d : Description) : List Event :=
  match d.type, d.properties with
  | _, none => []
  | .object, some properties => childrenTrace nested inner properties
  | type, some _ => [.ignoredProperties type]

/-- The events of a directive. -/
def directiveTrace (inner : Description → List Event) (type : TypeTag) (name : String) (value : Json) : List Event :=
  match Grammar.lookup name with
  | none => []
  | some row => toggleEvents row value ++ ((Call.inner? type row value).map inner).getD []

/-- The events of directives, up to the first that does not apply. -/
def directivesTrace (nested : Description → Call.Outcome Validator) (inner : Description → List Event)
    (functions : Registry) (type : TypeTag) (v : Validator) : List (String × Json) → List Event
  | [] => []
  | (name, value) :: rest =>
    directiveTrace inner type name value
      ++ (match directive nested functions type v name value with
        | .error _ => []
        | .ok v => directivesTrace nested inner functions type v rest)

/-- The events of a node. -/
def nodeTrace (nested : Description → Call.Outcome Validator) (inner : Description → List Event)
    (functions : Registry) (d : Description) : List Event :=
  seedTrace nested inner d
    ++ (match seed nested d with
      | .error _ => []
      | .ok v => directivesTrace nested inner functions d.type v d.directives)
    ++ (if (node nested functions d).isOk then [.compiledNode d.type d.directives.length] else [])

/-- The events of descriptions up to a depth. -/
def traceWithin (functions : Registry) : Nat → Description → List Event
  | 0, _ => []
  | fuel + 1, d => nodeTrace (within functions fuel) (traceWithin functions fuel) functions d

/-- The events of compiling a description. -/
def trace (functions : Registry) (d : Description) : List Event := traceWithin functions d.depth d

end Compile

/-! ## Extraction -/

namespace Extract

/-- The event of a rule that has no directive. -/
def ruleEvent? {V : Type} (rule : Rule V) : Option Event :=
  match rule.directive with
  | .ok _ => none
  | .error cause => some (.omitted cause)

mutual
/-- The events of extracting from a validator. -/
def trace : Validator → List Event
  | ⟨type, _, _, _, _, rules, _, children⟩ =>
    rules.filterMap ruleEvent? ++ (if type = .object then traceChildren? children else [])
termination_by structural v => v

/-- The events of an optional table of children. -/
def traceChildren? : Option (List (String × Validator)) → List Event
  | none => []
  | some children => traceChildren children
termination_by structural children => children

/-- The events of children. -/
def traceChildren : List (String × Validator) → List Event
  | [] => []
  | (_, child) :: rest => trace child ++ traceChildren rest
termination_by structural children => children
end

end Extract

end Rulebook
