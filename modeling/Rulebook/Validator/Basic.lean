import Rulebook.Description.Basic
import Rulebook.Pattern.Record
import Rulebook.Reference.Operand

/-!
# Validators

A validator holds what has been recorded for one value: its type, flags, sets of allowed and refused values,
replacement terms, rules, and the validators of an object's children. It never judges data.

* An `Argument` is plain data, a reference, a pattern, a function, or another validator; the type of the latter
  is a parameter, so that arguments can be planned before their validators exist.
* A `Rule` is a method with a comparison operator, where it has one, and a bag of named arguments.
* `Validator.same` compares validators the way their parts compare: data as values, references by notation,
  functions by name and kind, bags and children without regard to order.
-/

namespace Rulebook

/-- Whether a value has to be there. -/
inductive Presence where
  | required | optional | forbidden
  deriving DecidableEq

namespace Presence

/-- The name of a presence. -/
def text : Presence → String
  | required => "required"
  | optional => "optional"
  | forbidden => "forbidden"

/-- The presence with a name. -/
def named? (name : String) : Option Presence := [required, optional, forbidden].find? fun p => p.text == name

end Presence

/-- How a size rule compares. -/
inductive Operator where
  | greaterOrEqual | lessOrEqual | less | greater | equal
  deriving DecidableEq

namespace Operator

/-- Every operator. -/
def all : List Operator := [greaterOrEqual, lessOrEqual, less, greater, equal]

/-- The sign of an operator. -/
def symbol : Operator → String
  | greaterOrEqual => ">="
  | lessOrEqual => "<="
  | less => "<"
  | greater => ">"
  | equal => "="

/-- The directive that a size rule with the operator comes from; equality has none of its own. -/
def directive? : Operator → Option String
  | greaterOrEqual => some "min"
  | lessOrEqual => some "max"
  | less => some "less"
  | greater => some "greater"
  | equal => none

end Operator

/-- An argument of a method, with validators of type `V`. -/
inductive Argument (V : Type) where
  | value (value : Json)
  | reference (reference : Reference)
  | pattern (pattern : Pattern)
  | function (function : NamedFunction)
  | schema (schema : V)

namespace Argument

variable {V : Type}

/-- The argument of an operand. -/
def ofOperand : Operand → Argument V
  | .literal v => value v
  | .reference r => reference r

/-- The word for the kind of an argument. -/
def kind : Argument V → String
  | value _ => "value"
  | reference _ => "reference"
  | pattern _ => "pattern"
  | function _ => "function"
  | schema _ => "schema"

/-- The operand of an argument that is data or a reference. -/
def operand? : Argument V → Option Operand
  | value v => some (.literal v)
  | reference r => some (.reference r)
  | _ => none

/-- The text of an argument that is a string. -/
def text? : Argument V → Option String
  | value (.str s) => some s
  | _ => none

/-- Whether the argument is an object. -/
def isObject : Argument V → Bool
  | value (.obj _) => true
  | _ => false

/-- Whether the argument is plain data. -/
def isValue : Argument V → Bool
  | value _ => true
  | _ => false

/-- Whether the argument is a function. -/
def isFunction : Argument V → Bool
  | function _ => true
  | _ => false

/-- Whether the argument is a reference. -/
def isReference : Argument V → Bool
  | reference _ => true
  | _ => false

/-- Whether the argument is a validator. -/
def isSchema : Argument V → Bool
  | schema _ => true
  | _ => false

/-- The argument as data; functions and validators are none. -/
def data? : Argument V → Option Json
  | value v => some v
  | reference r => some r.toJson
  | pattern p => some p.toJson
  | function _ => none
  | schema _ => none

end Argument

/-- A recorded rule. -/
structure Rule (V : Type) where
  method : String
  operator : Option Operator := none
  args : List (String × Argument V) := []

/-- Values that are allowed or refused, literals apart from references. -/
structure ValueSet where
  values : List Json := []
  references : List Reference := []

namespace ValueSet

/-- Adds an operand unless an equal one is there. -/
def insert (set : ValueSet) : Operand → ValueSet
  | .literal v => if set.values.any (·.same v) then set else { set with values := set.values ++ [v] }
  | .reference r =>
    if set.references.any (·.same r) then set else { set with references := set.references ++ [r] }

/-- Adds operands one after another. -/
def insertAll (set : ValueSet) (operands : List Operand) : ValueSet := operands.foldl insert set

/-- Whether the set holds nothing. -/
def isEmpty (set : ValueSet) : Bool := set.values.isEmpty && set.references.isEmpty

/-- Whether two sets hold the same in the same order. -/
def same (a b : ValueSet) : Bool :=
  Json.sameItems a.values b.values
    && a.references.length == b.references.length && (a.references.zip b.references).all fun p => p.1.same p.2

end ValueSet

/-- A replacement in a text: what matches the pattern becomes the given value. -/
structure Replacement where
  pattern : Pattern
  replacement : Json

/-- What is recorded for one value. -/
structure Validator where
  type : TypeTag
  presence : Option Presence := none
  default : Option Operand := none
  valid : Option ValueSet := none
  invalid : Option ValueSet := none
  rules : List (Rule Validator) := []
  replacements : List Replacement := []
  children : Option (List (String × Validator)) := none

namespace Validator

/-- A validator with nothing recorded. -/
def ofType (type : TypeTag) : Validator := { type }

/-- A validator of objects with the given children, if any. -/
def ofChildren (children : Option (List (String × Validator))) : Validator := { type := .object, children }

/-- Whether two optional values are both absent or both there and related. -/
def sameOption {α : Type} (same : α → α → Bool) : Option α → Option α → Bool
  | none, none => true
  | some a, some b => same a b
  | _, _ => false

/-- Whether two replacements are the same. -/
def sameReplacement (a b : Replacement) : Bool := a.pattern == b.pattern && a.replacement.same b.replacement

mutual
/-- Whether two validators hold the same. -/
def same : Validator → Validator → Bool
  | ⟨type, presence, default, valid, invalid, rules, replacements, children⟩, w =>
    type == w.type && presence == w.presence && sameOption Operand.same default w.default
      && sameOption ValueSet.same valid w.valid && sameOption ValueSet.same invalid w.invalid
      && sameRules rules w.rules
      && replacements.length == w.replacements.length
      && (replacements.zip w.replacements).all (fun p => sameReplacement p.1 p.2)
      && sameChildren? children w.children
termination_by structural v => v

/-- Whether two lists of rules hold the same rules in the same order. -/
def sameRules : List (Rule Validator) → List (Rule Validator) → Bool
  | [], [] => true
  | rule :: rest, r :: more => sameRule rule r && sameRules rest more
  | _, _ => false
termination_by structural rules => rules

/-- Whether two rules are the same. -/
def sameRule : Rule Validator → Rule Validator → Bool
  | ⟨method, operator, args⟩, r =>
    method == r.method && operator == r.operator && args.length == r.args.length && sameArgs args r.args
termination_by structural rule => rule

/-- Whether each listed argument is the same under its name in a bag. -/
def sameArgs : List (String × Argument Validator) → List (String × Argument Validator) → Bool
  | [], _ => true
  | (name, arg) :: rest, bag =>
    (match Table.get? bag name with
      | some other => sameArg arg other
      | none => false) && sameArgs rest bag
termination_by structural args => args

/-- Whether two arguments are the same. -/
def sameArg : Argument Validator → Argument Validator → Bool
  | .value v, other => match other with
    | .value w => v.same w
    | _ => false
  | .reference r, other => match other with
    | .reference q => r.same q
    | _ => false
  | .pattern p, other => match other with
    | .pattern q => p == q
    | _ => false
  | .function f, other => match other with
    | .function g => f.same g
    | _ => false
  | .schema v, other => match other with
    | .schema w => same v w
    | _ => false
termination_by structural arg => arg

/-- Whether two optional tables of children are both absent or hold the same. -/
def sameChildren? : Option (List (String × Validator)) → Option (List (String × Validator)) → Bool
  | none, none => true
  | some cs, some ds => cs.length == ds.length && sameChildren cs ds
  | _, _ => false
termination_by structural children => children

/-- Whether each listed child is the same under its name in a table. -/
def sameChildren : List (String × Validator) → List (String × Validator) → Bool
  | [], _ => true
  | (name, child) :: rest, table =>
    (match Table.get? table name with
      | some other => same child other
      | none => false) && sameChildren rest table
termination_by structural children => children
end

end Validator

end Rulebook
