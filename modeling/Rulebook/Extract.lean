import Rulebook.Grammar
import Rulebook.Validator.Basic

/-!
# Extracting descriptions

`extract` rebuilds a description from a validator: allowed and refused values, the default, the presence, a directive
for each rule that can be told as data, the replacements, and the properties of an object. Compiling the result
gives an equivalent validator for the reversible part of the grammar.

`Rule.directive` is the directive of a single rule, or the reason why it has none.
-/

namespace Rulebook

/-- Why a rule has no directive. -/
inductive Omission where
  | noOperator (method : String)
  | noSign
  | unknown (method : String)
  | writeOnly (directive : String)
  | notData (directive argument kind : String)
  deriving DecidableEq

namespace Rule

variable {V : Type}

/-- The keys whose value stands for the whole bag when they are alone in it. -/
def plainKeys : List String := ["limit", "base", "peers"]

/-- The bag with the members of its options object lifted into it; a key of the bag goes first. -/
def mergeOptions (bag : Table Json) : Table Json :=
  match Table.get? bag "options" with
  | some (.obj options) => options.foldl (fun t e => Table.putNew t e.1 e.2) (Table.swapErase bag "options")
  | some _ => Table.swapErase bag "options"
  | none => bag

/-- The value of a bag: `true` when it is empty, its only value under a plain key or the name of the directive or
method, and otherwise the whole object. -/
def flatten (bag : Table Json) (name method : String) : Json :=
  match bag with
  | [] => .bool true
  | [(key, value)] => if plainKeys.contains key || key == name || key == method then value else .obj bag
  | _ => .obj bag

/-- The value of a pattern rule: the pattern, with its options in one record. A rule without a pattern speaks of
the keys of an object. -/
def patternValue (bag : Table Json) : Json :=
  match Table.get? bag "regex", Table.get? bag "options" with
  | none, _ => .bool true
  | some regex, none => regex
  | some (.obj record), some options => .obj (Table.put record "options" options)
  | some regex, some options => .obj [("pattern", regex), ("options", options)]

/-- The arguments as data, or the first that is none. -/
def bag (directive : String) : List (String × Argument V) → Except Omission (Table Json)
  | [] => .ok []
  | (name, arg) :: rest =>
    match arg.data? with
    | none => .error (.notData directive name arg.kind)
    | some value =>
      match bag directive rest with
      | .error e => .error e
      | .ok more => .ok ((name, value) :: more)

/-- The value of a directive of a category, from the bag of a rule. -/
def value (category : Category) (bag : Table Json) (name method : String) : Json :=
  match category with
  | .optionalConfig => (Table.get? bag "options").getD (.bool true)
  | .pattern => patternValue bag
  | .bespoke .rename => flatten (mergeOptions bag) name method
  | .unary (.limit _) => flatten (mergeOptions bag) name method
  | .optionKeyed ⟨_, _, .options⟩ => flatten (mergeOptions bag) name method
  | _ => flatten bag name method

/-- The name of the directive that a rule comes from, unless it is about a sign. -/
def directiveName (rule : Rule V) : Except Omission String :=
  let named := if rule.method = "compare" ∨ rule.method = "length" then rule.operator.bind Operator.directive? else none
  match named with
  | some name => .ok name
  | none => if rule.method = "compare" then .error (.noOperator rule.method) else .ok rule.method

/-- The directive of a rule about a sign. -/
def signDirective (rule : Rule V) : Except Omission (String × Json) :=
  match Table.get? rule.args "sign" with
  | some (.value (.str sign)) =>
    if sign = "positive" ∨ sign = "negative" then .ok (sign, .bool true) else .error .noSign
  | _ => .error .noSign

/-- The directive of a rule: its name and value. -/
def directive (rule : Rule V) : Except Omission (String × Json) :=
  if rule.method = "sign" then signDirective rule
  else
    match directiveName rule with
    | .error e => .error e
    | .ok name =>
      match Grammar.lookup name with
      | none => .error (.unknown rule.method)
      | some row =>
        if row.reversible then
          match bag name rule.args with
          | .error e => .error e
          | .ok data => .ok (name, value row.category data name rule.method)
        else .error (.writeOnly name)

end Rule

/-- The members of a set as a list: literals, then references. -/
def ValueSet.toJson (set : ValueSet) : Json := .arr (set.values ++ set.references.map Reference.toJson)

/-- A replacement as an entry of a list. -/
def Replacement.toJson (r : Replacement) : Json := .obj [("find", r.pattern.toJson), ("replace", r.replacement)]

namespace Validator

/-- The directive of a set of values, unless it is absent or empty. -/
def setDirective (name : String) (set : Option ValueSet) : List (String × Json) :=
  match set with
  | none => []
  | some set => if set.isEmpty then [] else [(name, set.toJson)]

/-- The directives of a validator, in the order in which they are written. -/
def directives (v : Validator) : List (String × Json) :=
  setDirective "valid" v.valid ++ setDirective "invalid" v.invalid
    ++ (v.default.map fun operand => ("default", operand.toJson)).toList
    ++ (v.presence.map fun p => (p.text, .bool true)).toList
    ++ v.rules.filterMap (fun rule => rule.directive.toOption)
    ++ (if v.replacements.isEmpty then [] else [("replace", .arr (v.replacements.map Replacement.toJson))])

end Validator

mutual
/-- The description of a validator. -/
def extract : Validator → Description
  | ⟨type, presence, default, valid, invalid, rules, replacements, children⟩ =>
    { type
      directives :=
        Table.ofList
          (Validator.directives ⟨type, presence, default, valid, invalid, rules, replacements, children⟩)
      properties := if type = .object then extractChildren? children else none }
termination_by structural v => v

/-- The descriptions of an optional table of children. -/
def extractChildren? : Option (List (String × Validator)) → Option (List (String × Description))
  | none => none
  | some children => some (extractChildren children)
termination_by structural children => children

/-- The descriptions of children. -/
def extractChildren : List (String × Validator) → List (String × Description)
  | [] => []
  | (name, child) :: rest => (name, extract child) :: extractChildren rest
termination_by structural children => children
end

end Rulebook
