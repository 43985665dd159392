import Rulebook.Validator.Basic

/-!
# Applying methods to validators

A method call on a validator is judged by the validator's type, the method and the arguments alone: `effect` gives
what the call records, or why it is refused. `Validator.record` writes an effect into a validator, and
`Validator.apply` does both. A refused call leaves no trace.

Each method is recorded in one of the ways of `Recording`; a method that the table does not name is recorded as a
rule of its own name.
-/

namespace Rulebook

/-- How many arguments a method takes. -/
inductive Count where
  | exactly (n : Nat)
  | between (low high : Nat)
  | atLeast (n : Nat)
  | atLeastPeers (n : Nat)
  deriving DecidableEq

namespace Count

/-- The count in words. -/
def text : Count → String
  | exactly n => toString n
  | between low high => toString low ++ " to " ++ toString high
  | atLeast n => "at least " ++ toString n
  | atLeastPeers n => "at least " ++ toString n ++ " peer"

/-- Whether a number of arguments is right. -/
def allows : Count → Nat → Bool
  | exactly n, k => k == n
  | between low high, k => low ≤ k && k ≤ high
  | atLeast n, k => n ≤ k
  | atLeastPeers n, k => n ≤ k

end Count

/-- What an argument of a method has to be. -/
inductive Expected where
  | value | valueOrReference | presenceMode | sign | pattern | schemaOrOptions | peerName | comparatorOrOptions
  | optionsObject | keyName | referenceOrSchema | reference | function
  deriving DecidableEq

/-- The expectation in words. -/
def Expected.text : Expected → String
  | value => "a value"
  | valueOrReference => "a value or reference"
  | presenceMode => "a presence mode"
  | sign => "\"positive\" or \"negative\""
  | pattern => "a pattern"
  | schemaOrOptions => "a schema or options"
  | peerName => "a peer name"
  | comparatorOrOptions => "a comparator or options"
  | optionsObject => "an options object"
  | keyName => "a key name"
  | referenceOrSchema => "a reference or schema"
  | reference => "a reference"
  | function => "a function"

/-- Why a method call is refused. -/
inductive EngineError where
  | arity (method : String) (expected : Count) (actual : Nat)
  | unsupported (method : String) (type : TypeTag)
  | argumentKind (method : String) (index : Nat) (expected : Expected) (actual : String)
  deriving DecidableEq

/-- The reason in words. -/
def EngineError.message : EngineError → String
  | arity method expected actual =>
    "'" ++ method ++ "' expects " ++ expected.text ++ " argument(s), got " ++ toString actual
  | unsupported method type => "'" ++ method ++ "' is not supported on " ++ type.text ++ " validators"
  | argumentKind method index expected actual =>
    "argument " ++ toString index ++ " of '" ++ method ++ "' must be " ++ expected.text ++ ", got " ++ actual

/-- The ways in which methods are recorded. -/
inductive Recording where
  | presence (fixed : Option Presence)
  | default
  | values (allowed : Bool)
  | size (operator : Operator)
  | limit (key : String)
  | sign (fixed : Option String)
  | pattern
  | replace
  | peers
  | unique
  | rename
  | condition
  | assert
  | keyPeers
  | sample
  | external
  | fork
  | optionsOnly
  | spread
  | generic
  deriving DecidableEq

namespace Recording

/-- The methods that are not recorded as a rule of their own name with at most one plain argument. -/
def table : List (String × Recording) :=
  [("required", presence (some .required)), ("exist", presence (some .required)),
    ("optional", presence (some .optional)), ("forbidden", presence (some .forbidden)), ("presence", presence none),
    ("default", default),
    ("valid", values true), ("allow", values true), ("equal", values true),
    ("invalid", values false), ("disallow", values false), ("not", values false),
    ("min", size .greaterOrEqual), ("max", size .lessOrEqual), ("less", size .less), ("greater", size .greater),
    ("length", size .equal), ("multiple", limit "base"), ("precision", limit "limit"),
    ("positive", sign (some "positive")), ("negative", sign (some "negative")), ("sign", sign none),
    ("pattern", pattern), ("regex", pattern), ("replace", replace), ("unique", unique), ("rename", rename),
    ("when", condition), ("conditional", condition), ("assert", assert), ("with", keyPeers), ("without", keyPeers),
    ("example", sample), ("external", external), ("fork", fork),
    ("and", peers), ("nand", peers), ("or", peers), ("oxor", peers), ("xor", peers),
    ("items", spread), ("ordered", spread), ("try", spread),
    ("empty", optionsOnly), ("base64", optionsOnly), ("dataUri", optionsOnly), ("domain", optionsOnly),
    ("email", optionsOnly), ("guid", optionsOnly), ("hex", optionsOnly), ("ip", optionsOnly),
    ("normalize", optionsOnly), ("uri", optionsOnly), ("uuid", optionsOnly), ("schema", optionsOnly),
    ("sort", optionsOnly)]

/-- The way in which a method is recorded. -/
def ofMethod (method : String) : Recording := (Table.get? table method).getD generic

end Recording

/-- What a method call records. -/
inductive Effect (V : Type) where
  | presence (presence : Presence)
  | default (operand : Operand)
  | valid (operands : List Operand)
  | invalid (operands : List Operand)
  | replacement (replacement : Replacement)
  | rule (rule : Rule V)

namespace Effect

variable {V : Type}

/-- Refuses a wrong number of arguments. -/
def checkCount (method : String) (count : Count) (args : List (Argument V)) : Except EngineError Unit :=
  if count.allows args.length then .ok () else .error (.arity method count args.length)

/-- Refuses an argument of the wrong kind. -/
def wrongKind {α : Type} (method : String) (index : Nat) (expected : Expected) (arg : Argument V) :
    Except EngineError α :=
  .error (.argumentKind method index expected arg.kind)

/-- The operands of arguments, the first of which has the given index. -/
def operands (method : String) (index : Nat) : List (Argument V) → Except EngineError (List Operand)
  | [] => .ok []
  | arg :: rest =>
    match arg.operand? with
    | none => wrongKind method index .valueOrReference arg
    | some operand => do return operand :: (← operands method (index + 1) rest)

/-- The data of arguments, the first of which has the given index. -/
def plainValues (method : String) (index : Nat) : List (Argument V) → Except EngineError (List Json)
  | [] => .ok []
  | .value v :: rest => do return v :: (← plainValues method (index + 1) rest)
  | arg :: _ => wrongKind method index .value arg

/-- A presence: fixed by the method, or named by the argument. -/
def ofPresence (method : String) (fixed : Option Presence) (args : List (Argument V)) :
    Except EngineError (Effect V) :=
  match fixed, args with
  | some p, [] => .ok (.presence p)
  | some _, args => .error (.arity method (.exactly 0) args.length)
  | none, [arg] =>
    match arg.text?.bind Presence.named? with
    | some p => .ok (.presence p)
    | none => wrongKind method 0 .presenceMode arg
  | none, args => .error (.arity method (.exactly 1) args.length)

/-- A default operand. -/
def ofDefault (method : String) : List (Argument V) → Except EngineError (Effect V)
  | [arg] =>
    match arg.operand? with
    | some operand => .ok (.default operand)
    | none => wrongKind method 0 .valueOrReference arg
  | args => .error (.arity method (.exactly 1) args.length)

/-- Values that are allowed or refused. -/
def ofValues (method : String) (allowed : Bool) (args : List (Argument V)) : Except EngineError (Effect V) := do
  checkCount method (.atLeast 1) args
  let os ← operands method 0 args
  return if allowed then .valid os else .invalid os

/-- The bag of a limit under its key, with options where they are given. -/
def limitBag (method key : String) (args : List (Argument V)) :
    Except EngineError (List (String × Argument V)) := do
  checkCount method (.between 1 2) args
  match args with
  | limit :: rest =>
    if limit.operand?.isNone then wrongKind method 0 .valueOrReference limit
    else
      match rest with
      | [] => return [(key, limit)]
      | options :: _ =>
        if options.isObject then return [(key, limit), ("options", options)]
        else wrongKind method 1 .optionsObject options
  | [] => return []

/-- A size rule. Numbers and dates are compared themselves, and never for equality; all else by length. -/
def ofSize (type : TypeTag) (method : String) (operator : Operator) (args : List (Argument V)) :
    Except EngineError (Effect V) := do
  checkCount method (.between 1 2) args
  if type.comparesByValue && operator == .equal then .error (.unsupported method type)
  else
    return .rule {
      method := if type.comparesByValue then "compare" else "length"
      operator := some operator
      args := ← limitBag method "limit" args }

/-- A rule about the sign of a number: fixed by the method, or named by the argument. -/
def ofSign (type : TypeTag) (method : String) (fixed : Option String) (args : List (Argument V)) :
    Except EngineError (Effect V) :=
  let rule (sign : String) : Effect V := .rule { method := "sign", args := [("sign", .value (.str sign))] }
  if type ≠ .number then .error (.unsupported method type)
  else
    match fixed, args with
    | some sign, [] => .ok (rule sign)
    | some _, args => .error (.arity method (.exactly 0) args.length)
    | none, [arg] =>
      match arg.text? with
      | some sign =>
        if sign = "positive" ∨ sign = "negative" then .ok (rule sign) else wrongKind method 0 .sign arg
      | none => wrongKind method 0 .sign arg
    | none, args => .error (.arity method (.exactly 1) args.length)

/-- The bag of a pattern's further arguments: a validator of object values, and options, each once. -/
def patternBag (type : TypeTag) (method : String) (index : Nat) (bag : List (String × Argument V)) :
    List (Argument V) → Except EngineError (List (String × Argument V))
  | [] => .ok bag
  | arg :: rest =>
    if arg.isSchema then
      if type = .object ∧ !Table.has bag "schema" then
        patternBag type method (index + 1) (bag ++ [("schema", arg)]) rest
      else .error (.unsupported method type)
    else if arg.isObject && !Table.has bag "options" then
      patternBag type method (index + 1) (bag ++ [("options", arg)]) rest
    else wrongKind method index .schemaOrOptions arg

/-- A rule about the text of a value, or, without arguments, about the keys of an object. -/
def ofPattern (type : TypeTag) (method : String) (args : List (Argument V)) : Except EngineError (Effect V) :=
  match args with
  | [] => if method = "regex" ∧ type = .object then .ok (.rule { method }) else .error (.unsupported method type)
  | first :: rest => do
    checkCount method (.between 1 3) args
    match first with
    | .pattern _ =>
      return .rule { method := "pattern", args := ← patternBag type method 1 [("regex", first)] rest }
    | other => wrongKind method 0 .pattern other

/-- A replacement in a text. -/
def ofReplace (type : TypeTag) (method : String) (args : List (Argument V)) : Except EngineError (Effect V) :=
  if type ≠ .string then .error (.unsupported method type)
  else
    match args with
    | [.pattern p, .value v] => .ok (.replacement ⟨p, v⟩)
    | [.pattern _, other] => wrongKind method 1 .value other
    | [other, _] => wrongKind method 0 .pattern other
    | args => .error (.arity method (.exactly 2) args.length)

/-- The names of peers, and the options object that may stand last behind one of them. -/
def peerNames (method : String) (index : Nat) :
    List (Argument V) → Except EngineError (List Json × Option (Argument V))
  | [] => .ok ([], none)
  | arg :: rest =>
    match arg with
    | .value (.str name) => do
      let (names, options) ← peerNames method (index + 1) rest
      return (.str name :: names, options)
    | arg =>
      if arg.isObject && rest.isEmpty && index > 0 then .ok ([], some arg)
      else wrongKind method index .peerName arg

/-- A rule about a group of peers. -/
def ofPeers (method : String) (args : List (Argument V)) : Except EngineError (Effect V) := do
  let (names, options) ← peerNames method 0 args
  if names.isEmpty then .error (.arity method (.atLeastPeers 1) args.length)
  else
    return .rule {
      method
      args := ("peers", .value (.arr names)) :: (options.map fun o => ("options", o)).toList }

/-- A rule about duplicates, with a comparator first and options, each where given. -/
def ofUnique (method : String) (args : List (Argument V)) : Except EngineError (Effect V) := do
  checkCount method (.between 0 2) args
  match args with
  | [] => return .rule { method }
  | first :: rest =>
    if first.isFunction then
      match rest with
      | [] => return .rule { method, args := [("comparator", first)] }
      | options :: _ =>
        if options.isObject then return .rule { method, args := [("comparator", first), ("options", options)] }
        else wrongKind method 1 .comparatorOrOptions options
    else if first.isObject then
      match rest with
      | [] => return .rule { method, args := [("options", first)] }
      | other :: _ => wrongKind method 1 .comparatorOrOptions other
    else wrongKind method 0 .comparatorOrOptions first

/-- A rule that renames a key. -/
def ofRename (method : String) (args : List (Argument V)) : Except EngineError (Effect V) := do
  checkCount method (.between 2 3) args
  match args with
  | source :: target :: rest =>
    if source.text?.isNone then wrongKind method 0 .keyName source
    else if target.text?.isNone then wrongKind method 1 .keyName target
    else
      match rest with
      | [] => return .rule { method, args := [("from", source), ("to", target)] }
      | options :: _ =>
        if options.isObject then
          return .rule { method, args := [("from", source), ("to", target), ("options", options)] }
        else wrongKind method 2 .optionsObject options
  | _ => return .rule { method }

/-- A rule with branches that hang on a reference or a validator. -/
def ofCondition (method : String) (args : List (Argument V)) : Except EngineError (Effect V) :=
  match args with
  | [condition, options] =>
    if !(condition.isReference || condition.isSchema) then wrongKind method 0 .referenceOrSchema condition
    else if !options.isObject then wrongKind method 1 .optionsObject options
    else .ok (.rule { method, args := [("condition", condition), ("options", options)] })
  | args => .error (.arity method (.exactly 2) args.length)

/-- A rule whose arguments take names by their places. -/
def positional (method : String) (names : List String) (args : List (Argument V)) : Effect V :=
  .rule { method, args := names.zip args }

/-- A rule that requires something of a referenced value. -/
def ofAssert (method : String) (args : List (Argument V)) : Except EngineError (Effect V) := do
  checkCount method (.between 2 3) args
  match args with
  | first :: _ =>
    if first.isReference then return positional method ["subject", "schema", "message"] args
    else wrongKind method 0 .reference first
  | [] => return .rule { method }

/-- A rule about the company of a key. -/
def ofKeyPeers (method : String) (args : List (Argument V)) : Except EngineError (Effect V) := do
  checkCount method (.between 2 3) args
  return positional method ["key", "peers", "options"] args

/-- An example, with options. -/
def ofExample (method : String) (args : List (Argument V)) : Except EngineError (Effect V) := do
  checkCount method (.between 1 2) args
  return positional method ["example", "options"] args

/-- A rule that calls a function. -/
def ofExternal (method : String) (args : List (Argument V)) : Except EngineError (Effect V) := do
  checkCount method (.between 1 2) args
  match args with
  | first :: _ =>
    if first.isFunction then return positional method ["method", "description"] args
    else wrongKind method 0 .function first
  | [] => return .rule { method }

/-- A rule on paths, with a function that adjusts. -/
def ofFork (method : String) (args : List (Argument V)) : Except EngineError (Effect V) := do
  checkCount method (.between 1 2) args
  match args with
  | [_, adjuster] =>
    if adjuster.isFunction then return positional method ["paths", "adjuster"] args
    else wrongKind method 1 .function adjuster
  | _ => return positional method ["paths", "adjuster"] args

/-- A rule with nothing but options. -/
def ofOptionsOnly (method : String) (args : List (Argument V)) : Except EngineError (Effect V) := do
  checkCount method (.between 0 1) args
  return positional method ["options"] args

/-- A rule with a list of plain values under the name of its method. -/
def ofSpread (method : String) (args : List (Argument V)) : Except EngineError (Effect V) := do
  return .rule { method, args := [(method, .value (.arr (← plainValues method 0 args)))] }

/-- A rule with its argument, or a list of plain ones, under the name of its method. -/
def ofGeneric (method : String) (args : List (Argument V)) : Except EngineError (Effect V) :=
  match args with
  | [] => .ok (.rule { method })
  | [arg] => .ok (.rule { method, args := [(method, arg)] })
  | args => ofSpread method args

end Effect

/-- What a method call records on a validator of a type. -/
def effect {V : Type} (type : TypeTag) (method : String) (args : List (Argument V)) :
    Except EngineError (Effect V) :=
  match Recording.ofMethod method with
  | .presence fixed => Effect.ofPresence method fixed args
  | .default => Effect.ofDefault method args
  | .values allowed => Effect.ofValues method allowed args
  | .size operator => Effect.ofSize type method operator args
  | .limit key => do return .rule { method, args := ← Effect.limitBag method key args }
  | .sign fixed => Effect.ofSign type method fixed args
  | .pattern => Effect.ofPattern type method args
  | .replace => Effect.ofReplace type method args
  | .peers => Effect.ofPeers method args
  | .unique => Effect.ofUnique method args
  | .rename => Effect.ofRename method args
  | .condition => Effect.ofCondition method args
  | .assert => Effect.ofAssert method args
  | .keyPeers => Effect.ofKeyPeers method args
  | .sample => Effect.ofExample method args
  | .external => Effect.ofExternal method args
  | .fork => Effect.ofFork method args
  | .optionsOnly => Effect.ofOptionsOnly method args
  | .spread => Effect.ofSpread method args
  | .generic => Effect.ofGeneric method args

namespace Validator

/-- Writes what a call records. -/
def record (v : Validator) : Effect Validator → Validator
  | .presence p => { v with presence := some p }
  | .default operand => { v with default := some operand }
  | .valid operands => { v with valid := some ((v.valid.getD {}).insertAll operands) }
  | .invalid operands => { v with invalid := some ((v.invalid.getD {}).insertAll operands) }
  | .replacement r => { v with replacements := v.replacements ++ [r] }
  | .rule r => { v with rules := v.rules ++ [r] }

/-- Applies a method to a validator. -/
def apply (v : Validator) (method : String) (args : List (Argument Validator)) : Except EngineError Validator :=
  (effect v.type method args).map v.record

end Validator

end Rulebook
