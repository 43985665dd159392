import Rulebook.Compile.Error
import Rulebook.Grammar

/-!
# From directives to method calls

`Call.ofDirective` turns the value of a directive into method calls, by the category of the directive. References
are bound to the transforms that they name, function names are resolved, and nested descriptions are handed to
the function `nested`, which makes validators of them. The first fault in the order of evaluation is the one
reported.
-/

namespace Rulebook

/-- A call of a method with its arguments. -/
structure Call (V : Type) where
  method : String
  args : List (Argument V)

namespace Call

variable {V : Type}

/-- The outcome of compiling a part. -/
abbrev Outcome (α : Type) := Except CompileError α

/-- A fault in the value of a directive. -/
def fault {α : Type} (directive : String) (cause : ArgumentError) : Outcome α := .error (.argument directive cause)

/-- Resolves a name to a transform. -/
def transform (functions : Registry) (name : String) : Outcome NamedFunction :=
  (functions.transform name).mapError .function

/-- Resolves a name to a comparator. -/
def comparator (functions : Registry) (name : String) : Outcome NamedFunction :=
  (functions.comparator name).mapError .function

/-- Binds the transform that the reference names, if it names one. -/
def bindAdjust (functions : Registry) (r : Reference) : Outcome Reference :=
  match r.adjust with
  | none => .ok r
  | some name => do return r.bind (← transform functions name)

/-- Reads an operand as an argument, with its transform bound. -/
def operand (functions : Registry) (value : Json) : Outcome (Argument V) :=
  match Operand.ofJson value with
  | .error e => .error (.reference e)
  | .ok (.literal v) => .ok (.value v)
  | .ok (.reference r) => do return .reference (← bindAdjust functions r)

/-- Reads a value that must be a reference, with its transform bound. -/
def reference (functions : Registry) (value : Json) : Outcome Reference :=
  match Reference.ofNotation value with
  | .error e => .error (.reference e)
  | .ok r => bindAdjust functions r

/-- Reads a pattern. -/
def pattern (value : Json) : Outcome Pattern := (Pattern.ofJson value).mapError .pattern

/-- The name of a function. -/
def functionName (directive : String) : Json → Outcome String
  | .str name => .ok name
  | _ => fault directive .notFunctionName

/-- Reads the name of a transform as an argument. -/
def transformArg (functions : Registry) (directive : String) (value : Json) : Outcome (Argument V) := do
  return .function (← transform functions (← functionName directive value))

/-- Makes a validator of a nested description. -/
def nestedSchema (nested : Description → Outcome V) (directive : String) (value : Json) : Outcome (Argument V) :=
  match Description.ofJson value with
  | .error e => .error (.description (some directive) e)
  | .ok d => do return .schema (← nested d)

/-- The members of a value that must be an object. -/
def expectObject (directive what : String) : Json → Outcome (Table Json)
  | .obj members => .ok members
  | _ => fault directive (.notObject what)

/-- The options object under its key, as an argument, if it is there. -/
def optionsArg (directive : String) (members : Table Json) : Outcome (List (Argument V)) :=
  match Table.get? members "options" with
  | none => .ok []
  | some options => do return [.value (.obj (← expectObject directive "options" options))]

/-- The members but for some, as an options argument, if there are any. -/
def restArg (members : Table Json) (keys : List String) : List (Argument V) :=
  match Table.without members keys with
  | [] => []
  | rest => [.value (.obj rest)]

/-- Refuses the first member that is not among the keys. -/
def checkKeys (directive : String) (keys : List String) (members : Table Json) : Outcome Unit :=
  match (Table.names members).find? fun name => !keys.contains name with
  | some name => fault directive (.unexpectedKey name)
  | none => .ok ()

/-- The elements of a list, or the value itself. -/
def elements : Json → List Json
  | .arr items => items
  | value => [value]

/-- The canonical form of a list of patterns or of one. -/
def canonicalPatterns : Json → Outcome Json
  | .arr items => do return .arr (← items.mapM fun item => return (← pattern item).toJson)
  | value => do return (← pattern value).toJson

/-- Optional configuration: `true` gives no argument. The scheme of `uri` is a pattern or a list of patterns. -/
def ofConfig (directive : String) (value : Json) : Outcome (List (Argument V)) :=
  match value with
  | .bool true => .ok []
  | .obj members =>
    match directive, Table.get? members "scheme" with
    | "uri", some scheme => do
      return [.value (.obj (Table.put members "scheme" (← canonicalPatterns scheme)))]
    | _, _ => .ok [.value value]
  | _ => .ok [.value value]

/-- A limit: an operand, or an object that holds it under a key among options. -/
def ofLimit (functions : Registry) (directive key : String) (value : Json) : Outcome (List (Argument V)) :=
  match value with
  | .obj members =>
    if Table.has members Reference.key then do return [← operand functions value]
    else
      match Table.get? members key with
      | none => fault directive (.noLimit key)
      | some limit => do return (← operand functions limit) :: restArg members [key]
  | _ => do return [← operand functions value]

/-- One argument, read by its coercion. -/
def ofUnary (functions : Registry) (directive : String) (coercion : Coercion) (value : Json) :
    Outcome (List (Argument V)) :=
  match coercion with
  | .literal => .ok [.value value]
  | .operand => do return [← operand functions value]
  | .limit key => ofLimit functions directive key value
  | .elements => (elements value).mapM (operand functions)

/-- The primary argument of a layout: data, or the name of a transform. -/
def primary (functions : Registry) (directive : String) (layout : OptionKey) (value : Json) :
    Outcome (Argument V) :=
  if layout.primaryFunction then transformArg functions directive value else .ok (.value value)

/-- The secondary argument of a layout, if it is there. -/
def secondary (functions : Registry) (directive : String) (layout : OptionKey) (members : Table Json) :
    Outcome (List (Argument V)) :=
  match layout.secondary with
  | .options => .ok (restArg members [layout.primary])
  | .key key => do
    checkKeys directive [layout.primary, key] members
    return (Table.get? members key).toList.map .value
  | .functionKey key => do
    checkKeys directive [layout.primary, key] members
    (Table.get? members key).toList.mapM (transformArg functions directive)

/-- A primary argument, or an object that holds it under its key beside a secondary one. -/
def ofOptionKeyed (functions : Registry) (directive : String) (layout : OptionKey) (value : Json) :
    Outcome (List (Argument V)) :=
  match value.field? layout.primary, value with
  | some field, .obj members => do
    let first ← primary functions directive layout field
    return first :: (← secondary functions directive layout members)
  | _, _ => do return [← primary functions directive layout value]

/-- The list of peers under its key. -/
def peerList (directive : String) (members : Table Json) : Outcome (List Json) :=
  match Table.get? members "peers" with
  | some (.arr peers) => .ok peers
  | some (.str peer) => .ok [.str peer]
  | _ => fault directive .peersNotList

/-- A group of peers. -/
def ofPeerGroup (directive : String) : Json → Outcome (List (Argument V))
  | .arr peers => .ok (peers.map .value)
  | .str peer => .ok [.value (.str peer)]
  | .obj members => do
    checkKeys directive ["peers", "options"] members
    let peers ← peerList directive members
    return peers.map .value ++ (← optionsArg directive members)
  | _ => fault directive .notPeers

/-- Whether a value stands for the keys of an object instead of a pattern. -/
def isKeyMarker (value : Json) : Bool :=
  match value with
  | .bool true => true
  | _ =>
    match value.field? "type" with
    | some (.str name) => name == "object"
    | _ => false

/-- A validator for the values of matching keys, which only objects have. -/
def patternSchema (nested : Description → Outcome V) (type : TypeTag) (directive : String) (members : Table Json) :
    Outcome (List (Argument V)) :=
  match Table.get? members "schema" with
  | none => .ok []
  | some schema =>
    if type ≠ .object then fault directive .schemaOutsideObject
    else do return [← nestedSchema nested directive schema]

/-- A pattern: a text form, or a record with a validator and options besides. -/
def ofPattern (nested : Description → Outcome V) (type : TypeTag) (directive : String) (value : Json) :
    Outcome (Call V) :=
  if isKeyMarker value then .ok ⟨"regex", []⟩
  else
    match value with
    | .str _ => do return ⟨directive, [.pattern (← pattern value)]⟩
    | .obj members => do
      let first ← pattern (.obj (Table.without members ["schema", "options"]))
      let schema ← patternSchema nested type directive members
      return ⟨directive, .pattern first :: (schema ++ (← optionsArg directive members))⟩
    | _ => fault directive .notPattern

/-- The comparator of a rule about duplicates, if it is there. -/
def comparatorArg (functions : Registry) (directive : String) (members : Table Json) : Outcome (List (Argument V)) :=
  match Table.get? members "comparator" with
  | none => .ok []
  | some name => do return [.function (← comparator functions (← functionName directive name))]

/-- A rule about duplicates. -/
def ofUnique (functions : Registry) (directive : String) : Json → Outcome (List (Argument V))
  | .bool true => .ok []
  | .obj members => do
    checkKeys directive ["comparator", "options"] members
    let first ← comparatorArg functions directive members
    return first ++ (← optionsArg directive members)
  | _ => fault directive .notUnique

/-- A member that must be a string, as an argument. -/
def stringArg (directive key : String) (members : Table Json) : Outcome (Argument V) :=
  match Table.get? members key with
  | some (.str s) => .ok (.value (.str s))
  | some _ => fault directive (.notString key)
  | none => fault directive (.missingKey key)

/-- A renaming of a key. -/
def ofRename (directive : String) (value : Json) : Outcome (List (Argument V)) := do
  let members ← expectObject directive "value" value
  let source ← stringArg directive "from" members
  let target ← stringArg directive "to" members
  return source :: target :: restArg members ["from", "to"]

/-- An entry of a replacement list. -/
def ofReplaceEntry (directive : String) (entry : Json) : Outcome (Call V) := do
  let members ← expectObject directive "entry" entry
  checkKeys directive ["find", "replace"] members
  match Table.get? members "find", Table.get? members "replace" with
  | some find, some replacement => return ⟨directive, [.pattern (← pattern find), .value replacement]⟩
  | _, _ => fault directive .halfReplacement

/-- The members under keys in their order, up to the first absent one that is not required. -/
def recordFields (directive : String) (members : Table Json) : Nat → List String → Outcome (List Json)
  | _, [] => .ok []
  | required, key :: keys =>
    match Table.get? members key, required with
    | some field, n => do return field :: (← recordFields directive members (n - 1) keys)
    | none, 0 => .ok []
    | none, _ + 1 => fault directive (.missingKey key)

/-- Reads an object by keys, or a list by places, into values in the order of the keys. -/
def recordOrSequence (directive : String) (keys : List String) (required : Nat) : Json → Outcome (List Json)
  | .arr items =>
    if items.length < required ∨ keys.length < items.length then
      fault directive (.elementCount required keys.length)
    else .ok items
  | .obj members => do
    checkKeys directive keys members
    recordFields directive members required keys
  | _ => fault directive (.notRecord keys)

/-- A requirement on a referenced value. -/
def ofAssert (functions : Registry) (directive : String) (value : Json) : Outcome (List (Argument V)) := do
  match ← recordOrSequence directive ["reference", "schema", "message"] 2 value with
  | subject :: rest =>
    let target ← reference functions subject
    return Argument.reference target :: rest.map .value
  | [] => return []

/-- What the branches of a rule hang on: a reference or a validator. -/
def conditionArg (nested : Description → Outcome V) (functions : Registry) (directive : String)
    (members : Table Json) : Outcome (Argument V) :=
  match Table.get? members "reference", Table.get? members "schema" with
  | some subject, none => do return .reference (← reference functions subject)
  | none, some schema => nestedSchema nested directive schema
  | some _, some _ => fault directive .twoConditions
  | none, none => fault directive .noCondition

/-- A rule with branches. -/
def ofCondition (nested : Description → Outcome V) (functions : Registry) (directive : String) (value : Json) :
    Outcome (List (Argument V)) := do
  let members ← expectObject directive "value" value
  let condition ← conditionArg nested functions directive members
  return [condition, .value (.obj (Table.without members ["reference", "schema"]))]

/-- The method calls of a directive. -/
def ofDirective (nested : Description → Outcome V) (functions : Registry) (type : TypeTag) (row : Directive)
    (value : Json) : Outcome (List (Call V)) :=
  let one (args : Outcome (List (Argument V))) : Outcome (List (Call V)) := args.map fun args => [⟨row.name, args⟩]
  match row.category with
  | .toggle => one (.ok [])
  | .optionalConfig => one (ofConfig row.name value)
  | .unary coercion => one (ofUnary functions row.name coercion value)
  | .optionKeyed layout => one (ofOptionKeyed functions row.name layout value)
  | .spread => one (.ok ((elements value).map .value))
  | .peerGroup => one (ofPeerGroup row.name value)
  | .pattern => (ofPattern nested type row.name value).map fun call => [call]
  | .bespoke .unique => one (ofUnique functions row.name value)
  | .bespoke .rename => one (ofRename row.name value)
  | .bespoke .replace => (elements value).mapM (ofReplaceEntry row.name)
  | .bespoke .assert => one (ofAssert functions row.name value)
  | .bespoke .keyPeers =>
    one ((recordOrSequence row.name ["key", "peers", "options"] 2 value).map fun fields => fields.map .value)
  | .bespoke .condition => one (ofCondition nested functions row.name value)

end Call

end Rulebook
