/-!
# The grammar of directives

Every directive has one category, which says what values it takes. The compiler turns a value into arguments by
the category, and the extractor turns recorded arguments back into a value by the same row of the table.

* `Grammar.directives` is the table, `Grammar.lookup` finds a row by name.
-/

namespace Rulebook

/-- How the argument of a one-argument directive is read. -/
inductive Coercion where
  /-- As it is. -/
  | literal
  /-- The value may be a reference. -/
  | operand
  /-- The value, or the named member of an object, may be a reference; other members are options. -/
  | limit (key : String)
  /-- Each element of a list may be a reference. -/
  | elements
  deriving DecidableEq

/-- Where a directive with a primary member finds its second argument. -/
inductive Secondary where
  /-- All other members, as an options object. -/
  | options
  /-- One named member, as it is. -/
  | key (name : String)
  /-- One named member that names a transform. -/
  | functionKey (name : String)
  deriving DecidableEq

/-- The layout of a directive with a primary member. -/
structure OptionKey where
  primary : String
  primaryFunction : Bool
  secondary : Secondary
  deriving DecidableEq

/-- The directives with a shape of their own. -/
inductive Bespoke where
  | unique
  | rename
  | replace
  | assert
  | keyPeers
  | condition
  deriving DecidableEq

/-- The category of a directive. -/
inductive Category where
  | toggle
  | optionalConfig
  | unary (coercion : Coercion)
  | optionKeyed (layout : OptionKey)
  | spread
  | peerGroup
  | pattern
  | bespoke (shape : Bespoke)
  deriving DecidableEq

namespace Category

/-- The name of a category. -/
def name : Category → String
  | toggle => "toggle"
  | optionalConfig => "optional-config"
  | unary _ => "unary"
  | optionKeyed _ => "option-keyed"
  | spread => "spread"
  | peerGroup => "peer-group"
  | pattern => "pattern"
  | bespoke _ => "bespoke"

/-- The values that a category takes, in words. -/
def shape : Category → String
  | toggle => "no argument"
  | optionalConfig => "true, or one configuration value"
  | unary .literal => "one value"
  | unary .operand => "one value or reference"
  | unary (.limit _) => "value or reference, or \x7blimit, ...options\x7d"
  | unary .elements => "value or list of values/references"
  | optionKeyed _ => "value, or \x7bprimary, ...secondary\x7d"
  | spread => "list of positional arguments"
  | peerGroup => "list of peers, or \x7bpeers, options\x7d"
  | pattern => "pattern, or \x7bpattern, options, schema\x7d"
  | bespoke .unique => "true, or \x7bcomparator, options\x7d"
  | bespoke .rename => "\x7bfrom, to, ...options\x7d"
  | bespoke .replace => "\x7bfind, replace\x7d or a list of them"
  | bespoke .assert => "\x7breference, schema, message\x7d or [reference, schema, message]"
  | bespoke .keyPeers => "\x7bkey, peers, options\x7d or [key, peers, options]"
  | bespoke .condition => "\x7breference | schema, ...branches\x7d"

end Category

/-- A row of the table: a directive, its category, and whether extraction can rebuild it. -/
structure Directive where
  name : String
  category : Category
  reversible : Bool
  deriving DecidableEq

namespace Grammar

/-- A directive that extraction can rebuild. -/
def entry (category : Category) (name : String) : Directive := ⟨name, category, true⟩

/-- A directive that extraction cannot rebuild. -/
def writeOnly (category : Category) (name : String) : Directive := ⟨name, category, false⟩

/-- The directives without an argument. -/
def toggles : List Directive :=
  ["exist", "forbidden", "keep", "optional", "required", "warn", "warning", "integer", "negative", "port",
    "positive", "alphanum", "creditCard", "hostname", "insensitive", "isoDate", "isoDuration", "lowercase", "token",
    "uppercase", "iso"].map (entry .toggle)

/-- The directives with an optional configuration. -/
def configs : List Directive :=
  ["empty", "base64", "dataUri", "domain", "email", "guid", "hex", "ip", "normalize", "uri", "uuid", "schema",
    "sort"].map (entry .optionalConfig)

/-- The directives with one argument. -/
def unaries : List Directive :=
  let literal := entry (.unary .literal)
  let elements := entry (.unary .elements)
  let limit (key : String) := entry (.unary (.limit key))
  [elements "allow", literal "alter", literal "cast", literal "concat", entry (.unary .operand) "default",
    literal "description", elements "disallow", elements "equal", literal "error", literal "extract",
    literal "failover", literal "id", elements "invalid", literal "label", literal "message", literal "messages",
    literal "meta", elements "not", literal "note", literal "only", literal "options", literal "prefs",
    literal "preferences", literal "presence", literal "raw", literal "rule", literal "shared", literal "strict",
    literal "strip", literal "tag", literal "tailor", literal "unit", elements "valid", literal "validate",
    literal "falsy", literal "sensitive", literal "truthy", limit "limit" "greater", limit "limit" "less",
    limit "base" "multiple", literal "precision", literal "sign", literal "unsafe", literal "case", literal "trim",
    literal "truncate", literal "append", literal "keys", literal "unknown", literal "has", literal "single",
    literal "sparse", literal "encoding", literal "timestamp", literal "match", limit "limit" "min",
    limit "limit" "max", limit "limit" "length", literal "map"]

/-- The directives with several arguments. -/
def compounds : List Directive :=
  [entry (.optionKeyed ⟨"example", false, .options⟩) "example",
    writeOnly (.optionKeyed ⟨"method", true, .key "description"⟩) "external",
    writeOnly (.optionKeyed ⟨"paths", false, .functionKey "adjuster"⟩) "fork",
    entry .spread "items", entry .spread "ordered", entry .spread "try",
    entry .peerGroup "and", entry .peerGroup "nand", entry .peerGroup "or", entry .peerGroup "oxor",
    entry .peerGroup "xor",
    entry .pattern "pattern", entry .pattern "regex",
    entry (.bespoke .unique) "unique", entry (.bespoke .rename) "rename", entry (.bespoke .replace) "replace",
    writeOnly (.bespoke .assert) "assert", writeOnly (.bespoke .keyPeers) "with",
    writeOnly (.bespoke .keyPeers) "without", writeOnly (.bespoke .condition) "when",
    writeOnly (.bespoke .condition) "conditional"]

/-- Every directive, in the order in which they are listed. -/
def directives : List Directive := toggles ++ configs ++ unaries ++ compounds

/-- The row of a directive. -/
def lookup (name : String) : Option Directive := directives.find? fun d => d.name == name

end Grammar

end Rulebook
