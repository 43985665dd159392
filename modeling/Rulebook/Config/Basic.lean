import Rulebook.Function.Builtin
import Rulebook.Files.Store
import Rulebook.Glob.Match
import Rulebook.Toml.Document

/-!
# Configurations

A configuration selects files by globs, sets how reports look, and names functions. It is written in TOML with the
sections `bridge`, `output` and `functions`, of which only the first, with its version, has to be there.

* `Config.parse` reads a configuration and refuses one with another version, a malformed glob or a blank function
  name.
* `Config.load` reads it from a file; `Config.loadOrDefault` takes the default where there is none.
-/

namespace Rulebook

/-- How a report is written. -/
inductive ReportFormat where
  | human
  | jsonl
  deriving DecidableEq

namespace ReportFormat

/-- Every format. -/
def all : List ReportFormat := [human, jsonl]

/-- The name of a format. -/
def text : ReportFormat → String
  | human => "human"
  | jsonl => "jsonl"

end ReportFormat

/-- Whether a report has colours. -/
inductive Coloring where
  | auto
  | always
  | never
  deriving DecidableEq

namespace Coloring

/-- Every choice. -/
def all : List Coloring := [auto, always, never]

/-- The name of a choice. -/
def text : Coloring → String
  | auto => "auto"
  | always => "always"
  | never => "never"

end Coloring

/-- The list of globs that a glob belongs to. -/
inductive GlobList where
  | included
  | excluded
  deriving DecidableEq

/-- The name of a list. -/
def GlobList.text : GlobList → String
  | included => "include"
  | excluded => "exclude"

/-- Why there is no configuration. -/
inductive ConfigError where
  | file (cause : FileError)
  | malformed
  | version (found : String)
  | badGlob (list : GlobList) (pattern : String)
  | blankName (name : String)
  | blankFunction
  | stated (reason : String)
  deriving DecidableEq

/-- The reason in words. -/
def ConfigError.message : ConfigError → String
  | file cause => "I/O error: " ++ cause.message
  | malformed => "Invalid configuration syntax"
  | version found => "Invalid configuration: Unsupported configuration version '" ++ found ++ "'. Expected '1'"
  | badGlob list pattern => "Invalid configuration: Invalid " ++ list.text ++ " glob pattern '" ++ pattern ++ "'"
  | blankName name => "Invalid configuration: Invalid function name '" ++ name ++ "': names must not be empty"
  | blankFunction => "Invalid configuration: function names must not be empty"
  | stated reason => "Invalid configuration: " ++ reason

/-- A configuration. -/
structure Config where
  version : String := "1"
  includeGlobs : List String := ["**/*.json"]
  excludeGlobs : List String := []
  format : ReportFormat := .human
  color : Coloring := .auto
  functions : List (String × FunctionSpec) := []

namespace Config

/-! ## Reading -/

/-- A value that names one of some choices: as a string, or as a table whose only key is the name of the choice and
stands for an empty table. -/
def choice? {α : Type} (choices : List α) (name : α → String) (value : Toml) : Option α :=
  let named (text : String) := choices.find? fun x => name x == text
  match value with
  | .str text => named text
  | .table _ [(key, .table _ [])] => named key
  | _ => none

/-- Reads a list of strings. -/
def texts? (value : Toml) : Option (List String) := value.items?.bind fun items => items.mapM Toml.text?

/-- The parts of a section: by name from a table, or by place from an array. A date has no part of ours. -/
def parts? (names : List String) (value : Toml) : Option (Table Toml) :=
  match value with
  | .table _ entries => some entries
  | .moment _ => some []
  | value => value.items?.map fun items => names.zip items

/-- Reads a part that may be absent. -/
def part? {α : Type} (read : Toml → Option α) (default : α) (parts : Table Toml) (name : String) : Option α :=
  match Table.get? parts name with
  | some value => read value
  | none => some default

/-- Reads the description of a function. -/
def spec? (value : Toml) : Option FunctionSpec :=
  match value with
  | .str name => (Builtin.named? name).map .builtin
  | .table _ entries => ((Table.get? entries FunctionSpec.fieldKey).bind Toml.text?).map .fieldEquals
  | _ => none

/-- Reads the descriptions of functions. -/
def specs? (value : Toml) : Option (List (String × FunctionSpec)) :=
  value.entries?.bind fun entries => entries.mapM fun e => (spec? e.2).map fun spec => (e.1, spec)

/-- Reads a configuration from a document. -/
def ofToml? (document : Table Toml) : Option Config := do
  let bridge ← parts? ["version", "include", "exclude"] (← Table.get? document "bridge")
  let output ← parts? ["format", "color"] ((Table.get? document "output").getD (.table .header []))
  return {
    version := ← (← Table.get? bridge "version").text?
    includeGlobs := ← part? texts? ["**/*.json"] bridge "include"
    excludeGlobs := ← part? texts? [] bridge "exclude"
    format := ← part? (choice? ReportFormat.all ReportFormat.text) .human output "format"
    color := ← part? (choice? Coloring.all Coloring.text) .auto output "color"
    functions := ← part? specs? [] document "functions" }

/-- Whether a pattern is a glob. -/
def isGlob (pattern : String) : Bool := (Glob.parse? false false pattern).isSome

/-- The first fault of a configuration that is well formed. -/
def fault? (config : Config) : Option ConfigError :=
  let badGlob (list : GlobList) (patterns : List String) : Option ConfigError :=
    (patterns.find? fun p => !isGlob p).map (.badGlob list)
  if config.version ≠ "1" then some (.version config.version)
  else
    (badGlob .included config.includeGlobs).or ((badGlob .excluded config.excludeGlobs).or
      (((config.functions.map (·.1)).find? Registry.isBlankName).map .blankName))

/-- Reads a configuration from a text. -/
def parse (text : String) : Except ConfigError Config :=
  match (Toml.parse text).bind ofToml? with
  | none => .error .malformed
  | some config =>
    match config.fault? with
    | some e => .error e
    | none => .ok config

/-- Reads a configuration from a file. -/
def load (store : Store) (path : String) : Except ConfigError Config :=
  match store.readText path with
  | .error e => .error (.file e)
  | .ok text => parse text

/-- Reads a configuration from a file, or takes the default where there is no file. -/
def loadOrDefault (store : Store) (path : String) : Except ConfigError Config :=
  if store.has path then load store path else .ok {}

/-- The built-in functions and the configured ones. -/
def registry (config : Config) : Except ConfigError Registry :=
  match Registry.ofSpecs config.functions with
  | some functions => .ok functions
  | none => .error .blankFunction

/-! ## Writing -/

/-- The configuration as a value, with all its sections. -/
def toJson (config : Config) : Json :=
  let texts (list : List String) : Json := .arr (list.map .str)
  .obj [
    ("bridge", .obj [("version", .str config.version), ("include", texts config.includeGlobs),
      ("exclude", texts config.excludeGlobs)]),
    ("output", .obj [("format", .str config.format.text), ("color", .str config.color.text)]),
    ("functions", .obj (config.functions.map fun f => (f.1, f.2.toJson)))]

end Config

end Rulebook
