import Rulebook.Command.Arguments
import Rulebook.Command.Init
import Rulebook.Report.Basic
import Rulebook.Report.Listing
import Rulebook.Walk.Basic

/-!
# Running commands

A command is run on a store of files. What comes of it is a completion: the status, what is printed, and the files
that are written.

* `Invocation.run` runs a command.
* `CommandLine.run` reads arguments and runs the command that they name.
-/

namespace Rulebook

/-- How a command ends. -/
inductive Status where
  | success
  | failures
  | error
  | malformed
  deriving DecidableEq

/-- The number of a status. -/
def Status.code : Status → Nat
  | success => 0
  | failures => 1
  | error => 2
  | malformed => 3

/-- What comes of a command. -/
structure Completion where
  status : Status := .success
  out : String := ""
  err : String := ""
  written : List (String × String) := []
  deriving DecidableEq

namespace Completion

/-- A command that fails with a message. -/
def failed (status : Status) (message : String) : Completion := { status, err := "Error: " ++ message ++ "\n" }

/-- The store with the files that are written. -/
def store (completion : Completion) (before : Store) : Store :=
  completion.written.foldl (fun store file => (store.writeText file.1 file.2).toOption.getD store) before

end Completion

/-- The configuration of a command: the file that is named has to be there, while the usual one may be absent. -/
def Config.find (store : Store) : Option String → Except ConfigError Config
  | none => loadOrDefault store fileName
  | some path => if store.has path then load store path else .error (.file (.absent path))

/-- A configuration with its functions. -/
def Config.findWithFunctions (store : Store) (path : Option String) : Except ConfigError (Config × Registry) := do
  let config ← find store path
  return (config, ← config.registry)

namespace Command

/-- Writes a configuration into the working directory. -/
def runInit (store : Store) (force : Bool) : Completion :=
  match Init.start store "." force with
  | .error e => .failed .error e.message
  | .ok (.skipped, _) =>
    { out := Config.fileName ++ " already exists. Use --force to overwrite it.\n" }
  | .ok (_, _) =>
    { out := "Created " ++ Config.fileName ++ ".\n", written := [(Init.target ".", Init.template)] }

/-! ## Checking -/

/-- Why files are not checked. -/
inductive CheckFault where
  | config (cause : ConfigError)
  | glob (pattern : String)
  | walk (path : String)

namespace CheckFault

/-- The reason in words. -/
def message : CheckFault → String
  | config cause => "Configuration error: " ++ cause.message
  | glob pattern => "File walker error: Invalid glob pattern '" ++ pattern ++ "'"
  | walk path => "File walker error: Walk error: " ++ path

/-- The status with which the command ends. -/
def status : CheckFault → Status
  | config .malformed => .malformed
  | _ => .error

end CheckFault

/-- The files that a configuration selects below roots. The first failure of the walk ends it. -/
def discover (store : Store) (config : Config) (roots : List String) : Except CheckFault (List String) := do
  if roots.isEmpty then return []
  let selection ← (Selection.make config.includeGlobs config.excludeGlobs).mapError .glob
  ((Walk.files (Walk.steps store selection roots)).mapM id).mapError .walk

/-- Whether a report is coloured: an option goes before the configuration, and nothing is coloured unasked. -/
def isColored (option configured : Coloring) : Bool :=
  match option, configured with
  | .auto, configured => configured == .always
  | option, _ => option == .always

/-- Checks the files that are selected below roots. -/
def runCheck (store : Store) (invocation : Invocation) (roots : List String) (format : Option ReportFormat) :
    Except CheckFault Completion := do
  let (config, functions) ← (Config.findWithFunctions store invocation.config).mapError .config
  let files ← discover store config roots
  if files.isEmpty then return { err := "Warning: No description files found to check.\n" }
  let outcomes := Batch.check store functions files
  let status := if Batch.failures outcomes = 0 then .success else .failures
  match format.getD config.format with
  | .human =>
    return { status, out := Report.human (isColored invocation.color config.color) outcomes,
             err := "Checking " ++ toString files.length ++ " description files...\n" }
  | .jsonl => return { status, out := Report.jsonl outcomes }

/-! ## Canonical forms -/

/-- The status with which a command ends that fails. -/
def failureStatus : Failure → Status
  | .parse .. | .config .malformed => .malformed
  | .compile _ => .failures
  | _ => .error

/-- The written form of a description, on a line of its own. -/
def render (d : Description) (compact : Bool) : String :=
  (if compact then d.toJson.compact else d.toJson.pretty) ++ "\n"

/-- Writes the canonical form of a description. -/
def runCanonical (store : Store) (config : Option String) (file : String) (output : Option String) (compact : Bool) :
    Except Failure Completion := do
  let (_, functions) ← (Config.findWithFunctions store config).mapError .config
  let d ← Description.load store file
  let canonical ← (canonicalize functions d).mapError .compile
  let rendered := render canonical compact
  match output with
  | none => return { out := rendered }
  | some path =>
    let _ ← (store.writeText path rendered).mapError .access
    return { written := [(path, rendered)] }

end Command

/-- Runs a command. -/
def Invocation.run (store : Store) (invocation : Invocation) : Completion :=
  match invocation.command with
  | .init force => Command.runInit store force
  | .check paths format =>
    match Command.runCheck store invocation paths format with
    | .ok completion => completion
    | .error e => .failed e.status e.message
  | .canonical file output compact =>
    match Command.runCanonical store invocation.config file output compact with
    | .ok completion => completion
    | .error e => .failed (Command.failureStatus e) e.message
  | .directives .human => { out := Listing.human Grammar.directives }
  | .directives .jsonl => { out := Listing.jsonl Grammar.directives }

namespace CommandLine

/-- The name of the program and its version. -/
def version : String := "schemabridge 0.1.0\n"

/-- How the program is called. -/
def usage : String := "\n".intercalate [
  "Translate between validation rule descriptions and live validators",
  "",
  "Usage: schemabridge [--color auto|always|never] [--config FILE] COMMAND",
  "",
  "Commands:",
  "  init [--force]                                  Write a default schemabridge.toml",
  "  check [-f human|jsonl] [PATHS...]               Compile every description file and report per-file status",
  "  canonical [-o FILE] [--compact] FILE            Print the canonical form of a description file",
  "  directives [-f human|jsonl]                     List every directive in the grammar table",
  "  help [COMMAND]                                  Print this message",
  ""]

/-- The answer to arguments that name nothing to run. -/
def refuse : UsageError → Completion
  | .help => { out := usage }
  | .version => { out := version }
  | .nothing => { status := .error, err := usage }
  | e => { status := .error, err := "error: " ++ e.message ++ "\n\n" ++ usage }

/-- Reads arguments, and runs the command that they name. -/
def run (store : Store) (args : List String) : Completion :=
  match Invocation.parse args with
  | .error e => refuse e
  | .ok invocation => invocation.run store

end CommandLine

end Rulebook
