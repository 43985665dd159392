import Rulebook.Compile.Basic
import Rulebook.Config.Basic
import Rulebook.Description.Text
import Rulebook.Extract

/-!
# Checking description files

A file is checked by reading, compiling and extracting its description; what comes out is how many directives it has
and how many of them extraction recovers, or the failure. One file that fails does not keep others from being checked.

* `Description.load` reads a description from a file.
* `Batch.check` checks files, one outcome for each, in the given order.
-/

namespace Rulebook

/-- Why a file or a command fails. -/
inductive Failure where
  | config (cause : ConfigError)
  | compile (cause : CompileError)
  | parse (file : String) (cause : TextError)
  | access (cause : FileError)

namespace Failure

/-- The failure in words. -/
def message : Failure → String
  | config cause => "Configuration error: " ++ cause.message
  | compile cause => "Compile error: " ++ cause.message
  | parse file cause => "Parse error in " ++ file ++ ": " ++ cause.message
  | access cause => "I/O error: " ++ cause.message

/-- The short name of the kind of failure. -/
def kind : Failure → String
  | config _ => "config"
  | compile _ => "compile"
  | parse .. => "parse"
  | access _ => "io"

end Failure

/-- Reads a description from a text that stands in the named file. -/
def Description.parseIn (file text : String) : Except Failure Description :=
  (parse text).mapError (.parse file)

/-- Reads a description from a file. -/
def Description.load (store : Store) (path : String) : Except Failure Description :=
  match store.readText path with
  | .error e => .error (.access e)
  | .ok text => parseIn path text

/-- The canonical form of a description: what extraction recovers from its validator. -/
def canonicalize (functions : Registry) (d : Description) : Except CompileError Description :=
  (compile functions d).map extract

/-- How many directives a description has, and how many of them are recovered. -/
structure Recovery where
  directives : Nat
  recovered : Nat
  deriving DecidableEq

/-- What becomes of a file. -/
structure Outcome where
  path : String
  result : Except Failure Recovery

namespace Outcome

/-- Whether the file passes. -/
def passed (outcome : Outcome) : Bool := outcome.result.isOk

end Outcome

namespace Batch

/-- Checks a file. -/
def checkFile (store : Store) (functions : Registry) (path : String) : Except Failure Recovery := do
  let d ← Description.load store path
  let canonical ← (canonicalize functions d).mapError .compile
  return ⟨d.count, canonical.count⟩

/-- Checks files. -/
def check (store : Store) (functions : Registry) (paths : List String) : List Outcome :=
  paths.map fun path => ⟨path, checkFile store functions path⟩

/-- The number of files that fail. -/
def failures (outcomes : List Outcome) : Nat := outcomes.countP fun o => !o.passed

/-- The outcomes in the order of their paths. -/
def sorted (outcomes : List Outcome) : List Outcome := outcomes.mergeSort fun a b => Path.le a.path b.path

end Batch

end Rulebook
