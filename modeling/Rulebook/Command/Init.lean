import Rulebook.Config.Basic

/-!
# Starting a configuration

`Init.start` writes a configuration to start from into a directory. A file that is there already stays as it is
unless it is to be replaced.
-/

namespace Rulebook

/-- The name of the file that holds a configuration. -/
def Config.fileName : String := "schemabridge.toml"

namespace Init

/-- The configuration to start from, with what else may be configured as comments. -/
def template : String := "\n".intercalate [
  "[bridge]",
  "version = \"1\"",
  "",
  "# Description files to include",
  "include = [\"**/*.json\"]",
  "",
  "# Description files to exclude",
  "# exclude = [\"**/target/**\", \"**/node_modules/**\"]",
  "",
  "[output]",
  "format = \"human\"",
  "# color = \"auto\"",
  "",
  "[functions]",
  "# Alias a builtin comparator or transform:",
  "# caseless = \"case-insensitive\"",
  "# Compare objects by one key:",
  "# same-id = \x7b field-equals = \"id\" \x7d",
  ""]

/-- What becomes of the file. -/
inductive Effect where
  | created
  | skipped
  | overwritten
  deriving DecidableEq

/-- Why no configuration can be started. -/
inductive Fault where
  | notDirectory (path : String)
  | file (cause : FileError)
  deriving DecidableEq

/-- The reason in words. -/
def Fault.message : Fault → String
  | notDirectory path => "Path error: Path '" ++ path ++ "' is not a directory"
  | file cause => "I/O error: " ++ cause.message

/-- The path of the configuration of a directory. -/
def target (directory : String) : String := Path.join directory Config.fileName

/-- Writes the configuration to start from, and gives the store as it is afterwards. -/
def start (store : Store) (directory : String) (force : Bool) : Except Fault (Effect × Store) :=
  if !store.hasDirectory directory then .error (.notDirectory directory)
  else
    let found := store.has (target directory)
    if found && !force then .ok (.skipped, store)
    else
      match store.writeText (target directory) template with
      | .error e => .error (.file e)
      | .ok after => .ok (if found then .overwritten else .created, after)

end Init

end Rulebook
