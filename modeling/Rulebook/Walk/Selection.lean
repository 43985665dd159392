import Rulebook.Files.Path
import Rulebook.Glob.Match

/-!
# Selecting description files

A selection takes the JSON files that one of its globs accepts, or all where it has none, unless one of its
exclusions accepts them. Globs are held against the path seen from the working directory. What lies in a directory
`.git` is always excluded.

`Selection.verdict` says of a path what becomes of it.
-/

namespace Rulebook

/-- What becomes of an entry that a walk meets. -/
inductive Verdict where
  | selected
  | notFile
  | notJson
  | excluded
  deriving DecidableEq

/-- Globs that select files. -/
structure Selection where
  included : Option (List Glob)
  excluded : List Glob

namespace Selection

/-- Reads globs; the first that is malformed is the fault. -/
def readGlobs : List String → Except String (List Glob)
  | [] => .ok []
  | pattern :: rest =>
    match Glob.parse? false false pattern with
    | none => .error pattern
    | some glob => do return glob :: (← readGlobs rest)

/-- The pattern of what is always excluded. -/
def alwaysExcluded : String := "**/.git/**"

/-- The selection by patterns; without patterns to include it takes every JSON file. -/
def make (includes excludes : List String) : Except String Selection := do
  let included ← match includes with
    | [] => .ok none
    | patterns => (readGlobs patterns).map some
  return ⟨included, ← readGlobs (excludes ++ [alwaysExcluded])⟩

/-- Whether a path is that of a JSON file. -/
def isJsonPath (path : String) : Bool := path.toList.reverse.take 5 == ['n', 'o', 's', 'j', '.']

/-- What becomes of an entry at a path. -/
def verdict (selection : Selection) (path : String) (isFile : Bool) : Verdict :=
  if !isFile then .notFile
  else if !isJsonPath path then .notJson
  else
    let path := Path.withoutDot path
    let included := match selection.included with
      | none => true
      | some globs => globs.any fun g => g.accepts path
    if !included || selection.excluded.any (fun g => g.accepts path) then .excluded else .selected

end Selection

end Rulebook
