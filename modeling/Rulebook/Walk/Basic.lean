import Rulebook.Walk.Ignore
import Rulebook.Walk.Selection

/-!
# Walks

A walk goes through roots in the order in which they are given, and below each through its directories, every
directory in front of its entries and entries in increasing order of their names. Entries that ignore files leave out
are not met; a root is always met.

Ignore files above a root are read once for all roots that follow each other below them. What they say of the entries
of a later root, they say of the same entries at the place of the root for which they were read.

* `Walk.steps` gives what a walk meets. A root that is not there is a failure in its place.
* `Walk.files` gives the files that are selected.
-/

namespace Rulebook

/-- What a walk meets: an entry and what becomes of it, or a failure. -/
inductive WalkStep where
  | met (path : String) (verdict : Verdict)
  | failed (path : String)
  deriving DecidableEq

namespace Walk

/-- An entry on a walk: its path, and whether it is a file. -/
structure Found where
  path : String
  isFile : Bool

mutual
/-- An entry at a place below the root, and all below it; the levels above it come nearest first. -/
def below (levels : List IgnoreLevel) (path : String) (place : List String) : Entry → List Found
  | .file _ => [⟨path, true⟩]
  | .directory entries =>
    ⟨path, false⟩ :: belowAll (.ofEntry [] place.length (.directory entries) :: levels) path place entries

/-- The entries of a directory and all below them. -/
def belowAll (levels : List IgnoreLevel) (path : String) (place : List String) : List (String × Entry) → List Found
  | [] => []
  | (name, entry) :: rest =>
    (if IgnoreLevel.isIgnored levels (place ++ [name]) (!entry.isFile) then []
      else below levels (Path.join path name) (place ++ [name]) entry)
      ++ belowAll levels path place rest
end

/-- A directory above a root. Its ignore files were read for the root at `base`. -/
structure Ancestor where
  place : List String
  base : List String

/-- The directories above a place, the nearest one first. Those that the root before it has too are read already. -/
def ancestors (known : List Ancestor) (place : List String) : List Ancestor :=
  (List.range place.length).reverse.map fun n =>
    (known.find? fun a => a.place == place.take n).getD ⟨place.take n, place⟩

/-- The place from which the directories above a root see it: the root for which the nearest of them was read. -/
def baseOf : List Ancestor → List String
  | [] => []
  | nearest :: _ => nearest.base

/-- The levels of the directories above a root. -/
def levelsOf (store : Store) (above : List Ancestor) : List IgnoreLevel :=
  above.filterMap fun a =>
    (store.top.at? a.place).map (.ofEntry ((baseOf above).drop a.place.length) 0)

/-- Whether an ignore file above a root is at fault, of those that were not read already. -/
def faultAbove (store : Store) (known above : List Ancestor) : Bool :=
  (levelsOf store (above.filter fun a => !known.any fun b => b.place == a.place)).any IgnoreLevel.faulty

/-- What a walk meets at the roots and below, after a root with some directories above it. A dash stands for standard
input, which is no file; an ignore file above a root that is at fault is a failure. -/
def through (store : Store) (selection : Selection) (known : List Ancestor) : List String → List WalkStep
  | [] => []
  | root :: rest =>
    if Path.parts root = [.name "-"] then .met "<stdin>" .notFile :: through store selection known rest
    else
      let meets (levels : List IgnoreLevel) (entry : Entry) : List WalkStep :=
        (below levels root [] entry).map fun f => .met f.path (selection.verdict f.path f.isFile)
      match store.located root with
      | none => .failed root :: through store selection [] rest
      | some (_, .file content) => meets [] (.file content) ++ through store selection [] rest
      | some (place, .directory entries) =>
        let above := ancestors known place
        (if faultAbove store known above then [.failed root] else [])
          ++ meets (levelsOf store above) (.directory entries) ++ through store selection above rest

/-- What a walk through roots meets; without roots it goes through the working directory. -/
def steps (store : Store) (selection : Selection) (roots : List String) : List WalkStep :=
  through store selection [] (if roots.isEmpty then ["."] else roots)

/-- The selected files of a walk, and its failures. -/
def files (steps : List WalkStep) : List (Except String String) :=
  steps.filterMap fun step => match step with
    | .met path .selected => some (.ok path)
    | .met _ _ => none
    | .failed path => some (.error path)

end Walk

end Rulebook
