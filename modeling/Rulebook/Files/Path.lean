import Rulebook.Text.Pieces

/-!
# Paths

A path is a text. Its components are what lies between slashes; repeated slashes and inner dots do not count, so
paths that are spelled differently may have the same components.

* `Path.le` orders paths by their components, a directory in front of names that extend its own.
* `Path.withoutDot` drops the dot in front of a path that starts at the working directory.
-/

namespace Rulebook

/-- A component of a path, in the order in which components sort. -/
inductive PathPart where
  | root
  | here
  | parent
  | name (text : String)
  deriving DecidableEq

namespace PathPart

/-- The rank of a kind of component. -/
def rank : PathPart → Nat
  | root => 0
  | here => 1
  | parent => 2
  | name _ => 3

/-- The name of a component that has one. -/
def text : PathPart → String
  | name text => text
  | _ => ""

/-- Whether a component sorts in front of another. -/
def before (a b : PathPart) : Bool := a.rank < b.rank || (a.rank == b.rank && decide (a.text < b.text))

end PathPart

namespace Path

/-- The component of a piece between slashes, unless it is empty or an inner dot. -/
def part? (piece : List Char) : Option PathPart :=
  if piece = [] ∨ piece = ['.'] then none
  else if piece = ['.', '.'] then some .parent
  else some (.name (String.ofList piece))

/-- The components of a path. -/
def parts (path : String) : List PathPart :=
  let pieces := Text.pieces '/' path.toList
  let inner := pieces.filterMap part?
  match path.toList, pieces with
  | '/' :: _, _ => .root :: inner
  | _, ['.'] :: _ => .here :: inner
  | _, _ => inner

/-- The order of lists of components: by the first components that differ, and a list in front of its
extensions. -/
def leParts : List PathPart → List PathPart → Bool
  | [], _ => true
  | _ :: _, [] => false
  | a :: as, b :: bs => if a = b then leParts as bs else a.before b

/-- The order of paths. -/
def le (a b : String) : Bool := leParts (parts a) (parts b)

/-- The path of an entry of a directory. -/
def join (directory name : String) : String :=
  match directory.toList.getLast? with
  | none => name
  | some c => if c = '/' then directory ++ name else directory ++ "/" ++ name

/-- What is left of a path without the slashes and inner dots in front. -/
def trimFront : List Char → List Char
  | '/' :: rest => trimFront rest
  | '.' :: '/' :: rest => trimFront rest
  | ['.'] => []
  | text => text

/-- The path seen from the working directory: without a dot in front. -/
def withoutDot (path : String) : String :=
  match path.toList with
  | ['.'] => ""
  | '.' :: '/' :: rest => String.ofList (trimFront rest)
  | _ => path

end Path

end Rulebook
