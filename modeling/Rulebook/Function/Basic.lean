import Rulebook.Json.Basic

/-!
# Functions and registries

Some directives name a function instead of carrying data. A function is a comparator, which decides whether two
values are duplicates, or a transform, which maps a value. A `Registry` is a table of functions by name.

* `Registry.comparator` and `Registry.transform` resolve a name to a function of the wanted kind.
-/

namespace Rulebook

/-- The two kinds of function. -/
inductive FunctionKind where
  | comparator
  | transform
  deriving DecidableEq

/-- The word for a kind. -/
def FunctionKind.text : FunctionKind → String
  | .comparator => "comparator"
  | .transform => "transform"

/-- A function that a description may name. -/
inductive Function where
  | comparator (decides : Json → Json → Bool)
  | transform (maps : Json → Json)

/-- The kind of a function. -/
def Function.kind : Function → FunctionKind
  | comparator _ => .comparator
  | transform _ => .transform

/-- A function under the name it was resolved by. -/
structure NamedFunction where
  name : String
  function : Function

namespace NamedFunction

/-- Calls the function as a comparator; a transform has no answer. -/
def compare? (f : NamedFunction) (a b : Json) : Option Bool :=
  match f.function with
  | .comparator decides => some (decides a b)
  | .transform _ => none

/-- Calls the function as a transform; a comparator has no answer. -/
def transform? (f : NamedFunction) (value : Json) : Option Json :=
  match f.function with
  | .transform maps => some (maps value)
  | .comparator _ => none

/-- Whether two resolved functions have the same name and kind. -/
def same (f g : NamedFunction) : Bool := f.name == g.name && f.function.kind == g.function.kind

end NamedFunction

/-- Why a name does not resolve. -/
inductive ResolveError where
  | unknown (name : String)
  | otherKind (name : String) (expected : FunctionKind)
  deriving DecidableEq

/-- Functions by name. -/
abbrev Registry := Table Function

namespace Registry

/-- Resolves a name to a function of the given kind. -/
def resolve (registry : Registry) (name : String) (kind : FunctionKind) : Except ResolveError NamedFunction :=
  match Table.get? registry name with
  | none => .error (.unknown name)
  | some function =>
    if function.kind = kind then .ok ⟨name, function⟩ else .error (.otherKind name kind)

/-- Resolves a name to a comparator. -/
def comparator (registry : Registry) (name : String) : Except ResolveError NamedFunction :=
  resolve registry name .comparator

/-- Resolves a name to a transform. -/
def transform (registry : Registry) (name : String) : Except ResolveError NamedFunction :=
  resolve registry name .transform

/-- The registered names in increasing order. -/
def sortedNames (registry : Registry) : List String :=
  (Table.names registry).mergeSort fun a b => decide (a ≤ b)

end Registry

end Rulebook
