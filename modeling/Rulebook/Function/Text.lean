import Rulebook.Function.Basic
import Rulebook.Unicode.Quoted

/-!
# Functions and registries in words

A function shows its kind only, a registry its names in increasing order.
-/

namespace Rulebook

/-- A function in words. -/
def Function.text (f : Function) : String := "Function::" ++ f.kind.text ++ "(..)"

/-- A registry in words. -/
def Registry.text (registry : Registry) : String :=
  "FunctionRegistry \x7b functions: [" ++ ", ".intercalate (registry.sortedNames.map Quoted.quote) ++ "] \x7d"

end Rulebook
