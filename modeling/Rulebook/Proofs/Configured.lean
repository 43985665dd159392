import Rulebook.Function.Builtin
import Rulebook.Proofs.Table

/-!
# What a configured registry holds

A name stands for the function of the last description that a configuration lists under it, and otherwise for the
built-in function with that name (`Registry.standsFor`). A registry made from a configuration holds this function under
every name (`Registry.get?_ofSpecs`).
-/

namespace Rulebook

/-- Mapping the values of a table maps what its names read as. -/
theorem Table.get?_map {α β : Type} (f : α → β) (name : String) : ∀ table : Table α,
    get? (table.map fun e => (e.1, f e.2)) name = (get? table name).map f
  | [] => rfl
  | (key, value) :: rest => by
    rw [List.map_cons, get?_cons, get?_cons, get?_map f name rest]
    split <;> rfl

namespace Registry

variable {registry : Registry} {specs : List (String × FunctionSpec)}

/-- The description that a name stands for: the last that is listed under it, else that of a built-in function. -/
def standsFor (specs : List (String × FunctionSpec)) (name : String) : Option FunctionSpec :=
  (Table.get? specs.reverse name).or ((Builtin.named? name).map .builtin)

/-- Built-in functions that are listed under their names are found by their names. -/
theorem get?_named (name : String) : ∀ bs : List Builtin, Table.get? (bs.map fun b => (b.name, b.function)) name =
    (bs.find? fun b => b.name == name).map Builtin.function
  | [] => rfl
  | b :: bs => by
    rw [List.map_cons, Table.get?_cons, List.find?_cons, get?_named name bs]
    by_cases h : b.name = name
    · simp [h]
    · simp [h, beq_false_of_ne h]

/-- Configured functions are written one after another. -/
theorem addSpecs_ok : ∀ {specs : List (String × FunctionSpec)} {base : Registry}, addSpecs base specs = some registry →
    registry = Table.putAll base (specs.map fun e => (e.1, e.2.function))
  | [], _, h => (Option.some.inj h).symm
  | (name, spec) :: specs, base, h => by
    unfold addSpecs at h
    split at h
    · cases h
    · rw [List.map_cons, Table.putAll_cons]
      exact addSpecs_ok h

/-- **A configured registry** holds under each name the function that the name stands for. -/
theorem get?_ofSpecs (h : ofSpecs specs = some registry) (name : String) :
    Table.get? registry name = (standsFor specs name).map FunctionSpec.function := by
  have hlisted : Table.get? (specs.map fun e => (e.1, e.2.function)).reverse name =
      (Table.get? specs.reverse name).map FunctionSpec.function := by
    rw [← List.map_reverse]
    exact Table.get?_map FunctionSpec.function name specs.reverse
  rw [addSpecs_ok h, Table.get?_putAll, hlisted, builtins, get?_named, standsFor]
  cases Table.get? specs.reverse name with
  | some spec => rfl
  | none =>
    rw [Option.map_none, Option.none_or, Option.none_or, Option.map_map]
    rfl

end Registry
end Rulebook
