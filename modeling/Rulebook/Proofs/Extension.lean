import Rulebook.Proofs.Depth

/-!
# Registering more functions

A registry is asked for functions one by one, by name, and nothing else of it is seen. So a registry that holds all
functions of another, and possibly more, compiles each description to the same outcome, unless this outcome is that a
function is unknown (`compile_extends`).

The outcomes of the two runs are related by `Stays`. The relation holds where a name is resolved (`stays_resolve`), and
it is kept by putting runs together (`congruence_stays`), hence by compiling.
-/

namespace Rulebook

/-- Every function of the smaller registry stands in the larger one under the same name. -/
def Registry.Extends (larger smaller : Registry) : Prop :=
  ∀ (name : String) (f : Function), Table.get? smaller name = some f → Table.get? larger name = some f

namespace Call

/-- The outcome with more functions is the same, unless without them a function is unknown. -/
inductive Stays (α : Type) : Outcome α → Outcome α → Prop
  | same (x : Outcome α) : Stays α x x
  | unknown (name : String) (y : Outcome α) : Stays α (.error (.function (.unknown name))) y

/-- A run and its continuation stay when both do. -/
theorem Stays.bind {α β : Type} {x y : Outcome α} {f g : α → Outcome β} (h : Stays α x y)
    (hfg : ∀ a, Stays β (f a) (g a)) : Stays β (x >>= f) (y >>= g) := by
  cases h with
  | unknown name y => exact .unknown name _
  | same =>
    cases x with
    | error e => exact .same _
    | ok a => exact hfg a

variable {smaller larger : Registry} (hext : larger.Extends smaller)

include hext

/-- **A name that resolves, or is of another kind, does so among more functions.** -/
theorem stays_resolve (name : String) (kind : FunctionKind) :
    Stays _ ((smaller.resolve name kind).mapError .function) ((larger.resolve name kind).mapError .function) := by
  unfold Registry.resolve
  cases hentry : Table.get? smaller name with
  | none => exact .unknown name _
  | some f =>
    rw [hext name f hentry]
    exact .same _

theorem congruence_stays : Congruence Stays smaller larger where
  ok _ := .same _
  error _ _ := .same _
  bind := Stays.bind
  resolve := stays_resolve hext

end Call

/-- **Registering more functions never changes what already worked.** Where a registry holds every function of
another under the same name, a description that compiles with the smaller one compiles to the same validator with the
larger one; and a description that fails for another reason than an unknown function fails for the same reason. -/
theorem compile_extends {smaller larger : Registry} (hext : larger.Extends smaller) (d : Description) :
    (∀ v, compile smaller d = .ok v → compile larger d = .ok v) ∧
      ∀ e, compile smaller d = .error e → (∀ name, e ≠ .function (.unknown name)) → compile larger d = .error e := by
  have hstays : Call.Stays Validator (compile smaller d) (compile larger d) := by
    rw [← Engine.memory_compile, ← Engine.memory_compile]
    exact Engine.rel_within (Call.congruence_stays hext) (fun name => .same _) d.depth d
  generalize compile smaller d = x at hstays ⊢
  generalize compile larger d = y at hstays ⊢
  cases hstays with
  | same => exact ⟨fun v hv => hv, fun e he _ => he⟩
  | unknown name =>
    constructor
    · intro v hv
      cases hv
    · intro e he hne
      cases he
      exact absurd rfl (hne name)

/-- With a comparator registered besides, a reference keeps its transform, and a transform is still no comparator. -/
theorem compile_extends_comparator :
    Registry.Extends [("c", .comparator Json.same), ("t", .transform id)] [("t", .transform id)] ∧
    (∃ v, compile [("t", .transform id)]
        ⟨.any, [("default", .obj [("$ref", .str "a"), ("adjust", .str "t")])], none⟩ = .ok v ∧
      compile [("c", .comparator Json.same), ("t", .transform id)]
        ⟨.any, [("default", .obj [("$ref", .str "a"), ("adjust", .str "t")])], none⟩ = .ok v) ∧
    compile [("t", .transform id)] ⟨.array, [("unique", .obj [("comparator", .str "t")])], none⟩ =
      .error (.function (.otherKind "t" .comparator)) ∧
    compile [("c", .comparator Json.same), ("t", .transform id)]
      ⟨.array, [("unique", .obj [("comparator", .str "t")])], none⟩ =
        .error (.function (.otherKind "t" .comparator)) := by
  have hext : Registry.Extends [("c", .comparator Json.same), ("t", .transform id)] [("t", .transform id)] := by
    intro name f hf
    rw [Table.get?_cons, Table.get?_nil] at hf
    split at hf
    · next hname =>
      cases hf
      rw [← hname]
      rfl
    · cases hf
  obtain ⟨hok, -⟩ := compile_extends hext ⟨.any, [("default", .obj [("$ref", .str "a"), ("adjust", .str "t")])], none⟩
  obtain ⟨-, herror⟩ := compile_extends hext ⟨.array, [("unique", .obj [("comparator", .str "t")])], none⟩
  exact ⟨hext, ⟨_, rfl, hok _ rfl⟩, rfl, herror _ rfl fun name hname => by cases hname⟩

end Rulebook
