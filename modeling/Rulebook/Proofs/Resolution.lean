import Rulebook.Proofs.Origin
import Rulebook.Proofs.Sound

/-!
# Every function name is resolved

A description names functions, and a compiled validator holds the functions themselves: the transform of a reference
with an adjust name, the comparator of a rule about duplicates, and the transforms of the rules that call one. Each is
the function that the registry holds under the name, and it is of the kind that its place asks for.

* `Registry.resolve_eq_ok_iff`: a name resolves to the function that is held under it, if that is of the kind.
* `bound_of_compile`: the references of a compiled validator are bound.
* `held_of_compile`: a function in a rule is the one that is held under its name.
* `resolved_of_inside`: both at every validator inside a compiled one.
-/

namespace Rulebook

open Fallible Grammar Compile

variable {functions : Registry}

/-! ## Functions that are held -/

namespace Registry

/-- The function stands in the registry under its name and is of the kind. -/
structure Holds (functions : Registry) (kind : FunctionKind) (f : NamedFunction) : Prop where
  entry : Table.get? functions f.name = some f.function
  ofKind : f.function.kind = kind

/-- A name resolves to the function that is held under it, if that is of the kind. -/
theorem resolve_eq_ok_iff {name : String} {kind : FunctionKind} {f : NamedFunction} :
    functions.resolve name kind = .ok f ↔ f.name = name ∧ functions.Holds kind f := by
  unfold resolve
  constructor
  · intro h
    split at h
    · cases h
    · next function hentry =>
      split at h
      · next hkind =>
        cases h
        exact ⟨rfl, hentry, hkind⟩
      · cases h
  · rintro ⟨rfl, hentry, hkind⟩
    rw [hentry]
    simp only [hkind, if_true]

end Registry

/-! ## References -/

/-- A reference carries a transform exactly when it has an adjust name, and this is the one held under the name. -/
structure Reference.Bound (functions : Registry) (r : Reference) : Prop where
  carries : r.adjuster.isSome = r.adjust.isSome
  held : ∀ f, r.adjuster = some f → r.adjust = some f.name ∧ functions.Holds .transform f

/-- A resolved reference is bound. -/
theorem Reference.Resolved.bound {r : Reference} (h : r.Resolved functions) : r.Bound functions := by
  rcases h.adjusted with ⟨hname, hnone⟩ | ⟨f, -, hf, hname, hsome⟩
  · refine ⟨by rw [hname, hnone]; rfl, fun g hg => ?_⟩
    rw [hnone] at hg
    cases hg
  · refine ⟨by rw [hname, hsome]; rfl, fun g hg => ?_⟩
    obtain rfl : f = g := Option.some.inj (hsome.symm.trans hg)
    exact ⟨hname, (Registry.resolve_eq_ok_iff.1 hf).2⟩

namespace Validator

/-- The validator holds the reference: as its default, in a set of values, or as an argument of a rule. -/
inductive Refers (v : Validator) (r : Reference) : Prop
  | default : v.default = some (.reference r) → Refers v r
  | valid {set : ValueSet} : v.valid = some set → r ∈ set.references → Refers v r
  | invalid {set : ValueSet} : v.invalid = some set → r ∈ set.references → Refers v r
  | argument {rule : Rule Validator} {key : String} : rule ∈ v.rules → (key, .reference r) ∈ rule.args → Refers v r

/-- A rule of the method holds the function as an argument. -/
def Calls (v : Validator) (method : String) (f : NamedFunction) : Prop :=
  ∃ rule ∈ v.rules, rule.method = method ∧ ∃ key, (key, .function f) ∈ rule.args

end Validator

section Compiled

variable {d : Description} {v : Validator} (hv : compile functions d = .ok v)

include hv

/-- **The references of a compiled validator are bound.** -/
theorem bound_of_compile {r : Reference} (h : v.Refers r) : r.Bound functions := by
  have hsound := sound_of_compile hv
  cases h with
  | default hdefault =>
    have hresolved : r.Resolved functions := hsound.default _ hdefault
    exact hresolved.bound
  | valid hset hr => exact ((hsound.valid _ hset).1.references r hr).bound
  | invalid hset hr => exact ((hsound.invalid _ hset).1.references r hr).bound
  | argument hrule hr =>
    obtain ⟨e, -, es, hes, hre⟩ := (mem_rules_iff hv).1 hrule
    obtain ⟨row, -, hmade⟩ := made_of_rule hes hre
    cases hmade _ hr with
    | reference hresolved => exact hresolved.bound

end Compiled

/-! ## Functions in rules -/

/-- The methods of the rules that hold functions. -/
def functionMethods : List String := ["unique", "external", "fork"]

/-- A rule of such a method comes from the directive of the same name. -/
theorem source_of_method {type : TypeTag} {name : String} {value : Json} {es : List (Effect Validator)}
    {r : Rule Validator} (h : log functions type name value = .ok es) (hr : .rule r ∈ es)
    (hm : r.method ∈ functionMethods) : name = r.method := by
  cases (recorded_of_log h hr).shape with
  | own _ _ _ _ hmethod _ => exact hmethod.symm
  | hidden _ _ hmethod => exact hmethod.symm
  | sign _ _ _ => exact absurd hm (by simp [functionMethods])
  | size _ _ _ =>
    have hsize : (if type.comparesByValue then "compare" else "length") ∉ functionMethods := by split <;> decide
    exact absurd hm hsize
  | keys _ _ => exact absurd hm (by simp [functionMethods])
  | pattern _ _ => exact absurd hm (by simp [functionMethods])

/-- **A function in a rule is the one that is held under its name**, of the kind that the directive asks for. -/
theorem held_of_compile {d : Description} {v : Validator} (hv : compile functions d = .ok v) {method : String}
    {f : NamedFunction} (hm : method ∈ functionMethods) (h : v.Calls method f) :
    ∃ row, lookup method = some row ∧ functions.Holds row.category.functionKind f := by
  obtain ⟨rule, hrule, rfl, key, hf⟩ := h
  obtain ⟨e, -, es, hes, hre⟩ := (mem_rules_iff hv).1 hrule
  have hname := source_of_method hes hre hm
  obtain ⟨row, hrow, hmade⟩ := made_of_rule hes hre
  rw [hname] at hrow
  cases hmade _ hf with
  | function hresolve => exact ⟨row, hrow, (Registry.resolve_eq_ok_iff.1 hresolve).2⟩

/-- **Every function name is resolved, to the right kind.** At every validator inside a compiled one: a reference in
the default, in a set of values or in a rule carries a transform exactly when it has an adjust name, and this is the
transform that the registry holds under the name; the function of a rule about duplicates is the comparator, and that
of an external or forking rule the transform, that the registry holds under its name. -/
theorem resolved_of_inside {d : Description} {u v : Validator} (hv : compile functions d = .ok v) (hu : Inside u v) :
    (∀ r, u.Refers r → r.Bound functions) ∧ (∀ f, u.Calls "unique" f → functions.Holds .comparator f) ∧
      ∀ f, u.Calls "external" f ∨ u.Calls "fork" f → functions.Holds .transform f := by
  obtain ⟨c, hc⟩ := compile_of_inside hu hv
  have hheld : ∀ {method : String} {row : Directive} {f : NamedFunction}, method ∈ functionMethods →
      lookup method = some row → u.Calls method f → functions.Holds row.category.functionKind f := by
    intro method row f hm hrow hf
    obtain ⟨row', hrow', hholds⟩ := held_of_compile hc hm hf
    rw [hrow] at hrow'
    cases hrow'
    exact hholds
  refine ⟨fun r hr => bound_of_compile hc hr, fun f hf => ?_, fun f hf => ?_⟩
  · exact hheld (by decide) row_unique.lookup hf
  · rcases hf with hf | hf
    · exact hheld (by decide) (show lookup "external" = some _ from rfl) hf
    · exact hheld (by decide) (show lookup "fork" = some _ from rfl) hf

/-- Inside a condition, a default is bound to its transform, and the functions of rules are those of their names. -/
theorem resolved_inside_condition :
    ∃ v u r f g,
      compile [("c", .comparator Json.same), ("t", .transform id)] ⟨.object, [("when", .obj [("schema",
        .obj [("type", .str "array"), ("default", .obj [("$ref", .str "a"), ("adjust", .str "t")]),
          ("unique", .obj [("comparator", .str "c")]),
          ("fork", .obj [("paths", .null), ("adjuster", .str "t")])])])], none⟩ = .ok v ∧
      Inside u v ∧ u.Refers r ∧ u.Calls "unique" f ∧ u.Calls "fork" g ∧
      Reference.Bound [("c", .comparator Json.same), ("t", .transform id)] r ∧
      Registry.Holds [("c", .comparator Json.same), ("t", .transform id)] .comparator f ∧
      Registry.Holds [("c", .comparator Json.same), ("t", .transform id)] .transform g := by
  have hv : compile [("c", .comparator Json.same), ("t", .transform id)] ⟨.object, [("when", .obj [("schema",
      .obj [("type", .str "array"), ("default", .obj [("$ref", .str "a"), ("adjust", .str "t")]),
        ("unique", .obj [("comparator", .str "c")]),
        ("fork", .obj [("paths", .null), ("adjuster", .str "t")])])])], none⟩ = .ok _ := rfl
  obtain ⟨hreferences, hcomparators, htransforms⟩ :=
    resolved_of_inside hv (.argument List.mem_cons_self List.mem_cons_self .self)
  have hunique := hcomparators _ ⟨_, List.mem_cons_self, rfl, _, List.mem_cons_self⟩
  have hfork := htransforms _ (.inr ⟨_, List.mem_cons_of_mem _ List.mem_cons_self, rfl, _,
    List.mem_cons_of_mem _ List.mem_cons_self⟩)
  exact ⟨_, _, _, _, _, hv, .argument List.mem_cons_self List.mem_cons_self .self, .default rfl,
    ⟨_, List.mem_cons_self, rfl, _, List.mem_cons_self⟩,
    ⟨_, List.mem_cons_of_mem _ List.mem_cons_self, rfl, _, List.mem_cons_of_mem _ List.mem_cons_self⟩,
    hreferences _ (.default rfl), hunique, hfork⟩

end Rulebook
