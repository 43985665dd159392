import Rulebook.Proofs.Order
import Rulebook.Proofs.Projection

/-!
# What stands beside the rules survives

Extraction may lose rules, and a rule that it writes may be misread. All else of a compiled validator comes back when
its description is compiled again: type, presence, default, allowed and refused values, replacements and children, at
every node (`withoutRules_eq`). The directives of the rules do not touch it (`component_of_emitted`), and the
other directives are a canonical layout by themselves (`beside_canonical`).
-/

namespace Rulebook

open Fallible Compile

/-! ## Leaving out the rules -/

namespace Validator

mutual
/-- The validator without its rules, and its children without theirs. -/
def withoutRules : Validator → Validator
  | ⟨type, presence, default, valid, invalid, _, replacements, children⟩ =>
    ⟨type, presence, default, valid, invalid, [], replacements, childrenWithoutRules? children⟩
termination_by structural v => v

/-- An optional table of children without their rules. -/
def childrenWithoutRules? : Option (List (String × Validator)) → Option (List (String × Validator))
  | none => none
  | some children => some (childrenWithoutRules children)
termination_by structural children => children

/-- Children without their rules. -/
def childrenWithoutRules : List (String × Validator) → List (String × Validator)
  | [] => []
  | (name, child) :: rest => (name, withoutRules child) :: childrenWithoutRules rest
termination_by structural children => children
end

theorem withoutRules_eq_with (v : Validator) :
    v.withoutRules = { v with rules := [], children := childrenWithoutRules? v.children } := by
  cases v
  rfl

theorem childrenWithoutRules_eq_map : ∀ children : List (String × Validator),
    childrenWithoutRules children = children.map fun e => (e.1, e.2.withoutRules)
  | [] => rfl
  | (name, v) :: rest => by rw [childrenWithoutRules, childrenWithoutRules_eq_map rest, List.map_cons]

end Validator

/-! ## A single node -/

section Compiled

variable {functions : Registry} {d : Description} {v : Validator} (hv : compile functions d = .ok v)

include hv

/-- A directive that extraction writes for a rule is on the rules. -/
theorem component_of_emitted {e : String × Json} (he : e ∈ v.emitted) : Component.ofMethod e.1 = .rules := by
  obtain ⟨r, hr, hd⟩ := Validator.mem_emitted.1 he
  obtain ⟨source, -, es, hes, hre⟩ := (mem_rules_iff hv).1 hr
  have hsource : Component.ofMethod source.1 = .rules := (component_of_log hes _ hre).symm
  have hnamed := named_of_directive (recorded_of_log hes hre) hd
  generalize source.1 = name at hsource hnamed
  cases hnamed with
  | own => exact hsource
  | sign _ hname => rcases hname with hname | hname <;> rw [hname] <;> decide
  | keys _ hname => rw [hname]; decide
  | pattern _ hname => rw [hname]; decide

/-- The layout of a compiled validator without its rules is canonical. -/
theorem beside_canonical : { v.layout with rules := [] }.Canonical functions v.type := by
  have hsound := sound_of_compile hv
  exact ⟨hsound.valid, hsound.invalid, hsound.default, fun e he => absurd he List.not_mem_nil, List.nodup_nil,
    hsound.replacements⟩

/-- Whatever directives stand for the rules, compiling what is extracted leaves the same beside the rules. -/
theorem beside_of_logs {es : List (Effect Validator)}
    (hes : logs functions v.type (extract v).directives = .ok es) (children : Option (List (String × Validator))) :
    { es.foldl Validator.record { type := v.type, children } with rules := [] } =
      { v with rules := [], children } := by
  have hcanonical := beside_canonical hv
  obtain ⟨rules, hlogs, -⟩ := hcanonical.logs_directives
  have hlayout := hcanonical.foldl_effects rules children
  rw [directives_extract_compiled hv] at hes
  obtain ⟨-, rfl⟩ := logs_ok_iff.1 hes
  obtain ⟨-, heffects⟩ := logs_ok_iff.1 hlogs
  rw [heffects] at hlayout
  -- the directives of the rules have no effects on the other components
  have hon : ∀ c, c ≠ Component.rules →
      Effect.on c (v.layout.directives.flatMap (logOf functions v.type)) =
        Effect.on c (({ v.layout with rules := [] } : Layout).directives.flatMap (logOf functions v.type)) := by
    intro c hc
    have hrules : (v.layout.rules.filter fun e => Component.ofMethod e.1 = c) = [] := by
      refine List.filter_eq_nil_iff.2 fun e he hec => hc ?_
      rw [← of_decide_eq_true hec, component_of_emitted hv (Table.mem_of_mem_ofList he)]
    have hleading : ({ v.layout with rules := [] } : Layout).leading = v.layout.leading := rfl
    have htrailing : ({ v.layout with rules := [] } : Layout).trailing = v.layout.trailing := rfl
    rw [on_logs, on_logs, Layout.directives, Layout.directives, hleading, htrailing, List.filter_append,
      List.filter_append, List.filter_append, List.filter_append, hrules]
    rfl
  rw [Validator.foldl_record_beside hon, hlayout]
  cases v
  rfl

end Compiled

/-! ## All nodes -/

/-- Lists that match have the same images where matching members have. -/
theorem map_eq_of_forall₂ {α β γ : Type} {R : α → β → Prop} {f : α → γ} {g : β → γ} {xs : List α} {ys : List β}
    (h : List.Forall₂ R xs ys) (hfg : ∀ x ∈ xs, ∀ y, R x y → g y = f x) : ys.map g = xs.map f := by
  induction h with
  | nil => rfl
  | cons hxy _ ih =>
    rw [List.map_cons, List.map_cons, hfg _ List.mem_cons_self _ hxy,
      ih fun x hx => hfg x (List.mem_cons_of_mem _ hx)]

/-- The children of what is extracted are compiled from what is extracted of the children. -/
theorem seeded_extract {functions : Registry} {d : Description} {v : Validator} (hv : compile functions d = .ok v)
    {cs : Option (List (String × Validator))} (h : Seeded functions (extract v) cs) :
    Option.Rel (List.Forall₂ fun e c => e.1 = c.1 ∧ compile functions (extract e.2) = .ok c.2) v.children cs := by
  rw [extract_eq] at h
  cases hc : v.children with
  | none =>
    have hnone : (if v.type = .object then extractChildren? none else none) = none := by split <;> rfl
    rw [hc, hnone] at h
    cases h with
    | plain => exact .none
    | bare => exact .none
    | object _ hp => cases hp
  | some children =>
    rw [hc, object_of_children hv hc, if_pos rfl, extractChildren?, extractChildren_eq_map] at h
    cases h with
    | plain hne => exact absurd rfl hne
    | bare hp => cases hp
    | object _ hp hall =>
      cases hp
      exact .some (List.forall₂_map_left_iff.1 hall)

/-- **Everything that is not a rule survives.** Where a validator is compiled, and its description is compiled again,
the second validator is the first one up to the rules, at every node. -/
theorem withoutRules_eq {functions : Registry} {d : Description} {v w : Validator} (hv : compile functions d = .ok v)
    (hw : compile functions (extract v) = .ok w) : w.withoutRules = v.withoutRules := by
  induction v using Validator.induction_on_children generalizing d w with
  | h v ih =>
    obtain ⟨cs, es, hs, hes, rfl⟩ := compile_ok_iff.1 hw
    have htype : (extract v).type = v.type := congrArg Description.type (extract_eq v)
    rw [htype] at hes ⊢
    have hself := beside_of_logs hv hes cs
    have hchildren : Validator.childrenWithoutRules? cs = Validator.childrenWithoutRules? v.children := by
      have hrel := seeded_extract hv hs
      cases hc : v.children with
      | none =>
        rw [hc] at hrel
        cases hrel
        rfl
      | some children =>
        rw [hc] at hrel
        cases hrel with
        | some hall =>
          rw [Validator.childrenWithoutRules?, Validator.childrenWithoutRules?, Validator.childrenWithoutRules_eq_map,
            Validator.childrenWithoutRules_eq_map]
          refine congrArg some (map_eq_of_forall₂ hall fun e he c hec => Prod.ext hec.1.symm ?_)
          obtain ⟨-, p, -, -, hp⟩ := property_of_child hv hc he
          exact ih children hc e he hp hec.2
    rw [Validator.withoutRules_eq_with, Validator.withoutRules_eq_with, foldl_children, hchildren]
    exact congrArg (fun u : Validator => { u with children := Validator.childrenWithoutRules? v.children }) hself

/-- A limit that is misread leaves the default and the replacements of a property as they are. -/
theorem withoutRules_misread_limit :
    ∃ v w, compile [] ⟨.object, [("min", .obj [("limit", .obj [("limit", .null)])]), ("default", .null)],
        some [("a", ⟨.string, [("replace", .obj [("find", .str "b"), ("replace", .null)])], none⟩)]⟩ = .ok v ∧
      compile [] (extract v) = .ok w ∧ Validator.sameRules w.rules v.rules = false ∧
      w.withoutRules = v.withoutRules := by
  have hv : compile [] ⟨.object, [("min", .obj [("limit", .obj [("limit", .null)])]), ("default", .null)],
      some [("a", ⟨.string, [("replace", .obj [("find", .str "b"), ("replace", .null)])], none⟩)]⟩ = .ok _ := rfl
  exact ⟨_, _, hv, rfl, rfl, withoutRules_eq hv rfl⟩

end Rulebook
