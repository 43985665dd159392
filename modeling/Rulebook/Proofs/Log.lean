import Rulebook.Proofs.Depth
import Rulebook.Proofs.Distinct
import Rulebook.Proofs.Table

/-!
# Compiling is recording a log

The calls of a directive are judged without regard to what is recorded already, so a directive has a *log*, the list
of its effects (`Compile.log`), and a list of directives has the logs of its members in order (`Compile.logs`).

* `compile_ok_iff`: a description compiles to a validator exactly when its properties compile to the children, its
  directives have a log, and the validator is the blank one with the children and the log recorded in it.
* `mem_rules_iff`: the rules of a compiled validator are those in the logs of its directives.
* `Node`: the validators that are reached through children; each is compiled from a description (`compile_of_node`).
-/

namespace Rulebook

open Fallible

/-! ## The log of a directive -/

namespace Compile

/-- The effects of calls on a validator of a type, in order. -/
def effects (type : TypeTag) (calls : List (Call Validator)) : Call.Outcome (List (Effect Validator)) :=
  calls.mapM fun call => (effect type call.method call.args).mapError .engine

/-- The effects of a directive on a validator of a type, in order. -/
def log (functions : Registry) (type : TypeTag) (name : String) (value : Json) :
    Call.Outcome (List (Effect Validator)) :=
  match Grammar.lookup name with
  | none => .error (.unknownDirective name)
  | some row => do effects type (← Call.ofDirective (compile functions) functions type row value)

/-- The effects of directives one after another. -/
def logs (functions : Registry) (type : TypeTag) : List (String × Json) → Call.Outcome (List (Effect Validator))
  | [] => .ok []
  | (name, value) :: rest => do return (← log functions type name value) ++ (← logs functions type rest)

@[simp] theorem record_type (v : Validator) (e : Effect Validator) : (v.record e).type = v.type := by
  cases e <;> rfl

@[simp] theorem record_children (v : Validator) (e : Effect Validator) : (v.record e).children = v.children := by
  cases e <;> rfl

@[simp] theorem foldl_type : ∀ (es : List (Effect Validator)) (v : Validator),
    (es.foldl Validator.record v).type = v.type
  | [], _ => rfl
  | e :: es, v => by rw [List.foldl_cons, foldl_type es, record_type]

@[simp] theorem foldl_children : ∀ (es : List (Effect Validator)) (v : Validator),
    (es.foldl Validator.record v).children = v.children
  | [], _ => rfl
  | e :: es, v => by rw [List.foldl_cons, foldl_children es, record_children]

/-- Making calls is recording their effects. -/
theorem run_eq : ∀ (calls : List (Call Validator)) (v : Validator),
    run v calls = (effects v.type calls).map fun es => es.foldl Validator.record v
  | [], _ => rfl
  | call :: calls, v => by
    simp only [run, Validator.apply, effects, List.mapM_cons]
    cases he : effect v.type call.method call.args with
    | error e => rfl
    | ok e =>
      simp only [map_ok, mapError_ok, ok_bind, run_eq calls, record_type, effects]
      cases calls.mapM fun call => (effect v.type call.method call.args).mapError CompileError.engine with
      | error e => rfl
      | ok es => rfl

/-- Applying directives is recording their log. -/
theorem directives_eq (functions : Registry) : ∀ (entries : List (String × Json)) (v : Validator),
    directives (compile functions) functions v.type v entries =
      (logs functions v.type entries).map fun es => es.foldl Validator.record v
  | [], _ => rfl
  | (name, value) :: rest, v => by
    have hlog : directive (compile functions) functions v.type v name value =
        (log functions v.type name value).map fun es => es.foldl Validator.record v := by
      simp only [directive, log]
      cases Grammar.lookup name with
      | none => rfl
      | some row =>
        cases hc : Call.ofDirective (compile functions) functions v.type row value with
        | error e => simp only [hc, error_bind, map_error]
        | ok calls => simp only [hc, run_eq, ok_bind]
    rw [directives, hlog, logs]
    cases log functions v.type name value with
    | error e => rfl
    | ok es =>
      have hrest := directives_eq functions rest (es.foldl Validator.record v)
      rw [foldl_type] at hrest
      simp only [map_ok, ok_bind, hrest]
      cases logs functions v.type rest with
      | error e => rfl
      | ok fs => simp

/-- Each directive has its log, and each effect of the log comes from a directive. -/
theorem logs_ok {functions : Registry} {type : TypeTag} : ∀ {entries : List (String × Json)}
    {es : List (Effect Validator)}, logs functions type entries = .ok es →
    (∀ d ∈ entries, ∃ fs, log functions type d.1 d.2 = .ok fs ∧ ∀ e ∈ fs, e ∈ es) ∧
      ∀ e ∈ es, ∃ d ∈ entries, ∃ fs, log functions type d.1 d.2 = .ok fs ∧ e ∈ fs
  | [], es, h => by
    cases h
    exact ⟨fun _ hd => absurd hd List.not_mem_nil, fun _ he => absurd he List.not_mem_nil⟩
  | (name, value) :: rest, es, h => by
    obtain ⟨fs, hfs, h⟩ := bind_eq_ok.1 h
    obtain ⟨gs, hgs, h⟩ := bind_eq_ok.1 h
    cases h
    obtain ⟨hto, hof⟩ := logs_ok hgs
    refine ⟨fun d hd => ?_, fun e he => ?_⟩
    · rcases List.mem_cons.1 hd with rfl | hd
      · exact ⟨fs, hfs, fun e he => List.mem_append_left _ he⟩
      · obtain ⟨hs, hhs, hmem⟩ := hto d hd
        exact ⟨hs, hhs, fun e he => List.mem_append_right _ (hmem e he)⟩
    · rcases List.mem_append.1 he with he | he
      · exact ⟨(name, value), List.mem_cons_self, fs, hfs, he⟩
      · obtain ⟨d, hd, hs, hhs, hmem⟩ := hof e he
        exact ⟨d, List.mem_cons_of_mem _ hd, hs, hhs, hmem⟩

/-- Directives side by side have their logs side by side. -/
theorem logs_append {functions : Registry} {type : TypeTag} : ∀ {a b : List (String × Json)}
    {es fs : List (Effect Validator)}, logs functions type a = .ok es → logs functions type b = .ok fs →
    logs functions type (a ++ b) = .ok (es ++ fs)
  | [], b, es, fs, ha, hb => by
    cases ha
    exact hb
  | (name, value) :: rest, b, es, fs, ha, hb => by
    obtain ⟨gs, hgs, ha⟩ := bind_eq_ok.1 ha
    obtain ⟨hs, hhs, ha⟩ := bind_eq_ok.1 ha
    cases ha
    rw [List.cons_append, logs, hgs, logs_append hhs hb]
    simp

/-- A single directive has its own log. -/
theorem logs_singleton (functions : Registry) (type : TypeTag) (name : String) (value : Json) :
    logs functions type [(name, value)] = log functions type name value := by
  simp only [logs]
  cases log functions type name value with
  | error e => rfl
  | ok es => simp

/-! ## What the log leaves -/

/-- The rules are those there were and those of the log. -/
theorem mem_rules_foldl {r : Rule Validator} : ∀ {es : List (Effect Validator)} {v : Validator},
    r ∈ (es.foldl Validator.record v).rules ↔ r ∈ v.rules ∨ Effect.rule r ∈ es
  | [], v => by simp
  | e :: es, v => by
    rw [List.foldl_cons, mem_rules_foldl, List.mem_cons]
    cases e with
    | rule s =>
      simp only [Validator.record, List.mem_append, List.mem_singleton, Effect.rule.injEq]
      exact or_assoc
    | _ => simp [Validator.record]

/-- A list of rules is recorded behind the rules there were. -/
theorem foldl_rules : ∀ (rs : List (Rule Validator)) (v : Validator),
    (rs.map Effect.rule).foldl Validator.record v = { v with rules := v.rules ++ rs }
  | [], v => by cases v; simp
  | r :: rs, v => by
    rw [List.map_cons, List.foldl_cons, foldl_rules rs]
    simp [Validator.record]

/-- A list of replacements is recorded behind the replacements there were. -/
theorem foldl_replacements : ∀ (rs : List Replacement) (v : Validator),
    (rs.map Effect.replacement).foldl Validator.record v = { v with replacements := v.replacements ++ rs }
  | [], v => by cases v; simp
  | r :: rs, v => by
    rw [List.map_cons, List.foldl_cons, foldl_replacements rs]
    simp [Validator.record]

/-! ## Children -/

/-- The children that a description gives its validator: those of its properties, on objects. -/
inductive Seeded (functions : Registry) : Description → Option (List (String × Validator)) → Prop
  | plain {d : Description} : d.type ≠ .object → Seeded functions d none
  | bare {d : Description} : d.properties = none → Seeded functions d none
  | object {d : Description} {properties : List (String × Description)} {children : List (String × Validator)} :
      d.type = .object → d.properties = some properties →
      List.Forall₂ (fun p c => p.1 = c.1 ∧ compile functions p.2 = .ok c.2) properties children →
      Seeded functions d (some children)

theorem children_ok_iff {functions : Registry} : ∀ {properties : List (String × Description)}
    {vs : List (String × Validator)}, children (compile functions) properties = .ok vs ↔
      List.Forall₂ (fun p c => p.1 = c.1 ∧ compile functions p.2 = .ok c.2) properties vs
  | [], vs => by
    rw [children]
    constructor
    · rintro ⟨⟩
      exact .nil
    · rintro ⟨⟩
      rfl
  | (name, child) :: rest, vs => by
    rw [children]
    constructor
    · intro h
      split at h
      · cases h
      · next v hv =>
        split at h
        · cases h
        · next ws hws =>
          cases h
          exact .cons ⟨rfl, hv⟩ (children_ok_iff.1 hws)
    · rintro (_ | @⟨_, ⟨key, v⟩, _, _, ⟨rfl, hv⟩, hrest⟩)
      simp only [hv, children_ok_iff.2 hrest]

theorem seed_ok_iff {functions : Registry} {d : Description} {v : Validator} :
    seed (compile functions) d = .ok v ↔ ∃ cs, Seeded functions d cs ∧ v = { type := d.type, children := cs } := by
  obtain ⟨type, entries, properties⟩ := d
  by_cases ht : type = .object
  · subst ht
    cases properties with
    | none =>
      constructor
      · rintro ⟨⟩
        exact ⟨none, .bare rfl, rfl⟩
      · rintro ⟨_, hs, rfl⟩
        cases hs with
        | plain hne => exact absurd rfl hne
        | bare => rfl
        | object _ hp => cases hp
    | some properties =>
      simp only [seed]
      constructor
      · intro h
        split at h
        · cases h
        · next vs hvs =>
          cases h
          exact ⟨some vs, .object rfl rfl (children_ok_iff.1 hvs), rfl⟩
      · rintro ⟨_, hs, rfl⟩
        cases hs with
        | plain hne => exact absurd rfl hne
        | bare hp => cases hp
        | object _ hp hc =>
          cases hp
          rw [children_ok_iff.2 hc]
          rfl
  · have hseed : seed (compile functions) ⟨type, entries, properties⟩ = .ok (.ofType type) := by
      cases type <;> first | rfl | exact absurd rfl ht
    rw [hseed]
    constructor
    · rintro ⟨⟩
      exact ⟨none, .plain ht, rfl⟩
    · rintro ⟨_, hs, rfl⟩
      cases hs with
      | plain => rfl
      | bare => rfl
      | object hobj => exact absurd hobj ht

end Compile

open Compile

/-- **Compiling is recording**: the properties give the children, and the directives the log. -/
theorem compile_ok_iff {functions : Registry} {d : Description} {v : Validator} :
    compile functions d = .ok v ↔ ∃ cs es, Seeded functions d cs ∧ logs functions d.type d.directives = .ok es ∧
      v = es.foldl Validator.record { type := d.type, children := cs } := by
  rw [compile_eq, node]
  constructor
  · intro h
    split at h
    · cases h
    · next w hw =>
      obtain ⟨cs, hcs, rfl⟩ := seed_ok_iff.1 hw
      rw [directives_eq functions d.directives { type := d.type, children := cs }] at h
      obtain ⟨es, hes, rfl⟩ := map_eq_ok.1 h
      exact ⟨cs, es, hcs, hes, rfl⟩
  · rintro ⟨cs, es, hcs, hes, rfl⟩
    rw [seed_ok_iff.2 ⟨cs, hcs, rfl⟩]
    simp only [directives_eq functions d.directives { type := d.type, children := cs }, hes, map_ok]

/-- A compiled validator has the type of its description. -/
theorem type_of_compile {functions : Registry} {d : Description} {v : Validator} (hv : compile functions d = .ok v) :
    v.type = d.type := by
  obtain ⟨cs, es, -, -, rfl⟩ := compile_ok_iff.1 hv
  exact foldl_type es _

/-- The rules of a compiled validator are those in the logs of its directives. -/
theorem mem_rules_iff {functions : Registry} {d : Description} {v : Validator} {r : Rule Validator}
    (hv : compile functions d = .ok v) : r ∈ v.rules ↔
      ∃ e ∈ d.directives, ∃ es, log functions d.type e.1 e.2 = .ok es ∧ .rule r ∈ es := by
  obtain ⟨cs, es, -, hes, rfl⟩ := compile_ok_iff.1 hv
  obtain ⟨hto, hof⟩ := logs_ok hes
  rw [mem_rules_foldl]
  constructor
  · intro h
    exact hof _ (h.resolve_left List.not_mem_nil)
  · rintro ⟨e, he, fs, hfs, hr⟩
    obtain ⟨gs, hgs, hsub⟩ := hto e he
    cases hfs.symm.trans hgs
    exact .inr (hsub _ hr)

/-- A single directive is compiled by its log. -/
theorem compile_single_iff {functions : Registry} {type : TypeTag} {name : String} {value : Json} {v : Validator} :
    compile functions ⟨type, [(name, value)], none⟩ = .ok v ↔
      ∃ es, log functions type name value = .ok es ∧ v = es.foldl Validator.record { type } := by
  rw [compile_ok_iff, ← logs_singleton]
  constructor
  · rintro ⟨cs, es, hs, hes, rfl⟩
    cases hs with
    | plain | bare => exact ⟨es, hes, rfl⟩
    | object _ hp => cases hp
  · rintro ⟨es, hes, rfl⟩
    exact ⟨none, es, .bare rfl, hes, rfl⟩

/-! ## Nodes -/

/-- A node of a validator: the validator itself, or a node of one of its children. -/
inductive Node (u : Validator) : Validator → Prop
  | self : Node u u
  | child {v : Validator} {children : List (String × Validator)} {e : String × Validator} :
      v.children = some children → e ∈ children → Node u e.2 → Node u v

/-- The children of a compiled validator are compiled from the properties, one by one. -/
theorem properties_of_children {functions : Registry} {d : Description} {v : Validator}
    (hv : compile functions d = .ok v) {children : List (String × Validator)} (hc : v.children = some children) :
    ∃ properties, d.properties = some properties ∧
      List.Forall₂ (fun p c => p.1 = c.1 ∧ compile functions p.2 = .ok c.2) properties children := by
  obtain ⟨cs, es, hs, -, rfl⟩ := compile_ok_iff.1 hv
  rw [foldl_children] at hc
  cases hs with
  | plain => cases hc
  | bare => cases hc
  | object _ hp hall =>
    cases hc
    exact ⟨_, hp, hall⟩

/-- A child of a compiled validator is compiled from a property. -/
theorem property_of_child {functions : Registry} {d : Description} {v : Validator} (hv : compile functions d = .ok v)
    {children : List (String × Validator)} (hc : v.children = some children) {e : String × Validator}
    (he : e ∈ children) :
    ∃ properties p, d.properties = some properties ∧ p ∈ properties ∧ compile functions p.2 = .ok e.2 := by
  obtain ⟨properties, hp, hall⟩ := properties_of_children hv hc
  obtain ⟨p, hpmem, -, hpv⟩ := mem_left_of_forall₂ hall he
  exact ⟨properties, p, hp, hpmem, hpv⟩

/-- The children of a compiled validator are compiled from the properties. -/
theorem compile_of_child {functions : Registry} {d : Description} {v : Validator} (hd : d.Distinct)
    (hv : compile functions d = .ok v) {children : List (String × Validator)} (hc : v.children = some children)
    {e : String × Validator} (he : e ∈ children) : ∃ c : Description, c.Distinct ∧ compile functions c = .ok e.2 := by
  obtain ⟨properties, p, hp, hpmem, hpv⟩ := property_of_child hv hc he
  exact ⟨p.2, hd.property hp hpmem, hpv⟩

/-- Every node of a compiled validator is compiled from a description. -/
theorem compile_of_node {functions : Registry} {u v : Validator} (h : Node u v) : ∀ {d : Description}, d.Distinct →
    compile functions d = .ok v → ∃ c : Description, c.Distinct ∧ compile functions c = .ok u := by
  induction h with
  | self => exact fun hd hv => ⟨_, hd, hv⟩
  | child hc he _ ih =>
    intro d hd hv
    obtain ⟨c, hcd, hcv⟩ := compile_of_child hd hv hc he
    exact ih hcd hcv

end Rulebook
