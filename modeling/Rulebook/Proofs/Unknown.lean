import Rulebook.Proofs.Origin
import Rulebook.Proofs.Vocabulary

/-!
# Unknown directives

A directive is unknown when the table has no row of its name. That is found out in one place, where the directives of a
node are looked up, and told at once, whatever the engine (`unknown_of_compile`).

Extraction writes known directives only. So compiling what it has written can meet an unknown directive only in a
description inside the value of a directive. Extraction does not look into values: it hands the data of a rule on as
it is, and a rule about a pattern may hold the description of a nested schema there (`Rule.Carries`).

* `carries_of_inner`: such a rule is the only way by which a nested schema gets into what is extracted.
* `extract_speaks_grammar`: what extraction writes, of any validator.
* `known_of_compiled`: of a compiled validator, it writes nothing with an unknown directive.
-/

namespace Rulebook

open Fallible Grammar

/-! ## Where an unknown directive comes from -/

/-- Runs that do not report a directive of the given name as unknown do not do so together. -/
theorem Call.congruence_known (functions : Registry) (name : String) :
    Call.Congruence (fun _ x _ => x ≠ .error (.unknownDirective name)) functions functions where
  ok _ h := by cases h
  error _ he h := he name (Except.error.inj h)
  bind {_ _ x _ f _} hx hf h := by
    cases x with
    | error e =>
      cases h
      exact hx rfl
    | ok a => exact hf a h
  resolve n kind h := by
    cases hr : functions.resolve n kind with
    | error e =>
      rw [hr] at h
      cases h
    | ok f =>
      rw [hr] at h
      cases h

/-- **An unknown directive** is one of the node, or comes from a description that is compiled on the way. -/
theorem unknown_of_compile {V : Type} {engine : Engine V} {functions : Registry} {d : Description} {name : String}
    (h : engine.compile functions d = .error (.unknownDirective name)) :
    (lookup name = none ∧ ∃ e ∈ d.directives, e.1 = name) ∨
      ∃ c : Description, c.Inner d ∧ engine.compile functions c = .error (.unknownDirective name) := by
  by_contra hnone
  have hnode : engine.node (engine.compile functions) functions d ≠ .error (.unknownDirective name) := by
    refine Engine.rel_node (g := engine.compile functions) (Call.congruence_known functions name) ?_ ?_
    · intro e he hlookup heq
      cases heq
      exact hnone (.inl ⟨hlookup, e, he, rfl⟩)
    · intro c hc heq
      exact hnone (.inr ⟨c, hc, heq⟩)
  rw [Engine.compile_eq_node] at h
  exact hnode h

/-! ## Descriptions that a rule carries -/

/-- A rule about a pattern that holds, as plain data, the record of a pattern with the description of a nested schema
beside. -/
structure Rule.Carries {V : Type} (r : Rule V) (c : Description) : Prop where
  method : r.method = "pattern" ∨ r.method = "regex"
  regex : ∃ record, Table.get? r.args "regex" = some (.value record) ∧ record.Describes c

namespace Argument

/-- Data in which the description of a nested schema stands is plain data of the argument. -/
theorem eq_value_of_describes {V : Type} {a : Argument V} {x : Json} {c : Description} (hx : a.data? = some x)
    (hc : x.Describes c) : a = .value x := by
  obtain ⟨schema, hschema, -⟩ := hc
  cases a with
  | value v =>
    cases hx
    rfl
  | reference r =>
    -- a reference is written as an object, but without a member `schema`
    cases hx
    have hnone : r.toJson.field? "schema" = none := by
      simp only [Reference.toJson, Reference.key, Json.field?]
      cases r.isIn <;> cases r.adjust <;> simp
    rw [hnone] at hschema
    cases hschema
  | pattern p =>
    cases hx
    have hnone : p.toJson.field? "schema" = none := by
      rcases p.toJson_record with ⟨hp, -⟩ | hp
      · rw [hp]
        rfl
      · rw [hp]
        exact Table.get?_eq_none fun hm => absurd (p.names_record _ hm) (by decide)
    rw [hnone] at hschema
    cases hschema
  | function f => cases hx
  | schema v => cases hx

end Argument

namespace Rule

variable {r : Rule Validator}

/-- What a bag reads as is the data of the argument of that name. -/
theorem get?_bag {directive key : String} {x : Json} : ∀ {args : List (String × Argument Validator)}
    {data : Table Json}, bag directive args = .ok data → Table.get? data key = some x →
    ∃ a, Table.get? args key = some a ∧ a.data? = some x
  | [], data, h, hx => by
    cases h
    cases hx
  | (name, a) :: rest, data, h, hx => by
    unfold bag at h
    split at h
    · cases h
    · next y ha =>
      split at h
      · cases h
      · next more hmore =>
        cases h
        rw [Table.get?_cons] at hx ⊢
        split at hx
        · next hname =>
          cases hx
          exact ⟨a, if_pos hname, ha⟩
        · next hname =>
          rw [if_neg hname]
          exact get?_bag hmore hx

/-- The description in the value of a pattern stands in the pattern of the bag. -/
theorem describes_of_patternValue {data : Table Json} {c : Description} (h : (patternValue data).Describes c) :
    ∃ record, Table.get? data "regex" = some record ∧ record.Describes c := by
  obtain ⟨schema, hschema, hread⟩ := h
  unfold patternValue at hschema
  split at hschema
  · cases hschema
  · next record hrecord _ => exact ⟨record, hrecord, schema, hschema, hread⟩
  · next record options hrecord _ =>
    -- the options are written beside the description
    have hfield : (Json.obj record).field? "schema" = some schema := by
      simp only [Json.field?, Table.get?_put] at hschema ⊢
      simpa using hschema
    exact ⟨_, hrecord, schema, hfield, hread⟩
  · simp [Json.field?] at hschema

/-- A rule whose directive holds the description of a nested schema, as a pattern does, carries this description. -/
theorem carries_of_directive {name : String} {x : Json} {c : Description} (hname : name = "pattern" ∨ name = "regex")
    (h : r.directive = .ok (name, x)) (hc : x.Describes c) : r.Carries c := by
  rcases directive_cases h with ⟨-, rfl⟩ | ⟨row, data, hmethod, hrow, -, hdata, rfl⟩
  · obtain ⟨schema, hschema, -⟩ := hc
    cases hschema
  · have hcategory : row.category = .pattern := by
      rcases hname with rfl | rfl
      · cases hrow.symm.trans row_pattern.lookup
        rfl
      · cases hrow.symm.trans row_regex.lookup
        rfl
    have hoperator : ∀ operator : Operator, operator.directive? ≠ some name := by
      rcases hname with rfl | rfl <;> exact fun operator => by cases operator <;> simp [Operator.directive?]
    have hself : r.method = name := by
      rcases directiveName_cases hmethod with hself | ⟨operator, hop⟩
      · exact hself
      · exact absurd hop (hoperator operator)
    rw [hcategory] at hc
    obtain ⟨record, hrecord, hdescribes⟩ := describes_of_patternValue hc
    obtain ⟨a, ha, hadata⟩ := get?_bag hdata hrecord
    obtain rfl := Argument.eq_value_of_describes hadata hdescribes
    exact ⟨hself ▸ hname, record, ha, hdescribes⟩

end Rule

/-! ## Compiling what is extracted -/

/-- A directive that can be rebuilt and whose value may hold a nested schema is a pattern on an object. -/
theorem Directive.Nests.pattern {row : Directive} {type : TypeTag} {name : String} (h : row.Nests type)
    (hrow : lookup name = some row) (hrev : row.reversible = true) :
    type = .object ∧ (name = "pattern" ∨ name = "regex") := by
  obtain ⟨hmem, rfl⟩ := mem_of_lookup hrow
  have hcondition : ∀ r ∈ directives, r.category = .bespoke .condition → r.reversible = false := by decide
  have hpattern : ∀ r ∈ directives, r.category = .pattern → r.name = "pattern" ∨ r.name = "regex" := by decide
  rcases h with ⟨hcategory, htype⟩ | hcategory
  · exact ⟨htype, hpattern row hmem hcategory⟩
  · rw [hcondition row hmem hcategory] at hrev
    cases hrev

/-- **The descriptions that are compiled on the way** to what is extracted are extracted from children of an object, or
carried by a rule of an object. -/
theorem carries_of_inner {v : Validator} {c : Description} (h : c.Inner (extract v)) :
    v.type = .object ∧ ((∃ children name u, v.children = some children ∧ (name, u) ∈ children ∧ c = extract u) ∨
      ∃ r ∈ v.rules, r.Carries c) := by
  have htype : (extract v).type = v.type := congrArg Description.type (extract_eq v)
  cases h with
  | property _ hp hc =>
    obtain ⟨children, u, hobject, hchildren, hu, rfl⟩ := child_of_property hp hc
    exact ⟨hobject, .inl ⟨children, _, u, hchildren, hu, rfl⟩⟩
  | schema he hrow hnests hc =>
    obtain ⟨row, hrow', hrev⟩ := reversible_extract v _ he
    cases hrow.symm.trans hrow'
    obtain ⟨hobject, hname⟩ := hnests.pattern hrow hrev
    have hapart : "pattern" ∉ leadingNames ++ ["replace"] ∧ "regex" ∉ leadingNames ++ ["replace"] := by decide
    refine ⟨htype ▸ hobject, .inr ?_⟩
    rcases mem_directives_extract he with hmem | ⟨r, hr, hdirective⟩
    · rcases hname with rfl | rfl
      · exact absurd hmem hapart.1
      · exact absurd hmem hapart.2
    · exact ⟨r, hr, r.carries_of_directive hname hdirective hc⟩

/-- **An unknown directive in what is extracted** stands in a description that a rule of an object carries. -/
theorem carries_of_unknown {V : Type} {engine : Engine V} {functions : Registry} {name : String} (v : Validator)
    (h : engine.compile functions (extract v) = .error (.unknownDirective name)) :
    ∃ path u, (extract v).At path (extract u) ∧ v.At path u ∧ u.type = .object ∧ ∃ r ∈ u.rules, ∃ c, r.Carries c ∧
      engine.compile functions c = .error (.unknownDirective name) := by
  induction v using Validator.induction_on_children with
  | h v ih =>
    rcases unknown_of_compile h with ⟨hlookup, e, he, rfl⟩ | ⟨c, hinner, hc⟩
    · -- extraction writes no such directive
      obtain ⟨row, hrow, -⟩ := reversible_extract v e he
      rw [hlookup] at hrow
      cases hrow
    · obtain ⟨hobject, ⟨children, key, w, hchildren, hw, rfl⟩ | ⟨r, hr, hcarries⟩⟩ := carries_of_inner hinner
      · obtain ⟨path, u, hnode, hat, hcarrier⟩ := ih children hchildren (key, w) hw hc
        have hproperties : (extract v).properties = some (children.map fun e => (e.1, extract e.2)) := by
          rw [properties_extract, if_pos hobject, hchildren, Option.map_some]
        have hchild : (key, extract w) ∈ children.map fun e => (e.1, extract e.2) :=
          List.mem_map_of_mem (f := fun e : String × Validator => (e.1, extract e.2)) hw
        exact ⟨key :: path, u, .child hproperties hchild hnode, .child hchildren hw hat, hcarrier⟩
      · exact ⟨[], v, .here _, .here _, hobject, r, hr, c, hcarries, hc⟩

/-- **Extraction speaks the reversible grammar**, of any validator. At every node of what is extracted, the directives
are in the table and can be rebuilt, and only objects have properties, those of the children in their order; what is
extracted is read back from its form as a JSON value; and compiling it, with any engine and any functions, meets an
unknown directive only in a description that a rule of an object carries as plain data. -/
theorem extract_speaks_grammar (v : Validator) :
    (∀ path c, (extract v).At path c → ∃ u, v.At path u ∧ c = extract u ∧ c.type = u.type ∧
      (∀ e ∈ c.directives, ∃ row, lookup e.1 = some row ∧ row.reversible = true) ∧
      c.properties.map Table.names = if u.type = .object then u.children.map Table.names else none) ∧
    Description.ofJson (extract v).toJson = .ok (extract v) ∧
    ∀ (V : Type) (engine : Engine V) (functions : Registry) (name : String),
      engine.compile functions (extract v) = .error (.unknownDirective name) →
      ∃ path u, (extract v).At path (extract u) ∧ v.At path u ∧ u.type = .object ∧ ∃ r ∈ u.rules, ∃ c, r.Carries c ∧
        engine.compile functions c = .error (.unknownDirective name) := by
  refine ⟨fun path c hc => ?_, ofJson_toJson_extract v, fun V engine functions name h => carries_of_unknown v h⟩
  obtain ⟨u, hu, rfl⟩ := at_extract hc
  exact ⟨u, hu, rfl, congrArg Description.type (extract_eq u), reversible_extract u, names_properties_extract u⟩

/-- Of a rule that carries the description of a nested schema, extraction makes a directive with this schema. -/
theorem unknown_of_carried :
    Engine.memory.compile [] (extract
      { type := .object
        rules := [{
          method := "pattern"
          args := [("regex", .value (.obj [("pattern", .str "a"),
            ("schema", .obj [("type", .str "any"), ("b", .null)])]))] }] }) = .error (.unknownDirective "b") := rfl

/-- The rule may stand at a child. -/
theorem extract_speaks_grammar_child :
    ∃ v : Validator, Engine.memory.compile [] (extract v) = .error (.unknownDirective "b") ∧
      ∃ path u, (extract v).At path (extract u) ∧ v.At path u ∧ u.type = .object ∧ ∃ r ∈ u.rules, ∃ c, r.Carries c ∧
        Engine.memory.compile [] c = .error (.unknownDirective "b") :=
  let child : Validator :=
    { type := .object
      rules := [{
        method := "regex"
        args := [("regex", .value (.obj [("pattern", .str "a"),
          ("schema", .obj [("type", .str "any"), ("b", .null)])]))] }] }
  ⟨.ofChildren (some [("k", child)]), rfl, (extract_speaks_grammar _).2.2 _ Engine.memory [] "b" rfl⟩

/-! ## Compiled validators -/

section Compiled

open Compile

variable {functions : Registry} {type : TypeTag} {given : Json} {name : String} {r : Rule Validator}

/-- A rule that a directive records holds a pattern as such, so it carries no description. -/
theorem not_carries_of_recorded (h : Recorded functions type given name r) (c : Description) : ¬ r.Carries c := by
  rintro ⟨hm, record, hrecord, -⟩
  have hcategory : ∀ {n : String} {category : Category} {recording : Recording}, Row n category recording →
      n = "pattern" ∨ n = "regex" → category = .pattern := by
    intro n category recording hrow hn
    rcases hn with rfl | rfl
    · exact (hrow.unique row_pattern).1
    · exact (hrow.unique row_regex).1
  cases h with
  | keys => cases hrecord
  | pattern => simp at hrecord
  | plain hrow | literal _ hrow | bare hrow | config hrow | spread _ hrow | peers _ hrow => cases hcategory hrow hm
  | sign | precision | multiple | sample | unique | rename => simp at hm
  | size =>
    simp only at hm
    split at hm <;> simp at hm
  | hidden hrow hh hmethod =>
    rw [hmethod] at hm
    rcases hm with hm | hm
    · rw [hm, row_pattern.lookup] at hrow
      cases hrow
      cases hh.irreversible
    · rw [hm, row_regex.lookup] at hrow
      cases hrow
      cases hh.irreversible

theorem Validator.At.inside {v u : Validator} {path : List String} (h : v.At path u) : Inside u v := by
  induction h with
  | here v => exact .self
  | child hchildren hmem _ ih => exact .child hchildren hmem ih

/-- **What is extracted from a compiled validator has no unknown directive**, for any engine and any functions. -/
theorem known_of_compiled {d : Description} {v : Validator} (hv : compile functions d = .ok v) {V : Type}
    (engine : Engine V) (others : Registry) (name : String) :
    engine.compile others (extract v) ≠ .error (.unknownDirective name) := by
  intro h
  obtain ⟨path, u, -, hu, -, r, hr, c, hcarries, -⟩ := carries_of_unknown v h
  obtain ⟨b, hb⟩ := compile_of_inside hu.inside hv
  obtain ⟨e, -, es, hes, hre⟩ := (mem_rules_iff hb).1 hr
  exact not_carries_of_recorded (recorded_of_log hes hre) c hcarries

end Compiled

end Rulebook
