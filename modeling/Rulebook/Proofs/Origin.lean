import Rulebook.Proofs.Component

/-!
# Where arguments come from

Reading the value of a directive makes arguments of a few kinds (`Argument.Made`): plain data, references whose
transforms are bound, patterns, functions that the registry holds under their names, and validators that are compiled
from nested descriptions. Methods keep these arguments in the rules that they record.

* `made_of_directive`: the calls of a directive are on its own method, or on `regex`, with arguments that are made so.
* `component_of_log`: what a directive records is on the component of its name.
* `made_of_rule`: the arguments of a recorded rule are made so.
* `compile_of_inside`: every validator inside a compiled one is compiled from a description.
-/

namespace Rulebook

open Fallible Grammar

variable {V : Type} {nested : Description → Call.Outcome V} {functions : Registry} {kind : FunctionKind}

/-! ## Arguments -/

/-- The kind of the functions that a category names. -/
def Category.functionKind : Category → FunctionKind
  | .bespoke .unique => .comparator
  | _ => .transform

/-- An argument that reading a value can make. -/
inductive Argument.Made (nested : Description → Call.Outcome V) (functions : Registry) (kind : FunctionKind) :
    Argument V → Prop
  | value (v : Json) : Made nested functions kind (.value v)
  | reference {r : Reference} : r.Resolved functions → Made nested functions kind (.reference r)
  | pattern (p : Pattern) : Made nested functions kind (.pattern p)
  | function {f : NamedFunction} : functions.resolve f.name kind = .ok f → Made nested functions kind (.function f)
  | schema {d : Description} {v : V} : nested d = .ok v → Made nested functions kind (.schema v)

namespace Argument

/-- The argument of a resolved operand. -/
theorem made_ofOperand {o : Operand} (h : o.Resolved functions) :
    (ofOperand o : Argument V).Made nested functions kind := by
  cases o with
  | literal v => exact .value v
  | reference r => exact .reference h

/-- Arguments that are plain data. -/
theorem made_values (vs : List Json) : ∀ a ∈ vs.map (value : Json → Argument V), a.Made nested functions kind := by
  intro a ha
  obtain ⟨v, -, rfl⟩ := List.mem_map.1 ha
  exact .value v

/-- The arguments for options. -/
theorem made_optionArgs (options : Option (Table Json)) :
    ∀ a ∈ (optionArgs options : List (Argument V)), a.Made nested functions kind := by
  intro a ha
  obtain ⟨o, -, rfl⟩ := List.mem_map.1 ha
  exact .value _

end Argument

/-! ## Reading values -/

namespace Call

open Argument

variable {type : TypeTag} {directive : String} {value : Json} {args : List (Argument V)}

/-- The name of a transform is read as the transform of this name. -/
theorem made_of_transformArg {a : Argument V} (h : transformArg functions directive value = .ok a) :
    a.Made nested functions .transform := by
  obtain ⟨name, -, h⟩ := bind_eq_ok.1 h
  obtain ⟨f, hf, h⟩ := bind_eq_ok.1 h
  cases h
  replace hf : functions.resolve name .transform = .ok f := mapError_eq_ok.1 hf
  obtain rfl := Registry.name_of_resolve hf
  exact .function hf

/-- A nested description is read as the validator that is compiled from it. -/
theorem made_of_nestedSchema {a : Argument V} (h : nestedSchema nested directive value = .ok a) :
    a.Made nested functions kind := by
  unfold nestedSchema at h
  split at h
  · cases h
  · obtain ⟨v, hv, h⟩ := bind_eq_ok.1 h
    cases h
    exact .schema hv

theorem made_of_config (h : ofConfig directive value = .ok args) : ∀ a ∈ args, a.Made nested functions kind := by
  rcases ofConfig_ok h with rfl | ⟨v, rfl, -⟩
  · exact fun a ha => absurd ha List.not_mem_nil
  · exact made_values [v]

theorem made_of_unary {coercion : Coercion} (h : ofUnary functions directive coercion value = .ok args) :
    ∀ a ∈ args, a.Made nested functions kind := by
  cases coercion with
  | literal =>
    cases h
    exact made_values [value]
  | operand =>
    obtain ⟨b, hb, h⟩ := bind_eq_ok.1 h
    cases h
    obtain ⟨o, rfl, ho, -⟩ := Operand.resolved_of_operand hb
    exact List.forall_mem_singleton.2 (made_ofOperand ho)
  | limit key =>
    obtain ⟨o, options, ho, rfl, -⟩ := ofLimit_ok h
    exact List.forall_mem_cons.2 ⟨made_ofOperand ho, made_optionArgs options⟩
  | elements =>
    obtain ⟨os, rfl, hos⟩ := mapM_operand_ok h
    intro a ha
    obtain ⟨o, ho, rfl⟩ := List.mem_map.1 ha
    exact made_ofOperand (hos o ho)

/-- A primary argument is plain data or a transform. -/
theorem made_of_primary {layout : OptionKey} {a : Argument V} (h : primary functions directive layout value = .ok a) :
    a.Made nested functions .transform := by
  unfold primary at h
  split at h
  · exact made_of_transformArg h
  · cases h
    exact .value value

/-- Secondary arguments are plain data or transforms. -/
theorem made_of_secondary {layout : OptionKey} {members : Table Json}
    (h : secondary functions directive layout members = .ok args) :
    ∀ a ∈ args, a.Made nested functions .transform := by
  unfold secondary at h
  split at h
  · cases h
    obtain ⟨options, hargs, -⟩ := restArg_cases (V := V) members [layout.primary]
    rw [hargs]
    exact made_optionArgs options
  · obtain ⟨-, -, h⟩ := bind_eq_ok.1 h
    cases h
    exact made_values _
  · obtain ⟨-, -, h⟩ := bind_eq_ok.1 h
    intro a ha
    obtain ⟨x, -, hx⟩ := mem_left_of_forall₂ (mapM_eq_ok.1 h) ha
    exact made_of_transformArg hx

theorem made_of_optionKeyed {layout : OptionKey} (h : ofOptionKeyed functions directive layout value = .ok args) :
    ∀ a ∈ args, a.Made nested functions .transform := by
  unfold ofOptionKeyed at h
  split at h
  · obtain ⟨first, hfirst, h⟩ := bind_eq_ok.1 h
    obtain ⟨more, hmore, h⟩ := bind_eq_ok.1 h
    cases h
    exact List.forall_mem_cons.2 ⟨made_of_primary hfirst, made_of_secondary hmore⟩
  · obtain ⟨first, hfirst, h⟩ := bind_eq_ok.1 h
    cases h
    exact List.forall_mem_singleton.2 (made_of_primary hfirst)

theorem made_of_peerGroup (h : ofPeerGroup directive value = .ok args) :
    ∀ a ∈ args, a.Made nested functions kind := by
  unfold ofPeerGroup at h
  split at h
  · cases h
    exact made_values _
  · cases h
    exact made_values [_]
  · obtain ⟨-, -, h⟩ := bind_eq_ok.1 h
    obtain ⟨peers, -, h⟩ := bind_eq_ok.1 h
    obtain ⟨more, hmore, h⟩ := bind_eq_ok.1 h
    cases h
    obtain ⟨options, rfl⟩ := optionsArg_ok hmore
    exact List.forall_mem_append.2 ⟨made_values peers, made_optionArgs options⟩
  · cases h

/-- A pattern directive is a call of `regex` without arguments, or of the directive. -/
theorem made_of_pattern {call : Call V} (h : ofPattern nested type directive value = .ok call) :
    (call.method = directive ∨ call.method = "regex") ∧ ∀ a ∈ call.args, a.Made nested functions kind := by
  rcases ofPattern_ok h with rfl | ⟨p, schema, options, -, hschema, rfl⟩
  · exact ⟨.inr rfl, fun a ha => absurd ha List.not_mem_nil⟩
  · refine ⟨.inl rfl, List.forall_mem_cons.2 ⟨.pattern p, List.forall_mem_append.2 ⟨?_, made_optionArgs options⟩⟩⟩
    intro a ha
    obtain ⟨v, hv, rfl⟩ := List.mem_map.1 ha
    obtain ⟨-, d, hd⟩ := hschema v (Option.mem_toList.1 hv)
    exact .schema hd

theorem made_of_unique (h : ofUnique functions directive value = .ok args) :
    ∀ a ∈ args, a.Made nested functions .comparator := by
  obtain ⟨comparator, options, hcomparator, rfl⟩ := ofUnique_ok h
  refine List.forall_mem_append.2 ⟨fun a ha => ?_, made_optionArgs options⟩
  obtain ⟨f, hf, rfl⟩ := List.mem_map.1 ha
  exact .function (hcomparator f (Option.mem_toList.1 hf))

theorem made_of_rename (h : ofRename directive value = .ok args) : ∀ a ∈ args, a.Made nested functions kind := by
  obtain ⟨source, target, options, rfl, -⟩ := ofRename_ok h
  exact List.forall_mem_cons.2 ⟨.value _, List.forall_mem_cons.2 ⟨.value _, made_optionArgs options⟩⟩

/-- An entry of a replacement list is a call of the directive. -/
theorem made_of_replaceEntry {call : Call V} (h : ofReplaceEntry directive value = .ok call) :
    call.method = directive ∧ ∀ a ∈ call.args, a.Made nested functions kind := by
  obtain ⟨r, -, rfl⟩ := ofReplaceEntry_ok h
  exact ⟨rfl, List.forall_mem_cons.2 ⟨.pattern _, made_values [_]⟩⟩

theorem made_of_assert (h : ofAssert functions directive value = .ok args) :
    ∀ a ∈ args, a.Made nested functions kind := by
  obtain ⟨fields, -, h⟩ := bind_eq_ok.1 h
  split at h
  · obtain ⟨r, hr, h⟩ := bind_eq_ok.1 h
    cases h
    exact List.forall_mem_cons.2 ⟨.reference (Reference.resolved_of_reference hr), made_values _⟩
  · cases h
    exact fun a ha => absurd ha List.not_mem_nil

/-- What branches hang on is a reference or a compiled validator. -/
theorem made_of_conditionArg {members : Table Json} {a : Argument V}
    (h : conditionArg nested functions directive members = .ok a) : a.Made nested functions kind := by
  unfold conditionArg at h
  split at h
  · obtain ⟨r, hr, h⟩ := bind_eq_ok.1 h
    cases h
    exact .reference (Reference.resolved_of_reference hr)
  · exact made_of_nestedSchema h
  · cases h
  · cases h

theorem made_of_condition (h : ofCondition nested functions directive value = .ok args) :
    ∀ a ∈ args, a.Made nested functions kind := by
  obtain ⟨members, -, h⟩ := bind_eq_ok.1 h
  obtain ⟨condition, hcondition, h⟩ := bind_eq_ok.1 h
  cases h
  exact List.forall_mem_cons.2 ⟨made_of_conditionArg hcondition, made_values [_]⟩

/-- **The calls of a directive** are on its own method, or on `regex`, with arguments that are made from its value. -/
theorem made_of_directive {row : Directive} {calls : List (Call V)}
    (h : ofDirective nested functions type row value = .ok calls) : ∀ call ∈ calls,
      (call.method = row.name ∨ (call.method = "regex" ∧ row.category = .pattern)) ∧
        ∀ a ∈ call.args, a.Made nested functions row.category.functionKind := by
  have hone : ∀ {outcome : Outcome (List (Argument V))} {kind : FunctionKind},
      (outcome.map fun args => [(⟨row.name, args⟩ : Call V)]) = .ok calls →
      (∀ args, outcome = .ok args → ∀ a ∈ args, a.Made nested functions kind) → ∀ call ∈ calls,
        (call.method = row.name ∨ (call.method = "regex" ∧ row.category = .pattern)) ∧
          ∀ a ∈ call.args, a.Made nested functions kind := by
    intro outcome kind hcalls hmade call hcall
    obtain ⟨args, hargs, rfl⟩ := map_eq_ok.1 hcalls
    cases List.mem_singleton.1 hcall
    exact ⟨.inl rfl, hmade args hargs⟩
  obtain ⟨name, category, reversible⟩ := row
  cases category with
  | toggle =>
    refine @hone (.ok []) _ h fun args hargs => ?_
    cases hargs
    exact made_values []
  | optionalConfig => exact hone h fun _ hargs => made_of_config hargs
  | unary coercion => exact hone h fun _ hargs => made_of_unary hargs
  | optionKeyed layout => exact hone h fun _ hargs => made_of_optionKeyed hargs
  | spread =>
    refine @hone (.ok ((elements value).map .value)) _ h fun args hargs => ?_
    cases hargs
    exact made_values _
  | peerGroup => exact hone h fun _ hargs => made_of_peerGroup hargs
  | pattern =>
    obtain ⟨call, hcall, rfl⟩ := map_eq_ok.1 h
    obtain ⟨hmethod, hargs⟩ := made_of_pattern hcall
    exact List.forall_mem_singleton.2 ⟨hmethod.imp_right fun hregex => ⟨hregex, rfl⟩, hargs⟩
  | bespoke shape =>
    cases shape with
    | unique => exact hone h fun _ hargs => made_of_unique hargs
    | rename => exact hone h fun _ hargs => made_of_rename hargs
    | replace =>
      intro call hcall
      obtain ⟨entry, -, hentry⟩ := mem_left_of_forall₂ (mapM_eq_ok.1 h) hcall
      obtain ⟨hmethod, hargs⟩ := made_of_replaceEntry hentry
      exact ⟨.inl hmethod, hargs⟩
    | assert => exact hone h fun _ hargs => made_of_assert hargs
    | keyPeers =>
      refine hone h fun args hargs => ?_
      obtain ⟨fields, -, rfl⟩ := map_eq_ok.1 hargs
      exact made_values fields
    | condition => exact hone h fun _ hargs => made_of_condition hargs

end Call

/-! ## What directives record -/

namespace Compile

variable {type : TypeTag} {name : String} {value : Json} {es : List (Effect Validator)}

/-- An effect of a directive comes from a call that writes to the component of the directive. -/
theorem call_of_log (h : log functions type name value = .ok es) : ∃ row, lookup name = some row ∧ ∀ e ∈ es,
    ∃ call : Call Validator, effect type call.method call.args = .ok e ∧
      Component.ofMethod call.method = Component.ofMethod name ∧
      ∀ a ∈ call.args, a.Made (compile functions) functions row.category.functionKind := by
  have hpattern : ∀ row ∈ Grammar.directives, row.category = .pattern → Component.ofMethod row.name = .rules := by
    decide +kernel
  unfold log at h
  split at h
  · cases h
  · next row hrow =>
    obtain ⟨hmem, rfl⟩ := mem_of_lookup hrow
    obtain ⟨calls, hcalls, h⟩ := bind_eq_ok.1 h
    refine ⟨row, hrow, fun e he => ?_⟩
    obtain ⟨call, hcall, hce⟩ := mem_left_of_forall₂ (mapM_eq_ok.1 h) he
    obtain ⟨hmethod, hargs⟩ := Call.made_of_directive hcalls call hcall
    refine ⟨call, mapError_eq_ok.1 hce, ?_, hargs⟩
    rcases hmethod with hm | ⟨hm, hcategory⟩
    · rw [hm]
    · rw [hm, hpattern row hmem hcategory]
      decide

/-- **What a directive records is on the component of its name.** -/
theorem component_of_log (h : log functions type name value = .ok es) :
    ∀ e ∈ es, e.component = Component.ofMethod name := by
  obtain ⟨row, -, hcall⟩ := call_of_log h
  intro e he
  obtain ⟨call, heffect, hcomponent, -⟩ := hcall e he
  rw [Effect.component_of_effect heffect, hcomponent]

/-- **The arguments of a recorded rule are made from the value of its directive.** -/
theorem made_of_rule {r : Rule Validator} (h : log functions type name value = .ok es) (hr : .rule r ∈ es) :
    ∃ row, lookup name = some row ∧
      ∀ entry ∈ r.args, entry.2.Made (compile functions) functions row.category.functionKind := by
  obtain ⟨row, hrow, hcall⟩ := call_of_log h
  refine ⟨row, hrow, fun entry hentry => ?_⟩
  obtain ⟨call, heffect, -, hargs⟩ := hcall _ hr
  have hrules : Component.ofMethod call.method = .rules := (Effect.component_of_effect heffect).symm
  cases Effect.isRule_of_effect hrules heffect with
  | rule hbag =>
    rcases hbag entry hentry with hmem | hvalue
    · exact hargs _ hmem
    · obtain ⟨key, a⟩ := entry
      cases a with
      | value v => exact .value v
      | _ => cases hvalue

end Compile

/-! ## Validators inside a validator -/

/-- A validator inside another: the same, or inside a child or an argument of a rule. -/
inductive Inside (u : Validator) : Validator → Prop
  | self : Inside u u
  | child {v : Validator} {children : List (String × Validator)} {e : String × Validator} :
      v.children = some children → e ∈ children → Inside u e.2 → Inside u v
  | argument {v w : Validator} {r : Rule Validator} {key : String} :
      r ∈ v.rules → (key, .schema w) ∈ r.args → Inside u w → Inside u v

/-- **Every validator inside a compiled one is compiled from a description.** -/
theorem compile_of_inside {u v : Validator} (h : Inside u v) : ∀ {d : Description}, compile functions d = .ok v →
    ∃ c : Description, compile functions c = .ok u := by
  induction h with
  | self => exact fun hv => ⟨_, hv⟩
  | child hc he _ ih =>
    intro d hv
    obtain ⟨-, p, -, -, hp⟩ := property_of_child hv hc he
    exact ih hp
  | argument hr hm _ ih =>
    intro d hv
    obtain ⟨e, -, es, hes, hre⟩ := (mem_rules_iff hv).1 hr
    obtain ⟨row, -, hargs⟩ := Compile.made_of_rule hes hre
    cases hargs _ hm with
    | schema hw => exact ih hw

end Rulebook
