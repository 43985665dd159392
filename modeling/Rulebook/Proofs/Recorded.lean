import Rulebook.Proofs.Bags
import Rulebook.Proofs.Kinds
import Rulebook.Proofs.Log

/-!
# What a directive records

The inversion of `Compile.log`: a directive that compiles records one effect, or a list of replacements. `Records`
lists the effects and `Recorded` the rules, each with what the compiler and the validator have checked on the way.

* `Recorded.shape`: a recorded rule goes by the name of its directive, but for signs, sizes and patterns.
* `records_of_log`: the log of a directive is one of those listed.
* `log_of_row`: the log of a directive that is read into the arguments of a single call.
-/

namespace Rulebook

open Fallible Grammar

namespace Compile

variable {functions : Registry} {type : TypeTag} {name : String} {value : Json} {es : List (Effect Validator)}

/-! ## Directives with a single call -/

/-- A single call has a single effect. -/
theorem effects_single (call : Call Validator) : effects type [call] =
    ((effect type call.method call.args).mapError CompileError.engine).map fun e => [e] := by
  simp only [effects, List.mapM_cons, List.mapM_nil]
  cases effect type call.method call.args <;> rfl

/-- A directive that is read into the arguments of a call records the effect of the call. -/
theorem log_single {row : Directive} (hrow : lookup name = some row) (args : Call.Outcome (List (Argument Validator)))
    (hcall : Call.ofDirective (compile functions) functions type row value = args.map fun a => [⟨name, a⟩]) :
    log functions type name value = .ok es ↔ ∃ a e, args = .ok a ∧ effect type name a = .ok e ∧ es = [e] := by
  simp only [log, hrow, hcall]
  constructor
  · intro h
    obtain ⟨calls, hcalls, h⟩ := bind_eq_ok.1 h
    obtain ⟨a, ha, rfl⟩ := map_eq_ok.1 hcalls
    rw [effects_single] at h
    obtain ⟨e, he, rfl⟩ := map_eq_ok.1 h
    exact ⟨a, e, ha, mapError_eq_ok.1 he, rfl⟩
  · rintro ⟨a, e, rfl, he, rfl⟩
    rw [map_ok, ok_bind, effects_single, he]
    rfl

/-- A directive that can be rebuilt and is read into the arguments of a call records the effect of the call. -/
theorem log_of_row {category : Category} {recording : Recording} (hrow : Row name category recording)
    (args : Call.Outcome (List (Argument Validator)))
    (hcall : Call.ofDirective (compile functions) functions type (entry category name) value =
      args.map fun a => [⟨name, a⟩]) :
    log functions type name value = .ok es ↔ ∃ a e, args = .ok a ∧ effect type name a = .ok e ∧ es = [e] :=
  log_single hrow.lookup args hcall

/-! ## The rules that are recorded -/

/-- The rules that a directive with a given value records on a type. What is read from the members of an object holds
each name once when the given value does. -/
inductive Recorded (functions : Registry) (type : TypeTag) (given : Json) : String → Rule Validator → Prop
  /-- A toggle has no arguments. -/
  | plain {name : String} : Row name .toggle .generic → Recorded functions type given name { method := name }
  /-- A literal is kept under the name of its directive. -/
  | literal {name : String} (v : Json) : Row name (.unary .literal) .generic →
      Recorded functions type given name { method := name, args := [(name, .value v)] }
  /-- Optional configuration may be left out. -/
  | bare {name : String} : Row name .optionalConfig .optionsOnly → Recorded functions type given name { method := name }
  /-- Optional configuration is kept as options. -/
  | config {name : String} {v : Json} : Row name .optionalConfig .optionsOnly → Call.Config name v →
      Recorded functions type given name { method := name, args := [("options", .value v)] }
  /-- Only numbers have a sign. -/
  | sign (name : String) {s : String} : type = .number → s = "positive" ∨ s = "negative" →
      Recorded functions type given name { method := "sign", args := [("sign", .value (.str s))] }
  /-- The precision is kept as a limit. -/
  | precision (v : Json) :
      Recorded functions type given "precision" { method := "precision", args := [("limit", .value v)] }
  /-- A size is compared by value or by length, and never for equality by value. -/
  | size {name : String} {operator : Operator} {o : Operand} {options : Option (Table Json)} :
      Row name (.unary (.limit "limit")) (.size operator) → (type.comparesByValue && operator == .equal) = false →
      o.Resolved functions →
      (given.Distinct → o.Distinct ∧ ∀ rest ∈ options, Table.Beside [Reference.key, "limit"] rest) →
      Recorded functions type given name {
        method := if type.comparesByValue then "compare" else "length"
        operator := some operator
        args := ("limit", .ofOperand o) :: optionEntries options }
  /-- A multiple has its base as a limit. -/
  | multiple {o : Operand} {options : Option (Table Json)} : o.Resolved functions →
      (given.Distinct → o.Distinct ∧ ∀ rest ∈ options, Table.Beside [Reference.key, "base"] rest) →
      Recorded functions type given "multiple" {
        method := "multiple"
        args := ("base", .ofOperand o) :: optionEntries options }
  /-- A sample may have options. -/
  | sample {v : Json} {options : Option (Table Json)} :
      (given.Distinct → v.Distinct ∧ ∀ rest ∈ options, Table.Beside ["example"] rest) →
      Recorded functions type given "example" {
        method := "example"
        args := ("example", .value v) :: optionEntries options }
  /-- Plain values are kept under the name of their directive. -/
  | spread {name : String} (vs : List Json) : Row name .spread .spread →
      Recorded functions type given name { method := name, args := [(name, .value (.arr vs))] }
  /-- A group of peers has at least one. -/
  | peers {name : String} {names : List String} (options : Option (Table Json)) : Row name .peerGroup .peers →
      names ≠ [] → Recorded functions type given name {
        method := name
        args := ("peers", .value (.arr (names.map .str))) :: optionEntries options }
  /-- Only objects have keys. -/
  | keys {name : String} : Row name .pattern .pattern → type = .object →
      Recorded functions type given name { method := "regex" }
  /-- Only objects have values behind matching keys. -/
  | pattern {name : String} {p : Pattern} {schema : Option Validator} (options : Option (Table Json)) :
      Row name .pattern .pattern → p.Regular → (∀ v ∈ schema, type = .object) →
      Recorded functions type given name {
        method := "pattern"
        args := ("regex", .pattern p) :: (schemaEntries schema ++ optionEntries options) }
  /-- Duplicates may be told by a comparator. -/
  | unique (comparator : Option NamedFunction) (options : Option (Table Json)) :
      Recorded functions type given "unique" {
        method := "unique"
        args := comparatorEntries comparator ++ optionEntries options }
  /-- A renaming has an old and a new name. -/
  | rename (source target : String) {options : Option (Table Json)} :
      (given.Distinct → ∀ rest ∈ options, Table.Beside ["from", "to"] rest) →
      Recorded functions type given "rename" {
        method := "rename"
        args := ("from", .value (.str source)) :: ("to", .value (.str target)) :: optionEntries options }
  /-- A hidden directive records a rule of its own name. -/
  | hidden {row : Directive} {r : Rule Validator} : lookup row.name = some row → Hidden row →
      r.method = row.name → Recorded functions type given row.name r

/-- The shapes of recorded rules. Most go by the name of their directive; signs, sizes and patterns do not. -/
inductive Shape (type : TypeTag) : String → Rule Validator → Prop
  | own {name : String} {r : Rule Validator} {category : Category} {recording : Recording} :
      Row name category recording → category ≠ .pattern → (∀ fixed, recording ≠ .sign fixed) →
      recording ≠ .size .equal → r.method = name → r.operator = none → Shape type name r
  | sign (name : String) {s : String} : type = .number → s = "positive" ∨ s = "negative" →
      Shape type name { method := "sign", args := [("sign", .value (.str s))] }
  | size {name : String} {operator : Operator} (args : List (String × Argument Validator)) :
      Row name (.unary (.limit "limit")) (.size operator) → (type.comparesByValue && operator == .equal) = false →
      Shape type name {
        method := if type.comparesByValue then "compare" else "length"
        operator := some operator
        args }
  | keys (name : String) : type = .object → Shape type name { method := "regex" }
  | pattern (name : String) (args : List (String × Argument Validator)) :
      Shape type name { method := "pattern", args }
  | hidden {row : Directive} {r : Rule Validator} : lookup row.name = some row → Hidden row → r.method = row.name →
      Shape type row.name r

/-- A recorded rule is of one of the shapes. -/
theorem Recorded.shape {given : Json} {r : Rule Validator} (h : Recorded functions type given name r) :
    Shape type name r := by
  cases h with
  | plain hrow => exact .own hrow (by decide) (by simp) (by decide) rfl rfl
  | literal v hrow => exact .own hrow (by decide) (by simp) (by decide) rfl rfl
  | bare hrow => exact .own hrow (by decide) (by simp) (by decide) rfl rfl
  | config hrow _ => exact .own hrow (by decide) (by simp) (by decide) rfl rfl
  | sign _ htype hs => exact .sign name htype hs
  | precision v => exact .own row_precision (by decide) (by simp) (by decide) rfl rfl
  | size hrow hcompare _ _ => exact .size _ hrow hcompare
  | multiple _ _ => exact .own row_multiple (by decide) (by simp) (by decide) rfl rfl
  | sample _ => exact .own row_example (by decide) (by simp) (by decide) rfl rfl
  | spread vs hrow => exact .own hrow (by decide) (by simp) (by decide) rfl rfl
  | peers options hrow _ => exact .own hrow (by decide) (by simp) (by decide) rfl rfl
  | keys _ htype => exact .keys name htype
  | pattern options _ _ _ => exact .pattern name _
  | unique comparator options => exact .own row_unique (by decide) (by simp) (by decide) rfl rfl
  | rename a b _ => exact .own row_rename (by decide) (by simp) (by decide) rfl rfl
  | hidden hrow hh hm => exact .hidden hrow hh hm

/-- What a directive with a given value records on a type. -/
inductive Records (functions : Registry) (type : TypeTag) (given : Json) (name : String) :
    List (Effect Validator) → Prop
  | presence (p : Presence) : Records functions type given name [.presence p]
  | default {o : Operand} : o.Resolved functions → Records functions type given name [.default o]
  | valid {os : List Operand} : os ≠ [] → (∀ o ∈ os, o.Resolved functions) →
      Records functions type given name [.valid os]
  | invalid {os : List Operand} : os ≠ [] → (∀ o ∈ os, o.Resolved functions) →
      Records functions type given name [.invalid os]
  | replacements {rs : List Replacement} : (∀ r ∈ rs, type = .string ∧ r.pattern.Regular) →
      Records functions type given name (rs.map .replacement)
  | rule {r : Rule Validator} : Recorded functions type given name r → Records functions type given name [.rule r]

/-! ## Inverting the log -/

/-- The methods of hidden directives are recorded as rules of their own names. -/
theorem rule_of_hidden {args : List (Argument Validator)} {e : Effect Validator}
    (hrec : Recording.ofMethod name ∈ hiddenRecordings) (he : effect type name args = .ok e) :
    ∃ r, e = .rule r ∧ r.method = name ∧ r.operator = none := by
  simp only [hiddenRecordings, List.mem_cons, List.not_mem_nil, or_false] at hrec
  rcases hrec with hrec | hrec | hrec | hrec | hrec <;> simp only [effect, hrec] at he
  case inr.inr.inr.inl =>
    obtain ⟨_, _, he⟩ := bind_eq_ok.1 he
    cases he
    exact ⟨_, rfl, rfl, rfl⟩
  case inr.inr.inr.inr =>
    unfold Effect.ofCondition at he
    split at he
    · split at he
      · cases he
      · split at he <;> cases he
        exact ⟨_, rfl, rfl, rfl⟩
    · cases he
  -- in the remaining cases a fixed argument may be of a wrong kind
  all_goals
    obtain ⟨_, _, he⟩ := bind_eq_ok.1 he
    split at he
    · split at he <;> cases he
      exact ⟨_, rfl, rfl, rfl⟩
    · cases he
      exact ⟨_, rfl, rfl, rfl⟩

/-- The log of a hidden directive is a rule of its own name. -/
theorem log_of_hidden {row : Directive} (hrow : lookup name = some row) (hh : Hidden row)
    (h : log functions type name value = .ok es) : ∃ r, es = [.rule r] ∧ r.method = name ∧ r.operator = none := by
  obtain ⟨-, rfl⟩ := mem_of_lookup hrow
  obtain ⟨args, hcall⟩ : ∃ args : Call.Outcome (List (Argument Validator)),
      Call.ofDirective (compile functions) functions type row value = args.map fun a => [⟨row.name, a⟩] := by
    obtain ⟨hpattern, hreplace⟩ := hh.apart
    unfold Call.ofDirective
    split
    all_goals first | exact ⟨_, rfl⟩ | contradiction
  obtain ⟨a, e, -, he, rfl⟩ := (log_single hrow args hcall).1 h
  obtain ⟨r, rfl, hr⟩ := rule_of_hidden hh.recording he
  exact ⟨r, rfl, hr⟩

/-- A hidden directive records a rule of its own name. -/
theorem records_of_hidden {row : Directive} (hrow : lookup name = some row) (hh : Hidden row)
    (h : log functions type name value = .ok es) : Records functions type value name es := by
  obtain ⟨r, rfl, hr, -⟩ := log_of_hidden hrow hh h
  obtain ⟨-, rfl⟩ := mem_of_lookup hrow
  exact .rule (.hidden hrow hh hr)

/-- The arguments of a pattern directive are recorded as a rule about keys or about a text. -/
theorem records_of_pattern (hrow : Row name .pattern .pattern) (h : log functions type name value = .ok es) :
    Records functions type value name es := by
  simp only [log, hrow.lookup] at h
  obtain ⟨calls, hcalls, h⟩ := bind_eq_ok.1 h
  obtain ⟨call, hcall, rfl⟩ := map_eq_ok.1 hcalls
  rw [effects_single] at h
  obtain ⟨e, he, rfl⟩ := map_eq_ok.1 h
  replace he := mapError_eq_ok.1 he
  rcases Call.ofPattern_ok hcall with rfl | ⟨p, schema, options, hp, hschema, rfl⟩
  · have hregex : Recording.ofMethod "regex" = .pattern := by decide
    simp only [effect, hregex, Effect.ofPattern] at he
    split at he
    · next htype =>
      cases he
      exact .rule (.keys hrow htype.2)
    · cases he
  · have hpattern : Recording.ofMethod (entry .pattern name).name = .pattern := hrow.recording
    have htype : ∀ v ∈ schema, type = .object := fun v hv => (hschema v hv).1
    simp only [effect, hpattern, Effect.ofPattern_eq _ _ htype] at he
    cases he
    exact .rule (.pattern options hrow hp htype)

/-- Calls that are read from the entries of a replacement list record replacements. -/
theorem replacements_of_effects (hrec : Recording.ofMethod name = .replace) {entries : List Json}
    {calls : List (Call Validator)}
    (hcalls : List.Forall₂ (fun entry call => Call.ofReplaceEntry name entry = .ok call) entries calls) :
    ∀ {es : List (Effect Validator)}, effects type calls = .ok es →
      ∃ rs : List Replacement, (∀ r ∈ rs, type = .string ∧ r.pattern.Regular) ∧ es = rs.map .replacement := by
  induction hcalls with
  | nil =>
    intro es h
    cases h
    exact ⟨[], fun _ hr => absurd hr List.not_mem_nil, rfl⟩
  | cons hentry _ ih =>
    intro es h
    obtain ⟨r, hreg, rfl⟩ := Call.ofReplaceEntry_ok hentry
    simp only [effects, List.mapM_cons] at h
    obtain ⟨e, he, h⟩ := bind_eq_ok.1 h
    obtain ⟨fs, hfs, h⟩ := bind_eq_ok.1 h
    obtain ⟨rs, hrs, rfl⟩ := ih hfs
    cases h
    replace he := mapError_eq_ok.1 he
    simp only [effect, hrec, Effect.ofReplace] at he
    split at he
    · cases he
    · next htype =>
      cases he
      exact ⟨r :: rs, List.forall_mem_cons.2 ⟨⟨not_not.1 htype, hreg⟩, hrs⟩, rfl⟩

/-- A list of replacements records each of them. -/
theorem records_of_replace (hrow : Row name (.bespoke .replace) .replace)
    (h : log functions type name value = .ok es) : Records functions type value name es := by
  simp only [log, hrow.lookup] at h
  obtain ⟨calls, hcalls, h⟩ := bind_eq_ok.1 h
  obtain ⟨rs, hrs, rfl⟩ := replacements_of_effects hrow.recording (mapM_eq_ok.1 hcalls) h
  exact .replacements hrs

/-- A toggle records a presence, a sign, or a rule without arguments. -/
theorem records_of_toggle {recording : Recording} (hrow : Row name .toggle recording)
    (h : log functions type name value = .ok es) : Records functions type value name es := by
  obtain ⟨_, e, ⟨⟩, he, rfl⟩ := (log_of_row hrow (.ok []) rfl).1 h
  cases hrow.kind with
  | presence name fixed =>
    simp only [effect, hrow.recording] at he
    cases he
    exact .presence fixed
  | plain name =>
    simp only [effect, hrow.recording] at he
    cases he
    exact .rule (.plain hrow)
  | sign hname =>
    simp only [effect, hrow.recording] at he
    obtain ⟨htype, s, hs, rfl⟩ := Effect.ofSign_ok (fun s hs => Option.some.inj hs ▸ hname) he
    exact .rule (.sign name htype hs)

/-- A directive with a literal records a presence, a sign, a precision, or a rule with the literal. -/
theorem records_of_literal {recording : Recording} (hrow : Row name (.unary .literal) recording)
    (h : log functions type name value = .ok es) : Records functions type value name es := by
  obtain ⟨_, e, ⟨⟩, he, rfl⟩ := (log_of_row hrow (.ok [.value value]) rfl).1 h
  cases hrow.kind with
  | literal name =>
    simp only [effect, hrow.recording] at he
    cases he
    exact .rule (.literal value hrow)
  | presenceMode name =>
    simp only [effect, hrow.recording] at he
    obtain ⟨p, rfl⟩ := Effect.ofPresence_ok he
    exact .presence p
  | signWord name =>
    simp only [effect, hrow.recording] at he
    obtain ⟨htype, s, hs, rfl⟩ := Effect.ofSign_ok (fun s hs => by cases hs) he
    exact .rule (.sign name htype hs)
  | precision =>
    simp only [effect, hrow.recording] at he
    cases he
    exact .rule (.precision value)

/-- A directive with operands records a default, values, a size, or a multiple. -/
theorem records_of_operands {coercion : Coercion} {recording : Recording} (hrow : Row name (.unary coercion) recording)
    (hc : coercion ≠ .literal) (h : log functions type name value = .ok es) :
    Records functions type value name es := by
  obtain ⟨a, e, ha, he, rfl⟩ := (log_of_row hrow _ rfl).1 h
  simp only [effect, hrow.recording] at he
  cases hrow.kind with
  | literal | presenceMode | signWord | precision => exact absurd rfl hc
  | default name =>
    obtain ⟨b, hb, ha⟩ := bind_eq_ok.1 ha
    obtain ⟨o, rfl, ho, -⟩ := Operand.resolved_of_operand hb
    cases ha
    cases o <;> cases he <;> exact .default ho
  | values name allowed =>
    obtain ⟨os, rfl, hos⟩ := Call.mapM_operand_ok ha
    obtain ⟨hne, rfl⟩ := Effect.ofValues_ok he
    cases allowed
    · exact .invalid hne hos
    · exact .valid hne hos
  | size operator =>
    obtain ⟨o, options, ho, rfl, hopt⟩ := Call.ofLimit_ok ha
    simp only [Effect.ofSize_eq] at he
    split at he
    · cases he
    · next hcompare =>
      cases he
      exact .rule (.size hrow (by simpa using hcompare) ho hopt)
  | multiple =>
    obtain ⟨o, options, ho, rfl, hopt⟩ := Call.ofLimit_ok ha
    simp only [Effect.limitBag_eq] at he
    cases he
    exact .rule (.multiple ho hopt)

/-- **A directive records what is listed.** -/
theorem records_of_log (h : log functions type name value = .ok es) :
    Records functions type value name es := by
  cases hlookup : lookup name with
  | none => simp [log, hlookup] at h
  | some row =>
    rcases lookup_cases hlookup with ⟨-, hrow⟩ | hh
    · generalize row.category = category, Recording.ofMethod name = recording at hrow
      cases hrow.kind with
      | presence | plain | sign => exact records_of_toggle hrow h
      | literal | presenceMode | signWord | precision => exact records_of_literal hrow h
      | default | values | size | multiple => exact records_of_operands hrow (by decide) h
      | config name =>
        obtain ⟨a, e, ha, he, rfl⟩ := (log_of_row hrow _ rfl).1 h
        simp only [effect, hrow.recording] at he
        rcases Call.ofConfig_ok ha with rfl | ⟨v, rfl, hv⟩
        · cases he
          exact .rule (.bare hrow)
        · cases he
          exact .rule (.config hrow hv)
      | sample =>
        obtain ⟨a, e, ha, he, rfl⟩ := (log_of_row hrow _ rfl).1 h
        obtain ⟨v, options, rfl, hopt⟩ := Call.ofSample_ok ha
        simp only [effect, hrow.recording, Effect.ofExample_eq] at he
        cases he
        exact .rule (.sample hopt)
      | spread name =>
        obtain ⟨_, e, ⟨⟩, he, rfl⟩ := (log_of_row hrow (.ok ((Call.elements value).map .value)) rfl).1 h
        simp only [effect, hrow.recording, Effect.ofSpread, Effect.plainValues_eq] at he
        cases he
        exact .rule (.spread _ hrow)
      | peers name =>
        obtain ⟨a, e, ha, he, rfl⟩ := (log_of_row hrow _ rfl).1 h
        simp only [effect, hrow.recording] at he
        obtain ⟨names, options, hne, rfl⟩ := Effect.ofPeers_ok he
        exact .rule (.peers options hrow hne)
      | unique =>
        obtain ⟨a, e, ha, he, rfl⟩ := (log_of_row hrow _ rfl).1 h
        obtain ⟨comparator, options, -, rfl⟩ := Call.ofUnique_ok ha
        simp only [effect, hrow.recording, Effect.ofUnique_eq] at he
        cases he
        exact .rule (.unique comparator options)
      | rename =>
        obtain ⟨a, e, ha, he, rfl⟩ := (log_of_row hrow _ rfl).1 h
        obtain ⟨source, target, options, rfl, hopt⟩ := Call.ofRename_ok ha
        simp only [effect, hrow.recording, Effect.ofRename_eq] at he
        cases he
        exact .rule (.rename source target hopt)
      | pattern _ => exact records_of_pattern hrow h
      | replace => exact records_of_replace hrow h
    · exact records_of_hidden hlookup hh h

/-- A rule in the log of a directive is one that the directive records. -/
theorem recorded_of_log {r : Rule Validator} (h : log functions type name value = .ok es)
    (hr : .rule r ∈ es) : Recorded functions type value name r := by
  cases records_of_log h with
  | presence p => simp at hr
  | default ho => simp at hr
  | valid hne hos => simp at hr
  | invalid hne hos => simp at hr
  | replacements hrs => simp at hr
  | rule hrec =>
    cases List.mem_singleton.1 hr
    exact hrec

end Compile
end Rulebook
