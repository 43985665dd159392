import Rulebook.Proofs.Directive
import Rulebook.Proofs.Recorded

/-!
# Canonical directives

A directive is *canonical* when its value is in the form in which extraction writes it. `Canonical` lists these forms,
each with the rule that it stands for, and that rule and the directive determine each other:

* `Canonical.directive`: extraction turns the rule into the directive;
* `Canonical.log_eq`: compiling the directive records the rule.
-/

namespace Rulebook

open Fallible Grammar

variable {V : Type} {functions : Registry}

/-- A directive with a value as extraction writes it, and the rule that it stands for, on a type. -/
inductive Canonical (functions : Registry) (type : TypeTag) : String → Json → Rule Validator → Prop
  | plain {name : String} : Row name .toggle .generic → Canonical functions type name (.bool true) { method := name }
  | sign {name : String} : type = .number → name = "positive" ∨ name = "negative" →
      Canonical functions type name (.bool true) { method := "sign", args := [("sign", .value (.str name))] }
  | literal {name : String} (v : Json) : Row name (.unary .literal) .generic →
      Canonical functions type name v { method := name, args := [(name, .value v)] }
  | precision (v : Json) :
      Canonical functions type "precision" v { method := "precision", args := [("limit", .value v)] }
  | bare {name : String} : Row name .optionalConfig .optionsOnly →
      Canonical functions type name (.bool true) { method := name }
  | config {name : String} {v : Json} : Row name .optionalConfig .optionsOnly → Call.Config name v →
      Canonical functions type name v { method := name, args := [("options", .value v)] }
  | spread {name : String} (vs : List Json) : Row name .spread .spread →
      Canonical functions type name (.arr vs) { method := name, args := [(name, .value (.arr vs))] }
  /-- A size without options is no literal object, for its members would be read as a limit and options. -/
  | size {name : String} {operator : Operator} {o : Operand} : Row name (.unary (.limit "limit")) (.size operator) →
      (type.comparesByValue && operator == .equal) = false → o.Resolved functions →
      (∀ members, o ≠ .literal (.obj members)) →
      Canonical functions type name o.toJson {
        method := if type.comparesByValue then "compare" else "length"
        operator := some operator
        args := [("limit", .ofOperand o)] }
  | sizeOptions {name : String} {operator : Operator} {o : Operand} {rest : Table Json} :
      Row name (.unary (.limit "limit")) (.size operator) → (type.comparesByValue && operator == .equal) = false →
      o.Resolved functions → Table.Beside [Reference.key, "limit"] rest →
      Canonical functions type name (.obj (("limit", o.toJson) :: rest)) {
        method := if type.comparesByValue then "compare" else "length"
        operator := some operator
        args := [("limit", .ofOperand o), ("options", .value (.obj rest))] }
  /-- A base without options is no literal object either. -/
  | multiple {o : Operand} : o.Resolved functions → (∀ members, o ≠ .literal (.obj members)) →
      Canonical functions type "multiple" o.toJson { method := "multiple", args := [("base", .ofOperand o)] }
  | multipleOptions {o : Operand} {rest : Table Json} : o.Resolved functions →
      Table.Beside [Reference.key, "base"] rest →
      Canonical functions type "multiple" (.obj (("base", o.toJson) :: rest)) {
        method := "multiple"
        args := [("base", .ofOperand o), ("options", .value (.obj rest))] }
  /-- An example without options has no member `example`, for that would be read as the example. -/
  | sample {v : Json} : v.field? "example" = none →
      Canonical functions type "example" v { method := "example", args := [("example", .value v)] }
  | sampleOptions (v : Json) {rest : Table Json} : Table.Beside ["example"] rest →
      Canonical functions type "example" (.obj (("example", v) :: rest)) {
        method := "example"
        args := [("example", .value v), ("options", .value (.obj rest))] }
  | peers {name : String} {names : List String} : Row name .peerGroup .peers → names ≠ [] →
      Canonical functions type name (.arr (names.map .str)) {
        method := name
        args := [("peers", .value (.arr (names.map .str)))] }
  | peersOptions {name : String} {names : List String} (options : Table Json) : Row name .peerGroup .peers →
      names ≠ [] → Canonical functions type name (.obj [("peers", .arr (names.map .str)), ("options", .obj options)]) {
        method := name
        args := [("peers", .value (.arr (names.map .str))), ("options", .value (.obj options))] }
  | keys : type = .object → Canonical functions type "regex" (.bool true) { method := "regex" }
  | pattern {p : Pattern} : p.Regular →
      Canonical functions type "pattern" p.toJson { method := "pattern", args := [("regex", .pattern p)] }
  | patternOptions {p : Pattern} (options : Table Json) : p.Regular →
      Canonical functions type "pattern" (.obj (p.record ++ [("options", .obj options)])) {
        method := "pattern"
        args := [("regex", .pattern p), ("options", .value (.obj options))] }
  | unique : Canonical functions type "unique" (.bool true) { method := "unique" }
  | uniqueOptions (options : Table Json) : Canonical functions type "unique" (.obj [("options", .obj options)]) {
      method := "unique"
      args := [("options", .value (.obj options))] }
  | rename (source target : String) :
      Canonical functions type "rename" (.obj [("from", .str source), ("to", .str target)]) {
        method := "rename"
        args := [("from", .value (.str source)), ("to", .value (.str target))] }
  | renameOptions (source target : String) {rest : Table Json} : Table.Beside ["from", "to"] rest →
      Canonical functions type "rename" (.obj (("from", .str source) :: ("to", .str target) :: rest)) {
        method := "rename"
        args := [("from", .value (.str source)), ("to", .value (.str target)), ("options", .value (.obj rest))] }

/-! ## Reading what is written -/

namespace Call

/-- A configuration value is kept as it is. -/
theorem ofConfig_self {directive : String} {v : Json} (h : Config directive v) :
    ofConfig (V := V) directive v = .ok [.value v] := by
  unfold ofConfig
  split
  · exact absurd rfl h.given
  · split
    · next hscheme =>
      have hself := canonicalPatterns_self (h.scheme _ _ rfl rfl hscheme)
      simp only [hself, ok_bind, pure_eq_ok, Table.put_eq_self hscheme]
    · rfl
  · rfl

/-- A limit that is no literal object is read back by itself. -/
theorem ofLimit_self {directive key : String} {o : Operand} (ho : o.Resolved functions)
    (hno : ∀ members, o ≠ .literal (.obj members)) :
    ofLimit (V := V) functions directive key o.toJson = .ok [.ofOperand o] := by
  have hread : (do return [← operand functions o.toJson] : Outcome (List (Argument V))) = .ok [.ofOperand o] := by
    rw [Operand.operand_toJson ho]
    rfl
  cases o with
  | reference r => exact hread
  | literal v =>
    cases v with
    | obj members => exact absurd rfl (hno members)
    | _ => exact hread

/-- A limit under its key is read back beside its options. -/
theorem ofLimit_options (directive : String) {key : String} {o : Operand} {rest : Table Json}
    (ho : o.Resolved functions) (hk : key ≠ Reference.key) (hr : Table.Beside [Reference.key, key] rest) :
    ofLimit (V := V) functions directive key (.obj ((key, o.toJson) :: rest)) =
      .ok [.ofOperand o, .value (.obj rest)] := by
  have hnoref : Table.has ((key, o.toJson) :: rest) Reference.key = false := by
    refine Table.has_eq_false fun hm => ?_
    rcases List.mem_cons.1 hm with he | hm
    · exact hk he.symm
    · exact hr.apart _ List.mem_cons_self hm
  have hkey : Table.Beside [key] rest :=
    ⟨hr.nonempty, hr.distinct, fun name hn => hr.apart name (List.mem_cons_of_mem _ hn)⟩
  have hrest : (restArg ([(key, o.toJson)] ++ rest) [key] : List (Argument V)) = [.value (.obj rest)] :=
    restArg_append hkey fun _ hn => hn
  simp only [ofLimit, hnoref, Table.get?_cons, if_true, Operand.operand_toJson ho, ok_bind]
  exact congrArg (fun more => Except.ok (.ofOperand o :: more)) hrest

/-- An example that has no member `example` is read back by itself. -/
theorem ofSample_self {directive : String} {v : Json} (h : v.field? "example" = none) :
    ofOptionKeyed (V := V) functions directive ⟨"example", false, .options⟩ v = .ok [.value v] := by
  simp only [ofOptionKeyed, h]
  rfl

/-- An example under its key is read back beside its options. -/
theorem ofSample_options (functions : Registry) (directive : String) (v : Json) {rest : Table Json}
    (hr : Table.Beside ["example"] rest) :
    ofOptionKeyed (V := V) functions directive ⟨"example", false, .options⟩ (.obj (("example", v) :: rest)) =
      .ok [.value v, .value (.obj rest)] := by
  have hrest : (restArg ([("example", v)] ++ rest) ["example"] : List (Argument V)) = [.value (.obj rest)] :=
    restArg_append hr fun _ hn => hn
  exact congrArg (fun more => Except.ok (.value v :: more)) hrest

/-- A renaming is read back beside its options. -/
theorem ofRename_options (directive source target : String) {rest : Table Json}
    (hr : Table.Beside ["from", "to"] rest) :
    ofRename (V := V) directive (.obj (("from", .str source) :: ("to", .str target) :: rest)) =
      .ok [.value (.str source), .value (.str target), .value (.obj rest)] := by
  have hrest : (restArg ([("from", .str source), ("to", .str target)] ++ rest) ["from", "to"] : List (Argument V)) =
      [.value (.obj rest)] :=
    restArg_append hr fun _ hn => hn
  exact congrArg (fun more => Except.ok (.value (.str source) :: .value (.str target) :: more)) hrest

/-- The record of a pattern is no marker of keys. -/
theorem isKeyMarker_record (p : Pattern) (more : Table Json) (hm : "type" ∉ Table.names more) :
    isKeyMarker (.obj (p.record ++ more)) = false := by
  have htype : "type" ∉ Table.names (p.record ++ more) := by
    rw [Table.names_append, List.mem_append, not_or]
    exact ⟨fun h => absurd (p.names_record _ h) (by decide), hm⟩
  simp only [isKeyMarker, Json.field?, Table.get?_eq_none htype]

/-- The record of a pattern has no validator and no options of its own. -/
theorem apart_record (p : Pattern) : ∀ key ∈ ["schema", "options"], key ∉ Table.names p.record := by
  intro key hk hm
  have hnames := p.names_record key hm
  revert hnames
  rcases List.mem_cons.1 hk with rfl | hk
  · decide
  · rw [List.mem_singleton.1 hk]
    decide

/-- A pattern is read back by itself. -/
theorem ofPattern_self {nested : Description → Outcome V} {type : TypeTag} {directive : String} {p : Pattern}
    (hp : p.Regular) : ofPattern nested type directive p.toJson = .ok ⟨directive, [.pattern p]⟩ := by
  have hread : pattern p.toJson = .ok p := by rw [pattern, Pattern.ofJson_toJson hp, mapError_ok]
  rcases p.toJson_record with ⟨htext, -⟩ | hrecord
  · rw [htext] at hread ⊢
    simp only [ofPattern, isKeyMarker, Json.field?, hread]
    rfl
  · have hmarker := isKeyMarker_record p [] (by simp)
    have hschema := Table.get?_eq_none (apart_record p "schema" (by simp))
    have hoptions := Table.get?_eq_none (apart_record p "options" (by simp))
    rw [List.append_nil] at hmarker
    rw [hrecord] at hread ⊢
    simp only [ofPattern, hmarker, Table.without_eq_self (apart_record p), hread, patternSchema, hschema, optionsArg,
      hoptions]
    rfl

/-- A pattern is read back beside its options. -/
theorem ofPattern_options {nested : Description → Outcome V} {type : TypeTag} {directive : String} {p : Pattern}
    (hp : p.Regular) (options : Table Json) :
    ofPattern nested type directive (.obj (p.record ++ [("options", .obj options)])) =
      .ok ⟨directive, [.pattern p, .value (.obj options)]⟩ := by
  have hread : pattern (.obj p.record) = .ok p := by rw [pattern, Pattern.ofJson_record hp, mapError_ok]
  have hmarker := isKeyMarker_record p [("options", .obj options)] (by simp)
  have hwithout : Table.without (p.record ++ [("options", .obj options)]) ["schema", "options"] = p.record := by
    rw [Table.without, List.filter_append]
    exact (congrArg (· ++ []) (Table.without_eq_self (apart_record p))).trans (List.append_nil _)
  have hschema : Table.get? (p.record ++ [("options", .obj options)]) "schema" = none := by
    rw [Table.get?_append, Table.get?_eq_none (apart_record p "schema" (by simp))]
    rfl
  have hoptions : Table.get? (p.record ++ [("options", .obj options)]) "options" = some (.obj options) := by
    rw [Table.get?_append, Table.get?_eq_none (apart_record p "options" (by simp))]
    rfl
  simp only [ofPattern, hmarker, hwithout, hread, patternSchema, hschema, optionsArg, hoptions]
  rfl

end Call

/-! ## The directive of the rule -/

namespace Canonical

open Rule

variable {type : TypeTag} {name : String} {value : Json} {r : Rule Validator}

/-- The value of a limit without options. -/
theorem directive_limit {r : Rule Validator} {key : String} {recording : Recording} {o : Operand}
    (hrow : Row name (.unary (.limit key)) recording) (hname : directiveName r = .ok name) (hs : r.method ≠ "sign")
    (hk : plainKeys.contains key = true) (ho : key ≠ "options") (hargs : r.args = [(key, .ofOperand o)]) :
    r.directive = .ok (name, o.toJson) := by
  have hbag : bag name r.args = .ok [(key, o.toJson)] := by
    rw [hargs]
    exact bag_cons (Operand.data?_ofOperand o) rfl
  rw [directive_of_row hrow hname hs, hbag, map_ok]
  exact congrArg (fun x => Except.ok (name, x)) (flatten_mergeOptions_single o.toJson ho (.inl hk))

/-- The value of a limit with options. -/
theorem directive_limitOptions {r : Rule Validator} {key : String} {recording : Recording} {o : Operand}
    {rest : Table Json} (hrow : Row name (.unary (.limit key)) recording) (hname : directiveName r = .ok name)
    (hs : r.method ≠ "sign") (hr : Table.Beside [Reference.key, key] rest) (ho : key ≠ "options")
    (hargs : r.args = [(key, .ofOperand o), ("options", .value (.obj rest))]) :
    r.directive = .ok (name, .obj ((key, o.toJson) :: rest)) := by
  have hbag : bag name r.args = .ok ([(key, o.toJson)] ++ [("options", .obj rest)]) := by
    rw [hargs]
    exact bag_cons (Operand.data?_ofOperand o) rfl
  have hoptions : "options" ∉ Table.names [(key, o.toJson)] := fun hm => ho (List.mem_singleton.1 hm).symm
  have hvalue := flatten_mergeOptions_many [(key, o.toJson)] name r.method hr (List.nodup_cons.2 ⟨by simp, .nil⟩)
    (fun name hn => List.mem_cons_of_mem _ hn) (List.cons_ne_nil _ _) hoptions
  rw [directive_of_row hrow hname hs, hbag, map_ok]
  exact congrArg (fun x => Except.ok (name, x)) hvalue

/-- The directive of a size without options. -/
theorem directive_size {operator : Operator} {o : Operand} (hrow : Row name (.unary (.limit "limit")) (.size operator))
    (hcompare : (type.comparesByValue && operator == .equal) = false) :
    Rule.directive (V := Validator) {
      method := if type.comparesByValue then "compare" else "length"
      operator := some operator
      args := [("limit", .ofOperand o)] } = .ok (name, o.toJson) :=
  directive_limit hrow (hrow.size_name ▸ directiveName_size _ hcompare) (by split <;> simp) (by decide) (by decide) rfl

/-- The directive of a multiple without options. -/
theorem directive_multiple (o : Operand) :
    Rule.directive (V := Validator) { method := "multiple", args := [("base", .ofOperand o)] } =
      .ok ("multiple", o.toJson) :=
  directive_limit row_multiple (directiveName_self (by simp) (by simp)) (by simp) (by decide) (by decide) rfl

/-- The directive of an example without options. -/
theorem directive_sample (v : Json) :
    Rule.directive (V := Validator) { method := "example", args := [("example", .value v)] } = .ok ("example", v) := by
  have hvalue : flatten (mergeOptions [("example", v)]) "example" "example" = v :=
    flatten_mergeOptions_single v (by decide) (.inr rfl)
  refine Eq.trans (directive_self row_example (by decide) (by decide)) ?_
  exact congrArg (fun x => Except.ok ("example", x)) hvalue

/-- **The directive of the rule is the canonical one.** -/
theorem directive (h : Canonical functions type name value r) : r.directive = .ok (name, value) := by
  cases h with
  | plain hrow => exact Eq.trans (directive_self hrow (by decide) (by decide)) rfl
  | sign _ hname =>
    rcases hname with rfl | rfl
    · rfl
    · rfl
  | literal v hrow =>
    refine Eq.trans (directive_self hrow (by decide) (by decide)) ?_
    exact congrArg (fun x => Except.ok (name, x)) (flatten_single value (.inr rfl))
  | precision v => exact Eq.trans (directive_self row_precision (by decide) (by decide)) rfl
  | bare hrow => exact Eq.trans (directive_self hrow (by decide) (by decide)) rfl
  | config hrow hv => exact Eq.trans (directive_self hrow (by decide) (by decide)) rfl
  | spread vs hrow =>
    refine Eq.trans (directive_self hrow (by decide) (by decide)) ?_
    exact congrArg (fun x => Except.ok (name, x)) (flatten_single (.arr vs) (.inr rfl))
  | size hrow hcompare ho hno => exact directive_size hrow hcompare
  | sizeOptions hrow hcompare ho hr =>
    exact directive_limitOptions hrow (hrow.size_name ▸ directiveName_size _ hcompare) (by split <;> simp) hr
      (by decide) rfl
  | multiple ho hno => exact directive_multiple _
  | multipleOptions ho hr =>
    exact directive_limitOptions row_multiple (directiveName_self (by simp) (by simp)) (by simp) hr (by decide) rfl
  | sample hv => exact directive_sample value
  | @sampleOptions v rest hr =>
    refine Eq.trans (directive_self row_example (by decide) (by decide)) ?_
    have hvalue := flatten_mergeOptions_many [("example", v)] "example" "example" hr
      (List.nodup_cons.2 ⟨by simp, .nil⟩) (fun name hn => hn) (List.cons_ne_nil _ _) (by simp)
    exact congrArg (fun x => Except.ok ("example", x)) hvalue
  | peers hrow hne => exact Eq.trans (directive_self hrow (by decide) (by decide)) rfl
  | peersOptions options hrow hne => exact Eq.trans (directive_self hrow (by decide) (by decide)) rfl
  | keys htype => exact Eq.trans (directive_self row_regex (by decide) (by decide)) rfl
  | pattern hp => exact Eq.trans (directive_self row_pattern (by decide) (by decide)) rfl
  | @patternOptions p options hp =>
    refine Eq.trans (directive_self row_pattern (by decide) (by decide)) ?_
    exact congrArg (fun x => Except.ok ("pattern", x)) (patternValue_eq p (.obj options))
  | unique => exact Eq.trans (directive_self row_unique (by decide) (by decide)) rfl
  | uniqueOptions options => exact Eq.trans (directive_self row_unique (by decide) (by decide)) rfl
  | rename source target => exact Eq.trans (directive_self row_rename (by decide) (by decide)) rfl
  | @renameOptions source target rest hr =>
    refine Eq.trans (directive_self row_rename (by decide) (by decide)) ?_
    have hvalue := flatten_mergeOptions_many [("from", .str source), ("to", .str target)] "rename" "rename" hr
      (List.nodup_cons.2 ⟨by simp, by simp⟩) (fun name hn => hn) (List.cons_ne_nil _ _) (by simp)
    exact congrArg (fun x => Except.ok ("rename", x)) hvalue

/-! ## The log of the directive -/

open Compile

/-- A directive that is read into the arguments of a call records the rule that the call is recorded as. -/
theorem log_rule {category : Category} {recording : Recording} (hrow : Row name category recording)
    (args : Call.Outcome (List (Argument Validator)))
    (hcall : Call.ofDirective (compile functions) functions type (entry category name) value =
      args.map fun a => [⟨name, a⟩])
    {a : List (Argument Validator)} (ha : args = .ok a) (he : effect type name a = .ok (.rule r)) :
    log functions type name value = .ok [.rule r] :=
  (log_of_row hrow args hcall).2 ⟨a, .rule r, ha, he, rfl⟩

/-- A pattern directive records the rule that its call is recorded as. -/
theorem log_call (hrow : Row name .pattern .pattern) {call : Call Validator}
    (hcall : Call.ofPattern (compile functions) type name value = .ok call)
    (he : effect type call.method call.args = .ok (.rule r)) :
    log functions type name value = .ok [.rule r] := by
  have hcalls : Call.ofDirective (compile functions) functions type (entry .pattern name) value = .ok [call] := by
    simp only [Call.ofDirective, entry, hcall, map_ok]
  simp only [Compile.log, hrow.lookup, hcalls, ok_bind, effects_single, he]
  rfl

/-- **Compiling the canonical directive records the rule.** -/
theorem log_eq (h : Canonical functions type name value r) : log functions type name value = .ok [.rule r] := by
  cases h with
  | plain hrow => exact log_rule hrow (.ok []) rfl rfl (by rw [effect, hrow.recording]; rfl)
  | sign htype hname =>
    refine log_rule (row_sign hname) (.ok []) rfl rfl ?_
    rw [effect, (row_sign hname).recording, htype]
    rfl
  | literal v hrow => exact log_rule hrow (.ok [.value value]) rfl rfl (by rw [effect, hrow.recording]; rfl)
  | precision v =>
    exact log_rule row_precision (.ok [.value value]) rfl rfl (by rw [effect, row_precision.recording]; rfl)
  | bare hrow => exact log_rule hrow _ rfl rfl (by rw [effect, hrow.recording]; rfl)
  | config hrow hv =>
    exact log_rule hrow _ rfl (Call.ofConfig_self hv) (by rw [effect, hrow.recording]; rfl)
  | spread vs hrow =>
    refine log_rule hrow (.ok (vs.map .value)) rfl rfl ?_
    simp only [effect, hrow.recording, Effect.ofSpread, Effect.plainValues_eq]
    rfl
  | @size _ operator o hrow hcompare ho hno =>
    refine log_rule hrow _ rfl (Call.ofLimit_self ho hno) ?_
    have heffect := Effect.ofSize_eq (V := Validator) type name operator o none
    rw [hcompare] at heffect
    rw [effect, hrow.recording]
    exact heffect
  | @sizeOptions _ operator o rest hrow hcompare ho hr =>
    refine log_rule hrow _ rfl (Call.ofLimit_options name ho (by decide) hr) ?_
    have heffect := Effect.ofSize_eq (V := Validator) type name operator o (some rest)
    rw [hcompare] at heffect
    rw [effect, hrow.recording]
    exact heffect
  | @multiple o ho hno =>
    refine log_rule row_multiple _ rfl (Call.ofLimit_self ho hno) ?_
    rw [effect, row_multiple.recording]
    cases o <;> rfl
  | @multipleOptions o rest ho hr =>
    refine log_rule row_multiple _ rfl (Call.ofLimit_options "multiple" ho (by decide) hr) ?_
    rw [effect, row_multiple.recording]
    cases o <;> rfl
  | sample hv => exact log_rule row_example _ rfl (Call.ofSample_self hv) (by rw [effect, row_example.recording]; rfl)
  | sampleOptions v hr =>
    have hread := Call.ofSample_options (V := Validator) functions "example" v hr
    exact log_rule row_example _ rfl hread (by rw [effect, row_example.recording]; rfl)
  | @peers _ names hrow hne =>
    have hargs : (names.map Json.str).map (.value : Json → Argument Validator) =
        names.map (fun name => .value (.str name)) ++ optionArgs none := by simp [optionArgs]
    refine log_rule hrow _ rfl (congrArg Except.ok hargs) ?_
    rw [effect, hrow.recording]
    exact Effect.ofPeers_eq name hne none
  | @peersOptions _ names options hrow hne =>
    have hargs : (names.map Json.str).map (.value : Json → Argument Validator) ++ [.value (.obj options)] =
        names.map (fun name => .value (.str name)) ++ optionArgs (some options) := by simp [optionArgs]
    refine log_rule hrow _ rfl (congrArg Except.ok hargs) ?_
    rw [effect, hrow.recording]
    exact Effect.ofPeers_eq name hne (some options)
  | keys htype =>
    refine log_call row_regex (show Call.ofPattern _ _ _ _ = .ok ⟨"regex", []⟩ from rfl) ?_
    rw [effect, row_regex.recording, htype]
    rfl
  | @pattern p hp =>
    refine log_call row_pattern (Call.ofPattern_self hp) ?_
    rw [effect, row_pattern.recording]
    rfl
  | @patternOptions p options hp =>
    refine log_call row_pattern (Call.ofPattern_options hp options) ?_
    rw [effect, row_pattern.recording]
    rfl
  | unique => exact log_rule row_unique (.ok []) rfl rfl (by rw [effect, row_unique.recording]; rfl)
  | uniqueOptions options =>
    exact log_rule row_unique _ rfl rfl (by rw [effect, row_unique.recording]; rfl)
  | rename source target =>
    exact log_rule row_rename _ rfl rfl (by rw [effect, row_rename.recording]; rfl)
  | @renameOptions source target rest hr =>
    have hread := Call.ofRename_options (V := Validator) "rename" source target hr
    exact log_rule row_rename _ rfl hread (by rw [effect, row_rename.recording]; rfl)

end Canonical
end Rulebook
