import Rulebook.Proofs.Canonical
import Rulebook.Proofs.ValueSet

/-!
# Canonical descriptions are reproduced

A description is *canonical* when the directives of each node stand in the order in which extraction writes them, each
in its canonical form: allowed and refused values, a default, a presence, rules in any order, replacements.

* `logs_directives`: the directives of a canonical layout record its parts.
* `Description.Canonical.reproduced`: a canonical description compiles, and extraction gives it back.
-/

namespace Rulebook

open Fallible Grammar Compile

variable {functions : Registry} {type : TypeTag} {name : String} {value : Json}

/-! ## Directives beside the rules -/

/-- The names of the directives that extraction writes before the rules. -/
def leadingNames : List String := ["valid", "invalid", "default", "required", "optional", "forbidden"]

/-- A directive that records a rule is none of those before and behind the rules. -/
theorem apart_of_log {r : Rule Validator} (h : log functions type name value = .ok [.rule r]) :
    name ∉ leadingNames ++ ["replace"] := by
  have hpresence : ∀ p : Presence, name ≠ p.text := by
    rintro p rfl
    obtain ⟨_, e, ⟨⟩, he, heq⟩ := (log_of_row (row_presence p) (.ok []) rfl).1 h
    cases heq
    simp only [effect, (row_presence p).recording] at he
    cases he
  have hvalues : ∀ allowed, ¬ Row name (.unary .elements) (.values allowed) := by
    intro allowed hrow
    obtain ⟨a, e, -, he, heq⟩ := (log_of_row hrow _ rfl).1 h
    cases heq
    simp only [effect, hrow.recording] at he
    obtain ⟨_, -, he⟩ := bind_eq_ok.1 he
    obtain ⟨os, -, he⟩ := bind_eq_ok.1 he
    cases allowed <;> cases he
  intro hm
  simp only [leadingNames, List.mem_append, List.mem_cons, List.not_mem_nil, or_false] at hm
  rcases hm with (rfl | rfl | rfl | rfl | rfl | rfl) | rfl
  · exact hvalues true row_valid
  · exact hvalues false row_invalid
  · obtain ⟨a, e, ha, he, heq⟩ := (log_of_row row_default _ rfl).1 h
    cases heq
    simp only [effect, row_default.recording, Effect.ofDefault] at he
    split at he
    · split at he <;> cases he
    · cases he
  · exact hpresence .required rfl
  · exact hpresence .optional rfl
  · exact hpresence .forbidden rfl
  · simp only [log, row_replace.lookup] at h
    obtain ⟨calls, hcalls, h⟩ := bind_eq_ok.1 h
    obtain ⟨rs, -, hrs⟩ := replacements_of_effects row_replace.recording (mapM_eq_ok.1 hcalls) h
    cases rs <;> cases hrs

/-- The directive of a set of values records its operands. -/
theorem log_values {allowed : Bool} (hrow : Row name (.unary .elements) (.values allowed)) {set : ValueSet}
    (hs : set.Separate functions) (hne : set.isEmpty = false) :
    log functions type name set.toJson = .ok [if allowed then .valid set.operands else .invalid set.operands] := by
  have hread : Call.ofUnary functions name .elements set.toJson =
      .ok (set.operands.map (.ofOperand : Operand → Argument Validator)) := by
    rw [ValueSet.toJson_eq]
    exact ValueSet.mapM_operand_operands hs
  have hcount : Effect.checkCount name (.atLeast 1) (set.operands.map (.ofOperand : Operand → Argument Validator)) =
      .ok () := by
    have hpos := List.length_pos_of_ne_nil (ValueSet.operands_ne_nil hne)
    simp [Effect.checkCount, Count.allows, Nat.succ_le_of_lt hpos]
  refine (log_of_row hrow _ rfl).2 ⟨_, _, hread, ?_, rfl⟩
  simp only [effect, hrow.recording, Effect.ofValues, hcount, Effect.operands_eq]
  rfl

/-- The directive of a default records it. -/
theorem log_default {o : Operand} (ho : o.Resolved functions) :
    log functions type "default" o.toJson = .ok [.default o] := by
  have hread : Call.ofUnary functions "default" .operand o.toJson = .ok [(.ofOperand o : Argument Validator)] := by
    simp only [Call.ofUnary, Operand.operand_toJson ho]
    rfl
  refine (log_of_row row_default _ rfl).2 ⟨_, _, hread, ?_, rfl⟩
  rw [effect, row_default.recording]
  cases o <;> rfl

/-- The directive of a presence records it. -/
theorem log_presence (p : Presence) : log functions type p.text (.bool true) = .ok [.presence p] := by
  refine (log_of_row (row_presence p) (.ok []) rfl).2 ⟨[], _, rfl, ?_, rfl⟩
  rw [effect, (row_presence p).recording]
  rfl

/-- The directive of replacements records them. -/
theorem log_replace {rs : List Replacement} (hrs : ∀ r ∈ rs, type = .string ∧ r.pattern.Regular) :
    log functions type "replace" (.arr (rs.map Replacement.toJson)) = .ok (rs.map .replacement) := by
  have hcalls : (rs.map Replacement.toJson).mapM (Call.ofReplaceEntry (V := Validator) "replace") =
      .ok (rs.map fun r => ⟨"replace", [.pattern r.pattern, .value r.replacement]⟩) :=
    mapM_map_ok fun r hr => by
      have hread : Call.pattern r.pattern.toJson = .ok r.pattern := by
        rw [Call.pattern, Pattern.ofJson_toJson (hrs r hr).2, mapError_ok]
      have hentry : Call.ofReplaceEntry (V := Validator) "replace" r.toJson =
          (do return ⟨"replace", [.pattern (← Call.pattern r.pattern.toJson), .value r.replacement]⟩) := rfl
      rw [hentry, hread]
      rfl
  have heffects : effects type (rs.map fun r => (⟨"replace", [.pattern r.pattern, .value r.replacement]⟩ :
      Call Validator)) = .ok (rs.map .replacement) :=
    mapM_map_ok fun r hr => by
      rw [(hrs r hr).1]
      simp only [effect, row_replace.recording]
      rfl
  simp only [log, row_replace.lookup, entry, Call.ofDirective, Call.elements]
  rw [hcalls, ok_bind, heffects]

/-! ## Layouts -/

/-- The parts of the directives of a node, in the order in which extraction writes them. -/
structure Layout where
  valid : Option ValueSet
  invalid : Option ValueSet
  default : Option Operand
  presence : Option Presence
  rules : Table Json
  replacements : List Replacement

namespace Layout

/-- The directives before the rules. -/
def leading (l : Layout) : Table Json :=
  Validator.setDirective "valid" l.valid ++ Validator.setDirective "invalid" l.invalid
    ++ (l.default.map fun operand => ("default", operand.toJson)).toList
    ++ (l.presence.map fun p => (p.text, .bool true)).toList

/-- The directive behind the rules. -/
def trailing (l : Layout) : Table Json :=
  if l.replacements.isEmpty then [] else [("replace", .arr (l.replacements.map Replacement.toJson))]

/-- The directives of a layout. -/
def directives (l : Layout) : Table Json := l.leading ++ l.rules ++ l.trailing

/-- A layout in canonical form, on a type: values are separate and some, a default is resolved, each rule has a
canonical directive of its own name, and only strings have replacements. -/
structure Canonical (functions : Registry) (type : TypeTag) (l : Layout) : Prop where
  valid : ∀ set ∈ l.valid, set.Separate functions ∧ set.isEmpty = false
  invalid : ∀ set ∈ l.invalid, set.Separate functions ∧ set.isEmpty = false
  default : ∀ o ∈ l.default, o.Resolved functions
  rules : ∀ e ∈ l.rules, ∃ r, Rulebook.Canonical functions type e.1 e.2 r
  names : l.rules.Distinct
  replacements : ∀ r ∈ l.replacements, type = .string ∧ r.pattern.Regular

/-- The validator of a layout whose rules stand for the given ones. -/
def validator (l : Layout) (type : TypeTag) (rules : List (Rule Validator))
    (children : Option (List (String × Validator))) : Validator :=
  { type
    presence := l.presence
    default := l.default
    valid := l.valid
    invalid := l.invalid
    rules
    replacements := l.replacements
    children }

variable {l : Layout}

/-- The names before the rules stand in their order. -/
theorem names_leading (l : Layout) : (Table.names l.leading).Sublist leadingNames := by
  obtain ⟨valid, invalid, default, presence, rules, replacements⟩ := l
  have hset : ∀ (name : String) (set : Option ValueSet),
      (Table.names (Validator.setDirective name set)).Sublist [name] := by
    intro name set
    cases set with
    | none => exact List.nil_sublist _
    | some set =>
      simp only [Validator.setDirective]
      split
      · exact List.nil_sublist _
      · exact List.Sublist.refl _
  have hdefault : (Table.names (default.map fun operand => ("default", operand.toJson)).toList).Sublist
      ["default"] := by
    cases default with
    | none => exact List.nil_sublist _
    | some o => exact List.Sublist.refl _
  have hpresence : (Table.names (presence.map fun p => (p.text, Json.bool true)).toList).Sublist
      ["required", "optional", "forbidden"] := by
    rcases presence with _ | _ | _ | _ <;> decide
  simp only [leading, Table.names_append]
  exact (((hset "valid" valid).append (hset "invalid" invalid)).append hdefault).append hpresence

/-- The name behind the rules is that of replacements. -/
theorem names_trailing (l : Layout) : (Table.names l.trailing).Sublist ["replace"] := by
  unfold trailing
  split
  · exact List.nil_sublist _
  · exact List.Sublist.refl _

/-- A directive that is none of those before and behind the rules stands among the rules. -/
theorem mem_directives_iff {e : String × Json} (he : e.1 ∉ leadingNames ++ ["replace"]) :
    e ∈ l.directives ↔ e ∈ l.rules := by
  rw [directives, List.mem_append, List.mem_append]
  constructor
  · rintro ((h | h) | h)
    · exact absurd (List.mem_append_left _ (l.names_leading.subset (Table.mem_names h))) he
    · exact h
    · exact absurd (List.mem_append_right _ (l.names_trailing.subset (Table.mem_names h))) he
  · exact fun h => .inl (.inr h)

/-- The directives of a canonical layout have distinct names. -/
theorem Canonical.distinct (h : l.Canonical functions type) : l.directives.Distinct := by
  have hrules : ∀ name ∈ Table.names l.rules, name ∉ leadingNames ++ ["replace"] := by
    intro name hn
    obtain ⟨e, he, rfl⟩ := List.mem_map.1 hn
    obtain ⟨r, hr⟩ := h.rules e he
    exact apart_of_log hr.log_eq
  have hfixed : (leadingNames ++ ["replace"]).Nodup := by decide
  unfold Table.Distinct directives
  rw [Table.names_append, Table.names_append]
  refine List.nodup_append.2 ⟨List.nodup_append.2 ⟨?_, h.names, fun a ha b hb e => ?_⟩, ?_, fun a ha b hb e => ?_⟩
  · exact (List.nodup_append.1 hfixed).1.sublist l.names_leading
  · exact hrules b hb (List.mem_append_left _ (e ▸ l.names_leading.subset ha))
  · exact (List.nodup_append.1 hfixed).2.1.sublist l.names_trailing
  · have hb := l.names_trailing.subset hb
    rcases List.mem_append.1 ha with ha | ha
    · exact (List.nodup_append.1 hfixed).2.2 a (l.names_leading.subset ha) b hb e
    · exact hrules a ha (List.mem_append_right _ (e ▸ hb))

/-! ## Compiling a layout -/

/-- What the directives of a layout record, where the rules stand for the given ones. -/
def effects (l : Layout) (rules : List (Rule Validator)) : List (Effect Validator) :=
  (l.valid.map fun set => .valid set.operands).toList ++ (l.invalid.map fun set => .invalid set.operands).toList
    ++ (l.default.map .default).toList ++ (l.presence.map .presence).toList ++ rules.map .rule
    ++ l.replacements.map .replacement

/-- The directive of a set records its operands. -/
theorem logs_setDirective (type : TypeTag) {allowed : Bool} (hrow : Row name (.unary .elements) (.values allowed))
    {set : Option ValueSet} (hs : ∀ s ∈ set, s.Separate functions ∧ s.isEmpty = false) :
    logs functions type (Validator.setDirective name set) =
      .ok (set.map fun s => if allowed then .valid s.operands else .invalid s.operands).toList := by
  cases set with
  | none => rfl
  | some s =>
    obtain ⟨hseparate, hne⟩ := hs s rfl
    simp only [Validator.setDirective, hne, Bool.false_eq_true, if_false, logs_singleton]
    exact log_values hrow hseparate hne

/-- Canonical directives record the rules that they stand for, and these have the directives. -/
theorem logs_rules : ∀ {entries : Table Json},
    (∀ e ∈ entries, ∃ r, Rulebook.Canonical functions type e.1 e.2 r) →
    ∃ rules : List (Rule Validator), logs functions type entries = .ok (rules.map .rule) ∧
      rules.filterMap (fun r => r.directive.toOption) = entries
  | [], _ => ⟨[], rfl, rfl⟩
  | (name, value) :: entries, h => by
    obtain ⟨r, hr⟩ := h (name, value) List.mem_cons_self
    obtain ⟨rules, hlogs, hback⟩ := logs_rules fun e he => h e (List.mem_cons_of_mem _ he)
    refine ⟨r :: rules, ?_, ?_⟩
    · rw [logs, hr.log_eq, hlogs]
      rfl
    · rw [List.filterMap_cons, hr.directive, hback]
      rfl

/-- **The directives of a canonical layout record its parts.** -/
theorem Canonical.logs_directives (h : l.Canonical functions type) : ∃ rules : List (Rule Validator),
    logs functions type l.directives = .ok (l.effects rules) ∧
      rules.filterMap (fun r => r.directive.toOption) = l.rules := by
  obtain ⟨rules, hrules, hback⟩ := logs_rules h.rules
  refine ⟨rules, ?_, hback⟩
  have hvalid := logs_setDirective type row_valid h.valid
  have hinvalid := logs_setDirective type row_invalid h.invalid
  have hdefault : logs functions type (l.default.map fun operand => ("default", operand.toJson)).toList =
      .ok (l.default.map .default).toList := by
    cases ho : l.default with
    | none => rfl
    | some o =>
      simp only [Option.map_some, Option.toList_some, logs_singleton]
      exact log_default (h.default o ho)
  have hpresence : logs functions type (l.presence.map fun p => (p.text, Json.bool true)).toList =
      .ok (l.presence.map .presence).toList := by
    cases l.presence with
    | none => rfl
    | some p =>
      simp only [Option.map_some, Option.toList_some, logs_singleton]
      exact log_presence p
  have htrailing : logs functions type l.trailing = .ok (l.replacements.map .replacement) := by
    unfold trailing
    split
    · next hnil =>
      rw [List.isEmpty_iff.1 hnil]
      rfl
    · rw [logs_singleton]
      exact log_replace h.replacements
  exact logs_append (logs_append (logs_append (logs_append (logs_append hvalid hinvalid) hdefault) hpresence) hrules)
    htrailing

/-- Recording the parts of a canonical layout gives its validator. -/
theorem Canonical.foldl_effects (h : l.Canonical functions type) (rules : List (Rule Validator))
    (children : Option (List (String × Validator))) :
    (l.effects rules).foldl Validator.record { type, children } = l.validator type rules children := by
  obtain ⟨valid, invalid, default, presence, entries, replacements⟩ := l
  have hvalid : ∀ s ∈ valid, ({} : ValueSet).insertAll s.operands = s := fun s hs =>
    ValueSet.insertAll_operands (h.valid s hs).1
  have hinvalid : ∀ s ∈ invalid, ({} : ValueSet).insertAll s.operands = s := fun s hs =>
    ValueSet.insertAll_operands (h.invalid s hs).1
  simp only [effects, List.foldl_append, foldl_replacements, foldl_rules, validator]
  cases valid <;> cases invalid <;> cases default <;> cases presence <;>
    simp_all [Validator.record]

end Layout

/-! ## Canonical descriptions -/

/-- A description whose nodes are canonical layouts, with properties on objects only. -/
inductive Description.Canonical (functions : Registry) : Description → Prop
  | leaf {type : TypeTag} {l : Layout} : l.Canonical functions type → Canonical functions ⟨type, l.directives, none⟩
  | node {l : Layout} {properties : List (String × Description)} : l.Canonical functions .object →
      (∀ p ∈ properties, Canonical functions p.2) → Canonical functions ⟨.object, l.directives, some properties⟩

/-- The directives of the validator of a canonical layout are those of the layout. -/
theorem Layout.Canonical.extract_validator {l : Layout} (h : l.Canonical functions type)
    {rules : List (Rule Validator)} (hrules : rules.filterMap (fun r => r.directive.toOption) = l.rules)
    (children : Option (List (String × Validator))) :
    extract (l.validator type rules children) =
      ⟨type, l.directives, if type = .object then extractChildren? children else none⟩ := by
  have hdirectives : Validator.directives (l.validator type rules children) = l.directives := by
    rw [Validator.directives, Layout.validator, hrules]
    rfl
  rw [Layout.validator] at hdirectives ⊢
  rw [extract, hdirectives, Table.ofList_eq_self h.distinct]

/-- Properties that are reproduced one by one are reproduced together. -/
theorem reproduced_children : ∀ {properties : List (String × Description)},
    (∀ p ∈ properties, ∃ v, compile functions p.2 = .ok v ∧ extract v = p.2) →
    ∃ children : List (String × Validator),
      List.Forall₂ (fun p c => p.1 = c.1 ∧ compile functions p.2 = .ok c.2) properties children ∧
        extractChildren children = properties
  | [], _ => ⟨[], .nil, rfl⟩
  | (name, d) :: properties, h => by
    obtain ⟨v, hv, hback⟩ := h (name, d) List.mem_cons_self
    obtain ⟨children, hall, hchildren⟩ := reproduced_children fun p hp => h p (List.mem_cons_of_mem _ hp)
    refine ⟨(name, v) :: children, .cons ⟨rfl, hv⟩ hall, ?_⟩
    rw [extractChildren, hback, hchildren]

/-- **A canonical description compiles, and extraction gives it back.** -/
theorem Description.Canonical.reproduced {d : Description} (h : d.Canonical functions) :
    ∃ v, compile functions d = .ok v ∧ extract v = d := by
  induction h with
  | @leaf type l hl =>
    obtain ⟨rules, hlogs, hrules⟩ := hl.logs_directives
    refine ⟨_, compile_ok_iff.2 ⟨none, _, .bare rfl, hlogs, (hl.foldl_effects rules none).symm⟩, ?_⟩
    rw [hl.extract_validator hrules]
    split <;> rfl
  | @node l properties hl _ ih =>
    obtain ⟨rules, hlogs, hrules⟩ := hl.logs_directives
    obtain ⟨children, hall, hback⟩ := reproduced_children ih
    refine ⟨_, compile_ok_iff.2 ⟨some children, _, .object rfl rfl hall, hlogs,
      (hl.foldl_effects rules (some children)).symm⟩, ?_⟩
    rw [hl.extract_validator hrules, if_pos rfl, extractChildren?, hback]

end Rulebook
