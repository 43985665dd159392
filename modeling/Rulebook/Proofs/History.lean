import Rulebook.Proofs.Component

/-!
# A validator is a faithful log of its calls

Calls are made on a validator one after another; a refused call leaves it as it was (`Validator.attempts`), and the
others make up its history (`Validator.accepted`). What the validator holds in the end is told by the history alone,
component by component (`Validator.Reflects`).

* `attempts_eq`: making calls is recording the effects of those that are accepted.
* `addLists_none`: a set that is filled one by one holds each literal and each reference where it comes first.
* `faithful_log`: a validator reflects its history, and calls are judged without regard to what is recorded.
-/

namespace Rulebook

open Fallible

/-! ## Runs of calls -/

namespace Validator

/-- Makes a call; where it is refused, the validator stays as it was. -/
def attempt (v : Validator) (call : Call Validator) : Validator :=
  match v.apply call.method call.args with
  | .ok w => w
  | .error _ => v

/-- Makes calls one after another. -/
def attempts (v : Validator) (calls : List (Call Validator)) : Validator := calls.foldl attempt v

/-- The calls that are not refused when calls are made one after another. -/
def accepted (v : Validator) : List (Call Validator) → List (Call Validator)
  | [] => []
  | call :: calls =>
    match v.apply call.method call.args with
    | .ok w => call :: w.accepted calls
    | .error _ => v.accepted calls

/-- A call is judged by the type alone. -/
theorem apply_eq (v : Validator) (method : String) (args : List (Argument Validator)) :
    v.apply method args = (effect v.type method args).map v.record := rfl

/-- **Making calls is recording the effects of those that are accepted.** -/
theorem attempts_eq : ∀ (calls : List (Call Validator)) (v : Validator), ∃ es : List (Effect Validator),
    List.Forall₂ (fun c e => effect v.type c.method c.args = .ok e) (v.accepted calls) es ∧
      v.attempts calls = es.foldl record v
  | [], v => ⟨[], .nil, rfl⟩
  | call :: calls, v => by
    simp only [attempts, List.foldl_cons, attempt, accepted, apply_eq]
    cases he : effect v.type call.method call.args with
    | error o => exact attempts_eq calls v
    | ok e =>
      obtain ⟨es, hes, hrun⟩ := attempts_eq calls (v.record e)
      rw [Compile.record_type] at hes
      exact ⟨e :: es, .cons he hes, hrun⟩

/-- The accepted calls are those that a blank validator of the type accepts. -/
theorem accepted_eq_filter : ∀ (calls : List (Call Validator)) (v : Validator),
    v.accepted calls = calls.filter fun c => ((ofType v.type).apply c.method c.args).isOk
  | [], _ => rfl
  | call :: calls, v => by
    have htype : (ofType v.type).type = v.type := rfl
    rw [accepted, List.filter_cons, apply_eq, apply_eq, htype]
    cases he : effect v.type call.method call.args with
    | error o => exact accepted_eq_filter calls v
    | ok e =>
      have hrest := accepted_eq_filter calls (v.record e)
      rw [Compile.record_type] at hrest
      exact congrArg (call :: ·) hrest

/-- What a call adds to the rules, or why it is refused, does not depend on what is recorded. -/
theorem rules_of_apply (v : Validator) (method : String) (args : List (Argument Validator)) :
    (v.apply method args).map Validator.rules =
      ((ofType v.type).apply method args).map fun w => v.rules ++ w.rules := by
  have htype : (ofType v.type).type = v.type := rfl
  rw [apply_eq, apply_eq, htype]
  cases effect v.type method args with
  | error o => rfl
  | ok e => cases e <;> simp [record, ofType]

end Validator

/-! ## What a history tells -/

/-- The data that an argument is. -/
def Argument.literal? {V : Type} : Argument V → Option Json
  | .value v => some v
  | _ => none

/-- The reference that an argument is. -/
def Argument.reference? {V : Type} : Argument V → Option Reference
  | .reference r => some r
  | _ => none

namespace Call

variable {V : Type}

/-- The calls that write to a component. -/
def on (component : Component) (calls : List (Call V)) : List (Call V) :=
  calls.filter fun c => Component.ofMethod c.method = component

/-- The presence that a call sets. -/
inductive SetsPresence : Call V → Presence → Prop
  | required : SetsPresence ⟨"required", []⟩ .required
  | exist : SetsPresence ⟨"exist", []⟩ .required
  | optional : SetsPresence ⟨"optional", []⟩ .optional
  | forbidden : SetsPresence ⟨"forbidden", []⟩ .forbidden
  | presence (p : Presence) : SetsPresence ⟨"presence", [.value (.str p.text)]⟩ p

/-- The default that a call sets. -/
def SetsDefault (c : Call V) (o : Operand) : Prop := c.args = [.ofOperand o]

/-- The replacement that a call adds. -/
def AddsReplacement (c : Call V) (r : Replacement) : Prop := c.args = [.pattern r.pattern, .value r.replacement]

/-- The rule that a call adds: all that it leaves in a blank validator. -/
def AddsRule (type : TypeTag) (c : Call Validator) (r : Rule Validator) : Prop :=
  (Validator.ofType type).apply c.method c.args = .ok { type, rules := [r] }

end Call

/-- The set of the values that calls give: their literals, and apart from these their references, without those that
are the same as an earlier one. Without calls there is no set. -/
def ValueSet.ofCalls {V : Type} : List (Call V) → Option ValueSet
  | [] => none
  | calls => some {
      values := (calls.flatMap fun c => c.args.filterMap Argument.literal?).eraseDupsBy
        fun later first => first.same later
      references := (calls.flatMap fun c => c.args.filterMap Argument.reference?).eraseDupsBy
        fun later first => first.same later }

/-- A validator that holds what a history tells, from a blank one with a type and children. -/
structure Validator.Reflects (type : TypeTag) (children : Option (List (String × Validator)))
    (history : List (Call Validator)) (v : Validator) : Prop where
  type_eq : v.type = type
  children_eq : v.children = children
  presence : Option.Rel Call.SetsPresence (Call.on .presence history).getLast? v.presence
  default : Option.Rel Call.SetsDefault (Call.on .default history).getLast? v.default
  valid : v.valid = ValueSet.ofCalls (Call.on .valid history)
  invalid : v.invalid = ValueSet.ofCalls (Call.on .invalid history)
  replacements : List.Forall₂ Call.AddsReplacement (Call.on .replacements history) v.replacements
  rules : List.Forall₂ (Call.AddsRule type) (Call.on .rules history) v.rules

/-! ## Sets that are filled one by one -/

namespace ValueSet

/-- Adds a value at the end unless one that is the same is there. -/
def keep {α : Type} (same : α → α → Bool) (xs : List α) (x : α) : List α :=
  if xs.any (same · x) then xs else xs ++ [x]

/-- Values that are kept one by one are those without a same earlier one. -/
theorem foldl_keep {α : Type} (same : α → α → Bool) : ∀ (xs kept : List α), xs.foldl (keep same) kept =
    kept ++ (xs.filter fun x => !kept.any (same · x)).eraseDupsBy fun later first => same first later
  | [], kept => by simp
  | x :: xs, kept => by
    rw [List.foldl_cons, foldl_keep same xs, keep]
    by_cases hx : kept.any (same · x) = true
    · rw [if_pos hx, List.filter_cons_of_neg (by simp [hx])]
    · have hfilter : xs.filter (fun y => !(kept ++ [x]).any (same · y)) =
          (xs.filter fun y => !kept.any (same · y)).filter fun y => !same x y := by
        rw [List.filter_filter]
        refine List.filter_congr fun y _ => ?_
        rw [List.any_append, List.any_cons, List.any_nil, Bool.or_false, Bool.not_or, Bool.and_comm]
      rw [if_neg hx, hfilter, List.filter_cons_of_pos (by simp [hx]), List.eraseDupsBy_cons]
      simp

/-- Adding operands adds their literals and their references. -/
theorem insertAll_eq : ∀ (os : List Operand) (set : ValueSet), set.insertAll os = {
    values := ((os.map Argument.ofOperand).filterMap (Argument.literal? (V := Validator))).foldl (keep Json.same)
      set.values
    references := ((os.map Argument.ofOperand).filterMap (Argument.reference? (V := Validator))).foldl
      (keep Reference.same) set.references }
  | [], _ => rfl
  | .literal v :: os, set => by
    have hinsert : set.insert (.literal v) = { set with values := keep Json.same set.values v } := by
      simp only [insert, keep]
      split <;> rfl
    rw [insertAll, List.foldl_cons, hinsert]
    exact insertAll_eq os _
  | .reference r :: os, set => by
    have hinsert : set.insert (.reference r) = { set with references := keep Reference.same set.references r } := by
      simp only [insert, keep]
      split <;> rfl
    rw [insertAll, List.foldl_cons, hinsert]
    exact insertAll_eq os _

theorem insertAll_append (set : ValueSet) (os ps : List Operand) :
    set.insertAll (os ++ ps) = (set.insertAll os).insertAll ps :=
  List.foldl_append

/-- Lists of operands that are added one after another are added as one list. -/
theorem addLists_some : ∀ (lists : List (List Operand)) (set : ValueSet),
    addLists (some set) lists = some (set.insertAll lists.flatten)
  | [], _ => rfl
  | os :: lists, set => by
    have hstep : addLists (some set) (os :: lists) = addLists (some (set.insertAll os)) lists := rfl
    rw [hstep, addLists_some lists, List.flatten_cons, insertAll_append]

/-- **The operands of calls, added one after another, make the set of these calls.** -/
theorem addLists_none {calls : List (Call Validator)} {lists : List (List Operand)}
    (h : List.Forall₂ (fun c os => c.args = os.map Argument.ofOperand) calls lists) :
    addLists none lists = ofCalls calls := by
  have hargs : calls.flatMap Call.args = lists.flatten.map Argument.ofOperand := by
    induction h with
    | nil => rfl
    | cons hc _ ih => rw [List.flatMap_cons, List.flatten_cons, List.map_append, hc, ih]
  cases h with
  | nil => rfl
  | @cons c os calls lists hc hrest =>
    have hadd : addLists none (os :: lists) = addLists (some (({} : ValueSet).insertAll os)) lists := rfl
    rw [hadd, addLists_some, ← insertAll_append, ← List.flatten_cons, insertAll_eq, ← hargs]
    simp only [foldl_keep, ofCalls, List.filterMap_flatMap]
    simp

end ValueSet

/-! ## The history of a validator -/

/-- Where two lists match, their last members do. -/
theorem rel_getLast? {α β : Type} {R : α → β → Prop} {xs : List α} {ys : List β} (h : List.Forall₂ R xs ys) :
    Option.Rel R xs.getLast? ys.getLast? := by
  induction h with
  | nil => exact .none
  | @cons x y xs ys hxy _ ih =>
    rw [List.getLast?_cons, List.getLast?_cons]
    generalize xs.getLast? = a, ys.getLast? = b at ih
    cases ih with
    | none => exact .some hxy
    | some hab => exact .some hab

/-- The calls on a component match what their effects record in it. -/
theorem forall₂_on {α : Type} {type : TypeTag} {part : Effect Validator → Option α} {R : Call Validator → α → Prop}
    {component : Component} (hother : ∀ e : Effect Validator, e.component ≠ component → part e = none)
    (hpart : ∀ (c : Call Validator) (e : Effect Validator), Component.ofMethod c.method = component →
      effect type c.method c.args = .ok e → ∃ a, part e = some a ∧ R c a)
    {calls : List (Call Validator)} {es : List (Effect Validator)}
    (h : List.Forall₂ (fun c e => effect type c.method c.args = .ok e) calls es) :
    List.Forall₂ R (Call.on component calls) (es.filterMap part) := by
  induction h with
  | nil => exact .nil
  | @cons c e calls es he _ ih =>
    rw [Call.on, List.filter_cons]
    by_cases hc : Component.ofMethod c.method = component
    · obtain ⟨a, ha, hr⟩ := hpart c e hc he
      rw [if_pos (decide_eq_true hc), List.filterMap_cons_some ha]
      exact .cons hr ih
    · have hnone : part e = none := hother e (by rw [Effect.component_of_effect he]; exact hc)
      rw [if_neg (by simpa using hc), List.filterMap_cons_none hnone]
      exact ih

section Calls

variable {type : TypeTag} {c : Call Validator} {e : Effect Validator}

/-- The recordings that set a presence, with their methods. -/
theorem Recording.presence_cases {method : String} {fixed : Option Presence}
    (h : Recording.ofMethod method = .presence fixed) :
    (method = "required" ∧ fixed = some .required) ∨ (method = "exist" ∧ fixed = some .required) ∨
      (method = "optional" ∧ fixed = some .optional) ∨ (method = "forbidden" ∧ fixed = some .forbidden) ∨
      (method = "presence" ∧ fixed = none) := by
  unfold ofMethod at h
  cases hget : Table.get? table method with
  | none => simp [hget] at h
  | some recording =>
    have hmem := Table.mem_of_get? hget
    rw [hget, Option.getD_some] at h
    subst h
    simpa [table] using hmem

/-- A call on the presence sets one. -/
theorem setsPresence_of_effect (hc : Component.ofMethod c.method = .presence)
    (h : effect type c.method c.args = .ok e) : ∃ p, e.presence? = some p ∧ c.SetsPresence p := by
  obtain ⟨method, args⟩ := c
  obtain ⟨fixed, hrec⟩ := Recording.writes_of_component hc
  simp only [effect, hrec] at h
  obtain ⟨p, rfl, hp⟩ := Effect.ofPresence_args h
  refine ⟨p, rfl, ?_⟩
  rcases hp with ⟨rfl, rfl⟩ | ⟨rfl, rfl⟩
  · rcases Recording.presence_cases hrec with ⟨rfl, hp⟩ | ⟨rfl, hp⟩ | ⟨rfl, hp⟩ | ⟨rfl, hp⟩ | ⟨rfl, hp⟩ <;> cases hp
    · exact .required
    · exact .exist
    · exact .optional
    · exact .forbidden
  · rcases Recording.presence_cases hrec with ⟨rfl, hp⟩ | ⟨rfl, hp⟩ | ⟨rfl, hp⟩ | ⟨rfl, hp⟩ | ⟨rfl, hp⟩ <;> cases hp
    exact .presence p

/-- A call on the default sets it. -/
theorem setsDefault_of_effect (hc : Component.ofMethod c.method = .default)
    (h : effect type c.method c.args = .ok e) : ∃ o, e.default? = some o ∧ c.SetsDefault o := by
  have hrec : Recording.ofMethod c.method = .default := Recording.writes_of_component hc
  simp only [effect, hrec] at h
  obtain ⟨o, rfl, ho⟩ := Effect.ofDefault_args h
  exact ⟨o, rfl, ho⟩

/-- A call on the allowed values gives operands. -/
theorem operands_of_valid (hc : Component.ofMethod c.method = .valid) (h : effect type c.method c.args = .ok e) :
    ∃ os : List Operand, e.valid? = some os ∧ c.args = os.map .ofOperand := by
  have hrec : Recording.ofMethod c.method = .values true := Recording.writes_of_component hc
  simp only [effect, hrec] at h
  obtain ⟨os, -, hargs, rfl⟩ := Effect.ofValues_args h
  exact ⟨os, rfl, hargs⟩

/-- A call on the refused values gives operands. -/
theorem operands_of_invalid (hc : Component.ofMethod c.method = .invalid) (h : effect type c.method c.args = .ok e) :
    ∃ os : List Operand, e.invalid? = some os ∧ c.args = os.map .ofOperand := by
  have hrec : Recording.ofMethod c.method = .values false := Recording.writes_of_component hc
  simp only [effect, hrec] at h
  obtain ⟨os, -, hargs, rfl⟩ := Effect.ofValues_args h
  exact ⟨os, rfl, hargs⟩

/-- A call on the replacements adds one. -/
theorem addsReplacement_of_effect (hc : Component.ofMethod c.method = .replacements)
    (h : effect type c.method c.args = .ok e) : ∃ r, e.replacement? = some r ∧ c.AddsReplacement r := by
  have hrec : Recording.ofMethod c.method = .replace := Recording.writes_of_component hc
  simp only [effect, hrec] at h
  obtain ⟨r, rfl, hr⟩ := Effect.ofReplace_args h
  exact ⟨r, rfl, hr⟩

/-- A call on the rules adds one. -/
theorem addsRule_of_effect (hc : Component.ofMethod c.method = .rules) (h : effect type c.method c.args = .ok e) :
    ∃ r, e.rule? = some r ∧ c.AddsRule type r := by
  cases Effect.isRule_of_effect hc h with
  | @rule r _ =>
    refine ⟨r, rfl, ?_⟩
    have htype : (Validator.ofType type).type = type := rfl
    rw [Call.AddsRule, Validator.apply_eq, htype, h]
    rfl

end Calls

namespace Validator

/-- What effects leave in a blank validator reflects the calls that have them. -/
theorem reflects_of_effects {type : TypeTag} (children : Option (List (String × Validator)))
    {history : List (Call Validator)} {es : List (Effect Validator)}
    (h : List.Forall₂ (fun c e => effect type c.method c.args = .ok e) history es) :
    Reflects type children history (es.foldl record { type, children }) := by
  -- each component of the fold holds what the effects record in it, in order
  have hpresence := forall₂_on (fun _ => Effect.presence?_eq_none) (fun _ _ => setsPresence_of_effect) h
  have hdefault := forall₂_on (fun _ => Effect.default?_eq_none) (fun _ _ => setsDefault_of_effect) h
  have hvalid := forall₂_on (fun _ => Effect.valid?_eq_none) (fun _ _ => operands_of_valid) h
  have hinvalid := forall₂_on (fun _ => Effect.invalid?_eq_none) (fun _ _ => operands_of_invalid) h
  have hreplacements := forall₂_on (fun _ => Effect.replacement?_eq_none) (fun _ _ => addsReplacement_of_effect) h
  have hrules := forall₂_on (fun _ => Effect.rule?_eq_none) (fun _ _ => addsRule_of_effect) h
  rw [foldl_record]
  constructor
  · rfl
  · rfl
  · simpa using rel_getLast? hpresence
  · simpa using rel_getLast? hdefault
  · exact ValueSet.addLists_none hvalid
  · exact ValueSet.addLists_none hinvalid
  · exact hreplacements
  · exact hrules

end Validator

/-- **A validator is a faithful log.** Whatever calls are made on a blank validator, it reflects those that are not
refused; these are the calls that the blank validator accepts one by one; and what a call adds to the rules of any
validator, or why it is refused, is told by the type of the validator, the method and the arguments. -/
theorem faithful_log (type : TypeTag) (children : Option (List (String × Validator))) (calls : List (Call Validator)) :
    Validator.Reflects type children (Validator.accepted { type, children } calls)
      (Validator.attempts { type, children } calls) ∧
    (Validator.accepted { type, children } calls =
      calls.filter fun c => ((Validator.ofType type).apply c.method c.args).isOk) ∧
    ∀ (v : Validator) (method : String) (args : List (Argument Validator)),
      (v.apply method args).map Validator.rules =
        ((Validator.ofType v.type).apply method args).map fun w => v.rules ++ w.rules := by
  refine ⟨?_, Validator.accepted_eq_filter calls _, Validator.rules_of_apply⟩
  obtain ⟨es, hes, hrun⟩ := Validator.attempts_eq calls { type, children }
  rw [hrun]
  exact Validator.reflects_of_effects children hes

end Rulebook
