import Rulebook.Proofs.Bags
import Rulebook.Proofs.Kinds
import Rulebook.Proofs.Log

/-!
# Components of a validator

A method writes to a single component of a validator: the presence, the default, the allowed or the refused values,
the replacements, or the rules. What recording leaves in a component depends on the effects on it alone.

* `Effect.filled_of_effect`: what a method that writes to the rules records, by the way it fills the rule.
* `isRule_of_effect`: this is a rule on arguments of the call or plain data.
* `component_of_effect`: what a method records is on its component.
* `foldl_record`: the state that a list of effects leaves, component by component.
* `foldl_record_beside`, `foldl_record_congr`: this state depends on the effects on each component, in their order.
-/

namespace Rulebook

open Fallible

/-- The components of a validator to which methods write. -/
inductive Component where
  | presence | default | valid | invalid | replacements | rules
  deriving DecidableEq

namespace Component

/-- The methods that write to another component than the rules. -/
def table : Table Component :=
  [("required", presence), ("exist", presence), ("optional", presence), ("forbidden", presence),
    ("presence", presence), ("default", default), ("valid", valid), ("allow", valid), ("equal", valid),
    ("invalid", invalid), ("disallow", invalid), ("not", invalid), ("replace", replacements)]

/-- The component to which a method writes. -/
def ofMethod (method : String) : Component := (Table.get? table method).getD rules

end Component

/-- The component to which a way of recording writes. -/
def Recording.component : Recording → Component
  | .presence _ => .presence
  | .default => .default
  | .values true => .valid
  | .values false => .invalid
  | .replace => .replacements
  | _ => .rules

/-- Methods write to the component of their recording. -/
theorem Recording.component_ofMethod (method : String) :
    (Recording.ofMethod method).component = Component.ofMethod method := by
  have hlisted : ∀ name ∈ Table.names Recording.table,
      (Recording.ofMethod name).component = Component.ofMethod name := by decide +kernel
  have hsub : ∀ name ∈ Table.names Component.table, name ∈ Table.names Recording.table := by decide
  by_cases hm : method ∈ Table.names Recording.table
  · exact hlisted method hm
  · -- a method that is not listed is recorded as a rule of its own name
    rw [Recording.ofMethod, Table.get?_eq_none hm, Component.ofMethod, Table.get?_eq_none fun hn => hm (hsub _ hn)]
    rfl

/-- The ways of recording by which a component other than the rules is written. -/
def Recording.Writes : Component → Recording → Prop
  | .presence, r => ∃ fixed, r = presence fixed
  | .default, r => r = default
  | .valid, r => r = values true
  | .invalid, r => r = values false
  | .replacements, r => r = replace
  | .rules, _ => True

/-- A method writes to a component by a way of recording of that component. -/
theorem Recording.writes_of_component {method : String} {component : Component}
    (h : Component.ofMethod method = component) : Writes component (ofMethod method) := by
  rw [← Recording.component_ofMethod] at h
  subst h
  cases Recording.ofMethod method with
  | presence fixed => exact ⟨fixed, rfl⟩
  | values allowed => cases allowed <;> rfl
  | default | replace => rfl
  | _ => trivial

namespace Effect

variable {V : Type} {type : TypeTag} {method : String} {args : List (Argument V)} {e : Effect V}

/-- The component of an effect. -/
def component : Effect V → Component
  | .presence _ => .presence
  | .default _ => .default
  | .valid _ => .valid
  | .invalid _ => .invalid
  | .replacement _ => .replacements
  | .rule _ => .rules

/-! ## Methods that record rules -/

/-- A rule whose arguments are those of a call or plain data. -/
inductive IsRule (args : List (Argument V)) : Effect V → Prop
  | rule {r : Rule V} : (∀ entry ∈ r.args, entry.2 ∈ args ∨ entry.2.isValue = true) → IsRule args (.rule r)

/-- The rules that a method records: most hold arguments of the call, under names of their own. A sign is a word, and
peers and plain values are gathered in lists. -/
inductive Filled (method : String) (args : List (Argument V)) : Effect V → Prop
  | own {r : Rule V} : (Table.names r.args).Nodup → (∀ entry ∈ r.args, entry.2 ∈ args) → Filled method args (.rule r)
  | sign (s : String) : Filled method args (.rule { method := "sign", args := [("sign", .value (.str s))] })
  | peers (names : List String) (options : Option (Table Json)) : (∀ o ∈ options, .value (.obj o) ∈ args) →
      Filled method args (.rule {
        method
        args := ("peers", .value (.arr (names.map .str))) :: optionEntries options })
  | spread {vs : List Json} : (∀ v ∈ vs, .value v ∈ args) →
      Filled method args (.rule { method, args := [(method, .value (.arr vs))] })

/-- What is gathered from a call is plain data. -/
theorem Filled.isRule (h : Filled method args e) : IsRule args e := by
  cases h with
  | own _ hargs => exact .rule fun entry he => .inl (hargs entry he)
  | sign s =>
    refine .rule fun entry he => .inr ?_
    rw [List.mem_singleton.1 he]
    rfl
  | peers names options hoptions =>
    refine .rule fun entry he => ?_
    rcases List.mem_cons.1 he with rfl | he
    · exact .inr rfl
    · obtain ⟨o, ho, rfl⟩ := List.mem_map.1 he
      exact .inl (hoptions o (Option.mem_toList.1 ho))
  | spread _ =>
    refine .rule fun entry he => .inr ?_
    rw [List.mem_singleton.1 he]
    rfl

/-- A rule without arguments holds those of any call. -/
theorem filled_bare {name : String} {operator : Option Operator} :
    Filled method args (.rule { method := name, operator }) :=
  .own List.nodup_nil fun _ he => absurd he List.not_mem_nil

/-- Arguments that take names by their places are those of the call. -/
theorem filled_positional {names : List String} (hn : names.Nodup) (args : List (Argument V)) :
    Filled method args (positional method names args) :=
  .own (hn.sublist (Table.names_zip_sublist names args)) fun entry he =>
    (List.of_mem_zip (show (entry.1, entry.2) ∈ names.zip args from he)).2

/-- The bag of a limit holds arguments of the call. -/
theorem mem_of_limitBag {key : String} (hkey : key ≠ "options") {bag : List (String × Argument V)}
    (h : limitBag method key args = .ok bag) : (Table.names bag).Nodup ∧ ∀ entry ∈ bag, entry.2 ∈ args := by
  obtain ⟨_, -, h⟩ := bind_eq_ok.1 h
  split at h
  · split at h
    · cases h
    · split at h
      · cases h
        simp
      · split at h
        · cases h
          simp [hkey]
        · cases h
  · cases h
    simp

theorem filled_ofSize {operator : Operator} (h : ofSize type method operator args = .ok e) : Filled method args e := by
  obtain ⟨_, -, h⟩ := bind_eq_ok.1 h
  split at h
  · cases h
  · obtain ⟨bag, hbag, h⟩ := bind_eq_ok.1 h
    cases h
    obtain ⟨hnames, hargs⟩ := mem_of_limitBag (by decide) hbag
    exact .own hnames hargs

theorem filled_ofSign {fixed : Option String} (h : ofSign type method fixed args = .ok e) : Filled method args e := by
  unfold ofSign at h
  split at h
  · cases h
  · split at h
    · cases h
      exact .sign _
    · cases h
    · split at h
      · split at h
        · cases h
          exact .sign _
        · cases h
      · cases h
    · cases h

/-- The bag of a pattern grows by arguments of the call. -/
theorem mem_of_patternBag : ∀ {args : List (Argument V)} {index : Nat} {bag more : List (String × Argument V)},
    patternBag type method index bag args = .ok more → (Table.names bag).Nodup →
    (Table.names more).Nodup ∧ ∀ entry ∈ more, entry ∈ bag ∨ entry.2 ∈ args
  | [], _, _, _, h, hnames => by
    cases h
    exact ⟨hnames, fun _ he => .inl he⟩
  | arg :: rest, _, bag, more, h, hnames => by
    have hstep : ∀ (key : String) (index : Nat), Table.has bag key = false →
        patternBag type method index (bag ++ [(key, arg)]) rest = .ok more →
        (Table.names more).Nodup ∧ ∀ entry ∈ more, entry ∈ bag ∨ entry.2 ∈ arg :: rest := by
      intro key index hnew hrest
      have hkey : key ∉ Table.names bag := fun hm => by
        rw [(Table.has_iff_mem bag key).2 hm] at hnew
        cases hnew
      have hgrown : (Table.names (bag ++ [(key, arg)])).Nodup := by
        rw [Table.names_append]
        refine List.nodup_append.2 ⟨hnames, by simp, ?_⟩
        rintro a ha b hb rfl
        have hlast : a = key := List.mem_singleton.1 hb
        exact hkey (hlast ▸ ha)
      obtain ⟨hmore, hargs⟩ := mem_of_patternBag hrest hgrown
      refine ⟨hmore, fun entry he => ?_⟩
      rcases hargs entry he with hbag | hargs
      · rcases List.mem_append.1 hbag with hbag | hlast
        · exact .inl hbag
        · rw [List.mem_singleton.1 hlast]
          exact .inr List.mem_cons_self
      · exact .inr (List.mem_cons_of_mem _ hargs)
    unfold patternBag at h
    split at h
    · split at h
      · next hfree => exact hstep _ _ (by simpa using hfree.2) h
      · cases h
    · split at h
      · next hfree =>
        rw [Bool.and_eq_true] at hfree
        exact hstep _ _ (by simpa using hfree.2) h
      · cases h

theorem filled_ofPattern (h : ofPattern type method args = .ok e) : Filled method args e := by
  unfold ofPattern at h
  split at h
  · split at h
    · cases h
      exact filled_bare
    · cases h
  · next first rest =>
    obtain ⟨_, -, h⟩ := bind_eq_ok.1 h
    split at h
    · obtain ⟨bag, hbag, h⟩ := bind_eq_ok.1 h
      cases h
      obtain ⟨hnames, hargs⟩ := mem_of_patternBag hbag (by simp)
      refine .own hnames fun entry he => ?_
      rcases hargs entry he with hfirst | hrest
      · rw [List.mem_singleton.1 hfirst]
        exact List.mem_cons_self
      · exact List.mem_cons_of_mem _ hrest
    · cases h

/-- The options behind peers are an argument of the call. -/
theorem mem_of_peerNames : ∀ {args : List (Argument V)} {index : Nat} {peers : List Json} {last : Argument V},
    peerNames method index args = .ok (peers, some last) → last ∈ args
  | [], _, _, _, h => by cases h
  | arg :: rest, index, peers, last, h => by
    unfold peerNames at h
    split at h
    · obtain ⟨⟨more, options⟩, hmore, h⟩ := bind_eq_ok.1 h
      cases h
      exact List.mem_cons_of_mem _ (mem_of_peerNames hmore)
    · split at h
      · cases h
        exact List.mem_cons_self
      · cases h

theorem filled_ofPeers (h : ofPeers method args = .ok e) : Filled method args e := by
  obtain ⟨⟨peers, last⟩, hpeers, h⟩ := bind_eq_ok.1 h
  obtain ⟨names, options, rfl, rfl⟩ := peerNames_ok hpeers
  simp only at h
  split at h
  · cases h
  · cases h
    cases options with
    | none => exact .peers names none fun _ ho => by cases ho
    | some o =>
      refine .peers names (some o) fun _ ho => ?_
      cases ho
      exact mem_of_peerNames hpeers

theorem filled_ofUnique (h : ofUnique method args = .ok e) : Filled method args e := by
  obtain ⟨_, -, h⟩ := bind_eq_ok.1 h
  split at h
  · cases h
    exact filled_bare
  · split at h
    · split at h
      · cases h
        exact .own (by simp) (by simp)
      · split at h
        · cases h
          exact .own (by simp) (by simp)
        · cases h
    · split at h
      · split at h
        · cases h
          exact .own (by simp) (by simp)
        · cases h
      · cases h

theorem filled_ofRename (h : ofRename method args = .ok e) : Filled method args e := by
  obtain ⟨_, -, h⟩ := bind_eq_ok.1 h
  split at h
  · split at h
    · cases h
    · split at h
      · cases h
      · split at h
        · cases h
          exact .own (by simp) (by simp)
        · split at h
          · cases h
            exact .own (by simp) (by simp)
          · cases h
  · cases h
    exact filled_bare

theorem filled_ofCondition (h : ofCondition method args = .ok e) : Filled method args e := by
  unfold ofCondition at h
  split at h
  · split at h
    · cases h
    · split at h
      · cases h
      · cases h
        exact .own (by simp) (by simp)
  · cases h

theorem filled_ofAssert (h : ofAssert method args = .ok e) : Filled method args e := by
  obtain ⟨_, -, h⟩ := bind_eq_ok.1 h
  split at h
  · split at h
    · cases h
      exact filled_positional (by decide) _
    · cases h
  · cases h
    exact filled_bare

theorem filled_ofExternal (h : ofExternal method args = .ok e) : Filled method args e := by
  obtain ⟨_, -, h⟩ := bind_eq_ok.1 h
  split at h
  · split at h
    · cases h
      exact filled_positional (by decide) _
    · cases h
  · cases h
    exact filled_bare

theorem filled_ofFork (h : ofFork method args = .ok e) : Filled method args e := by
  obtain ⟨_, -, h⟩ := bind_eq_ok.1 h
  split at h
  · split at h
    · cases h
      exact filled_positional (by decide) _
    · cases h
  · cases h
    exact filled_positional (by decide) _

/-- Plain values are arguments of the call. -/
theorem plainValues_ok : ∀ {args : List (Argument V)} {index : Nat} {vs : List Json},
    plainValues method index args = .ok vs → args = vs.map .value
  | [], _, _, h => by
    cases h
    rfl
  | .value v :: rest, _, _, h => by
    obtain ⟨more, hmore, h⟩ := bind_eq_ok.1 h
    cases h
    rw [plainValues_ok hmore]
    rfl
  | .reference _ :: _, _, _, h | .pattern _ :: _, _, _, h | .function _ :: _, _, _, h | .schema _ :: _, _, _, h => by
    cases h

theorem filled_ofSpread (h : ofSpread method args = .ok e) : Filled method args e := by
  obtain ⟨values, hvalues, h⟩ := bind_eq_ok.1 h
  cases h
  refine .spread fun v hv => ?_
  rw [plainValues_ok hvalues]
  exact List.mem_map_of_mem hv

theorem filled_ofGeneric (h : ofGeneric method args = .ok e) : Filled method args e := by
  unfold ofGeneric at h
  split at h
  · cases h
    exact filled_bare
  · cases h
    exact .own (by simp) (by simp)
  · exact filled_ofSpread h

/-- **What a method that writes to the rules records** holds the arguments of the call. -/
theorem filled_of_effect (hc : Component.ofMethod method = .rules) (h : effect type method args = .ok e) :
    Filled method args e := by
  have hbase : ∀ key, Recording.ofMethod method = .limit key → key ≠ "options" := by
    have hlisted : ∀ entry ∈ Recording.table, entry.2 ≠ .limit "options" := by decide
    rintro _ hm rfl
    unfold Recording.ofMethod at hm
    cases hget : Table.get? Recording.table method with
    | none =>
      rw [hget] at hm
      cases hm
    | some recording =>
      rw [hget] at hm
      exact hlisted _ (Table.mem_of_get? hget) hm
  rw [← Recording.component_ofMethod] at hc
  have hchecked : ∀ {count : Count} {names : List String}, names.Nodup →
      (do checkCount method count args; return positional method names args) = .ok e → Filled method args e := by
    intro count names hn hrun
    obtain ⟨_, -, hrun⟩ := bind_eq_ok.1 hrun
    cases hrun
    exact filled_positional hn _
  unfold effect at h
  generalize Recording.ofMethod method = recording at h hc hbase
  cases recording with
  | presence fixed => cases hc
  | default => cases hc
  | values allowed => cases allowed <;> cases hc
  | replace => cases hc
  | size operator => exact filled_ofSize h
  | limit key =>
    obtain ⟨bag, hbag, h⟩ := bind_eq_ok.1 h
    cases h
    obtain ⟨hnames, hargs⟩ := mem_of_limitBag (hbase key rfl) hbag
    exact .own hnames hargs
  | sign fixed => exact filled_ofSign h
  | pattern => exact filled_ofPattern h
  | peers => exact filled_ofPeers h
  | unique => exact filled_ofUnique h
  | rename => exact filled_ofRename h
  | condition => exact filled_ofCondition h
  | assert => exact filled_ofAssert h
  | external => exact filled_ofExternal h
  | fork => exact filled_ofFork h
  | keyPeers | sample | optionsOnly => exact hchecked (by decide) h
  | spread => exact filled_ofSpread h
  | generic => exact filled_ofGeneric h

/-- A method that writes to the rules records a rule. -/
theorem isRule_of_effect (hc : Component.ofMethod method = .rules) (h : effect type method args = .ok e) :
    IsRule args e := (filled_of_effect hc h).isRule

/-! ## Methods that record something else -/

/-- A presence is that of the method, or the one that the argument names. -/
theorem ofPresence_args {fixed : Option Presence} (h : ofPresence method fixed args = .ok e) :
    ∃ p, e = .presence p ∧ ((fixed = some p ∧ args = []) ∨ (fixed = none ∧ args = [.value (.str p.text)])) := by
  unfold ofPresence at h
  split at h
  · cases h
    exact ⟨_, rfl, .inl ⟨rfl, rfl⟩⟩
  · cases h
  · next arg =>
    split at h
    · next p hp =>
      cases h
      obtain ⟨name, hname, hp⟩ := Option.bind_eq_some_iff.1 hp
      have htext : p.text = name := by simpa using List.find?_some hp
      refine ⟨p, rfl, .inr ⟨rfl, ?_⟩⟩
      unfold Argument.text? at hname
      split at hname
      · cases hname
        rw [htext]
      · cases hname
    · cases h
  · cases h

/-- An argument with an operand is the argument of the operand. -/
theorem eq_ofOperand {a : Argument V} {o : Operand} (h : a.operand? = some o) : a = .ofOperand o := by
  cases a <;> cases h <;> rfl

/-- Operands are those of the arguments. -/
theorem operands_ok : ∀ {args : List (Argument V)} {index : Nat} {os : List Operand},
    operands method index args = .ok os → args = os.map .ofOperand
  | [], _, _, h => by
    cases h
    rfl
  | arg :: rest, _, _, h => by
    unfold operands at h
    split at h
    · cases h
    · next o ho =>
      obtain ⟨more, hmore, h⟩ := bind_eq_ok.1 h
      cases h
      rw [List.map_cons, ← operands_ok hmore, eq_ofOperand ho]

/-- A default is the operand of the only argument. -/
theorem ofDefault_args (h : ofDefault method args = .ok e) : ∃ o, e = .default o ∧ args = [.ofOperand o] := by
  unfold ofDefault at h
  split at h
  · split at h
    · next o ho =>
      cases h
      exact ⟨o, rfl, congrArg (· :: []) (eq_ofOperand ho)⟩
    · cases h
  · cases h

/-- Allowed or refused values are the operands of the arguments, of which there are some. -/
theorem ofValues_args {allowed : Bool} (h : ofValues method allowed args = .ok e) :
    ∃ os : List Operand, os ≠ [] ∧ args = os.map .ofOperand ∧ e = if allowed then .valid os else .invalid os := by
  obtain ⟨_, -, hos⟩ := bind_eq_ok.1 h
  obtain ⟨os, hos, -⟩ := bind_eq_ok.1 hos
  obtain rfl := operands_ok hos
  obtain ⟨hne, he⟩ := ofValues_ok h
  exact ⟨os, hne, rfl, he⟩

/-- A replacement has a pattern and a value. -/
theorem ofReplace_args (h : ofReplace type method args = .ok e) :
    ∃ r : Replacement, e = .replacement r ∧ args = [.pattern r.pattern, .value r.replacement] := by
  unfold ofReplace at h
  split at h
  · cases h
  · split at h
    · next p v =>
      cases h
      exact ⟨⟨p, v⟩, rfl, rfl⟩
    · cases h
    · cases h
    · cases h

/-- **A method records an effect on its component.** -/
theorem component_of_effect (h : effect type method args = .ok e) : e.component = Component.ofMethod method := by
  have hrules : Component.ofMethod method = .rules → e.component = Component.ofMethod method := by
    intro hc
    cases isRule_of_effect hc h
    exact hc.symm
  rw [← Recording.component_ofMethod] at hrules ⊢
  unfold effect at h
  generalize Recording.ofMethod method = recording at h hrules
  cases recording with
  | presence fixed =>
    obtain ⟨p, rfl, -⟩ := ofPresence_args h
    rfl
  | default =>
    obtain ⟨o, rfl, -⟩ := ofDefault_args h
    rfl
  | values allowed =>
    obtain ⟨os, -, -, rfl⟩ := ofValues_args h
    cases allowed <;> rfl
  | replace =>
    obtain ⟨r, rfl, -⟩ := ofReplace_args h
    rfl
  | _ => exact hrules rfl

/-! ## What effects leave -/

/-- The presence that an effect records. -/
def presence? : Effect V → Option Presence
  | .presence p => some p
  | _ => none

/-- The default that an effect records. -/
def default? : Effect V → Option Operand
  | .default o => some o
  | _ => none

/-- The allowed values that an effect records. -/
def valid? : Effect V → Option (List Operand)
  | .valid os => some os
  | _ => none

/-- The refused values that an effect records. -/
def invalid? : Effect V → Option (List Operand)
  | .invalid os => some os
  | _ => none

/-- The replacement that an effect records. -/
def replacement? : Effect V → Option Replacement
  | .replacement r => some r
  | _ => none

/-- The rule that an effect records. -/
def rule? : Effect V → Option (Rule V)
  | .rule r => some r
  | _ => none

theorem presence?_eq_none (h : e.component ≠ .presence) : e.presence? = none := by
  cases e with
  | presence p => exact absurd rfl h
  | _ => rfl

theorem default?_eq_none (h : e.component ≠ .default) : e.default? = none := by
  cases e with
  | default o => exact absurd rfl h
  | _ => rfl

theorem valid?_eq_none (h : e.component ≠ .valid) : e.valid? = none := by
  cases e with
  | valid os => exact absurd rfl h
  | _ => rfl

theorem invalid?_eq_none (h : e.component ≠ .invalid) : e.invalid? = none := by
  cases e with
  | invalid os => exact absurd rfl h
  | _ => rfl

theorem replacement?_eq_none (h : e.component ≠ .replacements) : e.replacement? = none := by
  cases e with
  | replacement r => exact absurd rfl h
  | _ => rfl

theorem rule?_eq_none (h : e.component ≠ .rules) : e.rule? = none := by
  cases e with
  | rule r => exact absurd rfl h
  | _ => rfl

/-- Effects on a component, in order. -/
def on (component : Component) (es : List (Effect V)) : List (Effect V) := es.filter fun e => e.component = component

/-- A part that only effects on a component have is read off these effects. -/
theorem filterMap_on {α : Type} {part : Effect V → Option α} {component : Component}
    (hother : ∀ e : Effect V, e.component ≠ component → part e = none) (es : List (Effect V)) :
    (on component es).filterMap part = es.filterMap part := by
  rw [on, List.filterMap_filter]
  refine List.filterMap_congr fun e _ => ?_
  by_cases he : e.component = component
  · simp [he]
  · simp [he, hother e he]

/-- Such a part is the same where the effects on the component are. -/
theorem filterMap_congr_on {α : Type} {part : Effect V → Option α} {component : Component} {es fs : List (Effect V)}
    (hother : ∀ e : Effect V, e.component ≠ component → part e = none) (h : on component es = on component fs) :
    es.filterMap part = fs.filterMap part := by
  rw [← filterMap_on hother es, h, filterMap_on hother fs]

end Effect

/-- A set, which may be missing, after lists of operands have been added to it. -/
def ValueSet.addLists (set : Option ValueSet) (lists : List (List Operand)) : Option ValueSet :=
  lists.foldl (fun set os => some ((set.getD {}).insertAll os)) set

/-- The last of a list is that of its tail, or else its head. -/
theorem getLast?_cons_or {α : Type} (x : α) (xs : List α) (o : Option α) :
    (x :: xs).getLast?.or o = xs.getLast?.or (some x) := by
  rw [List.getLast?_cons]
  cases xs.getLast? <;> rfl

/-- **What effects leave**, component by component. -/
theorem Validator.foldl_record : ∀ (es : List (Effect Validator)) (v : Validator), es.foldl record v =
    { type := v.type
      presence := (es.filterMap Effect.presence?).getLast?.or v.presence
      default := (es.filterMap Effect.default?).getLast?.or v.default
      valid := ValueSet.addLists v.valid (es.filterMap Effect.valid?)
      invalid := ValueSet.addLists v.invalid (es.filterMap Effect.invalid?)
      rules := v.rules ++ es.filterMap Effect.rule?
      replacements := v.replacements ++ es.filterMap Effect.replacement?
      children := v.children }
  | [], v => by
    cases v
    simp [ValueSet.addLists]
  | e :: es, v => by
    rw [List.foldl_cons, foldl_record es]
    cases e <;> simp [record, List.filterMap_cons, Effect.presence?, Effect.default?, Effect.valid?, Effect.invalid?,
      Effect.replacement?, Effect.rule?, ValueSet.addLists, getLast?_cons_or]

/-- **What effects leave beside the rules depends on the effects on the other components**, in their order. -/
theorem Validator.foldl_record_beside {es fs : List (Effect Validator)}
    (h : ∀ c, c ≠ .rules → Effect.on c es = Effect.on c fs) (v : Validator) :
    { es.foldl record v with rules := [] } = { fs.foldl record v with rules := [] } := by
  rw [foldl_record, foldl_record, Effect.filterMap_congr_on (fun _ => Effect.presence?_eq_none) (h _ (by decide)),
    Effect.filterMap_congr_on (fun _ => Effect.default?_eq_none) (h _ (by decide)),
    Effect.filterMap_congr_on (fun _ => Effect.valid?_eq_none) (h _ (by decide)),
    Effect.filterMap_congr_on (fun _ => Effect.invalid?_eq_none) (h _ (by decide)),
    Effect.filterMap_congr_on (fun _ => Effect.replacement?_eq_none) (h _ (by decide))]

/-- **What effects leave depends on the effects on each component**, in their order. -/
theorem Validator.foldl_record_congr {es fs : List (Effect Validator)} (h : ∀ c, Effect.on c es = Effect.on c fs)
    (v : Validator) : es.foldl record v = fs.foldl record v := by
  have hbeside := foldl_record_beside (fun c _ => h c) v
  have hrules : es.filterMap Effect.rule? = fs.filterMap Effect.rule? :=
    Effect.filterMap_congr_on (fun _ => Effect.rule?_eq_none) (h _)
  rw [foldl_record, foldl_record] at hbeside ⊢
  simp only [Validator.mk.injEq, true_and, and_true] at hbeside ⊢
  obtain ⟨hpresence, hdefault, hvalid, hinvalid, hreplacements⟩ := hbeside
  exact ⟨hpresence, hdefault, hvalid, hinvalid, congrArg (v.rules ++ ·) hrules, hreplacements⟩

end Rulebook
