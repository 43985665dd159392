import Rulebook.Proofs.Canonical

/-!
# Extraction inverts compiling, rule by rule

A recorded rule whose directive is data is recorded again from that directive, unless the rule is of one of the shapes
of `Rule.Ambiguous`: a literal object that stands alone in its bag is written as the value of the directive, where it
is read as a bag.

* `canonical_or_exposed`: the directive of a recorded rule is canonical, or else the rule is ambiguous.
* `misread_of_ambiguous`: what is recorded from the directive of an ambiguous rule holds something less deep in place
  of its object.
* `recorded_again_iff`: compiling the directive of a rule records exactly the rule, if and only if it is not ambiguous.
-/

namespace Rulebook

open Fallible Grammar Compile

variable {functions : Registry} {type : TypeTag}

/-- The rules whose value is misread: a literal object as a limit or base without options, and as an example without
options where it has a member `example`. -/
inductive Rule.Ambiguous {V : Type} : Rule V → Prop
  | size {method : String} (operator : Option Operator) (members : Table Json) :
      method = "compare" ∨ method = "length" →
      Ambiguous { method, operator, args := [("limit", .value (.obj members))] }
  | multiple (operator : Option Operator) (members : Table Json) :
      Ambiguous { method := "multiple", operator, args := [("base", .value (.obj members))] }
  | sample (operator : Option Operator) {members : Table Json} : Table.has members "example" = true →
      Ambiguous { method := "example", operator, args := [("example", .value (.obj members))] }

/-- What is recorded for an ambiguous rule holds no data, or less deep data, in place of its literal object. -/
structure Rule.Misread {V : Type} (r s : Rule V) : Prop where
  shallower : ∃ (key : String) (members : Table Json) (b : Argument V), r.args = [(key, .value (.obj members))] ∧
    Table.get? s.args key = some b ∧ ∀ w, b = .value w → w.depth < (Json.obj members).depth

namespace Rule.Misread

variable {V : Type} {r s : Rule V}

/-- No rule is its own misreading. -/
theorem ne (h : r.Misread s) : s ≠ r := by
  rintro rfl
  obtain ⟨key, members, b, hargs, hb, hdepth⟩ := h.shallower
  rw [hargs, Table.get?_cons, if_pos rfl] at hb
  cases hb
  exact Nat.lt_irrefl _ (hdepth _ rfl)

/-- A misreading is not the same as the rule, not even up to the order of members. -/
theorem sameRule_eq_false {r s : Rule Validator} (h : r.Misread s) : Validator.sameRule r s = false := by
  obtain ⟨key, members, b, hargs, hb, hdepth⟩ := h.shallower
  have harg : Validator.sameArg (.value (.obj members)) b = false := by
    cases b with
    | value w =>
      rw [Validator.sameArg, Bool.eq_false_iff]
      exact fun hsame => Nat.lt_irrefl _ (Nat.lt_of_le_of_lt (Json.depth_le_of_same hsame) (hdepth w rfl))
    | _ => rfl
  obtain ⟨method, operator, args⟩ := r
  simp only at hargs
  simp only [Validator.sameRule, hargs, Validator.sameArgs, hb, harg, Bool.false_and, Bool.and_false]

end Rule.Misread

/-! ## Misread objects -/

/-- An argument that is read as data is the value itself, which is no reference object. -/
theorem Operand.operand_value {V : Type} {x w : Json} (h : Call.operand (V := V) functions x = .ok (.value w)) :
    w = x ∧ x.field? Reference.key = none := by
  unfold Call.operand at h
  cases ho : ofJson x with
  | error e => simp [ho] at h
  | ok o =>
    rcases ofJson_ok ho with ⟨rfl, hlit⟩ | ⟨written, members, r, rfl, hr, rfl⟩
    · simp only [ho, Except.ok.injEq, Argument.value.injEq] at h
      exact ⟨h.symm, hlit⟩
    · simp only [ho] at h
      obtain ⟨s, -, h⟩ := bind_eq_ok.1 h
      cases h

namespace Call

variable {V : Type} {directive key : String} {members : Table Json} {a : List (Argument V)}

/-- The limit that is read from an object is a reference or less deep than the object. -/
theorem ofLimit_obj (h : ofLimit functions directive key (.obj members) = .ok a) :
    ∃ b more, a = b :: more ∧ ∀ w, b = .value w → w.depth < (Json.obj members).depth := by
  unfold ofLimit at h
  simp only at h
  split at h
  · next href =>
    obtain ⟨b, hb, h⟩ := bind_eq_ok.1 h
    cases h
    refine ⟨b, [], rfl, fun w hw => ?_⟩
    subst hw
    have hnone : Table.get? members Reference.key = none := (Operand.operand_value hb).2
    rw [Table.has, hnone] at href
    cases href
  · split at h
    · cases h
    · next limit hlimit =>
      obtain ⟨b, hb, h⟩ := bind_eq_ok.1 h
      cases h
      refine ⟨b, _, rfl, fun w hw => ?_⟩
      subst hw
      rw [(Operand.operand_value hb).1]
      exact Json.depth_lt_of_get? hlimit

/-- The example that is read from an object with a member `example` is less deep than the object. -/
theorem ofSample_obj (hm : Table.has members "example" = true)
    (h : ofOptionKeyed functions directive ⟨"example", false, .options⟩ (.obj members) = .ok a) :
    ∃ w more, a = .value w :: more ∧ w.depth < (Json.obj members).depth := by
  obtain ⟨field, hfield⟩ := Option.isSome_iff_exists.1 hm
  have hget : (Json.obj members).field? "example" = some field := hfield
  simp only [ofOptionKeyed, hget] at h
  cases h
  exact ⟨field, _, rfl, Json.depth_lt_of_get? hfield⟩

end Call

/-- The bag of a limit holds the limit under its key. -/
theorem Effect.get?_limitBag {V : Type} {method key : String} {b : Argument V} {more : List (Argument V)}
    {bag : List (String × Argument V)} (h : limitBag method key (b :: more) = .ok bag) :
    Table.get? bag key = some b := by
  obtain ⟨_, -, h⟩ := bind_eq_ok.1 h
  simp only at h
  split at h
  · cases h
  · split at h
    · cases h
      exact if_pos rfl
    · split at h
      · cases h
        exact if_pos rfl
      · cases h

/-! ## Recording a directive again -/

variable {name : String} {value : Json} {r s : Rule Validator} {es : List (Effect Validator)}

/-- A size rule goes by the name of a size directive. -/
theorem Rule.row_of_size {method : String} {operator : Option Operator} {args : List (String × Argument Validator)}
    (hm : method = "compare" ∨ method = "length") (hn : directiveName ⟨method, operator, args⟩ = .ok name) :
    ∃ other, Row name (.unary (.limit "limit")) (.size other) := by
  simp only [directiveName, if_pos hm] at hn
  cases hop : operator.bind Operator.directive? with
  | some other =>
    obtain ⟨op, -, hop'⟩ := Option.bind_eq_some_iff.1 hop
    have hrow := row_size op
    rw [hop] at hn
    cases hn
    rw [hop'] at hrow
    exact ⟨op, hrow⟩
  | none =>
    rw [hop] at hn
    simp only at hn
    split at hn
    · cases hn
    · next hcompare =>
      cases hn
      rw [hm.resolve_left hcompare]
      exact ⟨.equal, row_size .equal⟩

/-- **What is recorded from the directive of an ambiguous rule misreads it.** -/
theorem misread_of_ambiguous (ha : r.Ambiguous) (hd : r.directive = .ok (name, value))
    (h : log functions type name value = .ok es) (hs : .rule s ∈ es) : r.Misread s := by
  cases ha with
  | @size method operator members hm =>
    have hsign : method ≠ "sign" := by rcases hm with rfl | rfl <;> decide
    obtain ⟨n, hn⟩ : ∃ n, Rule.directiveName (V := Validator)
        ⟨method, operator, [("limit", .value (.obj members))]⟩ = .ok n := by
      rw [Rule.directive, if_neg hsign] at hd
      split at hd
      · cases hd
      · next n hn => exact ⟨n, hn⟩
    obtain ⟨other, hrow⟩ := Rule.row_of_size hm hn
    have hself := Canonical.directive_limit (o := .literal (.obj members)) hrow hn hsign (by decide) (by decide) rfl
    cases hd.symm.trans hself
    obtain ⟨a, e, harg, he, rfl⟩ := (log_of_row hrow _ rfl).1 h
    obtain ⟨b, more, rfl, hb⟩ := Call.ofLimit_obj harg
    simp only [effect, hrow.recording, Effect.ofSize] at he
    obtain ⟨_, -, he⟩ := bind_eq_ok.1 he
    split at he
    · cases he
    · obtain ⟨bag, hbag, he⟩ := bind_eq_ok.1 he
      cases he
      cases List.mem_singleton.1 hs
      exact ⟨"limit", members, b, rfl, Effect.get?_limitBag hbag, hb⟩
  | multiple operator members =>
    cases hd.symm.trans (show Rule.directive _ = .ok ("multiple", .obj members) from rfl)
    obtain ⟨a, e, harg, he, rfl⟩ := (log_of_row row_multiple _ rfl).1 h
    obtain ⟨b, more, rfl, hb⟩ := Call.ofLimit_obj harg
    simp only [effect, row_multiple.recording] at he
    obtain ⟨bag, hbag, he⟩ := bind_eq_ok.1 he
    cases he
    cases List.mem_singleton.1 hs
    exact ⟨"base", members, b, rfl, Effect.get?_limitBag hbag, hb⟩
  | @sample operator members hm =>
    cases hd.symm.trans (show Rule.directive _ = .ok ("example", .obj members) from rfl)
    obtain ⟨a, e, harg, he, rfl⟩ := (log_of_row row_example _ rfl).1 h
    obtain ⟨w, more, rfl, hw⟩ := Call.ofSample_obj hm harg
    simp only [effect, row_example.recording] at he
    obtain ⟨_, -, he⟩ := bind_eq_ok.1 he
    cases he
    cases List.mem_singleton.1 hs
    exact ⟨"example", members, .value w, rfl, if_pos rfl, fun v hv => by cases hv; exact hw⟩

/-- The rule of a hidden directive is left out because it can only be written. -/
theorem directive_hidden {row : Directive} (hrow : lookup row.name = some row) (hh : Hidden row)
    (hm : r.method = row.name) : r.directive = .error (.writeOnly row.name) := by
  have hne : ∀ {other : String}, Recording.ofMethod other ∉ hiddenRecordings → r.method ≠ other :=
    fun hother he => hother ((hm.symm.trans he) ▸ hh.recording)
  have hsign : r.method ≠ "sign" := hne (by decide)
  have hlength : r.method ≠ "length" := hne (by decide)
  have hcompare : r.method ≠ "compare" := hne (by decide)
  rw [Rule.directive, if_neg hsign, Rule.directiveName_self hcompare hlength, hm]
  simp only [hrow, hh.irreversible, Bool.false_eq_true, if_false]

/-- The rule of a hidden directive has no directive. -/
theorem directive_of_hidden {row : Directive} (hrow : lookup row.name = some row) (hh : Hidden row)
    (hm : r.method = row.name) {d : String × Json} : r.directive ≠ .ok d := by
  rw [directive_hidden hrow hh hm]
  exact fun h => by cases h

/-- An ambiguous rule as it is recorded, with its directive: the literal object is the value. -/
inductive Exposed (functions : Registry) (type : TypeTag) : String → Json → Rule Validator → Prop
  | size {name : String} {operator : Operator} {members : Table Json} :
      Row name (.unary (.limit "limit")) (.size operator) → (type.comparesByValue && operator == .equal) = false →
      (Operand.literal (.obj members)).Resolved functions → (Json.obj members).Distinct →
      Exposed functions type name (.obj members) {
        method := if type.comparesByValue then "compare" else "length"
        operator := some operator
        args := [("limit", .value (.obj members))] }
  | multiple {members : Table Json} : (Operand.literal (.obj members)).Resolved functions →
      (Json.obj members).Distinct → Exposed functions type "multiple" (.obj members) {
        method := "multiple"
        args := [("base", .value (.obj members))] }
  | sample {members : Table Json} : Table.has members "example" = true → (Json.obj members).Distinct →
      Exposed functions type "example" (.obj members) {
        method := "example"
        args := [("example", .value (.obj members))] }

theorem Exposed.ambiguous (h : Exposed functions type name value r) : r.Ambiguous := by
  cases h with
  | @size _ operator members hrow hcompare ho hd =>
    have hmethod : (if type.comparesByValue then "compare" else "length") = "compare" ∨
        (if type.comparesByValue then "compare" else "length") = "length" := by split <;> simp
    exact .size (some operator) members hmethod
  | @multiple members ho hd => exact .multiple none members
  | sample hm hd => exact .sample none hm

/-- An operand is a literal object or not. -/
theorem Operand.object_or_other (o : Operand) :
    (∃ members, o = .literal (.obj members)) ∨ ∀ members, o ≠ .literal (.obj members) := by
  by_cases h : ∃ members, o = .literal (.obj members)
  · exact .inl h
  · exact .inr fun members he => h ⟨members, he⟩

/-- **A recorded rule has a canonical directive or is ambiguous.** -/
theorem canonical_or_exposed {source : String} {given : Json} (hg : given.Distinct)
    (h : Recorded functions type given source r) (hd : r.directive = .ok (name, value)) :
    Canonical functions type name value r ∨ Exposed functions type name value r := by
  -- a canonical directive of the rule is the directive of the rule
  have hcanonical : ∀ {n : String} {x : Json}, Canonical functions type n x r →
      Canonical functions type name value r := by
    intro n x hc
    cases hd.symm.trans hc.directive
    exact hc
  cases h with
  | plain hrow => exact .inl (hcanonical (.plain hrow))
  | literal v hrow => exact .inl (hcanonical (.literal v hrow))
  | bare hrow => exact .inl (hcanonical (.bare hrow))
  | config hrow hv => exact .inl (hcanonical (.config hrow hv))
  | sign _ htype hsign => exact .inl (hcanonical (.sign htype hsign))
  | precision v => exact .inl (hcanonical (.precision v))
  | @size _ operator o options hrow hcompare ho hopt =>
    cases options with
    | some rest => exact .inl (hcanonical (.sizeOptions hrow hcompare ho ((hopt hg).2 rest rfl)))
    | none =>
      rcases o.object_or_other with ⟨members, rfl⟩ | hother
      · cases hd.symm.trans (Canonical.directive_size hrow hcompare)
        exact .inr (.size hrow hcompare ho (hopt hg).1)
      · exact .inl (hcanonical (.size hrow hcompare ho hother))
  | @multiple o options ho hopt =>
    cases options with
    | some rest => exact .inl (hcanonical (.multipleOptions ho ((hopt hg).2 rest rfl)))
    | none =>
      rcases o.object_or_other with ⟨members, rfl⟩ | hother
      · cases hd.symm.trans (Canonical.directive_multiple (.literal (.obj members)))
        exact .inr (.multiple ho (hopt hg).1)
      · exact .inl (hcanonical (.multiple ho hother))
  | @sample v options hopt =>
    cases options with
    | some rest => exact .inl (hcanonical (.sampleOptions v ((hopt hg).2 rest rfl)))
    | none =>
      cases hfield : v.field? "example" with
      | none => exact .inl (hcanonical (.sample hfield))
      | some field =>
        cases v with
        | obj members =>
          have hm : Table.has members "example" = true := Option.isSome_iff_exists.2 ⟨field, hfield⟩
          cases hd.symm.trans (Canonical.directive_sample (.obj members))
          exact .inr (.sample hm (hopt hg).1)
        | _ => cases hfield
  | spread vs hrow => exact .inl (hcanonical (.spread vs hrow))
  | @peers _ names options hrow hne =>
    cases options with
    | none => exact .inl (hcanonical (.peers hrow hne))
    | some o => exact .inl (hcanonical (.peersOptions o hrow hne))
  | keys hrow htype => exact .inl (hcanonical (.keys htype))
  | @pattern _ p schema options hrow hp hschema =>
    cases schema with
    | none =>
      cases options with
      | none => exact .inl (hcanonical (.pattern hp))
      | some o => exact .inl (hcanonical (.patternOptions o hp))
    | some v =>
      have hmem : ("schema", .schema v) ∈ schemaEntries (some v) ++ optionEntries options := List.mem_cons_self
      exact absurd hd (Rule.directive_ne_ok row_pattern (by decide) (by decide) (List.mem_cons_of_mem _ hmem) rfl)
  | unique comparator options =>
    cases comparator with
    | none =>
      cases options with
      | none => exact .inl (hcanonical .unique)
      | some o => exact .inl (hcanonical (.uniqueOptions o))
    | some f =>
      have hmem : ("comparator", .function f) ∈ comparatorEntries (V := Validator) (some f) ++ optionEntries options :=
        List.mem_cons_self
      exact absurd hd (Rule.directive_ne_ok row_unique (by decide) (by decide) hmem rfl)
  | @rename a b options hopt =>
    cases options with
    | none => exact .inl (hcanonical (.rename a b))
    | some rest => exact .inl (hcanonical (.renameOptions a b (hopt hg rest rfl)))
  | hidden hrow hh hm => exact absurd hd (directive_of_hidden hrow hh hm)

/-- **Compiling inverts the directive of a rule, exactly up to ambiguity.** -/
theorem recorded_again_iff {source : String} {given : Json} {v : Validator} (hg : given.Distinct)
    (hv : compile functions ⟨type, [(source, given)], none⟩ = .ok v) (hr : r ∈ v.rules)
    (hd : r.directive = .ok (name, value)) :
    ((∃ w, compile functions ⟨type, [(name, value)], none⟩ = .ok w ∧ w.rules = [r]) ↔ ¬ r.Ambiguous) ∧
      (r.Ambiguous → ∀ w, compile functions ⟨type, [(name, value)], none⟩ = .ok w →
        Validator.sameRules [r] w.rules = false) := by
  have hof : ∀ {n : String} {x : Json} {w : Validator} {s : Rule Validator},
      compile functions ⟨type, [(n, x)], none⟩ = .ok w → s ∈ w.rules →
      ∃ es, log functions type n x = .ok es ∧ .rule s ∈ es := by
    intro n x w s hw hs
    obtain ⟨e, he, h⟩ := (mem_rules_iff hw).1 hs
    rwa [List.mem_singleton.1 he] at h
  refine ⟨⟨?_, fun hna => ?_⟩, fun ha w hw => ?_⟩
  · rintro ⟨w, hw, hrules⟩ ha
    obtain ⟨fs, hfs, hmem⟩ := hof hw (hrules ▸ List.mem_singleton_self r)
    exact (misread_of_ambiguous ha hd hfs hmem).ne rfl
  · obtain ⟨es, hes, hmem⟩ := hof hv hr
    have hcanonical := (canonical_or_exposed hg (recorded_of_log hes hmem) hd).resolve_right fun he => hna he.ambiguous
    exact ⟨_, compile_single_iff.2 ⟨_, hcanonical.log_eq, rfl⟩, rfl⟩
  · cases hrules : w.rules with
    | nil => rfl
    | cons s rest =>
      obtain ⟨fs, hfs, hmem⟩ := hof hw (hrules ▸ List.mem_cons_self)
      rw [Validator.sameRules, (misread_of_ambiguous ha hd hfs hmem).sameRule_eq_false, Bool.false_and]

/-- A list as the only limit comes back by itself, and is recorded again. -/
theorem recorded_again_lone_list :
    ∃ v, compile [] ⟨.number, [("min", .obj [("limit", .arr [.null])])], none⟩ = .ok v ∧
      ∃ r ∈ v.rules, r.directive = .ok ("min", .arr [.null]) ∧
        ∃ w, compile [] ⟨.number, [("min", .arr [.null])], none⟩ = .ok w ∧ w.rules = [r] := by
  have hv : compile [] ⟨.number, [("min", .obj [("limit", .arr [.null])])], none⟩ = .ok
      { type := .number
        rules := [{
          method := "compare"
          operator := some .greaterOrEqual
          args := [("limit", .value (.arr [.null]))] }] } := rfl
  have hgiven : (Json.obj [("limit", .arr [.null])]).Distinct := by
    simp [Json.Distinct, Json.DistinctItems, Json.DistinctMembers]
  refine ⟨_, hv, _, List.mem_singleton_self _, rfl, ?_⟩
  have hlist : ∀ r : Rule Validator, r.Ambiguous → r.args ≠ [("limit", .value (.arr [.null]))] := by
    rintro _ (_ | _ | _) <;> simp
  exact (recorded_again_iff hgiven hv (List.mem_singleton_self _) rfl).1.2 fun ha => hlist _ ha rfl

end Rulebook
