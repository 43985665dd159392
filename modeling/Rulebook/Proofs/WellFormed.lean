import Rulebook.Proofs.Emission
import Rulebook.Proofs.Origin
import Rulebook.Proofs.Sound

/-!
# Compiled validators are well formed

Every validator inside a compiled one holds only what its type allows (`Validator.WellFormed`), and every rule in it
is one that extraction knows: it is left out because it comes from a directive that can only be written, or because
one of its arguments is no data, and for no other reason.

* `wellFormed_of_log`: a directive records well-formed rules.
* `directive_ok_iff`: a rule has a directive when it comes from one that can be rebuilt and holds only data.
* `wellFormed_of_inside`: all of this at every validator inside a compiled one.
-/

namespace Rulebook

open Fallible Grammar Compile

/-! ## Well-formed validators -/

/-- A rule that a type allows: sizes are compared by value or by length as fits the type, only numbers have a sign,
and only objects have keys. -/
structure Rule.WellFormed {V : Type} (type : TypeTag) (r : Rule V) : Prop where
  operator : r.operator ≠ none ↔ r.method = "compare" ∨ r.method = "length"
  compare : r.method = "compare" → (type = .number ∨ type = .date) ∧ r.operator ≠ some .equal
  length : r.method = "length" → type ≠ .number ∧ type ≠ .date
  sign : r.method = "sign" → type = .number ∧
    ∃ s : String, (s = "positive" ∨ s = "negative") ∧ r.args = [("sign", .value (.str s))]
  regex : r.method = "regex" → type = .object ∧ r.args = []

/-- A set that holds something, and no value twice. -/
structure ValueSet.WellFormed (set : ValueSet) : Prop where
  nonempty : set.values ≠ [] ∨ set.references ≠ []
  valuesApart : set.values.Pairwise fun a b => a.same b = false
  referencesApart : set.references.Pairwise fun a b => a.same b = false

/-- A validator that holds only what its type allows. -/
structure Validator.WellFormed (v : Validator) : Prop where
  rules : ∀ r ∈ v.rules, r.WellFormed v.type
  replacements : v.replacements ≠ [] → v.type = .string
  valid : ∀ set ∈ v.valid, set.WellFormed
  invalid : ∀ set ∈ v.invalid, set.WellFormed
  children : v.children ≠ none → v.type = .object

/-! ## Rules -/

variable {functions : Registry} {type : TypeTag} {name : String} {value given : Json} {r : Rule Validator}
  {es : List (Effect Validator)}

/-- The methods of the rules that not every type allows. -/
def Rule.bound : List String := ["compare", "length", "sign", "regex"]

/-- A rule without an operator whose method every type allows. -/
theorem Rule.wellFormed_of_free (hm : r.method ∉ Rule.bound) (ho : r.operator = none) : r.WellFormed type := by
  simp only [bound, List.mem_cons, List.not_mem_nil, or_false, not_or] at hm
  obtain ⟨hcompare, hlength, hsign, hregex⟩ := hm
  constructor
  · simp [ho, hcompare, hlength]
  · exact fun h => absurd h hcompare
  · exact fun h => absurd h hlength
  · exact fun h => absurd h hsign
  · exact fun h => absurd h hregex

/-- The name of a row that stands neither for a sign, a length nor a pattern. -/
theorem Grammar.Row.free {category : Category} {recording : Recording} (hrow : Row name category recording)
    (hpattern : category ≠ .pattern) (hs : recording ≠ .sign none) (hl : recording ≠ .size .equal) :
    name ∉ Rule.bound := by
  obtain ⟨hsign, hcompare, hlength⟩ := Rule.names_of_row hrow hs hl
  have hregex : name ≠ "regex" := by
    rintro rfl
    exact hpattern (hrow.unique row_regex).1
  simp [Rule.bound, hsign, hcompare, hlength, hregex]

/-- The name of a hidden directive. -/
theorem Grammar.Hidden.free {row : Directive} (hh : Hidden row) : row.name ∉ Rule.bound := by
  have hbound : ∀ method ∈ Rule.bound, Recording.ofMethod method ∉ hiddenRecordings := by decide
  exact fun hm => hbound _ hm hh.recording

/-- A size rule is compared by value on numbers and dates, and by length on all other types. -/
theorem Rule.wellFormed_size {V : Type} {operator : Operator} (args : List (String × Argument V))
    (h : (type.comparesByValue && operator == .equal) = false) :
    WellFormed type { method := if type.comparesByValue then "compare" else "length"
                      operator := some operator
                      args } := by
  cases hv : type.comparesByValue with
  | true =>
    have htype : type = .number ∨ type = .date := by
      cases type <;> first | exact .inl rfl | exact .inr rfl | cases hv
    have hequal : operator ≠ .equal := by simpa [hv] using h
    constructor <;> simp [htype, hequal]
  | false =>
    have htype : type ≠ .number ∧ type ≠ .date := by
      constructor
      · rintro rfl
        cases hv
      · rintro rfl
        cases hv
    constructor <;> simp [htype]

/-- **A directive records well-formed rules.** -/
theorem wellFormed_of_log (h : log functions type name value = .ok es) (hr : .rule r ∈ es) : r.WellFormed type := by
  cases (recorded_of_log h hr).shape with
  | own hrow hpattern hsign hsize hm ho =>
    exact Rule.wellFormed_of_free (hm ▸ hrow.free hpattern (hsign none) hsize) ho
  | sign _ htype hs => constructor <;> simp [htype, hs]
  | size args _ hcompare => exact Rule.wellFormed_size args hcompare
  | keys _ htype => constructor <;> simp [htype]
  | pattern _ args => exact Rule.wellFormed_of_free (show "pattern" ∉ Rule.bound by decide) rfl
  | hidden hrow hh hm =>
    obtain ⟨s, rfl, -, ho⟩ := log_of_hidden hrow hh h
    cases List.mem_singleton.1 hr
    exact Rule.wellFormed_of_free (hm ▸ hh.free) ho

/-! ## Which rules have a directive -/

/-- An argument is no data when it is a function or a validator. -/
theorem Argument.data?_eq_none_iff {V : Type} {a : Argument V} :
    a.data? = none ↔ a.isFunction = true ∨ a.isSchema = true := by
  cases a <;> simp [data?, isFunction, isSchema]

/-- A bag is data, or one of its arguments is none. -/
theorem Rule.bag_cases {V : Type} (directive : String) : ∀ args : List (String × Argument V),
    (∃ data, bag directive args = .ok data) ∨
      (∃ entry ∈ args, entry.2.data? = none) ∧
        ∃ key kind, bag directive args = .error (.notData directive key kind)
  | [] => .inl ⟨[], rfl⟩
  | (key, a) :: rest => by
    unfold bag
    cases ha : a.data? with
    | none => exact .inr ⟨⟨(key, a), List.mem_cons_self, ha⟩, key, a.kind, rfl⟩
    | some x =>
      rcases bag_cases directive rest with ⟨data, hdata⟩ | ⟨⟨entry, hentry, hnone⟩, key, kind, herror⟩
      · exact .inl ⟨(_, x) :: data, by rw [hdata]⟩
      · exact .inr ⟨⟨entry, List.mem_cons_of_mem _ hentry, hnone⟩, key, kind, by rw [herror]⟩

/-- The directive of a recorded rule is made from its bag, where it comes from a directive that can be rebuilt. -/
theorem directive_of_recorded (h : Recorded functions type given name r) {row : Directive}
    (hrow : lookup name = some row) (hrev : row.reversible = true) :
    ∃ (directive : String) (f : Table Json → String × Json), r.directive = (Rule.bag directive r.args).map f := by
  cases h.shape with
  | own hr _ hsign hsize hm _ => exact ⟨_, _, Rule.directive_self (hm ▸ hr) (hsign none) hsize⟩
  | @sign _ s _ hs =>
    refine ⟨s, fun _ => (s, .bool true), ?_⟩
    rcases hs with rfl | rfl <;> rfl
  | size args hr hcompare =>
    have hname := Rule.directiveName_size args hcompare
    rw [← hr.size_name] at hname
    exact ⟨_, _, Rule.directive_of_row hr hname (by simp only; split <;> decide)⟩
  | keys _ _ => exact ⟨_, _, Rule.directive_self row_regex (by decide) (by decide)⟩
  | pattern _ args => exact ⟨_, _, Rule.directive_self row_pattern (by decide) (by decide)⟩
  | hidden hr hh _ =>
    cases hrow.symm.trans hr
    rw [hh.irreversible] at hrev
    cases hrev

/-- The rule was recorded by a directive of the description that can only be written. -/
def Rule.WriteOnly (functions : Registry) (d : Description) (r : Rule Validator) : Prop :=
  ∃ e ∈ d.directives, ∃ row es, lookup e.1 = some row ∧ row.reversible = false ∧
    log functions d.type e.1 e.2 = .ok es ∧ .rule r ∈ es

/-- An argument of the rule is a function or a validator. -/
def Rule.HoldsCode (r : Rule Validator) : Prop := ∃ e ∈ r.args, e.2.isFunction = true ∨ e.2.isSchema = true

/-- A rule of a directive that can only be written is left out for that. -/
theorem directive_of_writeOnly {row : Directive} (hrow : lookup name = some row) (hrev : row.reversible = false)
    (h : log functions type name value = .ok es) (hr : .rule r ∈ es) : r.directive = .error (.writeOnly name) := by
  have hh : Hidden row := by
    rcases lookup_cases hrow with ⟨hentry, -⟩ | hh
    · rw [hentry] at hrev
      cases hrev
    · exact hh
  obtain ⟨s, rfl, hm, -⟩ := log_of_hidden hrow hh h
  cases List.mem_singleton.1 hr
  obtain ⟨-, rfl⟩ := mem_of_lookup hrow
  exact directive_hidden hrow hh hm

/-- A rule of another directive has a directive, or is left out because an argument is no data. -/
theorem directive_of_reversible {row : Directive} (hrow : lookup name = some row) (hrev : row.reversible = true)
    (h : log functions type name value = .ok es) (hr : .rule r ∈ es) :
    ((∃ x, r.directive = .ok x) ∧ ¬ r.HoldsCode) ∨
      (r.HoldsCode ∧ ∃ directive key kind, r.directive = .error (.notData directive key kind)) := by
  obtain ⟨directive, f, hdirective⟩ := directive_of_recorded (recorded_of_log h hr) hrow hrev
  rcases Rule.bag_cases directive r.args with ⟨data, hdata⟩ | ⟨⟨entry, hentry, hnone⟩, key, kind, herror⟩
  · refine .inl ⟨⟨f data, by rw [hdirective, hdata, map_ok]⟩, ?_⟩
    rintro ⟨entry, hentry, hcode⟩
    exact Rule.bag_error hentry (Argument.data?_eq_none_iff.2 hcode) hdata
  · exact .inr ⟨⟨entry, hentry, Argument.data?_eq_none_iff.1 hnone⟩, directive, key, kind,
      by rw [hdirective, herror, map_error]⟩

section Compiled

variable {d : Description} {v : Validator} (hv : compile functions d = .ok v)

include hv

/-- **A rule has a directive, or is left out for a reason**: it was recorded by a directive that can only be written,
or one of its arguments is a function or a validator. -/
theorem directive_ok_iff (hr : r ∈ v.rules) :
    ((∀ x, r.directive ≠ .ok x) ↔ r.WriteOnly functions d ∨ r.HoldsCode) ∧
    ∀ o, r.directive = .error o →
      (∃ name, o = .writeOnly name) ∨ ∃ directive key kind, o = .notData directive key kind := by
  obtain ⟨e, he, es, hes, hre⟩ := (mem_rules_iff hv).1 hr
  obtain ⟨row, hrow, -⟩ := call_of_log hes
  have hhidden : r.WriteOnly functions d → ∃ name, r.directive = .error (.writeOnly name) := by
    rintro ⟨e', -, row', es', hrow', hrev', hes', hre'⟩
    exact ⟨_, directive_of_writeOnly hrow' hrev' hes' hre'⟩
  cases hrev : row.reversible with
  | false =>
    have hwriteOnly : r.WriteOnly functions d := ⟨e, he, row, es, hrow, hrev, hes, hre⟩
    obtain ⟨name, herror⟩ := hhidden hwriteOnly
    rw [herror]
    refine ⟨⟨fun _ => .inl hwriteOnly, fun _ x hx => by cases hx⟩, fun o ho => ?_⟩
    cases ho
    exact .inl ⟨_, rfl⟩
  | true =>
    rcases directive_of_reversible hrow hrev hes hre with ⟨⟨x, hx⟩, hdata⟩ | ⟨hcode, directive, key, kind, herror⟩
    · rw [hx] at hhidden ⊢
      refine ⟨⟨fun h => absurd rfl (h x), ?_⟩, fun o ho => by cases ho⟩
      rintro (hwriteOnly | hcode)
      · obtain ⟨name, herror⟩ := hhidden hwriteOnly
        cases herror
      · exact absurd hcode hdata
    · rw [herror]
      refine ⟨⟨fun _ => .inr hcode, fun _ x hx => by cases hx⟩, fun o ho => ?_⟩
      cases ho
      exact .inr ⟨_, _, _, rfl⟩

/-- **A compiled validator is well formed.** -/
theorem wellFormed_of_compile : v.WellFormed := by
  have hsound := sound_of_compile hv
  have hset : ∀ set : ValueSet, set.Separate functions ∧ set.isEmpty = false → set.WellFormed := by
    rintro set ⟨hseparate, hne⟩
    refine ⟨?_, hseparate.valuesApart, hseparate.referencesApart⟩
    by_contra hempty
    obtain ⟨hvalues, hreferences⟩ := not_or.1 hempty
    simp [ValueSet.isEmpty, not_not.1 hvalues, not_not.1 hreferences] at hne
  constructor
  · intro r hr
    obtain ⟨e, -, es, hes, hre⟩ := (mem_rules_iff hv).1 hr
    rw [type_of_compile hv]
    exact wellFormed_of_log hes hre
  · intro hne
    obtain ⟨q, hq⟩ := List.exists_mem_of_ne_nil _ hne
    exact (hsound.replacements q hq).1
  · exact fun set hs => hset set (hsound.valid set hs)
  · exact fun set hs => hset set (hsound.invalid set hs)
  · intro hne
    obtain ⟨children, hc⟩ := Option.ne_none_iff_exists'.1 hne
    exact object_of_children hv hc

/-- **Compiled validators are well formed, and extraction skips nothing by accident.** Every validator inside a
compiled one is well formed and compiled from a description. A rule in it has no directive if and only if it was
recorded by a directive that can only be written, or one of its arguments is a function or a validator; and no other
reason is ever given. -/
theorem wellFormed_of_inside {u : Validator} (hu : Inside u v) :
    u.WellFormed ∧ (∃ c, compile functions c = .ok u) ∧
    ∀ c, compile functions c = .ok u → ∀ r ∈ u.rules,
      ((∀ x, r.directive ≠ .ok x) ↔ r.WriteOnly functions c ∨ r.HoldsCode) ∧
      ∀ o, r.directive = .error o →
        (∃ name, o = .writeOnly name) ∨ ∃ directive key kind, o = .notData directive key kind := by
  obtain ⟨c, hc⟩ := compile_of_inside hu hv
  exact ⟨wellFormed_of_compile hc, ⟨c, hc⟩, fun c hc r hr => directive_ok_iff hc hr⟩

end Compiled

/-- A validator that a condition hangs on is well formed, and the condition has no directive because it can only be
written. -/
theorem wellFormed_condition :
    ∃ v u, compile [] ⟨.object, [("when", .obj [("schema", .obj [("type", .str "number"), ("positive", .null)])])],
        none⟩ = .ok v ∧ Inside u v ∧ u.type = .number ∧ u.WellFormed ∧
      ∀ r ∈ v.rules, (∀ x, r.directive ≠ .ok x) ∧ (r.WriteOnly [] ⟨.object, [("when",
        .obj [("schema", .obj [("type", .str "number"), ("positive", .null)])])], none⟩ ∨ r.HoldsCode) := by
  have hv : compile [] ⟨.object, [("when", .obj [("schema", .obj [("type", .str "number"), ("positive", .null)])])],
      none⟩ = .ok _ := rfl
  refine ⟨_, _, hv, .argument List.mem_cons_self List.mem_cons_self .self, rfl, ?_, fun r hr => ?_⟩
  · exact (wellFormed_of_inside hv (.argument List.mem_cons_self List.mem_cons_self .self)).1
  · have hnone : ∀ x, r.directive ≠ .ok x := by
      rw [List.mem_singleton.1 hr]
      exact fun x hx => by cases hx
    exact ⟨hnone, ((wellFormed_of_inside hv .self).2.2 _ hv r hr).1.1 hnone⟩

end Rulebook
