import Rulebook.Proofs.Inverse
import Rulebook.Proofs.Reproduction

/-!
# The rules that extraction writes

Extraction writes the directives of a node into a map, so a later one takes the place of an earlier one of its name.
The name of a directive tells the directive that its rule was recorded by (`named_of_directive`), and hence the rule
(`eq_of_same_name`), but for patterns: `pattern` and `regex` are both recorded as patterns and come back as `pattern`.

* `emitted_iff`: extraction writes the directives of all rules of a node under names of their own, if and only if the
  node does not hold two different patterns.
-/

namespace Rulebook

open Fallible Grammar Compile

variable {functions : Registry} {type : TypeTag} {name source : String} {value given : Json} {r s : Rule Validator}

/-! ## Names -/

/-- How the name of a directive goes back to that of the directive by which its rule was recorded. -/
inductive Named (name : String) : String → Rule Validator → Prop
  /-- The name is the same, and stands neither for a sign nor for a pattern. -/
  | own {category : Category} {recording : Recording} {r : Rule Validator} : Row name category recording →
      category ≠ .pattern → (∀ fixed, recording ≠ .sign fixed) → Named name name r
  /-- A sign tells the rule itself. -/
  | sign (source : String) : name = "positive" ∨ name = "negative" →
      Named name source { method := "sign", args := [("sign", .value (.str name))] }
  /-- A rule about keys has no arguments. -/
  | keys (source : String) : name = "regex" → Named name source { method := "regex" }
  | pattern (source : String) {r : Rule Validator} : name = "pattern" → r.method = "pattern" → Named name source r

/-- A name that stands neither for a sign nor for a pattern goes back to itself. -/
theorem Named.source_eq (h : Named name source r) {category : Category} {recording : Recording}
    (hrow : Row name category recording) (hpattern : category ≠ .pattern) (hsign : ∀ fixed, recording ≠ .sign fixed) :
    source = name := by
  cases h with
  | own => rfl
  | sign _ hname => exact absurd (hrow.unique (row_sign hname)).2 (hsign _)
  | keys _ hname => exact absurd (hrow.unique (hname ▸ row_regex)).1 hpattern
  | pattern _ hname => exact absurd (hrow.unique (hname ▸ row_pattern)).1 hpattern

/-- The name of the directive of a rule whose method has a row of its own. -/
theorem Rule.name_of_row {category : Category} {recording : Recording} (hrow : Row r.method category recording)
    (hs : recording ≠ .sign none) (hl : recording ≠ .size .equal) (hd : r.directive = .ok (name, value)) :
    name = r.method := by
  rw [directive_self hrow hs hl] at hd
  obtain ⟨data, -, hd⟩ := map_eq_ok.1 hd
  exact (congrArg Prod.fst hd).symm

/-- **The name of a directive goes back to the one by which its rule was recorded.** -/
theorem named_of_directive (h : Recorded functions type given source r) (hd : r.directive = .ok (name, value)) :
    Named name source r := by
  cases h.shape with
  | own hrow hpattern hsign hsize hm _ =>
    subst hm
    obtain rfl := Rule.name_of_row hrow (hsign none) hsize hd
    exact .own hrow hpattern hsign
  | @sign _ s _ hs =>
    have hname : name = s := by
      rcases hs with rfl | rfl
      · cases hd
        rfl
      · cases hd
        rfl
    rw [← hname] at hs ⊢
    exact .sign source hs
  | size args hrow hcompare =>
    have hname := Rule.directiveName_size args hcompare
    rw [← hrow.size_name] at hname
    rw [Rule.directive_of_row hrow hname (by split <;> simp)] at hd
    obtain ⟨data, -, hd⟩ := map_eq_ok.1 hd
    obtain rfl := congrArg Prod.fst hd
    exact .own hrow (by decide) (by simp)
  | keys _ _ => exact .keys source (Rule.name_of_row row_regex (by decide) (by decide) hd)
  | pattern _ args => exact .pattern source (Rule.name_of_row row_pattern (by decide) (by decide) hd) rfl
  | hidden hrow hh hm => exact absurd hd (directive_of_hidden hrow hh hm)

/-- A directive that records a rule records nothing else. -/
theorem log_of_mem_rule {es : List (Effect Validator)} (h : log functions type name value = .ok es)
    (hr : .rule r ∈ es) : es = [.rule r] := by
  cases records_of_log h with
  | rule hrec =>
    cases List.mem_singleton.1 hr
    rfl
  | presence p => simp at hr
  | default ho => simp at hr
  | valid hne hos => simp at hr
  | invalid hne hos => simp at hr
  | replacements hrs => simp at hr

/-- The directive of a rule is none of those before and behind the rules. -/
theorem apart_of_directive {es : List (Effect Validator)} (h : log functions type source given = .ok es)
    (hr : .rule r ∈ es) (hd : r.directive = .ok (name, value)) : name ∉ leadingNames ++ ["replace"] := by
  have hnamed := named_of_directive (recorded_of_log h hr) hd
  obtain rfl := log_of_mem_rule h hr
  cases hnamed with
  | own _ _ _ => exact apart_of_log h
  | sign _ hname => rcases hname with rfl | rfl <;> decide
  | keys _ hname => rw [hname]; decide
  | pattern _ hname _ => rw [hname]; decide

/-- **Rules of a node with directives of one name are the same, or patterns.** -/
theorem eq_of_same_name {d : Description} {v : Validator} (hnames : Table.Distinct d.directives)
    (hv : compile functions d = .ok v) (hr : r ∈ v.rules) (hs : s ∈ v.rules) {x y : Json}
    (hx : r.directive = .ok (name, x)) (hy : s.directive = .ok (name, y)) :
    r = s ∨ (r.method = "pattern" ∧ s.method = "pattern") := by
  obtain ⟨e, he, es, hes, hre⟩ := (mem_rules_iff hv).1 hr
  obtain ⟨f, hf, fs, hfs, hsf⟩ := (mem_rules_iff hv).1 hs
  have hnr := named_of_directive (recorded_of_log hes hre) hx
  have hns := named_of_directive (recorded_of_log hfs hsf) hy
  -- where the rules come from directives of the same name, these are the same directive
  have hown : ∀ {category : Category} {recording : Recording}, Row name category recording → category ≠ .pattern →
      (∀ fixed, recording ≠ .sign fixed) → r = s := by
    intro category recording hrow hpattern hsign
    have hname := hnr.source_eq hrow hpattern hsign
    have hname' := hns.source_eq hrow hpattern hsign
    have hget := Table.get?_of_mem hnames (show (name, e.2) ∈ d.directives from hname ▸ he)
    have hget' := Table.get?_of_mem hnames (show (name, f.2) ∈ d.directives from hname' ▸ hf)
    obtain rfl : e = f := Prod.ext (hname.trans hname'.symm) (Option.some.inj (hget.symm.trans hget'))
    cases hes.symm.trans hfs
    rw [log_of_mem_rule hfs hre] at hsf
    cases List.mem_singleton.1 hsf
    rfl
  generalize e.1 = source at hnr
  generalize f.1 = source' at hns
  cases hnr with
  | own hrow hpattern hsign => exact .inl (hown hrow hpattern hsign)
  | sign _ hname =>
    cases hns with
    | own hrow hpattern hsign => exact .inl (hown hrow hpattern hsign)
    | sign _ _ => exact .inl rfl
    | keys _ hregex => rcases hname with rfl | rfl <;> simp at hregex
    | pattern _ hpattern _ => rcases hname with rfl | rfl <;> simp at hpattern
  | keys _ hname =>
    subst hname
    cases hns with
    | own hrow hpattern hsign => exact .inl (hown hrow hpattern hsign)
    | sign _ hname => simp at hname
    | keys _ _ => exact .inl rfl
    | pattern _ hpattern _ => simp at hpattern
  | pattern _ hname hmethod =>
    subst hname
    cases hns with
    | own hrow hpattern hsign => exact .inl (hown hrow hpattern hsign)
    | sign _ hname => simp at hname
    | keys _ hregex => simp at hregex
    | pattern _ _ hmethod' => exact .inr ⟨hmethod, hmethod'⟩

/-! ## The directives of a node -/

namespace Validator

/-- The directives of the rules, as extraction writes them one after another. -/
def emitted (v : Validator) : List (String × Json) := v.rules.filterMap fun rule => rule.directive.toOption

/-- The layout of what extraction writes. -/
def layout (v : Validator) : Layout :=
  { valid := v.valid
    invalid := v.invalid
    default := v.default
    presence := v.presence
    rules := Table.ofList v.emitted
    replacements := v.replacements }

theorem mem_emitted {v : Validator} {e : String × Json} : e ∈ v.emitted ↔ ∃ r ∈ v.rules, r.directive = .ok e := by
  simp only [emitted, List.mem_filterMap, toOption_eq_some]

/-- Where the rules have names of their own, the layout holds what extraction writes. -/
theorem ofList_directives {v : Validator} (h : ∀ e ∈ v.emitted, e.1 ∉ leadingNames ++ ["replace"]) :
    Table.ofList v.directives = v.layout.directives := by
  have hnames : ∀ name ∈ Table.names v.emitted, name ∉ leadingNames ++ ["replace"] := by
    intro name hn
    obtain ⟨e, he, rfl⟩ := List.mem_map.1 hn
    exact h e he
  have hfixed : (leadingNames ++ ["replace"]).Nodup := by decide
  have hleading := Table.ofList_eq_self ((List.nodup_append.1 hfixed).1.sublist v.layout.names_leading)
  have htrailing := Table.ofList_eq_self ((List.nodup_append.1 hfixed).2.1.sublist v.layout.names_trailing)
  have hsplit : v.directives = v.layout.leading ++ v.emitted ++ v.layout.trailing := rfl
  rw [hsplit, Table.ofList_append, Table.ofList_append, hleading, htrailing]
  · rfl
  · exact fun name hn hm => hnames name hn (List.mem_append_left _ (v.layout.names_leading.subset hm))
  · intro name hn hm
    have hn := v.layout.names_trailing.subset hn
    rw [Table.names_append] at hm
    rcases List.mem_append.1 hm with hm | hm
    · exact (List.nodup_append.1 hfixed).2.2 name (v.layout.names_leading.subset hm) name hn rfl
    · exact hnames name hm (List.mem_append_right _ hn)

end Validator

/-- Extraction makes a map of the directives of a validator. -/
theorem directives_extract (v : Validator) : (extract v).directives = Table.ofList v.directives := by
  cases v
  rfl

section Compiled

variable {d : Description} {v : Validator} (hv : compile functions d = .ok v)

include hv

/-- The directive of a rule of a compiled validator is none of those before and behind the rules. -/
theorem apart_of_emitted {e : String × Json} (he : e ∈ v.emitted) : e.1 ∉ leadingNames ++ ["replace"] := by
  obtain ⟨r, hr, hd⟩ := Validator.mem_emitted.1 he
  obtain ⟨_, _, es, hes, hre⟩ := (mem_rules_iff hv).1 hr
  exact apart_of_directive hes hre hd

/-- What extraction writes of a compiled validator is its layout. -/
theorem directives_extract_compiled : (extract v).directives = v.layout.directives := by
  rw [directives_extract]
  exact Validator.ofList_directives fun e he => apart_of_emitted hv he

/-- The directive of a rule is written when it is in the map of such directives. -/
theorem mem_extract_iff {e : String × Json} (he : e ∈ v.emitted) :
    e ∈ (extract v).directives ↔ e ∈ Table.ofList v.emitted := by
  rw [directives_extract_compiled hv]
  exact Layout.mem_directives_iff (apart_of_emitted hv he)

/-- The directive of a rule is written where all rules that share its name are the same. -/
theorem mem_extract_of_unique (hr : r ∈ v.rules) (hd : r.directive = .ok (name, value))
    (hall : ∀ s ∈ v.rules, ∀ y, s.directive = .ok (name, y) → s = r) : (name, value) ∈ (extract v).directives := by
  have hmem : (name, value) ∈ v.emitted := Validator.mem_emitted.2 ⟨r, hr, hd⟩
  refine (mem_extract_iff hv hmem).2 (Table.mem_ofList_of_unique hmem fun y hy => ?_)
  obtain ⟨s, hs, hsy⟩ := Validator.mem_emitted.1 hy
  rw [hall s hs y hsy] at hsy
  cases hsy.symm.trans hd
  rfl

/-- The directive of a rule other than a pattern is written. -/
theorem mem_extract_of_ne_pattern (hnames : Table.Distinct d.directives) (hr : r ∈ v.rules)
    (hm : r.method ≠ "pattern") (hd : r.directive = .ok (name, value)) : (name, value) ∈ (extract v).directives := by
  refine mem_extract_of_unique hv hr hd fun s hs y hy => ?_
  rcases eq_of_same_name hnames hv hs hr hy hd with heq | ⟨-, hm'⟩
  · exact heq
  · exact absurd hm' hm

end Compiled

/-! ## Patterns -/

/-- A rule that holds only data and belongs to a directive that can be rebuilt: extraction has a directive for it. -/
def Rule.Emitted (r : Rule Validator) : Prop := ∃ d, r.directive = .ok d

/-- Any two patterns with a directive are the same rule. -/
def Validator.SinglePattern (v : Validator) : Prop :=
  ∀ r ∈ v.rules, ∀ s ∈ v.rules, r.method = "pattern" → s.method = "pattern" → r.Emitted → s.Emitted → r = s

/-- The directive of a pattern is `pattern`. -/
theorem name_of_pattern (hm : r.method = "pattern") (hd : r.directive = .ok (name, value)) : name = "pattern" :=
  (Rule.name_of_row (hm ▸ row_pattern) (by decide) (by decide) hd).trans hm

/-- A pattern is told by its directive. -/
theorem pattern_unique {d : Description} {v : Validator} (hdistinct : d.Distinct) (hv : compile functions d = .ok v)
    (hr : r ∈ v.rules) (hs : s ∈ v.rules) (hm : r.method = "pattern") (hm' : s.method = "pattern")
    (hx : r.directive = .ok (name, value)) (hy : s.directive = .ok (name, value)) : r = s := by
  have hcanonical : ∀ q ∈ v.rules, q.method = "pattern" → q.directive = .ok (name, value) →
      Canonical functions d.type name value q := by
    intro q hq hmethod hdirective
    obtain ⟨e, he, es, hes, hqe⟩ := (mem_rules_iff hv).1 hq
    refine (canonical_or_exposed (hdistinct.value he) (recorded_of_log hes hqe) hdirective).resolve_right fun hexp => ?_
    cases hexp.ambiguous with
    | size _ _ hsize => rcases hsize with rfl | rfl <;> simp at hmethod
    | multiple => simp at hmethod
    | sample => simp at hmethod
  have hlog := (hcanonical r hr hm hx).log_eq
  rw [(hcanonical s hs hm' hy).log_eq] at hlog
  cases hlog
  rfl

/-- **Extraction keeps the rules of a node apart, exactly up to patterns.** At every node of a compiled validator:
different rules are written under different names, if and only if the node does not hold two different patterns; the
directives of all rules are written, if and only if it does not; and that of a rule other than a pattern always is. -/
theorem emitted_iff {d : Description} {u v : Validator} (hd : d.Distinct) (hv : compile functions d = .ok v)
    (hu : Node u v) :
    ((∀ r ∈ u.rules, ∀ s ∈ u.rules, r ≠ s → ∀ n x m y, r.directive = .ok (n, x) → s.directive = .ok (m, y) → n ≠ m) ↔
      u.SinglePattern) ∧
    ((∀ r ∈ u.rules, ∀ n x, r.directive = .ok (n, x) → (n, x) ∈ (extract u).directives) ↔ u.SinglePattern) ∧
    (∀ r ∈ u.rules, r.method ≠ "pattern" → ∀ n x, r.directive = .ok (n, x) → (n, x) ∈ (extract u).directives) := by
  obtain ⟨c, hc, hcu⟩ := compile_of_node hu hd hv
  have hsame : ∀ {r s : Rule Validator} {n : String} {x y : Json}, r ∈ u.rules → s ∈ u.rules →
      r.directive = .ok (n, x) → s.directive = .ok (n, y) → r = s ∨ (r.method = "pattern" ∧ s.method = "pattern") :=
    fun hr hs hx hy => eq_of_same_name hc.names hcu hr hs hx hy
  refine ⟨⟨fun h r hr s hs hm hm' ⟨⟨n, x⟩, hx⟩ ⟨⟨m, y⟩, hy⟩ => ?_, fun h r hr s hs hne n x m y hx hy hnm => ?_⟩,
    ⟨fun h r hr s hs hm hm' ⟨⟨n, x⟩, hx⟩ ⟨⟨m, y⟩, hy⟩ => ?_, fun h r hr n x hx => ?_⟩, fun r hr hm n x hx => ?_⟩
  · by_contra hne
    exact h r hr s hs hne n x m y hx hy ((name_of_pattern hm hx).trans (name_of_pattern hm' hy).symm)
  · subst hnm
    rcases hsame hr hs hx hy with heq | ⟨hm, hm'⟩
    · exact hne heq
    · exact hne (h r hr s hs hm hm' ⟨_, hx⟩ ⟨_, hy⟩)
  · obtain rfl := name_of_pattern hm hx
    obtain rfl := name_of_pattern hm' hy
    have hget := Table.get?_of_mem (directives_extract u ▸ Table.distinct_ofList _) (h r hr _ x hx)
    have hget' := Table.get?_of_mem (directives_extract u ▸ Table.distinct_ofList _) (h s hs _ y hy)
    cases hget.symm.trans hget'
    exact pattern_unique hc hcu hr hs hm hm' hx hy
  · refine mem_extract_of_unique hcu hr hx fun s hs y hy => ?_
    rcases hsame hs hr hy hx with heq | ⟨hm, hm'⟩
    · exact heq
    · exact h s hs r hr hm hm' ⟨_, hy⟩ ⟨_, hx⟩
  · exact mem_extract_of_ne_pattern hcu hc.names hr hm hx

/-- Of a pattern and a regular expression, only the later one is written. -/
theorem not_kept_apart_patterns :
    ∃ v, compile [] ⟨.string, [("pattern", .str "a"), ("regex", .str "b")], none⟩ = .ok v ∧
      (extract v).directives = [("pattern", .str "b")] ∧
      ¬ ∀ r ∈ v.rules, ∀ n x, r.directive = .ok (n, x) → (n, x) ∈ (extract v).directives := by
  refine ⟨_, rfl, rfl, fun hall => ?_⟩
  have hdistinct : Description.Distinct ⟨.string, [("pattern", .str "a"), ("regex", .str "b")], none⟩ := by
    simp [Description.Distinct, Json.DistinctMembers, Json.Distinct, Table.Distinct]
  have hv : compile [] ⟨.string, [("pattern", .str "a"), ("regex", .str "b")], none⟩ = .ok _ := rfl
  have hsingle := (emitted_iff hdistinct hv .self).2.1.1 hall
  have heq := hsingle _ List.mem_cons_self _ (List.mem_cons_of_mem _ List.mem_cons_self) rfl rfl ⟨_, rfl⟩ ⟨_, rfl⟩
  simp only [Rule.mk.injEq, List.cons.injEq, Prod.mk.injEq, Argument.pattern.injEq, true_and, and_true] at heq
  exact absurd (congrArg Pattern.source heq) (by decide)

end Rulebook
