import Rulebook.Batch
import Rulebook.Proofs.Emission
import Rulebook.Proofs.Sound

/-!
# Canonicalizing is a projection, up to ambiguous rules

What is extracted from a compiled validator compiles again and is extracted from the result, provided that the object
of each ambiguous rule is itself in the form of a bag: it starts with the limit, base or example in canonical form and
has further members (`Rule.Rereads`). Then the object is misread, but written again as it is.

* `canonical_of_rereads`: an ambiguous rule that rereads has the canonical directive of another rule.
* `layout_canonical`: the layout of a compiled node is canonical where ambiguous rules reread.
* `projection_iff`: a canonical form is its own canonical form, if and only if all ambiguous rules reread.
* `canonicalize_eq_self_iff`: a description is its own canonical form, if and only if it is canonical.
-/

namespace Rulebook

open Fallible Grammar Compile

variable {functions : Registry} {type : TypeTag} {name : String} {value : Json} {r s : Rule Validator}

/-! ## Ambiguous rules that reread -/

/-- The object of an ambiguous rule has the form of a bag: a limit, base or example in canonical form, and more. -/
structure Rule.Rereads {V : Type} (functions : Registry) (r : Rule V) : Prop where
  bag : ∃ (key : String) (first : Json) (rest : Table Json), r.args = [(key, .value (.obj ((key, first) :: rest)))] ∧
    rest ≠ [] ∧ (key = "example" ∨ ∃ o : Operand, o.Resolved functions ∧ first = o.toJson)

/-- The further members of an object stand beside the key of its first member. -/
theorem beside_of_distinct {key : String} {first : Json} {rest : Table Json} (hne : rest ≠ [])
    (hd : (Json.obj ((key, first) :: rest)).Distinct) : Table.Beside [key] rest := by
  obtain ⟨hkey, hrest⟩ := List.nodup_cons.1 hd.1
  exact ⟨hne, hrest, fun other ho => List.mem_singleton.1 ho ▸ hkey⟩

/-- The further members of a literal object stand beside the key of references, too. -/
theorem beside_of_literal {key : String} {first : Json} {rest : Table Json} (hne : rest ≠ [])
    (hd : (Json.obj ((key, first) :: rest)).Distinct)
    (hl : (Operand.literal (.obj ((key, first) :: rest))).Resolved functions) :
    Table.Beside [Reference.key, key] rest := by
  have hkey := beside_of_distinct hne hd
  have hnoref : Reference.key ∉ Table.names rest := by
    intro hm
    have hhas : Table.has ((key, first) :: rest) Reference.key = true :=
      (Table.has_iff_mem _ _).2 (List.mem_cons_of_mem _ hm)
    have hget : Table.get? ((key, first) :: rest) Reference.key = none := hl
    rw [Table.has, hget] at hhas
    cases hhas
  exact ⟨hkey.nonempty, hkey.distinct, List.forall_mem_cons.2 ⟨hnoref, hkey.apart⟩⟩

/-- An ambiguous rule that rereads has the canonical directive of another rule. -/
theorem canonical_of_rereads (h : Exposed functions type name value r) (hr : r.Rereads functions) :
    ∃ s, Canonical functions type name value s := by
  obtain ⟨key, first, rest, hargs, hne, hfirst⟩ := hr.bag
  cases h with
  | size hrow hcompare hl hd =>
    cases hargs
    obtain ⟨o, ho, rfl⟩ := hfirst.resolve_left (by decide)
    exact ⟨_, .sizeOptions hrow hcompare ho (beside_of_literal hne hd hl)⟩
  | multiple hl hd =>
    cases hargs
    obtain ⟨o, ho, rfl⟩ := hfirst.resolve_left (by decide)
    exact ⟨_, .multipleOptions ho (beside_of_literal hne hd hl)⟩
  | sample hm hd =>
    cases hargs
    exact ⟨_, .sampleOptions first (beside_of_distinct hne hd)⟩

/-- A limit that is read from a literal object is not written as this object, and has its options beside it. -/
theorem ofLimit_literal {V : Type} {directive key : String} {members : Table Json} {a : List (Argument V)}
    (hl : (Operand.literal (.obj members)).Resolved functions) (hd : (Json.obj members).Distinct)
    (h : Call.ofLimit functions directive key (.obj members) = .ok a) :
    ∃ (o : Operand) (options : Option (Table Json)), o.Resolved functions ∧ a = .ofOperand o :: optionArgs options ∧
      o.toJson ≠ .obj members ∧ ∀ rest ∈ options, Table.Beside [Reference.key, key] rest := by
  obtain ⟨o, options, ho, rfl, hopt⟩ := Call.ofLimit_ok h
  obtain ⟨b, rest, heq, hb⟩ := Call.ofLimit_obj h
  cases heq
  refine ⟨o, options, ho, rfl, fun he => ?_, (hopt hd).2⟩
  cases o with
  | literal w =>
    have hdepth := hb w rfl
    rw [show w = .obj members from he] at hdepth
    exact Nat.lt_irrefl _ hdepth
  | reference q =>
    have hnone : (Json.obj members).field? Reference.key = none := hl
    rw [← he] at hnone
    simp [Operand.toJson, Reference.toJson, Json.field?] at hnone

/-- A directive that is written again as it is, where an ambiguous rule has it, rereads the rule. -/
theorem rereads_of_directive (h : Exposed functions type name value r)
    (hlog : log functions type name value = .ok [.rule s]) (hs : s.directive = .ok (name, value)) :
    r.Rereads functions := by
  cases h with
  | @size _ operator members hrow hcompare hl hd =>
    obtain ⟨a, e, ha, he, heq⟩ := (log_of_row hrow _ rfl).1 hlog
    cases heq
    replace ha : Call.ofLimit functions name "limit" (.obj members) = .ok a := ha
    obtain ⟨o, options, ho, rfl, hne, hopt⟩ := ofLimit_literal hl hd ha
    simp only [effect, hrow.recording, Effect.ofSize_eq, hcompare, Bool.false_eq_true, if_false] at he
    cases he
    cases options with
    | none =>
      have hself := hs.symm.trans (Canonical.directive_size (o := o) hrow hcompare)
      exact absurd (congrArg Prod.snd (Except.ok.inj hself)).symm hne
    | some rest =>
      have hbeside := hopt rest rfl
      cases hs.symm.trans (Canonical.sizeOptions hrow hcompare ho hbeside).directive
      exact ⟨"limit", o.toJson, rest, rfl, hbeside.nonempty, .inr ⟨o, ho, rfl⟩⟩
  | @multiple members hl hd =>
    obtain ⟨a, e, ha, he, heq⟩ := (log_of_row row_multiple _ rfl).1 hlog
    cases heq
    replace ha : Call.ofLimit functions "multiple" "base" (.obj members) = .ok a := ha
    obtain ⟨o, options, ho, rfl, hne, hopt⟩ := ofLimit_literal hl hd ha
    simp only [effect, row_multiple.recording, Effect.limitBag_eq] at he
    cases he
    cases options with
    | none =>
      have hself := hs.symm.trans (Canonical.directive_multiple o)
      exact absurd (congrArg Prod.snd (Except.ok.inj hself)).symm hne
    | some rest =>
      have hbeside := hopt rest rfl
      have hcanonical : Canonical functions type "multiple" _ _ := .multipleOptions ho hbeside
      cases hs.symm.trans hcanonical.directive
      exact ⟨"base", o.toJson, rest, rfl, hbeside.nonempty, .inr ⟨o, ho, rfl⟩⟩
  | @sample members hm hd =>
    obtain ⟨a, e, ha, he, heq⟩ := (log_of_row row_example _ rfl).1 hlog
    cases heq
    replace ha : Call.ofOptionKeyed functions "example" ⟨"example", false, .options⟩ (.obj members) = .ok a := ha
    obtain ⟨v, options, rfl, hopt⟩ := Call.ofSample_ok ha
    obtain ⟨w, more, heq, hw⟩ := Call.ofSample_obj hm ha
    cases heq
    simp only [effect, row_example.recording, Effect.ofExample_eq] at he
    cases he
    cases options with
    | none =>
      cases hs.symm.trans (Canonical.directive_sample v)
      exact absurd hw (Nat.lt_irrefl _)
    | some rest =>
      have hbeside := (hopt hd).2 rest rfl
      have hcanonical : Canonical functions type "example" _ _ := .sampleOptions v hbeside
      cases hs.symm.trans hcanonical.directive
      exact ⟨"example", v, rest, rfl, hbeside.nonempty, .inl rfl⟩

/-! ## Canonical layouts of nodes -/

/-- The layout of a compiled node is canonical when its ambiguous rules reread. -/
theorem layout_canonical {d : Description} {v : Validator} (hd : d.Distinct) (hv : compile functions d = .ok v)
    (hread : ∀ r ∈ v.rules, r.Emitted → r.Ambiguous → r.Rereads functions) : v.layout.Canonical functions v.type := by
  have hsound := sound_of_compile hv
  refine ⟨hsound.valid, hsound.invalid, hsound.default, fun e he => ?_, Table.distinct_ofList _, hsound.replacements⟩
  obtain ⟨r, hr, hre⟩ := Validator.mem_emitted.1 (Table.mem_of_mem_ofList he)
  obtain ⟨entry, hentry, es, hes, hmem⟩ := (mem_rules_iff hv).1 hr
  rw [type_of_compile hv]
  rcases canonical_or_exposed (hd.value hentry) (recorded_of_log hes hmem) hre with hcanonical | hexposed
  · exact ⟨r, hcanonical⟩
  · exact canonical_of_rereads hexposed (hread r hr ⟨e, hre⟩ hexposed.ambiguous)

/-- A property of validators holds of all when it passes from children to their parent. -/
theorem Validator.induction_on_children {P : Validator → Prop}
    (h : ∀ v : Validator, (∀ children, v.children = some children → ∀ e ∈ children, P e.2) → P v) (v : Validator) :
    P v :=
  h v fun children _hc e _he => Validator.induction_on_children h e.2
termination_by sizeOf v
decreasing_by
  obtain ⟨type, presence, default, valid, invalid, rules, replacements, cs⟩ := v
  obtain ⟨name, child⟩ := e
  simp only at _hc
  subst _hc
  have hlt := List.sizeOf_lt_of_mem _he
  simp only [Prod.mk.sizeOf_spec, Validator.mk.sizeOf_spec, Option.some.sizeOf_spec] at hlt ⊢
  omega

theorem extractChildren_eq_map : ∀ children : List (String × Validator),
    extractChildren children = children.map fun e => (e.1, extract e.2)
  | [] => rfl
  | (name, v) :: rest => by rw [extractChildren, extractChildren_eq_map rest, List.map_cons]

theorem extract_eq (v : Validator) : extract v =
    ⟨v.type, Table.ofList v.directives, if v.type = .object then extractChildren? v.children else none⟩ := by
  cases v
  rfl

/-- What is extracted is canonical when the layout of every node is. -/
theorem canonical_extract {d : Description} {v : Validator} (hv : compile functions d = .ok v) (hd : d.Distinct)
    (h : ∀ u, Node u v → u.layout.Canonical functions u.type) : (extract v).Canonical functions := by
  induction v using Validator.induction_on_children generalizing d with
  | h v ih =>
    have hself := h v .self
    have hdirectives : Table.ofList v.directives = v.layout.directives :=
      (directives_extract v).symm.trans (directives_extract_compiled hv)
    rw [extract_eq, hdirectives]
    cases hc : v.children with
    | none =>
      have hnone : (if v.type = .object then extractChildren? none else none) = none := by split <;> rfl
      rw [hnone]
      exact .leaf hself
    | some children =>
      have hobj := object_of_children hv hc
      rw [hobj] at hself ⊢
      rw [if_pos rfl, extractChildren?, extractChildren_eq_map]
      refine .node hself fun p hp => ?_
      obtain ⟨e, he, rfl⟩ := List.mem_map.1 hp
      obtain ⟨c, hcd, hcv⟩ := compile_of_child hd hv hc he
      exact ih children hc e he hcv hcd fun u hu => h u (.child hc he hu)

/-! ## Nodes of what is extracted -/

/-- Where a description is reproduced, each node of it is. -/
theorem reproduced_of_node {u v : Validator} (hu : Node u v) : ∀ {d : Description} {w : Validator}, d.Distinct →
    compile functions d = .ok v → compile functions (extract v) = .ok w → extract w = extract v →
    ∃ w', compile functions (extract u) = .ok w' ∧ extract w' = extract u := by
  induction hu with
  | self => exact fun _ _ hw hback => ⟨_, hw, hback⟩
  | @child v children e hc he _ ih =>
    intro d w hd hv hw hback
    obtain ⟨c, hcd, hcv⟩ := compile_of_child hd hv hc he
    have hproperties : (extract v).properties = some (extractChildren children) := by
      rw [extract_eq, object_of_children hv hc, hc]
      rfl
    -- the children of the second validator are compiled from the properties and written as them
    obtain ⟨cs, es, hseed, -, hfold⟩ := compile_ok_iff.1 hw
    cases hseed with
    | plain hplain => exact absurd ((extract_eq v).symm ▸ object_of_children hv hc) hplain
    | bare hbare => rw [hproperties] at hbare; cases hbare
    | @object properties again hobj hp hall =>
      have hwchildren : w.children = some again := by rw [hfold, foldl_children]
      have hagain : extractChildren again = properties := by
        have hw' : (extract w).properties = some (extractChildren again) := by
          rw [extract_eq, object_of_children hw hwchildren, hwchildren]
          rfl
        rw [hback, hp] at hw'
        exact (Option.some.inj hw').symm
      rw [hproperties] at hp
      cases hp
      rw [← hagain, extractChildren_eq_map, List.forall₂_map_left_iff, List.forall₂_same] at hall
      have hmem : (e.1, extract e.2) ∈ extractChildren again := by
        rw [hagain, extractChildren_eq_map]
        exact List.mem_map_of_mem he
      rw [extractChildren_eq_map] at hmem
      obtain ⟨f, hf, hfe⟩ := List.mem_map.1 hmem
      have hextract : extract f.2 = extract e.2 := congrArg Prod.snd hfe
      exact ih hcd hcv (hextract ▸ (hall f hf).2) hextract

/-! ## The projection -/

/-- A written directive of a node that is reproduced is that of the only rule that it records. -/
theorem log_of_reproduced {u w : Validator} (hw : compile functions (extract u) = .ok w)
    (hback : extract w = extract u) (he : (name, value) ∈ (extract u).directives)
    (hapart : name ∉ leadingNames ++ ["replace"]) {category : Category} {recording : Recording}
    (hrow : Row name category recording) (hpattern : category ≠ .pattern) (hsign : ∀ fixed, recording ≠ .sign fixed) :
    ∃ s, log functions u.type name value = .ok [.rule s] ∧ s.directive = .ok (name, value) := by
  have htype : (extract u).type = u.type := congrArg Description.type (extract_eq u)
  have hnames : Table.Distinct (extract u).directives := directives_extract u ▸ Table.distinct_ofList _
  -- the directive is written for a rule of the second validator
  rw [← hback, directives_extract_compiled hw, Layout.mem_directives_iff hapart] at he
  obtain ⟨s, hs, hsd⟩ := Validator.mem_emitted.1 (Table.mem_of_mem_ofList he)
  -- and this rule is recorded by the directive of the same name, which is itself
  obtain ⟨⟨source, given⟩, hf, es, hes, hse⟩ := (mem_rules_iff hw).1 hs
  obtain rfl : source = name := (named_of_directive (recorded_of_log hes hse) hsd).source_eq hrow hpattern hsign
  have hgiven : (source, value) ∈ (extract u).directives := by
    rw [← hback, directives_extract_compiled hw, Layout.mem_directives_iff hapart]
    exact he
  cases (Table.get?_of_mem hnames hf).symm.trans (Table.get?_of_mem hnames hgiven)
  cases log_of_mem_rule hes hse
  exact ⟨s, htype ▸ hes, hsd⟩

/-- An ambiguous rule of a node that is reproduced rereads. -/
theorem rereads_of_reproduced {d : Description} {u w : Validator} (hd : d.Distinct) (hu : compile functions d = .ok u)
    (hw : compile functions (extract u) = .ok w) (hback : extract w = extract u) (hr : r ∈ u.rules)
    (hx : r.directive = .ok (name, value)) (ha : r.Ambiguous) : r.Rereads functions := by
  obtain ⟨⟨source, given⟩, he, es, hes, hre⟩ := (mem_rules_iff hu).1 hr
  have hapart := apart_of_directive hes hre hx
  have hmem : r.method ≠ "pattern" → (name, value) ∈ (extract u).directives := fun hm =>
    mem_extract_of_ne_pattern hu hd.names hr hm hx
  rcases canonical_or_exposed (hd.value he) (recorded_of_log hes hre) hx with hcanonical | hexposed
  · exact absurd rfl (misread_of_ambiguous ha hx hcanonical.log_eq List.mem_cons_self).ne
  · rw [← type_of_compile hu] at hexposed
    obtain ⟨s, hlog, hs⟩ : ∃ s, log functions u.type name value = .ok [.rule s] ∧ s.directive = .ok (name, value) := by
      cases hexposed with
      | size hrow hcompare hl hd =>
        exact log_of_reproduced hw hback (hmem (by simp only; split <;> decide)) hapart hrow (by decide) (by simp)
      | multiple hl hd =>
        exact log_of_reproduced hw hback (hmem (by simp)) hapart row_multiple (by decide) (by simp)
      | sample hm hd =>
        exact log_of_reproduced hw hback (hmem (by simp)) hapart row_example (by decide) (by simp)
    exact rereads_of_directive hexposed hlog hs

/-- A canonical description is its own canonical form. -/
theorem Description.Canonical.canonicalize_eq {d : Description} (h : d.Canonical functions) :
    canonicalize functions d = .ok d := by
  obtain ⟨v, hv, hback⟩ := h.reproduced
  rw [canonicalize, hv, map_ok, hback]

/-- What is extracted is canonical, where the ambiguous rules of all nodes reread. -/
theorem canonical_of_rereads_all {d : Description} {v : Validator} (hd : d.Distinct) (hv : compile functions d = .ok v)
    (h : ∀ u, Node u v → ∀ r ∈ u.rules, r.Emitted → r.Ambiguous → r.Rereads functions) :
    (extract v).Canonical functions := by
  refine canonical_extract hv hd fun u hu => ?_
  obtain ⟨c, hc, hcu⟩ := compile_of_node hu hd hv
  exact layout_canonical hc hcu (h u hu)

/-- The ambiguous rules of all nodes reread, where what is extracted is reproduced. -/
theorem rereads_all_of_reproduced {d : Description} {v w : Validator} (hd : d.Distinct)
    (hv : compile functions d = .ok v) (hw : compile functions (extract v) = .ok w) (hback : extract w = extract v) :
    ∀ u, Node u v → ∀ r ∈ u.rules, r.Emitted → r.Ambiguous → r.Rereads functions := by
  rintro u hu r hr ⟨⟨n, x⟩, hx⟩ ha
  obtain ⟨c, hc, hcu⟩ := compile_of_node hu hd hv
  obtain ⟨w', hw', hback'⟩ := reproduced_of_node hu hd hv hw hback
  exact rereads_of_reproduced hc hcu hw' hback' hr hx ha

/-- **Canonicalizing is a projection, exactly up to ambiguous rules that do not reread.** -/
theorem projection_iff {d : Description} {v : Validator} (hd : d.Distinct) (hv : compile functions d = .ok v) :
    canonicalize functions (extract v) = .ok (extract v) ↔
      ∀ u, Node u v → ∀ r ∈ u.rules, r.Emitted → r.Ambiguous → r.Rereads functions := by
  constructor
  · intro h
    obtain ⟨w, hw, hback⟩ := map_eq_ok.1 h
    exact rereads_all_of_reproduced hd hv hw hback
  · intro h
    exact (canonical_of_rereads_all hd hv h).canonicalize_eq

/-- An object that is the only limit comes back as a bag without a limit. -/
theorem not_projected_lone_object :
    canonicalize [] ⟨.number, [("min", .obj [("limit", .obj [("a", .null)])])], none⟩ =
        .ok ⟨.number, [("min", .obj [("a", .null)])], none⟩ ∧
      canonicalize [] ⟨.number, [("min", .obj [("a", .null)])], none⟩ ≠
        .ok ⟨.number, [("min", .obj [("a", .null)])], none⟩ := by
  refine ⟨rfl, fun hback => ?_⟩
  have hdistinct : Description.Distinct ⟨.number, [("min", .obj [("limit", .obj [("a", .null)])])], none⟩ := by
    simp [Description.Distinct, Json.DistinctMembers, Json.Distinct, Table.Distinct]
  have hread := (projection_iff hdistinct rfl).1 hback _ .self _ (List.mem_singleton_self _) ⟨_, rfl⟩
    (.size _ _ (.inl rfl))
  obtain ⟨key, first, rest, hargs, hne, -⟩ := hread.bag
  have hargs : "limit" = key ∧ ("a" = key ∧ Json.null = first) ∧ rest = [] := by simpa using hargs
  exact hne hargs.2.2

/-! ## Exactly reproduced descriptions -/

/-- **A description is its own canonical form exactly when it is canonical.** -/
theorem canonicalize_eq_self_iff {d : Description} (hd : d.Distinct) :
    canonicalize functions d = .ok d ↔ d.Canonical functions := by
  constructor
  · intro h
    obtain ⟨v, hv, hback⟩ := map_eq_ok.1 h
    have hread := rereads_all_of_reproduced hd hv (hback.symm ▸ hv) rfl
    exact hback ▸ canonical_of_rereads_all hd hv hread
  · exact fun h => h.canonicalize_eq

/-- A default, a rule and a property in canonical form are reproduced. -/
theorem canonicalize_object :
    canonicalize [] ⟨.object, [("default", .null), ("min", .obj [("limit", .null), ("a", .null)])],
        some [("b", ⟨.string, [], none⟩)]⟩ =
      .ok ⟨.object, [("default", .null), ("min", .obj [("limit", .null), ("a", .null)])],
        some [("b", ⟨.string, [], none⟩)]⟩ := by
  have hobject : Layout.Canonical [] .object ⟨none, none, some (.literal .null), none,
      [("min", .obj [("limit", .null), ("a", .null)])], []⟩ := by
    refine ⟨by simp, by simp, by simp [Operand.Resolved, Json.field?], fun e he => ?_, by decide, by simp⟩
    rw [List.mem_singleton.1 he]
    have hbeside : Table.Beside [Reference.key, "limit"] [("a", Json.null)] := ⟨by simp, by decide, by decide⟩
    exact ⟨_, .sizeOptions (o := .literal .null) (row_size .greaterOrEqual) rfl rfl hbeside⟩
  have hstring : Layout.Canonical [] .string ⟨none, none, none, none, [], []⟩ :=
    ⟨by simp, by simp, by simp, by simp, by decide, by simp⟩
  refine (canonicalize_eq_self_iff ?_).2 (.node hobject fun p hp => ?_)
  · simp [Description.Distinct, Description.DistinctAll, Json.DistinctMembers, Json.Distinct, Table.Distinct]
  · rw [List.mem_singleton.1 hp]
    exact .leaf hstring

/-- An object without a key `$ref` is not reproduced when it is a bag with a limit only. -/
theorem canonicalize_lone_limit :
    (Json.obj [("limit", .null)]).field? Reference.key = none ∧
      canonicalize [] ⟨.number, [("min", .obj [("limit", .null)])], none⟩ = .ok ⟨.number, [("min", .null)], none⟩ ∧
      canonicalize [] ⟨.number, [("min", .obj [("limit", .null)])], none⟩ ≠
        .ok ⟨.number, [("min", .obj [("limit", .null)])], none⟩ := by
  refine ⟨rfl, rfl, fun h => ?_⟩
  cases h

end Rulebook
