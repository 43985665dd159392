import Rulebook.Batch
import Rulebook.Proofs.Vocabulary

/-!
# Extraction recovers no more than was written

Extraction writes at most one directive for each thing that it may tell of a validator (`length_directives_le`): a set
of values, the default, the presence, a rule, or the replacements. A directive records at most one thing more to tell
(`told_of_log`), by induction over the directives a node has at least as many directives as there are things to tell,
and by induction over the children a description has at least as many as are recovered (`count_extract_le`).

* `recovered_le`: what the check of a file reports as recovered is at most what it reports as written.
-/

namespace Rulebook

open Fallible Grammar Compile

variable {functions : Registry} {type : TypeTag} {name : String} {value : Json}

/-! ## Things to tell -/

namespace Validator

/-- The number of things that extraction may tell of a validator, its children apart. -/
def told (v : Validator) : Nat :=
  v.valid.isSome.toNat + v.invalid.isSome.toNat + v.default.isSome.toNat + v.presence.isSome.toNat + v.rules.length
    + (!v.replacements.isEmpty).toNat

/-- Extraction writes at most one directive for each thing to tell. -/
theorem length_directives_le (v : Validator) : v.directives.length ≤ v.told := by
  have hset (name : String) (set : Option ValueSet) : (setDirective name set).length ≤ set.isSome.toNat := by
    cases set with
    | none => exact Nat.le_refl _
    | some set =>
      simp only [setDirective]
      split <;> simp
  have hvalid := hset "valid" v.valid
  have hinvalid := hset "invalid" v.invalid
  have hdefault : (v.default.map fun operand => ("default", operand.toJson)).toList.length =
      v.default.isSome.toNat := by
    cases v.default <;> rfl
  have hpresence : (v.presence.map fun p => (p.text, Json.bool true)).toList.length = v.presence.isSome.toNat := by
    cases v.presence <;> rfl
  have hrules : (v.rules.filterMap fun rule => rule.directive.toOption).length ≤ v.rules.length :=
    List.length_filterMap_le _ _
  have hreplace : (if v.replacements.isEmpty then []
      else [("replace", Json.arr (v.replacements.map Replacement.toJson))]).length =
        (!v.replacements.isEmpty).toNat := by
    cases v.replacements <;> rfl
  simp only [directives, told, List.length_append]
  omega

/-- An effect adds at most one thing to tell. -/
theorem told_record_le (v : Validator) (e : Effect Validator) : (v.record e).told ≤ v.told + 1 := by
  cases e with
  | rule r =>
    simp only [record, told, List.length_append, List.length_singleton]
    omega
  | replacement r =>
    have hle := Bool.toNat_le (!(v.replacements ++ [r]).isEmpty)
    simp only [record, told]
    omega
  | presence p | default o | valid os | invalid os =>
    simp only [record, told, Option.isSome_some, Bool.toNat_true]
    omega

/-- Any number of replacements is a single thing to tell. -/
theorem told_replacements_le (v : Validator) (rs : List Replacement) :
    { v with replacements := rs : Validator }.told ≤ v.told + 1 := by
  have hle := Bool.toNat_le (!rs.isEmpty)
  simp only [told]
  omega

end Validator

/-- **A directive adds at most one thing to tell.** -/
theorem told_of_log {es : List (Effect Validator)} (h : log functions type name value = .ok es) (v : Validator) :
    (es.foldl Validator.record v).told ≤ v.told + 1 := by
  cases records_of_log h with
  | presence p => exact v.told_record_le (.presence p)
  | @default o _ => exact v.told_record_le (.default o)
  | @valid os _ _ => exact v.told_record_le (.valid os)
  | @invalid os _ _ => exact v.told_record_le (.invalid os)
  | @rule r _ => exact v.told_record_le (.rule r)
  | replacements =>
    rw [foldl_replacements]
    exact v.told_replacements_le _

/-- Directives add at most one thing to tell each. -/
theorem told_of_logs : ∀ {entries : List (String × Json)} {es : List (Effect Validator)} (v : Validator),
    logs functions type entries = .ok es → (es.foldl Validator.record v).told ≤ v.told + entries.length
  | [], es, v, h => by
    cases h
    exact Nat.le_refl _
  | (name, value) :: rest, es, v, h => by
    obtain ⟨fs, hfs, h⟩ := bind_eq_ok.1 h
    obtain ⟨gs, hgs, h⟩ := bind_eq_ok.1 h
    cases h
    have hfirst := told_of_log hfs v
    have hrest := told_of_logs (fs.foldl Validator.record v) hgs
    rw [List.foldl_append, List.length_cons]
    omega

/-- **A node has at least as many directives as are recovered of it.** -/
theorem length_directives_extract_le {d : Description} {v : Validator} (hv : compile functions d = .ok v) :
    (extract v).directives.length ≤ d.directives.length := by
  obtain ⟨cs, es, -, hes, rfl⟩ := compile_ok_iff.1 hv
  have htold := told_of_logs { type := d.type, children := cs } hes
  have hblank : Validator.told { type := d.type, children := cs } = 0 := rfl
  rw [directives_extract]
  calc (Table.ofList (es.foldl Validator.record { type := d.type, children := cs }).directives).length
      ≤ (es.foldl Validator.record { type := d.type, children := cs }).directives.length := Table.length_ofList_le _
    _ ≤ (es.foldl Validator.record { type := d.type, children := cs }).told := Validator.length_directives_le _
    _ ≤ d.directives.length := by omega

/-! ## Counting through properties -/

/-- The directives of a description are those of the node and those of its properties. -/
theorem Description.count_eq (d : Description) :
    d.count = d.directives.length + (d.properties.map countAll).getD 0 := by
  obtain ⟨type, entries, properties⟩ := d
  cases properties <;> rfl

/-- Children that recover no more than their properties have do so together. -/
theorem countAll_extract_le {properties : List (String × Description)} {children : List (String × Validator)}
    (h : List.Forall₂ (fun p c => p.1 = c.1 ∧ compile functions p.2 = .ok c.2) properties children)
    (hle : ∀ c ∈ children, ∀ d : Description, compile functions d = .ok c.2 → (extract c.2).count ≤ d.count) :
    Description.countAll (children.map fun e => (e.1, extract e.2)) ≤ Description.countAll properties := by
  induction h with
  | nil => exact Nat.le_refl _
  | @cons p c properties children hpc _ ih =>
    have hfirst : (extract c.2).count ≤ p.2.count := hle c List.mem_cons_self p.2 hpc.2
    have hrest := ih fun c hc => hle c (List.mem_cons_of_mem _ hc)
    simp only [List.map_cons, Description.countAll]
    omega

/-- **Extraction recovers no more directives than a description has**, through every property. -/
theorem count_extract_le {d : Description} {v : Validator} (hv : compile functions d = .ok v) :
    (extract v).count ≤ d.count := by
  induction v using Validator.induction_on_children generalizing d with
  | h v ih =>
    have hnode := length_directives_extract_le hv
    have hproperties : ((extract v).properties.map Description.countAll).getD 0 ≤
        (d.properties.map Description.countAll).getD 0 := by
      obtain ⟨cs, es, hseed, -, hfold⟩ := compile_ok_iff.1 hv
      have hchildren : v.children = cs := by rw [hfold, foldl_children]
      rw [properties_extract, hchildren]
      cases hseed with
      | plain | bare => split <;> exact Nat.zero_le _
      | @object properties children hobject hp hall =>
        rw [type_of_compile hv, if_pos hobject, hp]
        exact countAll_extract_le hall fun c hc d hd => ih children hchildren c hc hd
    rw [Description.count_eq, Description.count_eq]
    omega

/-- **The recovery that is reported never exceeds the input**: of a description that compiles, no more directives are
extracted than it has, and the check of a file reports no more as recovered than as written. -/
theorem recovered_le (functions : Registry) :
    (∀ (d : Description) (v : Validator), compile functions d = .ok v → (extract v).count ≤ d.count) ∧
      ∀ (store : Store) (path : String) (recovery : Recovery), Batch.checkFile store functions path = .ok recovery →
        recovery.recovered ≤ recovery.directives := by
  refine ⟨fun d v hv => count_extract_le hv, fun store path recovery h => ?_⟩
  obtain ⟨d, -, h⟩ := bind_eq_ok.1 h
  obtain ⟨canonical, hcanonical, h⟩ := bind_eq_ok.1 h
  obtain ⟨v, hv, rfl⟩ := map_eq_ok.1 (mapError_eq_ok.1 hcanonical)
  cases h
  exact count_extract_le hv

/-- Two directives on allowed values are recovered as one, and a property of a string is counted but not recovered. -/
theorem recovered_le_merged :
    (∃ v, compile [] ⟨.string, [("allow", .null), ("equal", .bool true)],
        some [("a", ⟨.any, [("strip", .null)], none⟩)]⟩ = .ok v ∧ (extract v).count = 1 ∧
      (extract v).count ≤ Description.count ⟨.string, [("allow", .null), ("equal", .bool true)],
        some [("a", ⟨.any, [("strip", .null)], none⟩)]⟩) ∧
    Batch.checkFile
        ⟨.directory [("a", .file "\x7b\"type\":\"any\",\"allow\":null,\"equal\":true\x7d".toUTF8)], []⟩ [] "a" =
          .ok ⟨2, 1⟩ ∧
      Recovery.recovered ⟨2, 1⟩ ≤ Recovery.directives ⟨2, 1⟩ := by
  have hcheck : Batch.checkFile
      ⟨.directory [("a", .file "\x7b\"type\":\"any\",\"allow\":null,\"equal\":true\x7d".toUTF8)], []⟩ [] "a" =
        .ok ⟨2, 1⟩ :=
    toOption_eq_some.1 (by decide +kernel)
  exact ⟨⟨_, rfl, rfl, (recovered_le []).1 _ _ rfl⟩, hcheck, (recovered_le []).2 _ _ _ hcheck⟩

end Rulebook
