import Mathlib.Data.List.DropRight
import Rulebook.Config.Basic
import Rulebook.Proofs.Configured
import Rulebook.Proofs.Keyed
import Rulebook.Proofs.Resolution

/-!
# The built-in functions and the configured ones

A configuration lists functions under names. A name stands for what is listed last under it, else for the built-in
function with this name (`Registry.Declared`), and a registry that is made from the list answers accordingly
(`Registry.Overrides`): a name resolves where it stands for a function of the wanted kind, and else the answer tells
whether it stands for none or for one of the other kind.

* `Registry.ofSpecs_eq_none_iff`: there is no such registry exactly when a name is nothing but blanks.
* `Registry.overrides_ofSpecs`: every other list makes one.
* `Config.distinct_functions`, `Config.registry_of_parse`: the names of a configuration that is read are distinct, and
  none of them is blank, so it has a registry.
* `Registry.specs_override_builtins`: all this of lists and of configurations that are read.
-/

namespace Rulebook

/-! ## Blank names -/

/-- Nothing is left of a text exactly when all of it is blank. -/
theorem Case.trim_eq_empty_iff {text : String} :
    Case.trim text = "" ↔ ∀ c ∈ text.toList, Case.isBlank c = true := by
  have hback : Case.trimChars text.toList = [] ↔ ∀ c ∈ text.toList.dropWhile Case.isBlank, Case.isBlank c = true :=
    List.rdropWhile_eq_nil_iff
  rw [Case.trim, String.ofList_eq_empty_iff, hback]
  constructor
  · intro h c hc
    rw [← List.takeWhile_append_dropWhile (p := Case.isBlank) (l := text.toList)] at hc
    rcases List.mem_append.1 hc with hc | hc
    · exact List.mem_takeWhile_imp hc
    · exact h c hc
  · exact fun h c hc => h c ((List.dropWhile_sublist _).subset hc)

namespace Registry

variable {registry : Registry} {specs : List (String × FunctionSpec)} {name : String} {spec : FunctionSpec}

theorem isBlankName_iff : isBlankName name = true ↔ Case.trim name = "" := by
  rw [Case.trim_eq_empty_iff, isBlankName, List.all_eq_true]

/-- Configured functions are refused exactly when one of their names is blank. -/
theorem addSpecs_eq_none_iff : ∀ {specs : List (String × FunctionSpec)} {base : Registry},
    addSpecs base specs = none ↔ ∃ e ∈ specs, Case.trim e.1 = ""
  | [], base => by simp [addSpecs]
  | (name, spec) :: specs, base => by
    rw [addSpecs]
    by_cases hblank : isBlankName name = true
    · simp [hblank, isBlankName_iff.1 hblank]
    · have hname : Case.trim name ≠ "" := mt isBlankName_iff.2 hblank
      simp [hblank, hname, addSpecs_eq_none_iff]

theorem ofSpecs_eq_none_iff : ofSpecs specs = none ↔ ∃ e ∈ specs, Case.trim e.1 = "" := addSpecs_eq_none_iff

/-! ## What a name stands for -/

/-- What counts for a name: the description that is listed last under it, else that of the built-in function. -/
inductive Declared (specs : List (String × FunctionSpec)) (name : String) : FunctionSpec → Prop
  | listed {spec : FunctionSpec} {front rest : List (String × FunctionSpec)} :
      specs = front ++ (name, spec) :: rest → name ∉ Table.names rest → Declared specs name spec
  | builtin {b : Builtin} : name ∉ Table.names specs → b.name = name → Declared specs name (.builtin b)

/-- Names tell built-in functions apart. -/
theorem named?_eq_some_iff {b : Builtin} : Builtin.named? name = some b ↔ b.name = name := by
  constructor
  · intro h
    simpa using List.find?_some h
  · rintro rfl
    cases b <;> rfl

/-- **A name stands for what is declared for it.** -/
theorem standsFor_eq_some_iff : standsFor specs name = some spec ↔ Declared specs name spec := by
  rw [standsFor, Option.or_eq_some_iff, Table.get?_reverse_eq_some_iff, Table.get?_eq_none_iff, Table.names_reverse,
    List.mem_reverse]
  constructor
  · rintro (⟨front, rest, hsplit, hrest⟩ | ⟨hnone, h⟩)
    · exact .listed hsplit hrest
    · obtain ⟨b, hb, rfl⟩ := Option.map_eq_some_iff.1 h
      exact .builtin hnone (named?_eq_some_iff.1 hb)
  · rintro (⟨hsplit, hrest⟩ | ⟨hnone, hb⟩)
    · exact .inl ⟨_, _, hsplit, hrest⟩
    · exact .inr ⟨hnone, Option.map_eq_some_iff.2 ⟨_, named?_eq_some_iff.2 hb, rfl⟩⟩

/-- Where each name is listed once, it stands for the description that is listed with it. -/
theorem declared_of_mem (hd : Table.Distinct specs) {e : String × FunctionSpec} (he : e ∈ specs) :
    Declared specs e.1 e.2 := by
  obtain ⟨front, rest, rfl⟩ := List.append_of_mem he
  refine .listed rfl fun hm => ?_
  have hrest : (Table.names (e :: rest)).Nodup := by
    rw [Table.Distinct, Table.names_append] at hd
    exact hd.of_append_right
  exact (List.nodup_cons.1 hrest).1 hm

/-! ## Answers of a registry -/

theorem resolve_eq_unknown_iff {kind : FunctionKind} :
    registry.resolve name kind = .error (.unknown name) ↔ Table.get? registry name = none := by
  unfold resolve
  split
  · next hnone => simp [hnone]
  · next f hf =>
    simp only [hf, reduceCtorEq, iff_false]
    split <;> simp

theorem resolve_eq_otherKind_iff {kind : FunctionKind} :
    registry.resolve name kind = .error (.otherKind name kind) ↔
      ∃ f, Table.get? registry name = some f ∧ f.kind ≠ kind := by
  unfold resolve
  split
  · next hnone => simp [hnone]
  · next f hf =>
    simp only [hf, Option.some.injEq, exists_eq_left']
    split
    · next hkind => simp [hkind]
    · next hkind => simp [hkind]

/-- Sorted names stand in their order. -/
theorem pairwise_sortedNames (registry : Registry) : registry.sortedNames.Pairwise (· ≤ ·) := by
  have htrans (a b c : String) (hab : decide (a ≤ b) = true) (hbc : decide (b ≤ c) = true) :
      decide (a ≤ c) = true := by
    rw [decide_eq_true_eq] at hab hbc ⊢
    exact String.le_trans hab hbc
  have htotal (a b : String) : (decide (a ≤ b) || decide (b ≤ a)) = true := by
    rw [Bool.or_eq_true, decide_eq_true_eq, decide_eq_true_eq]
    exact String.le_total a b
  exact (List.pairwise_mergeSort htrans htotal (Table.names registry)).imp fun hab => of_decide_eq_true hab

/-- What a name resolves to where a function of a kind is wanted: to the function that is declared for the name, if
this is of the kind; else the answer tells that none is declared, or one of the other kind. -/
structure Answers (specs : List (String × FunctionSpec)) (name : String) (kind : FunctionKind)
    (answer : Except ResolveError NamedFunction) : Prop where
  resolves : ∀ f, answer = .ok f ↔
    f.name = name ∧ f.function.kind = kind ∧ ∃ spec, Declared specs name spec ∧ spec.function = f.function
  unknown : answer = .error (.unknown name) ↔ ∀ spec, ¬Declared specs name spec
  otherKind : answer = .error (.otherKind name kind) ↔ ∃ spec, Declared specs name spec ∧ spec.function.kind ≠ kind

/-- The registry holds the built-in functions, overridden by the listed ones: every name resolves to what is declared
for it, and the names for which something is declared are listed once each, in increasing order. -/
structure Overrides (registry : Registry) (specs : List (String × FunctionSpec)) : Prop where
  comparator : ∀ name, Answers specs name .comparator (registry.comparator name)
  transform : ∀ name, Answers specs name .transform (registry.transform name)
  sorted : registry.sortedNames.Pairwise (· < ·)
  names : ∀ name, name ∈ registry.sortedNames ↔ ∃ spec, Declared specs name spec

section OfSpecs

variable (h : ofSpecs specs = some registry)

include h

/-- A registry holds what is declared for a name. -/
theorem get?_eq_some_iff_declared {f : Function} :
    Table.get? registry name = some f ↔ ∃ spec, Declared specs name spec ∧ spec.function = f := by
  rw [get?_ofSpecs h, Option.map_eq_some_iff]
  simp only [standsFor_eq_some_iff]

theorem get?_eq_none_iff_declared : Table.get? registry name = none ↔ ∀ spec, ¬Declared specs name spec := by
  rw [get?_ofSpecs h, Option.map_eq_none_iff, Option.eq_none_iff_forall_ne_some]
  simp only [ne_eq, standsFor_eq_some_iff]

/-- **A name resolves to what is declared for it**, whatever kind is wanted. -/
theorem answers_resolve (name : String) (kind : FunctionKind) :
    Answers specs name kind (registry.resolve name kind) where
  resolves f := by
    rw [resolve_eq_ok_iff]
    constructor
    · rintro ⟨rfl, hentry, hkind⟩
      exact ⟨rfl, hkind, (get?_eq_some_iff_declared h).1 hentry⟩
    · rintro ⟨rfl, hkind, hdeclared⟩
      exact ⟨rfl, (get?_eq_some_iff_declared h).2 hdeclared, hkind⟩
  unknown := by rw [resolve_eq_unknown_iff, get?_eq_none_iff_declared h]
  otherKind := by
    rw [resolve_eq_otherKind_iff]
    constructor
    · rintro ⟨f, hf, hkind⟩
      obtain ⟨spec, hspec, rfl⟩ := (get?_eq_some_iff_declared h).1 hf
      exact ⟨spec, hspec, hkind⟩
    · rintro ⟨spec, hspec, hkind⟩
      exact ⟨spec.function, (get?_eq_some_iff_declared h).2 ⟨spec, hspec, rfl⟩, hkind⟩

theorem distinct_ofSpecs : Table.Distinct registry := by
  have hbuiltins : Table.Distinct builtins := by decide
  rw [addSpecs_ok h]
  exact Table.distinct_putAll _ hbuiltins

/-- **A registry of configured functions** is that of the built-in ones, overridden. -/
theorem overrides_ofSpecs : registry.Overrides specs where
  comparator name := answers_resolve h name .comparator
  transform name := answers_resolve h name .transform
  sorted := by
    have hnodup : registry.sortedNames.Nodup := List.nodup_mergeSort.2 (distinct_ofSpecs h)
    exact ((pairwise_sortedNames registry).and hnodup).imp fun hab => Std.lt_of_le_of_ne hab.1 hab.2
  names name := by
    rw [sortedNames, List.mem_mergeSort, ← not_iff_not, ← Table.get?_eq_none_iff, get?_eq_none_iff_declared h]
    exact not_exists.symm

end OfSpecs

end Registry

/-! ## Configurations that are read -/

namespace Config

variable {config : Config}

/-- The entries of a table of functions are read one by one, under their keys. -/
theorem names_mapM_spec? : ∀ {entries : Table Toml} {specs : List (String × FunctionSpec)},
    (entries.mapM fun e => (spec? e.2).map fun spec => (e.1, spec)) = some specs →
    Table.names specs = Table.names entries
  | [], _, h => by
    cases h
    rfl
  | (key, value) :: entries, specs, h => by
    rw [List.mapM_cons] at h
    obtain ⟨e, he, h⟩ := Option.bind_eq_some_iff.1 h
    obtain ⟨spec, -, rfl⟩ := Option.map_eq_some_iff.1 he
    obtain ⟨others, hothers, h⟩ := Option.bind_eq_some_iff.1 h
    cases h
    rw [Table.names_cons, Table.names_cons, names_mapM_spec? hothers]

/-- The functions of a configuration are those of a table of its document, if there is one. -/
theorem functions_of_ofToml? {document : Table Toml} (h : ofToml? document = some config) :
    part? specs? [] document "functions" = some config.functions := by
  simp only [ofToml?, Option.bind_eq_bind, Option.pure_def, Option.bind_eq_some_iff, Option.some.injEq] at h
  obtain ⟨_, -, _, -, _, -, _, -, _, -, _, -, _, -, _, -, _, -, functions, hfunctions, rfl⟩ := h
  exact hfunctions

/-- A configuration is read from a document, and has no fault. -/
theorem parse_eq_ok {text : String} (h : parse text = .ok config) :
    ∃ document, Toml.parse text = some document ∧ ofToml? document = some config ∧ config.fault? = none := by
  unfold parse at h
  split at h
  · cases h
  · next config' hread =>
    split at h
    · cases h
    · next hfault =>
      cases h
      obtain ⟨document, hdocument, hread⟩ := Option.bind_eq_some_iff.1 hread
      exact ⟨document, hdocument, hread, hfault⟩

/-- **Functions of a configuration that is read** have different names, since a document holds each key once. -/
theorem distinct_functions {text : String} (h : parse text = .ok config) : Table.Distinct config.functions := by
  obtain ⟨document, hdocument, hread, -⟩ := parse_eq_ok h
  have hfunctions := functions_of_ofToml? hread
  unfold part? at hfunctions
  split at hfunctions
  · next value hvalue =>
    obtain ⟨entries, hentries, hspecs⟩ := Option.bind_eq_some_iff.1 hfunctions
    have hkeyed := (Toml.keyed_parse hdocument).get hvalue
    cases value with
    | table origin es =>
      cases hentries
      have hdistinct := (Toml.keyed_table.1 hkeyed).distinct
      rw [Table.Distinct, names_mapM_spec? hspecs]
      exact hdistinct
    | _ => cases hentries
  · rw [← Option.some.inj hfunctions]
    exact List.nodup_nil

/-- A configuration without a fault has no function with a blank name. -/
theorem trim_ne_of_fault? (h : config.fault? = none) {e : String × FunctionSpec} (he : e ∈ config.functions) :
    Case.trim e.1 ≠ "" := by
  unfold fault? at h
  dsimp only at h
  split at h
  · cases h
  · obtain ⟨-, h⟩ := Option.or_eq_none_iff.1 h
    obtain ⟨-, h⟩ := Option.or_eq_none_iff.1 h
    have hnone := List.find?_eq_none.1 (Option.map_eq_none_iff.1 h) e.1 (List.mem_map_of_mem he)
    exact fun hblank => hnone (Registry.isBlankName_iff.2 hblank)

/-- **A configuration that is read has a registry.** -/
theorem registry_of_parse {text : String} (h : parse text = .ok config) :
    ∃ registry, config.registry = .ok registry ∧ Registry.ofSpecs config.functions = some registry := by
  obtain ⟨document, -, -, hfault⟩ := parse_eq_ok h
  cases hspecs : Registry.ofSpecs config.functions with
  | none =>
    obtain ⟨e, he, hblank⟩ := Registry.ofSpecs_eq_none_iff.1 hspecs
    exact absurd hblank (trim_ne_of_fault? hfault he)
  | some registry => exact ⟨registry, by rw [Config.registry, hspecs], rfl⟩

end Config

/-- **Configured functions override the built-in ones, and a configuration that is read has its functions.** A list of
functions is refused exactly when one of its names is blank. From any other list, every name resolves to the function
that is listed last under it, or else to the built-in one. A configuration that is read is never refused: it has such a
registry, in which each of its names stands for the function that is written under it. -/
theorem Registry.specs_override_builtins (specs : List (String × FunctionSpec)) (text : String) :
    (Registry.ofSpecs specs = none ↔ ∃ e ∈ specs, Case.trim e.1 = "") ∧
      (∀ registry, Registry.ofSpecs specs = some registry → registry.Overrides specs) ∧
      ∀ config, Config.parse text = .ok config → ∃ registry, config.registry = .ok registry ∧
        registry.Overrides config.functions ∧ ∀ e ∈ config.functions, Registry.Declared config.functions e.1 e.2 := by
  refine ⟨Registry.ofSpecs_eq_none_iff, fun registry h => Registry.overrides_ofSpecs h, fun config hconfig => ?_⟩
  obtain ⟨registry, hregistry, hspecs⟩ := Config.registry_of_parse hconfig
  exact ⟨registry, hregistry, Registry.overrides_ofSpecs hspecs,
    fun e he => Registry.declared_of_mem (Config.distinct_functions hconfig) he⟩

/-- Of two entries under the name of a built-in transform the last counts, here a comparator of a field; and a text
that writes a transform under the name of a built-in comparator takes the comparator away. -/
theorem Registry.specs_override_builtins_twice :
    (∃ registry, Registry.ofSpecs [("trim", .builtin .uppercase), ("trim", .fieldEquals "id")] = some registry ∧
      registry.comparator "trim" = .ok ⟨"trim", .comparator (Json.sameField "id")⟩ ∧
      registry.transform "trim" = .error (.otherKind "trim" .transform) ∧
      registry.transform "upper" = .error (.unknown "upper") ∧ "deep-equal" ∈ registry.sortedNames) ∧
    ∃ config registry, Config.parse "[bridge]\nversion = \"1\"\n[functions]\ndeep-equal = \"trim\"\n" = .ok config ∧
      config.registry = .ok registry ∧
      registry.transform "deep-equal" = .ok ⟨"deep-equal", .transform (Builtin.onText Case.trim)⟩ ∧
      registry.comparator "deep-equal" = .error (.otherKind "deep-equal" .comparator) := by
  obtain ⟨-, hlist, hread⟩ := Registry.specs_override_builtins
    [("trim", .builtin .uppercase), ("trim", .fieldEquals "id")]
    "[bridge]\nversion = \"1\"\n[functions]\ndeep-equal = \"trim\"\n"
  constructor
  · have hfield : Registry.Declared [("trim", .builtin .uppercase), ("trim", .fieldEquals "id")] "trim"
        (.fieldEquals "id") := .listed (show _ = [("trim", .builtin .uppercase)] ++ _ from rfl) List.not_mem_nil
    have hequal : Registry.Declared [("trim", .builtin .uppercase), ("trim", .fieldEquals "id")] "deep-equal"
        (.builtin .deepEqual) := .builtin (by decide) rfl
    have hnone (spec : FunctionSpec) :
        ¬Registry.Declared [("trim", .builtin .uppercase), ("trim", .fieldEquals "id")] "upper" spec := fun hspec => by
      cases Registry.standsFor_eq_some_iff.2 hspec
    obtain ⟨hcomparator, htransform, -, hnames⟩ := hlist _ rfl
    exact ⟨_, rfl, ((hcomparator "trim").resolves _).2 ⟨rfl, rfl, _, hfield, rfl⟩,
      (htransform "trim").otherKind.2 ⟨_, hfield, by decide⟩, (htransform "upper").unknown.2 hnone,
      (hnames "deep-equal").2 ⟨_, hequal⟩⟩
  · have hfunctions : (Config.parse "[bridge]\nversion = \"1\"\n[functions]\ndeep-equal = \"trim\"\n").toOption.map
        Config.functions = some [("deep-equal", .builtin .trim)] := by decide +kernel
    obtain ⟨config, hparse, hentries⟩ := Option.map_eq_some_iff.1 hfunctions
    have hparse := Fallible.toOption_eq_some.1 hparse
    obtain ⟨registry, hregistry, ⟨hcomparator, htransform, -, -⟩, hentry⟩ := hread config hparse
    have htrim := hentry ("deep-equal", .builtin .trim) (hentries ▸ List.mem_cons_self)
    exact ⟨config, registry, hparse, hregistry, ((htransform "deep-equal").resolves _).2 ⟨rfl, rfl, _, htrim, rfl⟩,
      (hcomparator "deep-equal").otherKind.2 ⟨_, htrim, by decide⟩⟩

end Rulebook
