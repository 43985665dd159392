import Rulebook.Proofs.Fitting
import Rulebook.Proofs.FlatForm
import Rulebook.Proofs.Origin

/-!
# How deep extraction nests

Extraction puts what was recorded back into values: single values and entries become lists, and the arguments of a rule
become the members of an object. A directive that is told so is at most one level deeper than the one it was recorded
from.

* `Rule.fits_directive`: the directive of a rule is at most one level deeper than the arguments.
* `Compile.fits_of_log`: what a directive records fits where its value does.
* `Validator.Fits.record`, `Validator.Fits.directives`: recording what fits keeps a validator fit, and so it is written.
* `fits_extract`: what is extracted nests at most one level deeper than the description that was compiled.
-/

namespace Rulebook

open Fallible Grammar

variable {n : Nat} {functions : Registry} {type : TypeTag} {name method : String} {value : Json}

/-! ## Directives of rules -/

namespace Rule

variable {data : Table Json} {r : Rule Validator} {d : String × Json}

/-- A bag holds the data of the arguments under their names. -/
theorem fits_bag {directive : String} : ∀ {args : List (String × Argument Validator)} {data : Table Json},
    bag directive args = .ok data → (∀ entry ∈ args, entry.2.Fits n) →
    Table.names data = Table.names args ∧ ∀ e ∈ data, e.2.Fits n
  | [], _, h, _ => by
    cases h
    exact ⟨rfl, fun e he => absurd he List.not_mem_nil⟩
  | (key, a) :: rest, data, h, hargs => by
    obtain ⟨hfirst, hrest⟩ := List.forall_mem_cons.1 hargs
    unfold bag at h
    split at h
    · cases h
    · next x hx =>
      split at h
      · cases h
      · next more hmore =>
        cases h
        obtain ⟨hnames, hfits⟩ := fits_bag hmore hrest
        exact ⟨congrArg (key :: ·) hnames, List.forall_mem_cons.2 ⟨hfirst x hx, hfits⟩⟩

theorem fits_flatten (h : (Json.obj data).Fits (n + 1)) (name method : String) :
    (flatten data name method).Fits (n + 1) := by
  unfold flatten
  split
  · exact Json.fits_bool true
  · split
    · exact ((Json.fits_obj.1 h).2 _ List.mem_cons_self).mono (Nat.le_succ n)
    · exact h
  · exact h

/-- Options that are lifted out of their object leave a level. -/
theorem fits_mergeOptions (h : (Json.obj data).Fits (n + 1)) : (Json.obj (mergeOptions data)).Fits (n + 1) := by
  obtain ⟨hnames, hmembers⟩ := Json.fits_obj.1 h
  have herased : ∀ e ∈ Table.swapErase data "options", e.2.Fits n :=
    fun e he => hmembers e (Table.mem_of_mem_swapErase he)
  have hdistinct := Table.distinct_swapErase hnames "options"
  unfold mergeOptions
  split
  · next options hoptions =>
    obtain ⟨m, rfl, -, hlifted⟩ := (hmembers _ (Table.mem_of_get? hoptions)).members
    refine Json.fits_obj.2 ⟨Table.distinct_putNewAll options hdistinct, fun e he => ?_⟩
    rcases Table.mem_of_mem_putNewAll options he with he | he
    · exact herased e he
    · exact (hlifted e he).mono (Nat.le_succ m)
  · exact Json.fits_obj.2 ⟨hdistinct, herased⟩
  · exact h

theorem fits_patternValue (h : (Json.obj data).Fits (n + 1)) : (patternValue data).Fits (n + 1) := by
  obtain ⟨-, hmembers⟩ := Json.fits_obj.1 h
  unfold patternValue
  split
  · exact Json.fits_bool true
  · next regex hregex _ => exact h.member hregex
  · next record options hregex hoptions =>
    obtain ⟨m, rfl, hnames, hrecord⟩ := (hmembers _ (Table.mem_of_get? hregex)).members
    refine Json.fits_obj.2 ⟨Table.distinct_put hnames _ _, fun e he => ?_⟩
    rcases Table.mem_put he with rfl | he
    · exact hmembers _ (Table.mem_of_get? hoptions)
    · exact (hrecord e he).mono (Nat.le_succ m)
  · next regex options _ hregex hoptions =>
    refine Json.fits_obj.2 ⟨by simp [Table.Distinct], ?_⟩
    simpa using ⟨hmembers _ (Table.mem_of_get? hregex), hmembers _ (Table.mem_of_get? hoptions)⟩

/-- The value of a directive is no deeper than the bag it is made from. -/
theorem fits_ruleValue (category : Category) (h : (Json.obj data).Fits (n + 1)) (name method : String) :
    (Rule.value category data name method).Fits (n + 1) := by
  unfold Rule.value
  split
  · cases hoptions : Table.get? data "options" with
    | none => exact Json.fits_bool true
    | some options => exact h.member hoptions
  · exact fits_patternValue h
  · exact fits_flatten (fits_mergeOptions h) name method
  · exact fits_flatten (fits_mergeOptions h) name method
  · exact fits_flatten (fits_mergeOptions h) name method
  · exact fits_flatten h name method

/-- **The directive of a rule** is at most one level deeper than the arguments, when they have names of their own. -/
theorem fits_directive (hnames : (Table.names r.args).Nodup) (hargs : ∀ entry ∈ r.args, entry.2.Fits n)
    (h : r.directive = .ok d) : d.2.Fits (n + 1) := by
  obtain ⟨name, value⟩ := d
  rcases directive_cases h with ⟨-, rfl⟩ | ⟨row, data, -, -, -, hdata, rfl⟩
  · exact Json.fits_bool true
  · obtain ⟨hsame, hfits⟩ := fits_bag hdata hargs
    have hdistinct : Table.Distinct data := by rwa [Table.Distinct, hsame]
    exact fits_ruleValue row.category (Json.fits_obj.2 ⟨hdistinct, hfits⟩) name r.method

/-- The value of a directive that is made from a single entry is the entry, when it stands for the bag. -/
theorem fits_ruleValue_single {key : String} {x : Json} (category : Category) (hx : x.Fits n)
    (hkey : plainKeys.contains key = true ∨ key = name) (ho : key ≠ "options") :
    (Rule.value category [(key, x)] name method).Fits n := by
  have hnone : Table.get? [(key, x)] "options" = none := if_neg ho
  unfold Rule.value
  split
  · rw [hnone]
    exact Json.fits_bool true
  · by_cases hregex : key = "regex"
    · simpa [patternValue, hregex] using hx
    · simpa [patternValue, hregex] using Json.fits_bool true
  · rwa [flatten_mergeOptions_single x ho hkey]
  · rwa [flatten_mergeOptions_single x ho hkey]
  · rwa [flatten_mergeOptions_single x ho hkey]
  · rwa [flatten_single x hkey]

/-- A rule without an operator is told under the name of its method. -/
theorem directiveName_plain (ho : r.operator = none) (h : r.directiveName = .ok name) : r.method = name := by
  simp only [directiveName, ho, Option.bind_none, ite_self] at h
  split at h
  · cases h
  · exact Except.ok.inj h

/-- The directive of a rule with a single argument, which stands for the bag, is no deeper than the argument. -/
theorem fits_directive_single {key : String} {x : Json} (hx : x.Fits n)
    (hkey : plainKeys.contains key = true ∨ key = method)
    (h : (⟨method, none, [(key, .value x)]⟩ : Rule Validator).directive = .ok d) : d.2.Fits n := by
  obtain ⟨name, value⟩ := d
  rcases directive_cases h with ⟨-, rfl⟩ | ⟨row, data, hname, hrow, -, hdata, rfl⟩
  · exact Json.fits_bool true
  · obtain rfl : method = name := directiveName_plain rfl hname
    cases hdata
    by_cases ho : key = "options"
    · -- a directive of the table has this name, and keeps a literal
      subst ho
      obtain rfl : "options" = method := hkey.resolve_left (by decide)
      have hliteral : lookup "options" = some (entry (.unary .literal) "options") := by decide
      rw [hliteral] at hrow
      cases hrow
      have hlone : flatten [("options", x)] "options" "options" = x := flatten_single x (.inr rfl)
      exact hlone.symm ▸ hx
    · exact fits_ruleValue_single row.category hx hkey ho

end Rule

/-! ## What is recorded -/

namespace Effect

variable {args : List (Argument Validator)} {e : Effect Validator}

/-- What is recorded is told by values that fit: the members of a list leave it a level. -/
def Fits (n : Nat) : Effect Validator → Prop
  | .presence _ => True
  | .default o => o.toJson.Fits n
  | .valid os | .invalid os => ∀ o ∈ os, o.toJson.Fits n
  | .replacement r => r.toJson.Fits n
  | .rule r => ∀ d, r.directive = .ok d → d.2.Fits (n + 1)

/-- A rule that is made from arguments that fit is told by a value that is at most one level deeper. -/
theorem fits_of_filled (h : Filled method args e) (hargs : ∀ a ∈ args, a.Fits n) : e.Fits n := by
  have hwords : ∀ {k : Nat} (words : List String), (Json.arr (words.map .str)).Fits (k + 1) := by
    intro k words
    refine Json.fits_arr.2 fun x hx => ?_
    obtain ⟨word, -, rfl⟩ := List.mem_map.1 hx
    exact Json.fits_str word
  cases h with
  | own hnames hown => exact fun d hd => Rule.fits_directive hnames (fun entry he => hargs _ (hown entry he)) hd
  | sign s =>
    refine fun d hd => Rule.fits_directive (by simp) ?_ hd
    exact List.forall_mem_singleton.2 ((Argument.fits_value _).2 (Json.fits_str s))
  | peers names options hoptions =>
    intro d hd
    cases options with
    | none => exact Rule.fits_directive_single (hwords names) (.inl (by decide)) hd
    | some o =>
      have ho : (Json.obj o).Fits n := (Argument.fits_value _).1 (hargs _ (hoptions o rfl))
      obtain ⟨m, rfl, -, -⟩ := ho.members
      refine Rule.fits_directive (by simp [optionEntries]) (List.forall_mem_cons.2 ⟨?_, ?_⟩) hd
      · exact (Argument.fits_value _).2 (hwords names)
      · exact List.forall_mem_singleton.2 ((Argument.fits_value _).2 ho)
  | spread hvalues =>
    refine fun d hd => Rule.fits_directive_single (Json.fits_arr.2 fun v hv => ?_) (.inr rfl) hd
    exact (Argument.fits_value v).1 (hargs _ (hvalues v hv))

/-- **What a call records**, if it is no replacement, fits where the arguments do. -/
theorem fits_of_effect (h : effect type method args = .ok e) (hargs : ∀ a ∈ args, a.Fits n)
    (hc : e.component ≠ .replacements) : e.Fits n := by
  have hcomponent := component_of_effect h
  have hoperands : ∀ {os : List Operand}, args = os.map .ofOperand → ∀ o ∈ os, o.toJson.Fits n := by
    rintro os rfl o ho
    exact (Argument.fits_ofOperand o).1 (hargs _ (List.mem_map_of_mem ho))
  cases e with
  | presence p => trivial
  | replacement r => exact absurd rfl hc
  | rule r => exact fits_of_filled (filled_of_effect hcomponent.symm h) hargs
  | default o =>
    have hrec : Recording.ofMethod method = .default := Recording.writes_of_component hcomponent.symm
    simp only [effect, hrec] at h
    obtain ⟨o', ho, hos⟩ := ofDefault_args h
    cases ho
    exact @hoperands [o] hos o List.mem_cons_self
  | valid os =>
    have hrec : Recording.ofMethod method = .values true := Recording.writes_of_component hcomponent.symm
    simp only [effect, hrec] at h
    obtain ⟨os', -, hos, he⟩ := ofValues_args h
    cases he
    exact hoperands hos
  | invalid os =>
    have hrec : Recording.ofMethod method = .values false := Recording.writes_of_component hcomponent.symm
    simp only [effect, hrec] at h
    obtain ⟨os', -, hos, he⟩ := ofValues_args h
    cases he
    exact hoperands hos

end Effect

namespace Compile

variable {es : List (Effect Validator)}

/-- The effects of a list of replacements fit where the list does. -/
theorem fits_of_replacements {row : Directive} {calls : List (Call Validator)} (hv : value.Fits n)
    (hrec : Recording.ofMethod row.name = .replace)
    (hcalls : (Call.elements value).mapM (Call.ofReplaceEntry row.name) = .ok calls) {call : Call Validator}
    (hcall : call ∈ calls) {e : Effect Validator} (he : effect type call.method call.args = .ok e) : e.Fits n := by
  obtain ⟨entry, hentry, hread⟩ := mem_left_of_forall₂ (mapM_eq_ok.1 hcalls) hcall
  obtain ⟨r, hr, rfl⟩ := Call.fits_of_replaceEntry (Call.fits_elements hv entry hentry) hread
  simp only [effect, hrec] at he
  obtain ⟨⟨p, v⟩, rfl, hargs⟩ := Effect.ofReplace_args he
  cases hargs
  exact hr

/-- **What a directive records** fits where its value does. -/
theorem fits_of_log (hv : value.Fits n) (h : log functions type name value = .ok es) : ∀ e ∈ es, e.Fits n := by
  have hcomponent := component_of_log h
  have hrows : ∀ row ∈ Grammar.directives, (row.category = .bespoke .replace ∧
      Recording.ofMethod row.name = .replace) ∨
        (row.category ≠ .bespoke .replace ∧ Component.ofMethod row.name ≠ .replacements) := by decide +kernel
  unfold log at h
  split at h
  · cases h
  · next row hrow =>
    obtain ⟨hmem, rfl⟩ := mem_of_lookup hrow
    obtain ⟨calls, hcalls, h⟩ := bind_eq_ok.1 h
    intro e he
    obtain ⟨call, hcall, hce⟩ := mem_left_of_forall₂ (mapM_eq_ok.1 h) he
    replace hce := mapError_eq_ok.1 hce
    rcases hrows row hmem with ⟨hcategory, hrec⟩ | ⟨hcategory, happart⟩
    · simp only [Call.ofDirective, hcategory] at hcalls
      exact fits_of_replacements hv hrec hcalls hcall hce
    · refine Effect.fits_of_effect hce (Call.fits_of_directive hcategory hv hcalls call hcall) ?_
      rw [hcomponent e he]
      exact happart

end Compile

/-! ## Validators -/

namespace ValueSet

variable {set : ValueSet}

theorem fits_toJson : set.toJson.Fits (n + 1) ↔
    (∀ v ∈ set.values, v.Fits n) ∧ ∀ r ∈ set.references, r.toJson.Fits n := by
  rw [toJson, Json.fits_arr, List.forall_mem_append, List.forall_mem_map]

/-- A set still fits when an operand is added that leaves it a level. -/
theorem fits_insert (h : set.toJson.Fits (n + 1)) {o : Operand} (ho : o.toJson.Fits n) :
    (set.insert o).toJson.Fits (n + 1) := by
  obtain ⟨hvalues, hreferences⟩ := fits_toJson.1 h
  cases o with
  | literal v =>
    unfold insert
    simp only
    split
    · exact h
    · exact fits_toJson.2 ⟨List.forall_mem_append.2 ⟨hvalues, List.forall_mem_singleton.2 ho⟩, hreferences⟩
  | reference r =>
    unfold insert
    simp only
    split
    · exact h
    · exact fits_toJson.2 ⟨hvalues, List.forall_mem_append.2 ⟨hreferences, List.forall_mem_singleton.2 ho⟩⟩

theorem fits_insertAll : ∀ {os : List Operand} {set : ValueSet}, set.toJson.Fits (n + 1) →
    (∀ o ∈ os, o.toJson.Fits n) → (set.insertAll os).toJson.Fits (n + 1)
  | [], _, h, _ => h
  | o :: os, set, h, hos => by
    obtain ⟨hfirst, hrest⟩ := List.forall_mem_cons.1 hos
    have hall : ((set.insert o).insertAll os).toJson.Fits (n + 1) := fits_insertAll (fits_insert h hfirst) hrest
    exact hall

end ValueSet

namespace Validator

variable {v : Validator}

/-- A validator whose directives are at most one level deeper than the bound. -/
structure Fits (n : Nat) (v : Validator) : Prop where
  valid : ∀ set ∈ v.valid, set.toJson.Fits (n + 1)
  invalid : ∀ set ∈ v.invalid, set.toJson.Fits (n + 1)
  default : ∀ o ∈ v.default, o.toJson.Fits n
  rules : ∀ r ∈ v.rules, ∀ d, r.directive = .ok d → d.2.Fits (n + 1)
  replacements : ∀ r ∈ v.replacements, r.toJson.Fits n

theorem fits_addAll {set : Option ValueSet} (h : ∀ s ∈ set, s.toJson.Fits (n + 1)) {os : List Operand}
    (hos : ∀ o ∈ os, o.toJson.Fits n) : ((set.getD {}).insertAll os).toJson.Fits (n + 1) := by
  refine ValueSet.fits_insertAll ?_ hos
  cases set with
  | none =>
    exact ValueSet.fits_toJson.2 ⟨fun _ hv => absurd hv List.not_mem_nil, fun _ hr => absurd hr List.not_mem_nil⟩
  | some s => exact h s rfl

/-- Recording what fits keeps a validator fit. -/
theorem Fits.record (h : v.Fits n) {e : Effect Validator} (he : e.Fits n) : (v.record e).Fits n := by
  cases e with
  | presence p => exact ⟨h.valid, h.invalid, h.default, h.rules, h.replacements⟩
  | default o =>
    refine ⟨h.valid, h.invalid, fun p hp => ?_, h.rules, h.replacements⟩
    cases hp
    exact he
  | valid os =>
    refine ⟨fun set hs => ?_, h.invalid, h.default, h.rules, h.replacements⟩
    cases hs
    exact fits_addAll h.valid he
  | invalid os =>
    refine ⟨h.valid, fun set hs => ?_, h.default, h.rules, h.replacements⟩
    cases hs
    exact fits_addAll h.invalid he
  | replacement r =>
    refine ⟨h.valid, h.invalid, h.default, h.rules, ?_⟩
    exact List.forall_mem_append.2 ⟨h.replacements, List.forall_mem_singleton.2 he⟩
  | rule r =>
    refine ⟨h.valid, h.invalid, h.default, ?_, h.replacements⟩
    exact List.forall_mem_append.2 ⟨h.rules, List.forall_mem_singleton.2 he⟩

theorem Fits.foldl : ∀ {es : List (Effect Validator)} {v : Validator}, v.Fits n → (∀ e ∈ es, e.Fits n) →
    (es.foldl Validator.record v).Fits n
  | [], _, h, _ => h
  | e :: es, v, h, hes => by
    obtain ⟨hfirst, hrest⟩ := List.forall_mem_cons.1 hes
    rw [List.foldl_cons]
    exact Fits.foldl (h.record hfirst) hrest

/-- **A validator that fits is written in directives** that are at most one level deeper. -/
theorem Fits.directives (h : v.Fits n) : ∀ e ∈ v.directives, e.2.Fits (n + 1) := by
  have hset : ∀ (name : String) (set : Option ValueSet), (∀ s ∈ set, s.toJson.Fits (n + 1)) →
      ∀ e ∈ setDirective name set, e.2.Fits (n + 1) := by
    intro name set hs e he
    unfold setDirective at he
    split at he
    · exact absurd he List.not_mem_nil
    · next s =>
      split at he
      · exact absurd he List.not_mem_nil
      · rw [List.mem_singleton.1 he]
        exact hs s rfl
  unfold Validator.directives
  simp only [List.forall_mem_append]
  refine ⟨⟨⟨⟨⟨hset _ _ h.valid, hset _ _ h.invalid⟩, fun e he => ?_⟩, fun e he => ?_⟩, fun e he => ?_⟩, fun e he => ?_⟩
  · obtain ⟨o, ho, rfl⟩ := Option.map_eq_some_iff.1 (Option.mem_toList.1 he)
    exact (h.default o ho).mono (Nat.le_succ n)
  · obtain ⟨p, -, rfl⟩ := Option.map_eq_some_iff.1 (Option.mem_toList.1 he)
    exact Json.fits_bool true
  · obtain ⟨r, hr, hd⟩ := List.mem_filterMap.1 he
    exact h.rules r hr e (toOption_eq_some.1 hd)
  · split at he
    · exact absurd he List.not_mem_nil
    · rw [List.mem_singleton.1 he]
      exact Json.fits_arr.2 (List.forall_mem_map.2 h.replacements)

/-- A description whose values fit is compiled to a validator that fits. -/
theorem fits_of_compile {d : Description} (hd : ∀ e ∈ d.directives, e.2.Fits n) (hv : compile functions d = .ok v) :
    v.Fits n := by
  obtain ⟨cs, es, -, hes, rfl⟩ := compile_ok_iff.1 hv
  refine Fits.foldl ⟨fun _ h => ?_, fun _ h => ?_, fun _ h => ?_, fun _ h => ?_, fun _ h => ?_⟩ fun e he => ?_
  · cases h
  · cases h
  · cases h
  · cases h
  · cases h
  · obtain ⟨entry, hentry, fs, hfs, hmem⟩ := (Compile.logs_ok hes).2 e he
    exact Compile.fits_of_log (hd entry hentry) hfs e hmem

end Validator

/-! ## Descriptions -/

/-- A flat node is written in one object, which takes a level. -/
theorem Description.Flat.fits_toJson {d : Description} (h : d.Flat) : d.toJson.Fits (n + 1) ↔
    (∀ e ∈ d.directives, e.2.Fits n) ∧ ∀ ps ∈ d.properties, (Json.obj (Description.toJsonAll ps)).Fits n := by
  have hnames : Table.Distinct (("type", .str d.type.text) ::
      (d.directives ++ (d.properties.map fun ps => ("properties", Json.obj (toJsonAll ps))).toList)) := by
    cases d.properties with
    | none => exact (h.distinct .null).sublist (by simp [Table.names])
    | some ps => exact h.distinct (.obj (toJsonAll ps))
  rw [h.toJson_eq, Json.fits_obj]
  constructor
  · rintro ⟨-, hmembers⟩
    obtain ⟨hdirectives, hproperties⟩ := List.forall_mem_append.1 (List.forall_mem_cons.1 hmembers).2
    refine ⟨hdirectives, fun ps hps => hproperties ("properties", _) ?_⟩
    rw [Option.mem_toList, Option.mem_def.1 hps]
    rfl
  · rintro ⟨hdirectives, hproperties⟩
    refine ⟨hnames, List.forall_mem_cons.2 ⟨Json.fits_str _, List.forall_mem_append.2 ⟨hdirectives, fun e he => ?_⟩⟩⟩
    obtain ⟨ps, hps, rfl⟩ := Option.map_eq_some_iff.1 (Option.mem_toList.1 he)
    exact hproperties ps hps

/-- **What is extracted nests at most one level deeper** than the description that was compiled. -/
theorem fits_extract {d : Description} {v : Validator} (hflat : ∀ path c, d.At path c → c.Flat)
    (hv : compile functions d = .ok v) (hd : d.toJson.Fits n) : (extract v).toJson.Fits (n + 1) := by
  induction v using Validator.induction_on_children generalizing d n with
  | h v ih =>
    have hroot : d.Flat := hflat [] d (.here d)
    obtain ⟨m, rfl⟩ : ∃ m, n = m + 1 := by
      rw [hroot.toJson_eq] at hd
      obtain ⟨m, hm, -⟩ := hd.members
      exact ⟨m, hm⟩
    obtain ⟨hdirectives, hproperties⟩ := hroot.fits_toJson.1 hd
    have hfits := Validator.fits_of_compile hdirectives hv
    refine (flat_extract v).fits_toJson.2 ⟨fun e he => ?_, fun ps hps => ?_⟩
    · rw [directives_extract] at he
      exact hfits.directives e (Table.mem_of_mem_ofList he)
    · rw [properties_extract] at hps
      split at hps
      · obtain ⟨children, hchildren, rfl⟩ := Option.map_eq_some_iff.1 hps
        obtain ⟨properties, hp, hall⟩ := properties_of_children hv hchildren
        obtain ⟨k, rfl, hnames, hmembers⟩ := (hproperties properties hp).members
        rw [Table.Distinct, Description.names_toJsonAll] at hnames
        refine Json.fits_obj.2 ⟨?_, fun e he => ?_⟩
        · have hsame := Table.names_eq_of_forall₂ (R := fun p c => compile functions p = .ok c) hall
          rw [Table.Distinct, Description.names_toJsonAll, Table.names, List.map_map]
          exact (hsame ▸ hnames : (Table.names children).Nodup)
        · rw [Description.toJsonAll_eq_map, List.map_map] at he
          obtain ⟨child, hchild, rfl⟩ := List.mem_map.1 he
          obtain ⟨p, hpmem, -, hpv⟩ := mem_left_of_forall₂ hall hchild
          have hpfits : p.2.toJson.Fits k := by
            refine hmembers (p.1, p.2.toJson) ?_
            rw [Description.toJsonAll_eq_map]
            exact List.mem_map_of_mem hpmem
          have hflat' : ∀ path c, p.2.At path c → c.Flat := fun path c hc => hflat (p.1 :: path) c (.child hp hpmem hc)
          exact ih children hchildren child hchild hflat' hpv hpfits
      · cases hps

end Rulebook
