import Rulebook.Proofs.Origin

/-!
# The order of directives

Directives are judged one by one, without regard to the others, and what they leave in a component is told by those on
this component. So two descriptions that have the same directives in another order compile alike (`compile_perm`):
both or none, and to the same validator where the order within each component is the same.

* `logs_ok_iff`: directives have a log when each of them has, and it consists of these logs in order.
* `on_logs`: the effects on a component come from the directives on it.
-/

namespace Rulebook

open Fallible Compile

/-- The directives on a component, in order. -/
def Description.on (component : Component) (d : Description) : List (String × Json) :=
  d.directives.filter fun e => Component.ofMethod e.1 = component

namespace Compile

variable {functions : Registry} {type : TypeTag}

/-- The effects of a directive; a directive that is refused has none. -/
def logOf (functions : Registry) (type : TypeTag) (e : String × Json) : List (Effect Validator) :=
  (log functions type e.1 e.2).toOption.getD []

/-- **Directives have a log when each has**, and it consists of their logs in order. -/
theorem logs_ok_iff : ∀ {entries : List (String × Json)} {es : List (Effect Validator)},
    logs functions type entries = .ok es ↔
      (∀ e ∈ entries, ∃ fs, log functions type e.1 e.2 = .ok fs) ∧ es = entries.flatMap (logOf functions type)
  | [], es => by
    constructor
    · rintro ⟨⟩
      exact ⟨fun e he => absurd he List.not_mem_nil, rfl⟩
    · rintro ⟨-, rfl⟩
      rfl
  | (name, value) :: rest, es => by
    constructor
    · intro h
      obtain ⟨fs, hfs, h⟩ := bind_eq_ok.1 h
      obtain ⟨gs, hgs, h⟩ := bind_eq_ok.1 h
      cases h
      obtain ⟨hall, rfl⟩ := logs_ok_iff.1 hgs
      refine ⟨List.forall_mem_cons.2 ⟨⟨fs, hfs⟩, hall⟩, ?_⟩
      rw [List.flatMap_cons, logOf, hfs]
      rfl
    · rintro ⟨hall, rfl⟩
      obtain ⟨⟨fs, hfs⟩, hrest⟩ := List.forall_mem_cons.1 hall
      rw [logs, hfs, logs_ok_iff.2 ⟨hrest, rfl⟩, List.flatMap_cons, logOf, hfs]
      rfl

/-- A directive has effects on the component of its name only. -/
theorem component_of_logOf {e : String × Json} {f : Effect Validator} (hf : f ∈ logOf functions type e) :
    f.component = Component.ofMethod e.1 := by
  unfold logOf at hf
  cases hlog : log functions type e.1 e.2 with
  | error o =>
    rw [hlog] at hf
    exact absurd hf List.not_mem_nil
  | ok fs =>
    rw [hlog] at hf
    exact component_of_log hlog f hf

/-- **The effects on a component come from the directives on it.** -/
theorem on_logs (component : Component) : ∀ entries : List (String × Json),
    Effect.on component (entries.flatMap (logOf functions type)) =
      (entries.filter fun e => Component.ofMethod e.1 = component).flatMap (logOf functions type)
  | [] => rfl
  | e :: rest => by
    have hrest := on_logs component rest
    rw [List.flatMap_cons, Effect.on, List.filter_append, List.filter_cons]
    by_cases he : Component.ofMethod e.1 = component
    · have hall : ∀ f ∈ logOf functions type e, decide (f.component = component) = true := fun f hf =>
        decide_eq_true ((component_of_logOf hf).trans he)
      rw [if_pos (decide_eq_true he), List.flatMap_cons, List.filter_eq_self.2 hall]
      exact congrArg (logOf functions type e ++ ·) hrest
    · have hnone : ∀ f ∈ logOf functions type e, ¬ decide (f.component = component) = true := fun f hf hfc =>
        he ((component_of_logOf hf).symm.trans (of_decide_eq_true hfc))
      rw [if_neg (by simpa using he), List.filter_eq_nil_iff.2 hnone, List.nil_append]
      exact hrest

end Compile

/-! ## Components with a single directive -/

/-- A method that writes to another component than the rules is listed. -/
theorem Component.mem_table {method : String} {component : Component} (h : ofMethod method = component)
    (hr : component ≠ .rules) : (method, component) ∈ table := by
  unfold ofMethod at h
  cases hget : Table.get? table method with
  | none =>
    rw [hget] at h
    exact absurd h.symm hr
  | some c =>
    rw [hget] at h
    cases h
    exact Table.mem_of_get? hget

/-- Entries of a single name are the same in any order. -/
theorem Table.eq_of_perm {α : Type} (name : String) {xs ys : Table α} (hperm : xs.Perm ys) (hd : xs.Distinct)
    (hname : ∀ e ∈ xs, e.1 = name) : xs = ys := by
  match xs with
  | [] => exact (List.nil_perm.1 hperm).symm
  | [x] => exact List.singleton_perm.1 hperm
  | x :: y :: rest =>
    have hxy : x.1 = y.1 := (hname x (by simp)).trans (hname y (by simp)).symm
    exact absurd hd (by simp [Table.Distinct, Table.names, hxy])

/-- The components with more than one directive. -/
def Component.groups : List Component := [.presence, .valid, .invalid, .rules]

/-- Where the order is the same in each group, it is the same in each component. -/
theorem on_eq_of_groups {d e : Description} (hperm : d.directives.Perm e.directives)
    (hd : Table.Distinct d.directives) (hgroups : ∀ c ∈ Component.groups, d.on c = e.on c) (c : Component) :
    d.on c = e.on c := by
  have hsingle : ∀ name : String, (∀ method, Component.ofMethod method = c → method = name) → d.on c = e.on c := by
    intro name hname
    refine Table.eq_of_perm name (hperm.filter _) ?_ fun x hx => hname x.1 ?_
    · exact hd.sublist (List.filter_sublist.map _)
    · simpa using (List.mem_filter.1 hx).2
  cases c with
  | default =>
    refine hsingle "default" fun method hm => ?_
    simpa [Component.table] using Component.mem_table hm (by decide)
  | replacements =>
    refine hsingle "replace" fun method hm => ?_
    simpa [Component.table] using Component.mem_table hm (by decide)
  | presence | valid | invalid | rules => exact hgroups _ (by decide)

/-! ## Descriptions in another order -/

/-- Children are those of the properties, and depend on nothing else but the type. -/
theorem Compile.Seeded.congr {functions : Registry} {d e : Description} {cs : Option (List (String × Validator))}
    (htype : d.type = e.type) (hproperties : d.properties = e.properties) (h : Seeded functions d cs) :
    Seeded functions e cs := by
  cases h with
  | plain hne => exact .plain (htype ▸ hne)
  | bare hp => exact .bare (hproperties ▸ hp)
  | object hobj hp hall => exact .object (htype ▸ hobj) (hproperties ▸ hp) hall

/-- A description compiles when its properties and each of its directives do. -/
theorem compiles_iff {functions : Registry} {d : Description} : (∃ v, compile functions d = .ok v) ↔
    (∃ cs, Seeded functions d cs) ∧ ∀ e ∈ d.directives, ∃ fs, log functions d.type e.1 e.2 = .ok fs := by
  constructor
  · rintro ⟨v, hv⟩
    obtain ⟨cs, es, hs, hes, -⟩ := compile_ok_iff.1 hv
    exact ⟨⟨cs, hs⟩, (logs_ok_iff.1 hes).1⟩
  · rintro ⟨⟨cs, hs⟩, hall⟩
    exact ⟨_, compile_ok_iff.2 ⟨cs, _, hs, logs_ok_iff.2 ⟨hall, rfl⟩, rfl⟩⟩

/-- Where the order is the same in each component, the same validator is compiled. -/
theorem compile_of_on_eq {functions : Registry} {d e : Description} {v : Validator} (htype : d.type = e.type)
    (hproperties : d.properties = e.properties) (hperm : d.directives.Perm e.directives)
    (hon : ∀ c, d.on c = e.on c) (hv : compile functions d = .ok v) : compile functions e = .ok v := by
  obtain ⟨cs, es, hs, hes, rfl⟩ := compile_ok_iff.1 hv
  obtain ⟨hall, rfl⟩ := logs_ok_iff.1 hes
  have hall' : ∀ x ∈ e.directives, ∃ fs, log functions e.type x.1 x.2 = .ok fs := by
    intro x hx
    rw [← htype]
    exact hall x (hperm.mem_iff.2 hx)
  refine compile_ok_iff.2 ⟨cs, _, hs.congr htype hproperties, logs_ok_iff.2 ⟨hall', rfl⟩, ?_⟩
  rw [htype]
  refine Validator.foldl_record_congr (fun c => ?_) _
  rw [on_logs, on_logs]
  exact congrArg (List.flatMap (logOf functions e.type)) (hon c)

/-- **The order of directives matters only inside a component.** Two descriptions with the same directives in another
order compile both or not at all. Where each directive is there once and the order is the same within each group, they
compile to the same validator. -/
theorem compile_perm {functions : Registry} {d e : Description} (htype : d.type = e.type)
    (hproperties : d.properties = e.properties) (hperm : d.directives.Perm e.directives) :
    ((∃ v, compile functions d = .ok v) ↔ ∃ w, compile functions e = .ok w) ∧
    (Table.Distinct d.directives → (∀ c ∈ Component.groups, d.on c = e.on c) →
      ∀ v, compile functions d = .ok v ↔ compile functions e = .ok v) := by
  constructor
  · rw [compiles_iff, compiles_iff, htype]
    constructor
    · rintro ⟨⟨cs, hs⟩, hall⟩
      exact ⟨⟨cs, hs.congr htype hproperties⟩, fun x hx => hall x (hperm.mem_iff.2 hx)⟩
    · rintro ⟨⟨cs, hs⟩, hall⟩
      exact ⟨⟨cs, hs.congr htype.symm hproperties.symm⟩, fun x hx => hall x (hperm.mem_iff.1 hx)⟩
  · intro hd hgroups v
    have hon := on_eq_of_groups hperm hd hgroups
    constructor
    · exact compile_of_on_eq htype hproperties hperm hon
    · exact compile_of_on_eq htype.symm hproperties.symm hperm.symm fun c => (hon c).symm

/-- A default that is written between two limits may be written before them. -/
theorem compile_perm_limits :
    ∃ v, compile [] ⟨.string, [("min", .null), ("default", .null), ("max", .null)], none⟩ = .ok v ∧
      compile [] ⟨.string, [("default", .null), ("min", .null), ("max", .null)], none⟩ = .ok v := by
  obtain ⟨-, hsame⟩ := @compile_perm [] ⟨.string, [("min", .null), ("default", .null), ("max", .null)], none⟩
    ⟨.string, [("default", .null), ("min", .null), ("max", .null)], none⟩ rfl rfl (List.Perm.swap _ _ _)
  refine ⟨_, rfl, (hsame (by decide) (fun c hc => ?_) _).1 rfl⟩
  simp only [Component.groups, List.mem_cons, List.not_mem_nil, or_false] at hc
  rcases hc with rfl | rfl | rfl | rfl <;> rfl

end Rulebook
