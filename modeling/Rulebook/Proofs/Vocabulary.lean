import Rulebook.Proofs.Projection

/-!
# The words of extracted descriptions

What extraction writes is a description in the reversible part of the grammar, whatever the validator holds, so also
if no description compiles to it.

* `at_extract`: the nodes of what is extracted are extracted from the nodes of the validator.
* `reversible_extract`: the directives of a node are in the table and can be rebuilt.
* `names_properties_extract`: only objects have properties, one for each child, in the order of the children.
* `ofJson_toJson_extract`: what is extracted is read back from its form as a JSON value.
-/

namespace Rulebook

open Grammar

/-! ## Nodes and the names that lead to them -/

/-- A node of a description, under the names of the properties that lead to it. -/
inductive Description.At : Description → List String → Description → Prop
  | here (d : Description) : At d [] d
  | child {d child c : Description} {properties : List (String × Description)} {name : String} {path : List String} :
      d.properties = some properties → (name, child) ∈ properties → At child path c → At d (name :: path) c

/-- A node of a validator, under the names of the children that lead to it. -/
inductive Validator.At : Validator → List String → Validator → Prop
  | here (v : Validator) : At v [] v
  | child {v child u : Validator} {children : List (String × Validator)} {name : String} {path : List String} :
      v.children = some children → (name, child) ∈ children → At child path u → At v (name :: path) u

/-- The properties of what is extracted. -/
theorem properties_extract (v : Validator) : (extract v).properties =
    if v.type = .object then v.children.map (List.map fun e => (e.1, extract e.2)) else none := by
  rw [extract_eq]
  split
  · cases v.children with
    | none => rfl
    | some children => rw [extractChildren?, extractChildren_eq_map, Option.map_some]
  · rfl

/-- A property of what is extracted comes from a child of an object. -/
theorem child_of_property {v : Validator} {properties : List (String × Description)} {name : String}
    {child : Description} (hp : (extract v).properties = some properties) (hc : (name, child) ∈ properties) :
    ∃ children u, v.type = .object ∧ v.children = some children ∧ (name, u) ∈ children ∧ child = extract u := by
  rw [properties_extract] at hp
  split at hp
  · next hobj =>
    obtain ⟨children, hchildren, rfl⟩ := Option.map_eq_some_iff.1 hp
    obtain ⟨⟨key, u⟩, hu, heq⟩ := List.mem_map.1 hc
    cases heq
    exact ⟨children, u, hobj, hchildren, hu, rfl⟩
  · cases hp

/-- **The nodes of what is extracted** are extracted from the nodes of the validator. -/
theorem at_extract {v : Validator} {path : List String} {c : Description} (h : (extract v).At path c) :
    ∃ u, v.At path u ∧ c = extract u := by
  generalize hd : extract v = d at h
  induction h generalizing v with
  | here d => exact ⟨v, .here v, hd.symm⟩
  | child hp hc _ ih =>
    subst hd
    obtain ⟨children, w, -, hchildren, hw, hchild⟩ := child_of_property hp hc
    obtain ⟨u, hu, hcu⟩ := ih hchild.symm
    exact ⟨u, .child hchildren hw hu, hcu⟩

/-- **Only objects have properties**: one for each child, in the order of the children. -/
theorem names_properties_extract (v : Validator) : (extract v).properties.map Table.names =
    if v.type = .object then v.children.map Table.names else none := by
  rw [properties_extract]
  split
  · cases v.children with
    | none => rfl
    | some children => simp [Table.names]
  · rfl

/-! ## The names of directives -/

/-- A directive of the table that extraction can rebuild. -/
def Grammar.Reversible (name : String) : Prop := ∃ row, lookup name = some row ∧ row.reversible = true

/-- No directive of the table has the name of a structural member. -/
theorem Grammar.Reversible.not_structural {name : String} (h : Reversible name) :
    name ≠ "type" ∧ name ≠ "properties" := by
  have hnone : lookup "type" = none ∧ lookup "properties" = none := by decide
  obtain ⟨row, hrow, -⟩ := h
  constructor
  · rintro rfl
    rw [hnone.1] at hrow
    cases hrow
  · rintro rfl
    rw [hnone.2] at hrow
    cases hrow

/-- The directives before and behind the rules can be rebuilt. -/
theorem reversible_of_apart {name : String} (h : name ∈ leadingNames ++ ["replace"]) : Reversible name := by
  have hall : ∀ n ∈ leadingNames ++ ["replace"], (lookup n).map Directive.reversible = some true := by decide
  exact Option.map_eq_some_iff.1 (hall name h)

namespace Rule

variable {r : Rule Validator} {name : String} {value : Json}

/-- The directive of a rule goes by the method, or by the operator. -/
theorem directiveName_cases (h : r.directiveName = .ok name) :
    r.method = name ∨ ∃ operator : Operator, operator.directive? = some name := by
  simp only [directiveName] at h
  split at h
  · next n hn =>
    cases h
    split at hn
    · obtain ⟨operator, -, hoperator⟩ := Option.bind_eq_some_iff.1 hn
      exact .inr ⟨operator, hoperator⟩
    · cases hn
  · split at h
    · cases h
    · exact .inl (Except.ok.inj h)

/-- **The directive of a rule**, whatever the rule holds, is a sign or made from the bag by a row of the table. -/
theorem directive_cases (h : r.directive = .ok (name, value)) :
    ((name = "positive" ∨ name = "negative") ∧ value = .bool true) ∨
      ∃ (row : Directive) (data : Table Json), r.directiveName = .ok name ∧ lookup name = some row ∧
        row.reversible = true ∧ bag name r.args = .ok data ∧ value = Rule.value row.category data name r.method := by
  unfold directive at h
  split at h
  · unfold signDirective at h
    split at h
    · split at h
      · next hsign =>
        cases h
        exact .inl ⟨hsign, rfl⟩
      · cases h
    · cases h
  · split at h
    · cases h
    · next n hn =>
      split at h
      · cases h
      · next row hrow =>
        split at h
        · next hrev =>
          split at h
          · cases h
          · next data hdata =>
            cases h
            exact .inr ⟨row, data, hn, hrow, hrev, hdata, rfl⟩
        · cases h

/-- The directive of a rule can be rebuilt. -/
theorem reversible_of_directive (h : r.directive = .ok (name, value)) : Reversible name := by
  rcases directive_cases h with ⟨hsign, -⟩ | ⟨row, -, -, hrow, hrev, -⟩
  · exact ⟨_, (row_sign hsign).lookup, rfl⟩
  · exact ⟨row, hrow, hrev⟩

end Rule

/-- A directive of what is extracted stands before or behind the rules, or tells a rule. -/
theorem mem_directives_extract {v : Validator} {e : String × Json} (h : e ∈ (extract v).directives) :
    e.1 ∈ leadingNames ++ ["replace"] ∨ ∃ r ∈ v.rules, r.directive = .ok e := by
  rw [directives_extract] at h
  have hsplit : v.directives = v.layout.leading ++ v.emitted ++ v.layout.trailing := rfl
  have hmem : e ∈ v.layout.leading ++ v.emitted ++ v.layout.trailing := hsplit ▸ Table.mem_of_mem_ofList h
  rw [List.mem_append, List.mem_append] at hmem
  rcases hmem with (hmem | hmem) | hmem
  · exact .inl (List.mem_append_left _ (v.layout.names_leading.subset (Table.mem_names hmem)))
  · exact .inr (Validator.mem_emitted.1 hmem)
  · exact .inl (List.mem_append_right _ (v.layout.names_trailing.subset (Table.mem_names hmem)))

/-- **The directives of what is extracted** can be rebuilt. -/
theorem reversible_extract (v : Validator) : ∀ e ∈ (extract v).directives, Reversible e.1 := by
  intro e he
  rcases mem_directives_extract he with hapart | ⟨r, -, hr⟩
  · exact reversible_of_apart hapart
  · exact r.reversible_of_directive hr

/-! ## Reading back -/

namespace Description

theorem typeOfJson_text (type : TypeTag) : typeOfJson (.str type.text) = .ok type := by
  cases type <;> rfl

/-- Members that are not structural are directives. -/
theorem ofMembers_directives : ∀ {entries : List (String × Json)} (parts : Parts) (rest : List (String × Json)),
    (∀ e ∈ entries, e.1 ≠ "type" ∧ e.1 ≠ "properties") →
      ofMembers parts (entries ++ rest) = ofMembers { parts with directives := parts.directives ++ entries } rest
  | [], parts, rest, _ => by simp
  | (name, value) :: entries, parts, rest, h => by
    obtain ⟨htype, hproperties⟩ := h (name, value) List.mem_cons_self
    have hrest := ofMembers_directives { parts with directives := parts.directives ++ [(name, value)] } rest
      fun e he => h e (List.mem_cons_of_mem _ he)
    rw [List.cons_append, ofMembers.eq_def]
    simp only [htype, hproperties, if_false, hrest, List.append_assoc, List.singleton_append]

/-- A node whose directives have names of their own, and none that of a structural member. -/
def Flat (d : Description) : Prop :=
  Table.Distinct d.directives ∧ ∀ e ∈ d.directives, e.1 ≠ "type" ∧ e.1 ≠ "properties"

/-- The members of a flat node have names of their own. -/
theorem Flat.distinct {d : Description} (h : d.Flat) (properties : Json) :
    Table.Distinct (("type", .str d.type.text) :: (d.directives ++ [("properties", properties)])) := by
  have hapart : ∀ name ∈ Table.names d.directives, name ≠ "type" ∧ name ≠ "properties" := by
    intro name hn
    obtain ⟨e, he, rfl⟩ := List.mem_map.1 hn
    exact h.2 e he
  have hd : (Table.names d.directives).Nodup := h.1
  simp only [Table.Distinct, Table.names_cons, Table.names_append, Table.names_nil, List.nodup_cons,
    List.nodup_append, List.mem_append, List.mem_singleton]
  refine ⟨fun hm => ?_, hd, by simp, fun a ha b hb hab => ?_⟩
  · rcases hm with hm | hm
    · exact (hapart _ hm).1 rfl
    · simp at hm
  · exact (hapart a ha).2 (hab.trans hb)

mutual
/-- A description with flat nodes is read back from its form as a JSON value. -/
theorem ofJson_toJson : ∀ d : Description, (∀ path c, d.At path c → c.Flat) → ofJson d.toJson = .ok d
  | ⟨type, directives, none⟩, h => by
    have hflat := h [] _ (.here _)
    have hdistinct : Table.Distinct (("type", .str type.text) :: directives) :=
      (hflat.distinct .null).sublist (by simp [Table.names])
    rw [toJson, Table.ofList_eq_self hdistinct, ofJson, ofMembers.eq_def]
    have hread := ofMembers_directives { type := some type } [] hflat.2
    rw [List.append_nil] at hread
    simp only [if_true, typeOfJson_text, hread]
    rfl
  | ⟨type, directives, some properties⟩, h => by
    have hflat := h [] _ (.here _)
    have hproperties := ofProperties_toJsonAll properties fun e he path c hc => h (e.1 :: path) c (.child rfl he hc)
    rw [toJson, Table.ofList_eq_self (hflat.distinct _), ofJson, ofMembers.eq_def]
    simp only [if_true, typeOfJson_text, ofMembers_directives _ _ hflat.2]
    rw [ofMembers.eq_def]
    simp only [if_neg (show "properties" ≠ "type" by decide), if_true, hproperties]
    rfl

theorem ofProperties_toJsonAll : ∀ properties : List (String × Description),
    (∀ e ∈ properties, ∀ path c, e.2.At path c → c.Flat) → ofProperties (toJsonAll properties) = .ok properties
  | [], _ => rfl
  | (name, child) :: rest, h => by
    have hchild := ofJson_toJson child (h (name, child) List.mem_cons_self)
    have hrest := ofProperties_toJsonAll rest fun e he => h e (List.mem_cons_of_mem _ he)
    rw [toJsonAll, ofProperties, hchild, hrest]
end

end Description

/-- The nodes of what is extracted are flat. -/
theorem flat_extract (v : Validator) : (extract v).Flat := by
  have hdistinct : Table.Distinct (extract v).directives := directives_extract v ▸ Table.distinct_ofList _
  exact ⟨hdistinct, fun e he => (reversible_extract v e he).not_structural⟩

/-- **What is extracted is read back** from its form as a JSON value. -/
theorem ofJson_toJson_extract (v : Validator) : Description.ofJson (extract v).toJson = .ok (extract v) := by
  refine Description.ofJson_toJson _ fun path c hc => ?_
  obtain ⟨u, -, rfl⟩ := at_extract hc
  exact flat_extract u

end Rulebook
