import Rulebook.Proofs.Parsed
import Rulebook.Proofs.Vocabulary

/-!
# The flat form loses nothing

A node is written as one flat object in which its type and its properties stand beside its directives. Reading takes
the structural members out again, wherever they stand.

* `Description.ofMembers_eq_ok`: what is read of a node is the type and the properties under their names and, as
  directives, all other members in their order.
* `Description.toJson_ofJson`: a description that is read from a value is written as the flat form of the value.
* `flat_form_lossless`: a description is read back from its flat form, if and only if no directive of a node has a
  structural name; and what is read from a value has no such directive and keeps all that the value holds.
-/

namespace Rulebook

open Fallible

/-- The names of the members of a node that are no directives. -/
def structural : List String := ["type", "properties"]

/-- What is left beside the structural members has another name. -/
theorem ne_of_mem_without_structural {members : List (String × Json)} {e : String × Json}
    (h : e ∈ Table.without members structural) : e.1 ≠ "type" ∧ e.1 ≠ "properties" := by
  have hname : e.1 ∉ structural := (Table.mem_names_without.1 (Table.mem_names h)).2
  simpa [structural] using hname

/-! ## The flat form of a value -/

namespace Json

/-- A node of a value, under the names of the properties that lead to it. -/
inductive At : Json → List String → Json → Prop
  | here (j : Json) : At j [] j
  | child {members table : List (String × Json)} {name : String} {child c : Json} {path : List String} :
      ("properties", obj table) ∈ members → (name, child) ∈ table → At child path c → At (obj members) (name :: path) c

/-- A type as a plain name. -/
def plainType : Json → Json
  | obj [(name, null)] => str name
  | value => value

mutual
/-- A node in flat form: the type as a plain name, the directives, the properties. -/
def flat : Json → Json
  | obj members =>
    obj (((Table.get? members "type").map fun value => ("type", plainType value)).toList ++
      Table.without members structural ++ flatProperties members)
  | value => value

/-- The properties among the members, in flat form. -/
def flatProperties : List (String × Json) → List (String × Json)
  | [] => []
  | (name, value) :: rest => if name = "properties" then flatTable value else flatProperties rest

/-- Properties in flat form; they are dropped when they are null. -/
def flatTable : Json → List (String × Json)
  | null => []
  | obj table => [("properties", obj (flatAll table))]
  | value => [("properties", value)]

/-- Every listed value in flat form. -/
def flatAll : List (String × Json) → List (String × Json)
  | [] => []
  | (name, value) :: rest => (name, flat value) :: flatAll rest
end

end Json

/-! ## Reading a node -/

namespace Description

/-- The type of a node, from the value under its name, or as it has been found before. -/
inductive HoldsType : Option Json → Option TypeTag → TypeTag → Prop
  | absent (type : TypeTag) : HoldsType none (some type) type
  | read {value : Json} {before : Option TypeTag} {type : TypeTag} :
      typeOfJson value = .ok type → HoldsType (some value) before type

/-- The properties of a node, from the value under their name, or as they have been found before. -/
inductive HoldsProperties : Option Json → Option (List (String × Description)) →
    Option (List (String × Description)) → Prop
  | absent (before : Option (List (String × Description))) : HoldsProperties none before before
  | null (before : Option (List (String × Description))) : HoldsProperties (some .null) before none
  | read {table : List (String × Json)} {before : Option (List (String × Description))}
      {properties : List (String × Description)} :
      ofProperties table = .ok properties → HoldsProperties (some (.obj table)) before (some properties)

/-- What is read of further members, after parts of a node have been found: a structural member replaces what was
found before, and directives are added in their order. -/
structure Parts.Yields (parts : Parts) (members : List (String × Json)) (d : Description) : Prop where
  type : HoldsType (Table.get? members "type") parts.type d.type
  properties : HoldsProperties (Table.get? members "properties") parts.properties d.properties
  directives : d.directives = parts.directives ++ Table.without members structural

namespace Parts

variable {parts : Parts} {rest : List (String × Json)} {value : Json} {d : Description}

theorem finish_eq_ok : parts.finish = .ok d ↔ parts.Yields [] d := by
  obtain ⟨type, properties, directives⟩ := parts
  constructor
  · intro h
    unfold finish at h
    split at h
    · next htype =>
      cases h
      subst htype
      exact ⟨.absent _, .absent _, (List.append_nil _).symm⟩
    · cases h
  · obtain ⟨dtype, ddirectives, dproperties⟩ := d
    rintro ⟨htype, hproperties, hdirectives⟩
    cases htype
    cases hproperties
    have hsame : ddirectives = directives := hdirectives.trans (List.append_nil _)
    rw [hsame]
    rfl

/-- The type of a node comes from the only member of that name. -/
theorem yields_type (h : "type" ∉ Table.names rest) : parts.Yields (("type", value) :: rest) d ↔
    ∃ type, typeOfJson value = .ok type ∧ { parts with type := some type }.Yields rest d := by
  have hrest : Table.get? rest "type" = none := Table.get?_eq_none h
  constructor
  · rintro ⟨htype, hproperties, hdirectives⟩
    cases htype with
    | read hread => exact ⟨d.type, hread, ⟨hrest ▸ .absent _, hproperties, hdirectives⟩⟩
  · rintro ⟨type, hread, htype, hproperties, hdirectives⟩
    rw [hrest] at htype
    cases htype
    exact ⟨.read hread, hproperties, hdirectives⟩

/-- The properties of a node come from the only member of that name. -/
theorem yields_properties (h : "properties" ∉ Table.names rest) : parts.Yields (("properties", value) :: rest) d ↔
    ∃ properties, HoldsProperties (some value) parts.properties properties ∧
      { parts with properties }.Yields rest d := by
  have hrest : Table.get? rest "properties" = none := Table.get?_eq_none h
  constructor
  · rintro ⟨htype, hproperties, hdirectives⟩
    exact ⟨d.properties, hproperties, ⟨htype, hrest ▸ .absent _, hdirectives⟩⟩
  · obtain ⟨dtype, ddirectives, dproperties⟩ := d
    rintro ⟨properties, hread, htype, hproperties, hdirectives⟩
    rw [hrest] at hproperties
    cases hproperties
    exact ⟨htype, hread, hdirectives⟩

/-- A member of any other name is a directive. -/
theorem yields_directive {name : String} (h : name ∉ structural) : parts.Yields ((name, value) :: rest) d ↔
    { parts with directives := parts.directives ++ [(name, value)] }.Yields rest d := by
  have hne : name ≠ "type" ∧ name ≠ "properties" := by simpa [structural] using h
  have hwithout :
      Table.without ((name, value) :: rest) structural = (name, value) :: Table.without rest structural := by
    simp [Table.without, h]
  constructor
  · rintro ⟨htype, hproperties, hdirectives⟩
    rw [Table.get?_cons, if_neg hne.1] at htype
    rw [Table.get?_cons, if_neg hne.2] at hproperties
    refine ⟨htype, hproperties, ?_⟩
    rw [hdirectives, hwithout, List.append_assoc, List.singleton_append]
  · rintro ⟨htype, hproperties, hdirectives⟩
    refine ⟨?_, ?_, ?_⟩
    · rwa [Table.get?_cons, if_neg hne.1]
    · rwa [Table.get?_cons, if_neg hne.2]
    · rw [hdirectives, hwithout, List.append_assoc, List.singleton_append]

end Parts

/-- **What is read of a node**, member by member. -/
theorem ofMembers_eq_ok : ∀ {members : List (String × Json)} {parts : Parts} {d : Description},
    Table.Distinct members → (ofMembers parts members = .ok d ↔ parts.Yields members d)
  | [], parts, d, _ => Parts.finish_eq_ok
  | (name, value) :: rest, parts, d, hd => by
    obtain ⟨hname, hrest⟩ := List.nodup_cons.1 hd
    rw [ofMembers.eq_def]
    simp only
    split
    · next htype =>
      subst htype
      rw [Parts.yields_type hname]
      cases typeOfJson value with
      | error e => simp
      | ok type => simp [ofMembers_eq_ok hrest]
    · split
      · next htype hproperties =>
        subst hproperties
        rw [Parts.yields_properties hname]
        split
        · rw [ofMembers_eq_ok hrest]
          constructor
          · exact fun h => ⟨none, .null _, h⟩
          · rintro ⟨_, ⟨⟩, h⟩
            exact h
        · next members =>
          constructor
          · intro h
            split at h
            · cases h
            · next properties hread => exact ⟨_, .read hread, (ofMembers_eq_ok hrest).1 h⟩
          · rintro ⟨_, hread, h⟩
            cases hread with
            | read hread =>
              simp only [hread]
              exact (ofMembers_eq_ok hrest).2 h
        · next hnull hobj =>
          constructor
          · intro h
            cases h
          · rintro ⟨_, hread, -⟩
            cases hread with
            | null => exact absurd rfl hnull
            | read => exact absurd rfl (hobj _)
      · next htype hproperties =>
        rw [ofMembers_eq_ok hrest, Parts.yields_directive (by simp [structural, htype, hproperties])]

/-- Each property is read from the value under its name. -/
theorem ofProperties_eq_ok : ∀ {table : List (String × Json)} {properties : List (String × Description)},
    ofProperties table = .ok properties ↔
      List.Forall₂ (fun e p => e.1 = p.1 ∧ ofJson e.2 = .ok p.2) table properties
  | [], properties => by
    rw [ofProperties, List.forall₂_nil_left_iff]
    exact ⟨fun h => (Except.ok.inj h).symm, fun h => congrArg _ h.symm⟩
  | (name, value) :: rest, properties => by
    rw [ofProperties]
    constructor
    · intro h
      split at h
      · cases h
      · next child hchild =>
        split at h
        · cases h
        · next children hrest =>
          cases h
          exact .cons ⟨rfl, hchild⟩ (ofProperties_eq_ok.1 hrest)
    · rintro (_ | ⟨⟨hname, hchild⟩, hrest⟩)
      simp only at hname hchild
      simp only [hchild, ofProperties_eq_ok.2 hrest, hname]

/-- Properties keep their names. -/
theorem names_ofProperties {table : List (String × Json)} {properties : List (String × Description)}
    (h : ofProperties table = .ok properties) : Table.names table = Table.names properties :=
  Table.names_eq_of_forall₂ (R := fun value d => ofJson value = .ok d) (ofProperties_eq_ok.1 h)

/-- Only objects are descriptions. -/
theorem obj_of_ofJson {j : Json} {d : Description} (h : ofJson j = .ok d) : ∃ members, j = .obj members := by
  cases j with
  | obj members => exact ⟨members, rfl⟩
  | _ => simp [ofJson] at h

/-- What is read of a node that holds each name once. -/
theorem ofJson_obj {members : List (String × Json)} {d : Description} (hd : Table.Distinct members) :
    ofJson (.obj members) = .ok d ↔ Parts.Yields {} members d := by
  rw [ofJson, ofMembers_eq_ok hd]

/-- A node has a type. -/
theorem Parts.Yields.typed {members : List (String × Json)} {d : Description} (h : Parts.Yields {} members d) :
    ∃ value, Table.get? members "type" = some value ∧ typeOfJson value = .ok d.type := by
  have htype := h.type
  generalize Table.get? members "type" = found at htype
  cases htype with
  | read hread => exact ⟨_, rfl, hread⟩

/-- **The nodes of what is read** are read from the nodes of the value. -/
theorem at_ofJson {d c : Description} {path : List String} (hat : d.At path c) : ∀ {j : Json}, j.Distinct →
    ofJson j = .ok d → ∃ members, j.At path (.obj members) ∧ c.directives = Table.without members structural := by
  induction hat with
  | here d =>
    intro j hj h
    obtain ⟨members, rfl⟩ := obj_of_ofJson h
    exact ⟨members, .here _, ((ofJson_obj hj.1).1 h).directives⟩
  | @child d _ _ properties name path hp hm _ ih =>
    intro j hj h
    obtain ⟨members, rfl⟩ := obj_of_ofJson h
    have hread := ((ofJson_obj hj.1).1 h).properties
    generalize hvalue : Table.get? members "properties" = value at hread
    rw [hp] at hread
    cases hread with
    | read htable =>
      obtain ⟨⟨_, found⟩, hfound, rfl, hchild⟩ := mem_left_of_forall₂ (ofProperties_eq_ok.1 htable) hm
      have hmember := Table.mem_of_get? hvalue
      have hdistinct := Json.distinct_of_mem hj.2 hmember
      obtain ⟨inner, hat, hdirectives⟩ := ih (Json.distinct_of_mem hdistinct.2 hfound) hchild
      exact ⟨inner, .child hmember hfound hat, hdirectives⟩

/-! ## Writing what was read -/

theorem text_of_typeNamed {name : String} {type : TypeTag} (h : typeNamed name = .ok type) : name = type.text := by
  unfold typeNamed at h
  split at h
  · next hfound =>
    cases h
    have hname := List.find?_some hfound
    exact (of_decide_eq_true hname).symm
  · cases h

/-- A type that is read is written as a plain name. -/
theorem plainType_of_typeOfJson {value : Json} {type : TypeTag} (h : typeOfJson value = .ok type) :
    value.plainType = .str type.text := by
  unfold typeOfJson at h
  split at h
  · exact congrArg Json.str (text_of_typeNamed h)
  · next name inner =>
    obtain ⟨tag, hname, h⟩ := bind_eq_ok.1 h
    split at h
    · cases h
      exact congrArg Json.str (text_of_typeNamed hname)
    · cases h
  · cases h
  · cases h

/-- A node whose directives have names of their own is written member by member. -/
theorem Flat.toJson_eq {d : Description} (h : d.Flat) : d.toJson = .obj (("type", .str d.type.text) ::
    (d.directives ++ (d.properties.map fun ps => ("properties", Json.obj (toJsonAll ps))).toList)) := by
  obtain ⟨type, directives, _ | properties⟩ := d
  · have hdistinct : Table.Distinct (("type", .str type.text) :: directives) :=
      (h.distinct .null).sublist (by simp [Table.names])
    rw [toJson, Table.ofList_eq_self hdistinct]
    simp
  · have hdistinct := h.distinct (.obj (toJsonAll properties))
    rw [toJson, Table.ofList_eq_self hdistinct]
    rfl

/-- What is read of a node that holds each name once is a flat node. -/
theorem flat_of_ofJson {members : List (String × Json)} {d : Description} (hd : Table.Distinct members)
    (h : Parts.Yields {} members d) : d.Flat := by
  have hdirectives : d.directives = Table.without members structural := h.directives
  exact ⟨hdirectives ▸ Table.distinct_without hd _, fun e he => ne_of_mem_without_structural (hdirectives ▸ he)⟩

mutual
/-- A description is written as the flat form of the value from which it is read. -/
theorem toJson_ofJson : ∀ {j : Json} {d : Description}, j.Distinct → ofJson j = .ok d → d.toJson = j.flat
  | .obj members, d, hj, h => by
    have hread := (ofJson_obj hj.1).1 h
    have hproperties := flatProperties_eq hj.2 hread.properties
    obtain ⟨value, hvalue, htype⟩ := hread.typed
    rw [(flat_of_ofJson hj.1 hread).toJson_eq, Json.flat, hproperties, hvalue, hread.directives]
    simp [plainType_of_typeOfJson htype]
  | .null, _, _, h | .bool _, _, _, h | .num _, _, _, h | .str _, _, _, h | .arr _, _, _, h => by simp [ofJson] at h

/-- The properties of a node are written in flat form, behind everything else. -/
theorem flatProperties_eq : ∀ {members : List (String × Json)} {properties : Option (List (String × Description))},
    Json.DistinctMembers members → HoldsProperties (Table.get? members "properties") none properties →
    Json.flatProperties members = (properties.map fun ps => ("properties", Json.obj (toJsonAll ps))).toList
  | [], _, _, h => by
    cases h
    rfl
  | (name, value) :: rest, properties, hj, h => by
    rw [Table.get?_cons] at h
    rw [Json.flatProperties]
    by_cases hname : name = "properties"
    · rw [if_pos hname] at h ⊢
      exact flatTable_eq hj.1 h
    · rw [if_neg hname] at h ⊢
      exact flatProperties_eq hj.2 h

theorem flatTable_eq : ∀ {value : Json} {properties : Option (List (String × Description))}, value.Distinct →
    HoldsProperties (some value) none properties →
    Json.flatTable value = (properties.map fun ps => ("properties", Json.obj (toJsonAll ps))).toList
  | .null, _, _, h => by
    cases h
    rw [Json.flatTable]
    rfl
  | .obj table, _, hj, h => by
    cases h with
    | read hread => simp [Json.flatTable, toJsonAll_ofProperties hj.2 hread]
  | .bool _, _, _, h | .num _, _, _, h | .str _, _, _, h | .arr _, _, _, h => by cases h

theorem toJsonAll_ofProperties : ∀ {table : List (String × Json)} {properties : List (String × Description)},
    Json.DistinctMembers table → ofProperties table = .ok properties → toJsonAll properties = Json.flatAll table
  | [], _, _, h => by
    cases h
    rfl
  | (name, value) :: rest, properties, hj, h => by
    rw [ofProperties] at h
    split at h
    · cases h
    · next child hchild =>
      split at h
      · cases h
      · next children hrest =>
        cases h
        rw [toJsonAll, Json.flatAll, toJson_ofJson hj.1 hchild, toJsonAll_ofProperties hj.2 hrest]
end

/-! ## Reading back what was written -/

/-- Properties are written one by one. -/
theorem toJsonAll_eq_map : ∀ properties : List (String × Description),
    toJsonAll properties = properties.map fun p => (p.1, p.2.toJson)
  | [] => rfl
  | (name, child) :: rest => by rw [toJsonAll, toJsonAll_eq_map rest, List.map_cons]

theorem names_toJsonAll : ∀ properties : List (String × Description),
    Table.names (toJsonAll properties) = Table.names properties
  | [] => rfl
  | (name, _) :: rest => congrArg (name :: ·) (names_toJsonAll rest)

mutual
/-- A description that holds its names once is written with each name once. -/
theorem Distinct.toJson : ∀ {d : Description}, d.Distinct → d.toJson.Distinct
  | ⟨type, directives, none⟩, h => by
    refine ⟨Table.distinct_ofList _, Json.distinctMembers_of_mem fun e he => ?_⟩
    rcases List.mem_cons.1 (Table.mem_of_mem_ofList he) with rfl | he
    · trivial
    · exact h.value he
  | ⟨type, directives, some properties⟩, h => by
    have hall := h.2.2.2.toJsonAll
    refine ⟨Table.distinct_ofList _, Json.distinctMembers_of_mem fun e he => ?_⟩
    rcases List.mem_cons.1 (Table.mem_of_mem_ofList he) with rfl | he
    · trivial
    · rcases List.mem_append.1 he with he | he
      · exact h.value he
      · rw [List.mem_singleton.1 he]
        exact ⟨(names_toJsonAll properties).symm ▸ h.2.2.1, hall⟩

theorem DistinctAll.toJsonAll : ∀ {properties : List (String × Description)}, DistinctAll properties →
    Json.DistinctMembers (toJsonAll properties)
  | [], _ => trivial
  | (_, _) :: _, h => ⟨h.1.toJson, h.2.toJsonAll⟩
end

/-- Every node holds its names once. -/
theorem Distinct.at {d c : Description} {path : List String} (hat : d.At path c) (h : d.Distinct) : c.Distinct := by
  induction hat with
  | here d => exact h
  | child hp hm _ ih => exact ih (h.property hp hm)

end Description

/-- **The flat form loses nothing.** A description is read back from its flat form, with directives and properties in
their order, if and only if no directive of a node has the name of a structural member. A description that is read from
a value has no such directive; the directives of a node are the other members of the value in their order; and it is
written as the value in flat form. -/
theorem flat_form_lossless :
    (∀ d : Description, d.Distinct → (Description.ofJson d.toJson = .ok d ↔
      ∀ path c, d.At path c → ∀ e ∈ c.directives, e.1 ≠ "type" ∧ e.1 ≠ "properties")) ∧
    ∀ (j : Json) (d : Description), j.Distinct → Description.ofJson j = .ok d →
      (∀ path c, d.At path c → (∀ e ∈ c.directives, e.1 ≠ "type" ∧ e.1 ≠ "properties") ∧
        ∃ members, j.At path (.obj members) ∧ c.directives = Table.without members structural) ∧
      d.toJson = j.flat := by
  have hnodes : ∀ (j : Json) (d : Description), j.Distinct → Description.ofJson j = .ok d → ∀ path c, d.At path c →
      (∀ e ∈ c.directives, e.1 ≠ "type" ∧ e.1 ≠ "properties") ∧
        ∃ members, j.At path (.obj members) ∧ c.directives = Table.without members structural := by
    intro j d hj h path c hat
    obtain ⟨members, hmembers, hdirectives⟩ := Description.at_ofJson hat hj h
    exact ⟨fun e he => ne_of_mem_without_structural (hdirectives ▸ he), members, hmembers, hdirectives⟩
  refine ⟨fun d hd => ⟨fun h path c hat => (hnodes _ d hd.toJson h path c hat).1, fun h => ?_⟩, fun j d hj h => ?_⟩
  · exact Description.ofJson_toJson d fun path c hat => ⟨(hd.at hat).names, h path c hat⟩
  · exact ⟨hnodes j d hj h, Description.toJson_ofJson hj h⟩

/-- Properties in front of a type, and a type that is an object: the flat form puts each in its place. -/
theorem flat_form_lossless_nested : ∃ (j : Json) (d : Description),
    j = .obj [("properties", .obj [("a", .obj [("properties", .null), ("type", .obj [("string", .null)])])]),
      ("and", .arr [.str "a"]), ("type", .str "object")] ∧
    j.Distinct ∧ Description.ofJson j = .ok d ∧ d.Distinct ∧ Description.ofJson d.toJson = .ok d ∧
    d.toJson = .obj [("type", .str "object"), ("and", .arr [.str "a"]),
      ("properties", .obj [("a", .obj [("type", .str "string")])])] := by
  have hj : Json.Distinct (.obj [("properties", .obj [("a", .obj [("properties", .null),
      ("type", .obj [("string", .null)])])]), ("and", .arr [.str "a"]), ("type", .str "object")]) := by
    simp [Json.Distinct, Json.DistinctMembers, Json.DistinctItems]
  have hd : Description.Distinct
      ⟨.object, [("and", .arr [.str "a"])], some [("a", ⟨.string, [], none⟩)]⟩ := by
    simp [Description.Distinct, Description.DistinctAll, Json.DistinctMembers, Json.DistinctItems, Json.Distinct,
      Table.Distinct]
  have hread : Description.ofJson (.obj [("properties", .obj [("a", .obj [("properties", .null),
      ("type", .obj [("string", .null)])])]), ("and", .arr [.str "a"]), ("type", .str "object")]) =
      .ok ⟨.object, [("and", .arr [.str "a"])], some [("a", ⟨.string, [], none⟩)]⟩ := by
    rfl
  obtain ⟨hnodes, hwritten⟩ := flat_form_lossless.2 _ _ hj hread
  refine ⟨_, _, rfl, hj, hread, hd, (flat_form_lossless.1 _ hd).2 fun path c hat => (hnodes path c hat).1, ?_⟩
  rw [hwritten]
  rfl

end Rulebook
