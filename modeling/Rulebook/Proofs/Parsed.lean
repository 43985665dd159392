import Rulebook.Description.Text
import Rulebook.Proofs.Distinct
import Rulebook.Proofs.Fallible

/-!
# What is read from a text holds each name once

A text may repeat names. Reading puts the members of an object, the directives and the properties into tables, so what
is read holds each name once.

* `Outline.distinct_of_json?`: the value of an outline holds the names of its objects once.
* `Description.ofOutlineMembers_cons_eq_ok`: a node is read member by member, and `Reading.Step` says what one adds.
* `Description.distinct_of_parse`: a description that is read from a text holds each name once as well.
-/

namespace Rulebook

/-! ## Values -/

/-- Members are distinct when their values are. -/
theorem Json.distinctMembers_of_mem : ∀ {members : List (String × Json)}, (∀ e ∈ members, e.2.Distinct) →
    Json.DistinctMembers members
  | [], _ => trivial
  | (name, value) :: _, h =>
    ⟨h (name, value) List.mem_cons_self, distinctMembers_of_mem fun e he => h e (List.mem_cons_of_mem _ he)⟩

namespace Outline

mutual
/-- The value of an outline holds the names of its objects once. -/
theorem distinct_of_json? : ∀ {outline : Outline} {value : Json}, outline.json? = some value → value.Distinct
  | null, _, h | bool _, _, h | num _, _, h | str _, _, h => by
    cases h
    trivial
  | arr items closed, value, h => by
    rw [json?] at h
    split at h
    · obtain ⟨xs, hxs, rfl⟩ := Option.map_eq_some_iff.1 h
      exact distinct_of_jsonItems? hxs
    · cases h
  | obj members closed, value, h => by
    rw [json?] at h
    split at h
    · obtain ⟨ms, hms, rfl⟩ := Option.map_eq_some_iff.1 h
      have hall := distinct_of_jsonMembers? hms
      exact ⟨Table.distinct_ofList ms, Json.distinctMembers_of_mem fun e he => hall e (Table.mem_of_mem_ofList he)⟩
    · cases h
  | broken, _, h => by cases h

theorem distinct_of_jsonItems? : ∀ {items : List Outline} {values : List Json}, jsonItems? items = some values →
    Json.DistinctItems values
  | [], _, h => by
    cases h
    trivial
  | item :: rest, values, h => by
    rw [jsonItems?] at h
    split at h
    · next x xs hx hxs =>
      cases h
      exact ⟨distinct_of_json? hx, distinct_of_jsonItems? hxs⟩
    · cases h

theorem distinct_of_jsonMembers? : ∀ {members : List (String × Outline)} {ms : List (String × Json)},
    jsonMembers? members = some ms → ∀ e ∈ ms, e.2.Distinct
  | [], _, h => by
    cases h
    exact fun _ he => absurd he List.not_mem_nil
  | (name, value) :: rest, ms, h => by
    rw [jsonMembers?] at h
    split at h
    · next x xs hx hxs =>
      cases h
      exact List.forall_mem_cons.2 ⟨distinct_of_json? hx, distinct_of_jsonMembers? hxs⟩
    · cases h
end

end Outline

/-! ## Descriptions -/

namespace Description

/-- Properties are distinct when each is. -/
theorem distinctAll_of_mem : ∀ {properties : List (String × Description)}, (∀ e ∈ properties, e.2.Distinct) →
    DistinctAll properties
  | [], _ => trivial
  | (name, child) :: _, h =>
    ⟨h (name, child) List.mem_cons_self, distinctAll_of_mem fun e he => h e (List.mem_cons_of_mem _ he)⟩

/-- The parts of a node that are read so far: the values hold their names once, and so do the properties. -/
structure Parts.Distinct (parts : Parts) : Prop where
  values : ∀ e ∈ parts.directives, e.2.Distinct
  properties : ∀ properties ∈ parts.properties, Table.Distinct properties ∧ ∀ e ∈ properties, e.2.Distinct

/-- A description whose directives are put into a table holds its names once when its parts do. -/
theorem Parts.Distinct.finish {parts : Parts} (h : parts.Distinct) {d : Description}
    (hd : Parts.finish { parts with directives := Table.ofList parts.directives } = .ok d) : d.Distinct := by
  obtain ⟨type, properties, directives⟩ := parts
  have hvalues : Json.DistinctMembers (Table.ofList directives) :=
    Json.distinctMembers_of_mem fun e he => h.values e (Table.mem_of_mem_ofList he)
  cases type with
  | none => cases hd
  | some type =>
    cases hd
    cases properties with
    | none => exact ⟨Table.distinct_ofList _, hvalues⟩
    | some properties =>
      obtain ⟨hnames, hall⟩ := h.properties properties rfl
      exact ⟨Table.distinct_ofList _, hvalues, hnames, distinctAll_of_mem hall⟩

/-- What a member of a node adds to what was read before it: a structural member, once at most, or a directive. -/
inductive Reading.Step (reading : Reading) : String → Outline → Reading → Prop
  | type {value : Outline} {tag : TypeTag} : reading.parts.type = none → typeOfOutline value = .ok tag →
      Step reading "type" value { reading with parts := { reading.parts with type := some tag } }
  | null : reading.sawProperties = false →
      Step reading "properties" .null { reading with sawProperties := true }
  | properties {members : List (String × Outline)} {properties : List (String × Description)} :
      reading.sawProperties = false → ofOutlineProperties members = .ok properties →
      Step reading "properties" (.obj members true)
        { sawProperties := true, parts := { reading.parts with properties := some (Table.ofList properties) } }
  | directive {name : String} {value : Outline} {json : Json} : name ≠ "type" → name ≠ "properties" →
      value.json? = some json → Step reading name value
        { reading with parts := { reading.parts with directives := reading.parts.directives ++ [(name, json)] } }

/-- Behind the last member a node is finished, when its end was found. -/
theorem ofOutlineMembers_nil_eq_ok {reading : Reading} {closed : Bool} {d : Description} :
    ofOutlineMembers reading closed [] = .ok d ↔
      closed = true ∧
        Parts.finish { reading.parts with directives := Table.ofList reading.parts.directives } = .ok d := by
  rw [ofOutlineMembers]
  cases closed with
  | false => simp
  | true => simp [Fallible.mapError_eq_ok]

/-- **The members of a node are read one by one.** -/
theorem ofOutlineMembers_cons_eq_ok {reading : Reading} {closed : Bool} {name : String} {value : Outline}
    {rest : List (String × Outline)} {d : Description} :
    ofOutlineMembers reading closed ((name, value) :: rest) = .ok d ↔
      ∃ next, reading.Step name value next ∧ ofOutlineMembers next closed rest = .ok d := by
  constructor
  · intro h
    unfold ofOutlineMembers at h
    split at h
    · next htype =>
      subst htype
      split at h
      · cases h
      · next hnew =>
        split at h
        · cases h
        · next tag htag => exact ⟨_, .type (by simpa using hnew) htag, h⟩
    · next htype =>
      split at h
      · next hproperties =>
        subst hproperties
        split at h
        · cases h
        · next hnew =>
          have hnew : reading.sawProperties = false := by simpa using hnew
          split at h
          · exact ⟨_, .null hnew, h⟩
          · next members whole =>
            split at h
            · cases h
            · next properties hread =>
              cases whole with
              | false => cases h
              | true => exact ⟨_, .properties hnew hread, h⟩
          · cases h
      · next hproperties =>
        split at h
        · cases h
        · next json hjson => exact ⟨_, .directive htype hproperties hjson, h⟩
  · rintro ⟨next, hstep, h⟩
    rw [ofOutlineMembers.eq_def]
    cases hstep with
    | type hnew hread => simpa [hnew, hread] using h
    | null hnew => simpa [hnew] using h
    | properties hnew hread => simpa [hnew, hread] using h
    | directive htype hproperties hjson => simpa [htype, hproperties, hjson] using h

/-- What is read of a node stays distinct from member to member. -/
theorem Reading.Step.distinct {reading next : Reading} {name : String} {value : Outline}
    (h : reading.Step name value next) (hr : reading.parts.Distinct)
    (htable : ∀ members properties, value = .obj members true → ofOutlineProperties members = .ok properties →
      ∀ e ∈ properties, e.2.Distinct) : next.parts.Distinct := by
  cases h with
  | type hnew hread => exact ⟨hr.values, hr.properties⟩
  | null hnew => exact hr
  | properties hnew hread =>
    refine ⟨hr.values, fun ps hps => ?_⟩
    cases hps
    exact ⟨Table.distinct_ofList _, fun e he => htable _ _ rfl hread e (Table.mem_of_mem_ofList he)⟩
  | directive htype hproperties hjson =>
    refine ⟨fun e he => ?_, hr.properties⟩
    rcases List.mem_append.1 he with he | he
    · exact hr.values e he
    · rw [List.mem_singleton.1 he]
      exact Outline.distinct_of_json? hjson

mutual
/-- A description that is read from an outline holds its names once. -/
theorem distinct_of_ofOutline : ∀ {outline : Outline} {d : Description}, ofOutline outline = .ok d → d.Distinct
  | .obj members closed, d, h => by
    rw [ofOutline] at h
    exact distinct_of_ofOutlineMembers ⟨fun _ he => absurd he List.not_mem_nil, fun _ he => by cases he⟩ h
  | .null, d, h | .bool _, d, h | .num _, d, h | .str _, d, h | .arr _ _, d, h | .broken, d, h => by
    rw [ofOutline] at h
    · cases h
    · intro _ _ he
      cases he

theorem distinct_of_ofOutlineMembers : ∀ {members : List (String × Outline)} {reading : Reading} {closed : Bool}
    {d : Description}, reading.parts.Distinct → ofOutlineMembers reading closed members = .ok d → d.Distinct
  | [], reading, closed, d, hr, h => hr.finish (ofOutlineMembers_nil_eq_ok.1 h).2
  | (name, value) :: rest, reading, closed, d, hr, h => by
    obtain ⟨next, hstep, hrest⟩ := ofOutlineMembers_cons_eq_ok.1 h
    refine distinct_of_ofOutlineMembers (hstep.distinct hr fun members properties heq hread => ?_) hrest
    cases value with
    | obj table whole =>
      cases heq
      exact distinct_of_ofOutlineProperties hread
    | _ => cases heq

theorem distinct_of_ofOutlineProperties : ∀ {members : List (String × Outline)}
    {properties : List (String × Description)}, ofOutlineProperties members = .ok properties →
    ∀ e ∈ properties, e.2.Distinct
  | [], _, h => by
    rw [ofOutlineProperties] at h
    cases h
    exact fun _ he => absurd he List.not_mem_nil
  | (name, value) :: rest, properties, h => by
    rw [ofOutlineProperties] at h
    split at h
    · cases h
    · next child hchild =>
      split at h
      · cases h
      · next children hchildren =>
        cases h
        exact List.forall_mem_cons.2 ⟨distinct_of_ofOutline hchild, distinct_of_ofOutlineProperties hchildren⟩
end

/-- **A description that is read from a text holds each name once.** -/
theorem distinct_of_parse {text : String} {d : Description} (h : parse text = .ok d) : d.Distinct :=
  distinct_of_ofOutline h

end Description

end Rulebook
