import Rulebook.Proofs.FlatForm
import Rulebook.Proofs.Front

/-!
# Texts and documents

A description is read from the first value of a text. It is the description of that value, whatever follows it.

* `Description.json_of_ofOutline`: a description that is read from an outline is read from its value.
* `parse_reads_front`: a text that is read has a document in front, which decides the description alone.
-/

namespace Rulebook

open Fallible

/-! ## Tables of repeated names -/

namespace Table

variable {α β : Type}

/-- The name of an entry reads as its value, unless it is written again behind it. -/
theorem get?_ofList_cons (key : String) (value : α) (rest : List (String × α)) (name : String) :
    get? (ofList ((key, value) :: rest)) name =
      (get? (ofList rest) name).or (if key = name then some value else none) := by
  rw [get?_ofList, get?_ofList, List.reverse_cons, get?_append]
  rfl

theorem without_put (names : List String) : ∀ (table : Table α) (name : String) (value : α),
    without (put table name value) names =
      if names.contains name then without table names else put (without table names) name value
  | [], name, value => by
    by_cases h : name ∈ names <;> simp [put, without, h]
  | (key, old) :: rest, name, value => by
    have ih := without_put names rest name value
    by_cases hk : key = name
    · subst hk
      by_cases h : key ∈ names <;> simp [put, without, h]
    · by_cases h : key ∈ names <;> by_cases hn : name ∈ names <;> simp_all [put, without]

theorem without_putAll (names : List String) : ∀ (entries : List (String × α)) (table : Table α),
    without (putAll table entries) names = putAll (without table names) (without entries names)
  | [], _ => rfl
  | (name, value) :: entries, table => by
    rw [putAll_cons, without_putAll names entries, without_put]
    by_cases h : name ∈ names <;> simp [without, h]

/-- Removing names from a table made from a list is making it from the other entries. -/
theorem without_ofList (names : List String) (entries : List (String × α)) :
    without (ofList entries) names = ofList (without entries names) :=
  without_putAll names entries []

variable {R : α → β → Prop}

/-- Related values under one name keep tables related. -/
theorem forall₂_put {name : String} {a : α} {b : β} (hab : R a b) {t : Table α} {u : Table β}
    (h : List.Forall₂ (fun x y => x.1 = y.1 ∧ R x.2 y.2) t u) :
    List.Forall₂ (fun x y => x.1 = y.1 ∧ R x.2 y.2) (put t name a) (put u name b) := by
  induction h with
  | nil => exact .cons ⟨rfl, hab⟩ .nil
  | @cons x y t u hxy hrest ih =>
    by_cases hx : x.1 = name
    · have hy : y.1 = name := hxy.1 ▸ hx
      simp only [put, if_pos hx, if_pos hy]
      exact .cons ⟨hxy.1, hab⟩ hrest
    · have hy : y.1 ≠ name := hxy.1 ▸ hx
      simp only [put, if_neg hx, if_neg hy]
      exact .cons hxy ih

theorem forall₂_putAll {xs : List (String × α)} {ys : List (String × β)} {t : Table α} {u : Table β}
    (h : List.Forall₂ (fun x y => x.1 = y.1 ∧ R x.2 y.2) xs ys)
    (htu : List.Forall₂ (fun x y => x.1 = y.1 ∧ R x.2 y.2) t u) :
    List.Forall₂ (fun x y => x.1 = y.1 ∧ R x.2 y.2) (putAll t xs) (putAll u ys) := by
  induction h generalizing t u with
  | nil => exact htu
  | @cons x y xs ys hxy hrest ih =>
    obtain ⟨name, a⟩ := x
    obtain ⟨name', b⟩ := y
    obtain ⟨rfl, hab⟩ := hxy
    rw [putAll_cons, putAll_cons]
    exact ih (forall₂_put hab htu)

/-- Related entries make related tables. -/
theorem forall₂_ofList {xs : List (String × α)} {ys : List (String × β)}
    (h : List.Forall₂ (fun x y => x.1 = y.1 ∧ R x.2 y.2) xs ys) :
    List.Forall₂ (fun x y => x.1 = y.1 ∧ R x.2 y.2) (ofList xs) (ofList ys) :=
  forall₂_putAll h .nil

end Table

/-! ## Outlines and values -/

namespace Description

/-- A type that is read from an outline is read from its value. -/
theorem json_of_typeOfOutline {o : Outline} {type : TypeTag} (h : typeOfOutline o = .ok type) :
    ∃ j, o.json? = some j ∧ typeOfJson j = .ok type := by
  unfold typeOfOutline at h
  split at h
  · next name => exact ⟨.str name, rfl, mapError_eq_ok.1 h⟩
  · next name value rest closed =>
    split at h
    · cases h
    · next tag hname =>
      split at h
      · split at h
        · next hend =>
          cases h
          obtain ⟨hrest, hclosed⟩ : rest = [] ∧ closed = true := by simpa using hend
          subst hrest hclosed
          exact ⟨.obj [(name, .null)], rfl, by rw [typeOfJson, hname]; rfl⟩
        · cases h
      · cases h
  · cases h

/-- What is read of further members of a text, after parts of a node have been found: a structural member that has
been seen does not come again. -/
structure Reading.Yields (reading : Reading) (members : List (String × Json)) (d : Description) : Prop where
  type : HoldsType (Table.get? (Table.ofList members) "type") reading.parts.type d.type
  typeOnce : reading.parts.type.isSome = true → Table.get? (Table.ofList members) "type" = none
  properties :
    HoldsProperties (Table.get? (Table.ofList members) "properties") reading.parts.properties d.properties
  propertiesOnce : reading.sawProperties = true → Table.get? (Table.ofList members) "properties" = none
  directives : d.directives = Table.ofList (reading.parts.directives ++ Table.without members structural)

namespace Reading.Yields

variable {reading : Reading} {rest : List (String × Json)} {value : Json} {d : Description}

theorem nil (h : Parts.finish { reading.parts with directives := Table.ofList reading.parts.directives } = .ok d) :
    reading.Yields [] d := by
  obtain ⟨htype, hproperties, hdirectives⟩ := Parts.finish_eq_ok.1 h
  refine ⟨htype, fun _ => rfl, hproperties, fun _ => rfl, ?_⟩
  rw [hdirectives]
  simp [Table.without]

/-- A type, when none has been seen. -/
theorem type_cons {type : TypeTag} (hnew : reading.parts.type = none) (hread : typeOfJson value = .ok type)
    (h : Yields { reading with parts := { reading.parts with type := some type } } rest d) :
    reading.Yields (("type", value) :: rest) d := by
  have hrest : Table.get? (Table.ofList rest) "type" = none := h.typeOnce rfl
  have htype := h.type
  rw [hrest] at htype
  refine ⟨?_, ?_, ?_, ?_, h.directives⟩
  · rw [Table.get?_ofList_cons, hrest]
    cases htype
    exact .read hread
  · simp [hnew]
  · rw [Table.get?_ofList_cons]
    simpa using h.properties
  · rw [Table.get?_ofList_cons]
    simpa using h.propertiesOnce

/-- Properties, when none have been seen. -/
theorem properties_cons {properties : Option (List (String × Description))} (hnew : reading.sawProperties = false)
    (hread : HoldsProperties (some value) reading.parts.properties properties)
    (h : Yields { sawProperties := true, parts := { reading.parts with properties } } rest d) :
    reading.Yields (("properties", value) :: rest) d := by
  obtain ⟨dtype, ddirectives, dproperties⟩ := d
  have hrest : Table.get? (Table.ofList rest) "properties" = none := h.propertiesOnce rfl
  have hproperties := h.properties
  rw [hrest] at hproperties
  refine ⟨?_, ?_, ?_, ?_, h.directives⟩
  · rw [Table.get?_ofList_cons]
    simpa using h.type
  · rw [Table.get?_ofList_cons]
    simpa using h.typeOnce
  · rw [Table.get?_ofList_cons, hrest]
    cases hproperties
    exact hread
  · simp [hnew]

/-- A directive. -/
theorem directive_cons {name : String} (htype : name ≠ "type") (hproperties : name ≠ "properties")
    (h : Yields { reading with parts :=
      { reading.parts with directives := reading.parts.directives ++ [(name, value)] } } rest d) :
    reading.Yields ((name, value) :: rest) d := by
  refine ⟨?_, ?_, ?_, ?_, ?_⟩
  · rw [Table.get?_ofList_cons]
    simpa [htype] using h.type
  · rw [Table.get?_ofList_cons]
    simpa [htype] using h.typeOnce
  · rw [Table.get?_ofList_cons]
    simpa [hproperties] using h.properties
  · rw [Table.get?_ofList_cons]
    simpa [hproperties] using h.propertiesOnce
  · rw [h.directives]
    simp [Table.without, structural, htype, hproperties]

end Reading.Yields

/-- What a member adds is what its value yields. -/
theorem Reading.Step.yields {reading next : Reading} {name : String} {value : Outline}
    (h : reading.Step name value next) (hr : reading.sawProperties = false → reading.parts.properties = none)
    (htable : ∀ members properties, value = .obj members true → ofOutlineProperties members = .ok properties →
      ∃ ms, Outline.jsonMembers? members = some ms ∧
        List.Forall₂ (fun e p => e.1 = p.1 ∧ ofJson e.2 = .ok p.2) ms properties) :
    (next.sawProperties = false → next.parts.properties = none) ∧ ∃ j, value.json? = some j ∧
      ∀ {rest : List (String × Json)} {d : Description}, next.Yields rest d → reading.Yields ((name, j) :: rest) d := by
  cases h with
  | type hnew hread =>
    obtain ⟨j, hj, htype⟩ := json_of_typeOfOutline hread
    exact ⟨hr, j, hj, fun hyields => hyields.type_cons hnew htype⟩
  | null hnew =>
    refine ⟨by simp, .null, rfl, fun hyields => hyields.properties_cons hnew ?_⟩
    rw [hr hnew]
    exact .null _
  | properties hnew hread =>
    obtain ⟨table, hjson, hall⟩ := htable _ _ rfl hread
    refine ⟨by simp, .obj (Table.ofList table), by simp [Outline.json?, hjson], fun hyields => ?_⟩
    have hproperties := Table.forall₂_ofList (R := fun j c => ofJson j = .ok c) hall
    exact hyields.properties_cons hnew (.read (ofProperties_eq_ok.2 hproperties))
  | directive htype hproperties hjson =>
    exact ⟨hr, _, hjson, fun hyields => hyields.directive_cons htype hproperties⟩

mutual
/-- **A description that is read from an outline** is read from its value. -/
theorem json_of_ofOutline : ∀ {o : Outline} {d : Description}, ofOutline o = .ok d →
    ∃ j, o.json? = some j ∧ ofJson j = .ok d
  | .obj members closed, d, h => by
    rw [ofOutline] at h
    obtain ⟨rfl, ms, hms, hyields⟩ := yields_of_ofOutlineMembers (fun _ => rfl) h
    refine ⟨.obj (Table.ofList ms), by simp [Outline.json?, hms], (ofJson_obj (Table.distinct_ofList ms)).2 ?_⟩
    refine ⟨hyields.type, hyields.properties, ?_⟩
    rw [hyields.directives, Table.without_ofList]
    rfl
  | .null, d, h | .bool _, d, h | .num _, d, h | .str _, d, h | .arr _ _, d, h | .broken, d, h => by
    rw [ofOutline] at h
    · cases h
    · intro _ _ he
      cases he

/-- What is read of the members of a node. -/
theorem yields_of_ofOutlineMembers : ∀ {members : List (String × Outline)} {reading : Reading} {closed : Bool}
    {d : Description}, (reading.sawProperties = false → reading.parts.properties = none) →
    ofOutlineMembers reading closed members = .ok d →
    closed = true ∧ ∃ ms, Outline.jsonMembers? members = some ms ∧ reading.Yields ms d
  | [], reading, closed, d, _, h => by
    obtain ⟨hclosed, hfinish⟩ := ofOutlineMembers_nil_eq_ok.1 h
    exact ⟨hclosed, [], rfl, .nil hfinish⟩
  | (name, value) :: rest, reading, closed, d, hr, h => by
    obtain ⟨next, hstep, hrest⟩ := ofOutlineMembers_cons_eq_ok.1 h
    obtain ⟨hnext, j, hj, hcons⟩ := hstep.yields hr fun members properties heq hread => by
      cases value with
      | obj table whole =>
        cases heq
        exact json_of_ofOutlineProperties hread
      | _ => cases heq
    obtain ⟨hclosed, ms, hms, hyields⟩ := yields_of_ofOutlineMembers hnext hrest
    exact ⟨hclosed, (name, j) :: ms, by rw [Outline.jsonMembers?, hj, hms], hcons hyields⟩

theorem json_of_ofOutlineProperties : ∀ {members : List (String × Outline)}
    {properties : List (String × Description)}, ofOutlineProperties members = .ok properties →
    ∃ ms, Outline.jsonMembers? members = some ms ∧
      List.Forall₂ (fun e p => e.1 = p.1 ∧ ofJson e.2 = .ok p.2) ms properties
  | [], _, h => by
    rw [ofOutlineProperties] at h
    cases h
    exact ⟨[], rfl, .nil⟩
  | (name, value) :: rest, properties, h => by
    rw [ofOutlineProperties] at h
    split at h
    · cases h
    · next child hchild =>
      split at h
      · cases h
      · next children hchildren =>
        cases h
        obtain ⟨j, hj, hread⟩ := json_of_ofOutline hchild
        obtain ⟨ms, hms, hall⟩ := json_of_ofOutlineProperties hchildren
        exact ⟨(name, j) :: ms, by rw [Outline.jsonMembers?, hj, hms], .cons ⟨rfl, hread⟩ hall⟩
end

end Description

/-! ## The first value of a text -/

namespace Description

/-- A description is read from an object. -/
theorem not_num_of_ofOutline {o : Outline} {d : Description} (h : ofOutline o = .ok d) : ¬∃ x, o = .num x := by
  rintro ⟨x, rfl⟩
  rw [ofOutline] at h
  · cases h
  · intro _ _ he
    cases he

/-- A text that is read has a front that is read alike whatever follows, and that is no deeper than the reader
allows. -/
theorem front_of_parse {text : String} {d : Description} (h : parse text = .ok d) :
    ∃ front rest o, text.toList = front ++ rest ∧ Outline.read text.toList = (o, some rest) ∧ Outline.Reads front o ∧
      o.depth ≤ Outline.nesting ∧ ofOutline o = .ok d := by
  cases hread : Outline.read text.toList with
  | mk o after =>
    have ho : ofOutline o = .ok d := by rwa [parse, hread] at h
    obtain ⟨value, hvalue, -⟩ := json_of_ofOutline ho
    have hafter := Outline.intact_of_json? hread hvalue
    obtain ⟨rest, rfl⟩ := Option.isSome_iff_exists.1 hafter
    obtain ⟨hdepth, front, htext, hreads⟩ := Outline.read_front hread
    exact ⟨front, rest, o, htext, rfl, hreads, hdepth, ho⟩

end Description

/-- **Only the front of a text is read.** A text that is read as a description has a document in front, whose value is
read as the same description; whatever follows the front is left unread. The text as a whole is a document only if
nothing but blanks follows, and then it has the value of the front. -/
theorem parse_reads_front {text : String} {d : Description} (h : Description.parse text = .ok d) :
    ∃ (front rest : String) (value : Json), text = front ++ rest ∧ Json.read? front = some value ∧
      Description.ofJson value = .ok d ∧ (∀ other : String, Description.parse (front ++ other) = .ok d) ∧
      ∀ whole, Json.read? text = some whole ↔ whole = value ∧ ∀ c ∈ rest.toList, Outline.isBlank c = true := by
  obtain ⟨front, rest, o, htext, hread, hreads, hdepth, ho⟩ := Description.front_of_parse h
  obtain ⟨value, hvalue, hof⟩ := Description.json_of_ofOutline ho
  have hnum := Description.not_num_of_ofOutline ho
  have hfront : ∀ other, Outline.read (front ++ other) = (o, some other) := fun other =>
    hreads.read_append hdepth fun hx => absurd hx hnum
  refine ⟨String.ofList front, String.ofList rest, value, ?_, ?_, hof, fun other => ?_, fun whole => ?_⟩
  · rw [← String.ofList_append, ← htext, String.ofList_toList]
  · have hempty := hfront []
    rw [List.append_nil] at hempty
    rw [Json.read?, String.toList_ofList, hempty]
    exact hvalue
  · rw [Description.parse, String.toList_append, String.toList_ofList, hfront]
    exact ho
  · have hblank : Outline.skipBlanks rest = [] ↔ ∀ c ∈ rest, Outline.isBlank c = true := Outline.skipBlanks_eq_nil
    rw [Json.read?, hread, String.toList_ofList, ← hblank]
    simp only [hvalue]
    split
    · next hskip => simp [hskip, eq_comm]
    · next hskip => simp [hskip]

/-- A stray closing brace is left unread: the text is no document, and it is read all the same. -/
theorem parse_reads_front_stray :
    Description.parse "\x7b\"type\":\"any\"\x7d\x7d" = .ok (.ofType .any) ∧
      Json.read? "\x7b\"type\":\"any\"\x7d\x7d" = none ∧
      ∃ (front rest : String) (value : Json), "\x7b\"type\":\"any\"\x7d\x7d" = front ++ rest ∧
        Json.read? front = some value ∧ Description.ofJson value = .ok (.ofType .any) ∧
        ∃ c ∈ rest.toList, Outline.isBlank c = false := by
  have hparse : Description.parse "\x7b\"type\":\"any\"\x7d\x7d" = .ok (.ofType .any) := by
    have hshape : (Description.parse "\x7b\"type\":\"any\"\x7d\x7d").toOption.map
        (fun d => (d.type, d.directives.length, d.properties.isSome)) = some (.any, 0, false) := by decide +kernel
    obtain ⟨⟨type, directives, properties⟩, hd, heq⟩ := Option.map_eq_some_iff.1 hshape
    obtain ⟨rfl, rfl, rfl⟩ : type = .any ∧ directives = [] ∧ properties = none := by simpa using heq
    exact toOption_eq_some.1 hd
  have hnone : Json.read? "\x7b\"type\":\"any\"\x7d\x7d" = none := Option.isNone_iff_eq_none.1 (by decide +kernel)
  obtain ⟨front, rest, value, htext, hfront, hvalue, -, hwhole⟩ := parse_reads_front hparse
  refine ⟨hparse, hnone, front, rest, value, htext, hfront, hvalue, ?_⟩
  by_contra hblank
  have hread := (hwhole value).2 ⟨rfl, fun c hc => by simpa using fun h => hblank ⟨c, hc, h⟩⟩
  rw [hnone] at hread
  cases hread

end Rulebook
