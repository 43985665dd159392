import Rulebook.Command.Run
import Rulebook.Proofs.Document
import Rulebook.Proofs.Nesting
import Rulebook.Proofs.Rendering

/-!
# What is written can be read again

A reader of texts bounds how deep arrays and objects nest, so a description can be written that is too deep to be read.
Short of that, both written forms of a description are read as this description.

* `Description.depth_of_parse`: what is read from a text nests no deeper than the reader allows.
* `Command.parse_render`: a written description is read again exactly when it does not nest deeper either.
* `parse_render_canonicalize`: canonicalization adds at most one level, so this is all that can keep its result from
  being read again.
-/

namespace Rulebook

open Fallible

/-! ## Depth of what is read -/

namespace Json

/-- Members are no deeper than a bound for each of them. -/
theorem depthMembers_le {n : Nat} : ∀ {members : List (String × Json)}, (∀ e ∈ members, e.2.depth ≤ n) →
    depthMembers members ≤ n
  | [], _ => Nat.zero_le n
  | (_, _) :: _, h => by
    obtain ⟨hfirst, hrest⟩ := List.forall_mem_cons.1 h
    exact Nat.max_le.2 ⟨hfirst, depthMembers_le hrest⟩

/-- Some of the members are no deeper than all of them. -/
theorem depthMembers_mono {a b : List (String × Json)} (h : ∀ e ∈ a, e ∈ b) : depthMembers a ≤ depthMembers b :=
  depthMembers_le fun e he => depth_le_depthMembers (h e he)

theorem depth_plainType (j : Json) : j.plainType.depth ≤ j.depth := by
  unfold plainType
  split
  · exact Nat.zero_le _
  · exact Nat.le_refl _

mutual
/-- The flat form of a value is no deeper than the value. -/
theorem depth_flat : ∀ j : Json, j.flat.depth ≤ j.depth
  | .obj members => by
    have htype : depthMembers ((Table.get? members "type").map fun value => ("type", plainType value)).toList ≤
        depthMembers members := by
      refine depthMembers_le fun e he => ?_
      obtain ⟨value, hvalue, rfl⟩ := Option.map_eq_some_iff.1 (Option.mem_toList.1 he)
      exact Nat.le_trans (depth_plainType value) (depth_le_depthMembers (Table.mem_of_get? hvalue))
    have hdirectives : depthMembers (Table.without members structural) ≤ depthMembers members :=
      depthMembers_mono fun e he => List.mem_of_mem_filter he
    have hproperties := depthMembers_flatProperties members
    rw [flat, depth, depth, depthMembers_append, depthMembers_append]
    omega
  | .null | .bool _ | .num _ | .str _ | .arr _ => by
    rw [flat]
    simp

theorem depthMembers_flatProperties : ∀ members : List (String × Json),
    depthMembers (flatProperties members) ≤ depthMembers members
  | [] => Nat.le_refl _
  | (name, value) :: rest => by
    have hvalue := depthMembers_flatTable value
    have hrest := depthMembers_flatProperties rest
    rw [flatProperties, depthMembers]
    split
    · omega
    · omega

theorem depthMembers_flatTable : ∀ value : Json, depthMembers (flatTable value) ≤ value.depth
  | .null => Nat.zero_le _
  | .obj table => by
    have htable := depthMembers_flatAll table
    rw [flatTable, depthMembers, depthMembers, depth, depth]
    omega
  | .bool _ | .num _ | .str _ | .arr _ => by
    rw [flatTable]
    · simp [depthMembers]
    all_goals simp

theorem depthMembers_flatAll : ∀ table : List (String × Json), depthMembers (flatAll table) ≤ depthMembers table
  | [] => Nat.le_refl _
  | (name, value) :: rest => by
    have hvalue := depth_flat value
    have hrest := depthMembers_flatAll rest
    rw [flatAll, depthMembers, depthMembers]
    omega
end

end Json

namespace Outline

mutual
/-- The value of an outline is no deeper than the outline. -/
theorem depth_of_json? : ∀ {o : Outline} {j : Json}, o.json? = some j → j.depth ≤ o.depth
  | .null, _, h | .bool _, _, h | .num _, _, h | .str _, _, h => by
    cases h
    exact Nat.zero_le _
  | .arr items closed, j, h => by
    rw [json?] at h
    split at h
    · obtain ⟨values, hvalues, rfl⟩ := Option.map_eq_some_iff.1 h
      exact Nat.succ_le_succ (depthItems_of_jsonItems? hvalues)
    · cases h
  | .obj members closed, j, h => by
    rw [json?] at h
    split at h
    · obtain ⟨ms, hms, rfl⟩ := Option.map_eq_some_iff.1 h
      have htable := Json.depthMembers_mono fun e (he : e ∈ Table.ofList ms) => Table.mem_of_mem_ofList he
      exact Nat.succ_le_succ (Nat.le_trans htable (depthMembers_of_jsonMembers? hms))
    · cases h
  | .broken, _, h => by cases h

theorem depthItems_of_jsonItems? : ∀ {items : List Outline} {values : List Json}, jsonItems? items = some values →
    Json.depthItems values ≤ depthItems items
  | [], _, h => by
    cases h
    exact Nat.le_refl _
  | item :: rest, values, h => by
    rw [jsonItems?] at h
    split at h
    · next x xs hx hxs =>
      cases h
      have hfirst := depth_of_json? hx
      have hrest := depthItems_of_jsonItems? hxs
      rw [Json.depthItems, depthItems]
      omega
    · cases h

theorem depthMembers_of_jsonMembers? : ∀ {members : List (String × Outline)} {ms : List (String × Json)},
    jsonMembers? members = some ms → Json.depthMembers ms ≤ depthMembers members
  | [], _, h => by
    cases h
    exact Nat.le_refl _
  | (name, value) :: rest, ms, h => by
    rw [jsonMembers?] at h
    split at h
    · next x xs hx hxs =>
      cases h
      have hfirst := depth_of_json? hx
      have hrest := depthMembers_of_jsonMembers? hxs
      rw [Json.depthMembers, depthMembers]
      omega
    · cases h
end

end Outline

namespace Description

variable {text : String} {d : Description}

/-- A description that is read from a text nests no deeper than the reader allows. -/
theorem depth_of_parse (h : parse text = .ok d) : d.toJson.depth ≤ Outline.nesting := by
  obtain ⟨front, rest, o, -, -, -, hdepth, ho⟩ := front_of_parse h
  obtain ⟨j, hj, hread⟩ := json_of_ofOutline ho
  rw [toJson_ofJson (Outline.distinct_of_json? hj) hread]
  exact Nat.le_trans (Json.depth_flat j) (Nat.le_trans (Outline.depth_of_json? hj) hdepth)

/-- The nodes of a description that is read from a text are flat. -/
theorem flat_of_parse (h : parse text = .ok d) {path : List String} {c : Description} (hat : d.At path c) : c.Flat := by
  obtain ⟨front, rest, o, -, -, -, -, ho⟩ := front_of_parse h
  obtain ⟨j, hj, hread⟩ := json_of_ofOutline ho
  obtain ⟨members, -, hdirectives⟩ := at_ofJson hat (Outline.distinct_of_json? hj) hread
  exact ⟨((distinct_of_parse h).at hat).names, fun e he => ne_of_mem_without_structural (hdirectives ▸ he)⟩

/-! ## Reading what is written -/

/-- A text that starts like a written description is read as this description, unless that nests too deep. -/
theorem parse_iff {front rest : List Char} (htext : text.toList = front ++ rest)
    (hreads : Outline.Reads front (.ofJson d.toJson)) (hdistinct : d.toJson.Distinct)
    (hself : ofJson d.toJson = .ok d) {c : Description} :
    parse text = .ok c ↔ c = d ∧ d.toJson.depth ≤ Outline.nesting := by
  have houtline := ofOutline_ofJson hdistinct hself
  have hnum := not_num_of_ofOutline houtline
  constructor
  · intro h
    obtain ⟨front', rest', o, htext', -, hreads', hdepth, ho⟩ := front_of_parse h
    have hsame : Outline.ofJson d.toJson = o :=
      hreads.unique hreads' (htext.symm.trans htext') (fun hx => absurd hx hnum)
        (fun hx => absurd hx (not_num_of_ofOutline ho))
    subst hsame
    rw [Outline.depth_ofJson] at hdepth
    rw [houtline] at ho
    exact ⟨(Except.ok.inj ho).symm, hdepth⟩
  · rintro ⟨rfl, hdepth⟩
    rw [← Outline.depth_ofJson] at hdepth
    rw [parse, htext, hreads.read_append hdepth fun hx => absurd hx hnum]
    exact houtline

end Description

/-- **A written description is read again**, in both forms, exactly when it nests no deeper than the reader allows. -/
theorem Command.parse_render {d : Description} (hdistinct : d.toJson.Distinct)
    (hself : Description.ofJson d.toJson = .ok d) (hfloats : d.toJson.FloatsReread) (compact : Bool)
    (c : Description) :
    Description.parse (render d compact) = .ok c ↔ c = d ∧ d.toJson.depth ≤ Outline.nesting := by
  cases compact with
  | true =>
    have htext : (render d true).toList = Json.chars d.toJson ++ ['\n'] := by
      simp [render, Json.compact, String.toList_append]
    exact Description.parse_iff htext (Outline.reads_chars hfloats) hdistinct hself
  | false =>
    have htext : (render d false).toList = Json.prettyChars 0 d.toJson ++ ['\n'] := by
      simp [render, Json.pretty, String.toList_append]
    exact Description.parse_iff htext (Outline.reads_prettyChars 0 hfloats) hdistinct hself

/-! ## Objects in objects -/

namespace Json

/-- Objects in objects, to a depth. -/
def nested : Nat → Json
  | 0 => obj []
  | n + 1 => obj [("a", nested n)]

theorem depth_nested : ∀ n, (nested n).depth = n + 1
  | 0 => rfl
  | n + 1 => by simp [nested, depth, depthMembers, depth_nested n]

theorem floatsReread_nested : ∀ n, (nested n).FloatsReread
  | 0 => trivial
  | n + 1 => ⟨floatsReread_nested n, trivial⟩

theorem distinct_nested : ∀ n, (nested n).Distinct
  | 0 => ⟨List.nodup_nil, trivial⟩
  | n + 1 => ⟨by simp [Table.names], distinct_nested n, trivial⟩

end Json

/-! ## Canonical forms -/

section Canonical

variable {functions : Registry} {text : String} {d c : Description}

/-- The canonical form of a description that is read from a text is read back from its value, which nests at most one
level deeper than the given one. -/
theorem fits_canonicalize (hd : Description.parse text = .ok d) (hc : canonicalize functions d = .ok c) :
    c.toJson.Fits (d.toJson.depth + 1) ∧ Description.ofJson c.toJson = .ok c := by
  obtain ⟨v, hv, rfl⟩ := map_eq_ok.1 hc
  have hfits : d.toJson.Fits d.toJson.depth := ⟨(Description.distinct_of_parse hd).toJson, Nat.le_refl _⟩
  exact ⟨fits_extract (fun path e he => Description.flat_of_parse hd he) hv hfits, ofJson_toJson_extract v⟩

/-- **What canonicalization writes can be read again**, unless it nests too deep for the reader: when the floats in it
are read back from their texts, both written forms of a canonical description are read as this description exactly
when it nests no deeper than the reader allows. It nests at most one level deeper than the description that was given,
which was read from a text. -/
theorem parse_render_canonicalize (hd : Description.parse text = .ok d) (hc : canonicalize functions d = .ok c)
    (hfloats : c.toJson.FloatsReread) :
    (∀ (compact : Bool) (e : Description), Description.parse (Command.render c compact) = .ok e ↔
      e = c ∧ c.toJson.depth ≤ Outline.nesting) ∧
    c.toJson.depth ≤ d.toJson.depth + 1 ∧ d.toJson.depth ≤ Outline.nesting := by
  obtain ⟨hfits, hself⟩ := fits_canonicalize hd hc
  refine ⟨fun compact e => ?_, hfits.depth, Description.depth_of_parse hd⟩
  exact Command.parse_render hfits.distinct hself hfloats compact e

end Canonical

/-- A float that is allowed alone is written in a list, one level deeper, and both forms are read again. -/
theorem parse_render_canonicalize_float : ∃ x : Binary64,
    Description.parse "\x7b\"type\":\"number\",\"valid\":1.5\x7d\n" =
        .ok ⟨.number, [("valid", .num (.float x))], none⟩ ∧
      canonicalize [] ⟨.number, [("valid", .num (.float x))], none⟩ =
        .ok ⟨.number, [("valid", .arr [.num (.float x)])], none⟩ ∧
      (Number.float x).Rereads ∧
      ∀ compact, Description.parse (Command.render ⟨.number, [("valid", .arr [.num (.float x)])], none⟩ compact) =
        .ok ⟨.number, [("valid", .arr [.num (.float x)])], none⟩ := by
  let x : Binary64 := ⟨false, 4609434218613702656, by decide⟩
  have hreread : (Number.float x).Rereads := ⟨⟨false, [1], some [5], none⟩, by decide +kernel, by decide +kernel⟩
  have hparse : Description.parse "\x7b\"type\":\"number\",\"valid\":1.5\x7d\n" =
      .ok ⟨.number, [("valid", .num (.float x))], none⟩ := by
    have hrender : Command.render ⟨.number, [("valid", .num (.float x))], none⟩ true =
        "\x7b\"type\":\"number\",\"valid\":1.5\x7d\n" := by decide +kernel
    have hdistinct : (Description.toJson ⟨.number, [("valid", .num (.float x))], none⟩).Distinct :=
      ⟨by decide, trivial, trivial, trivial⟩
    rw [← hrender]
    exact (Command.parse_render hdistinct rfl ⟨trivial, hreread, trivial⟩ true _).2 ⟨rfl, by decide⟩
  have hcanonical : canonicalize [] ⟨.number, [("valid", .num (.float x))], none⟩ =
      .ok ⟨.number, [("valid", .arr [.num (.float x)])], none⟩ := rfl
  obtain ⟨hread, -, -⟩ := parse_render_canonicalize hparse hcanonical ⟨trivial, ⟨hreread, trivial⟩, trivial⟩
  exact ⟨x, hparse, hcanonical, hreread, fun compact => (hread compact _).2 ⟨rfl, by decide⟩⟩

/-- A value that nests as deep as can be read is put into a list when it is allowed alone. What is written then cannot
be read again, in neither form. -/
theorem not_parse_render_nested :
    Description.parse (Command.render ⟨.any, [("valid", .nested 125)], none⟩ true) =
        .ok ⟨.any, [("valid", .nested 125)], none⟩ ∧
      canonicalize [] ⟨.any, [("valid", .nested 125)], none⟩ =
        .ok ⟨.any, [("valid", .arr [.nested 125])], none⟩ ∧
      (Description.toJson ⟨.any, [("valid", .arr [.nested 125])], none⟩).FloatsReread ∧
      ∀ compact e,
        Description.parse (Command.render ⟨.any, [("valid", .arr [.nested 125])], none⟩ compact) ≠ .ok e := by
  have hfloats := Json.floatsReread_nested 124
  have hdistinct := Json.distinct_nested 124
  have hdepth := Json.depth_nested 124
  have hnested : Json.nested 125 = .obj [("a", .nested 124)] := rfl
  rw [hnested]
  -- nothing below depends on what nests in the member but its depth
  generalize Json.nested 124 = deep at hfloats hdistinct hdepth
  have hgiven : (Description.toJson ⟨.any, [("valid", .obj [("a", deep)])], none⟩).depth = 127 := by
    show max 0 (max (max deep.depth 0 + 1) 0) + 1 = 127
    omega
  have hwritten : (Description.toJson ⟨.any, [("valid", .arr [.obj [("a", deep)]])], none⟩).depth = 128 := by
    show max 0 (max (max (max deep.depth 0 + 1) 0 + 1) 0) + 1 = 128
    omega
  have hobject : (Json.obj [("a", deep)]).Distinct := ⟨by simp, hdistinct, trivial⟩
  refine ⟨?_, rfl, ⟨trivial, ⟨⟨hfloats, trivial⟩, trivial⟩, trivial⟩, fun compact e h => ?_⟩
  · have hread := Command.parse_render (d := ⟨.any, [("valid", .obj [("a", deep)])], none⟩)
      ⟨Table.distinct_ofList _, trivial, hobject, trivial⟩ rfl ⟨trivial, ⟨hfloats, trivial⟩, trivial⟩ true
    exact (hread _).2 ⟨rfl, Nat.le_of_eq hgiven⟩
  · have hread := Command.parse_render (d := ⟨.any, [("valid", .arr [.obj [("a", deep)]])], none⟩)
      ⟨Table.distinct_ofList _, trivial, ⟨hobject, trivial⟩, trivial⟩ rfl
      ⟨trivial, ⟨⟨hfloats, trivial⟩, trivial⟩, trivial⟩ compact
    obtain ⟨-, hle⟩ := (hread e).1 h
    rw [hwritten] at hle
    exact absurd hle (by decide)

end Rulebook
