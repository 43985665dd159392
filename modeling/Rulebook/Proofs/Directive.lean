import Rulebook.Extract
import Rulebook.Proofs.Bags
import Rulebook.Proofs.Kinds

/-!
# The directive of a rule

Extraction names the directive of a rule, and turns its bag into a value. The bag of a rule is one or two entries of
its own with options behind them, so a few equations about such bags give the value of every directive.

* `directive_of_row`, `directive_self`: the directive of a rule, by the row of its name.
* `mergeOptions_nil`, `mergeOptions_some`: options are lifted behind the entries of a bag.
* `patternValue_eq`: a pattern with options is one record.
-/

namespace Rulebook
namespace Rule

open Fallible Grammar

variable {V : Type}

/-! ## Names -/

/-- Only a size rule goes by another name than its method. -/
theorem directiveName_self {r : Rule V} (hc : r.method ≠ "compare") (hl : r.method ≠ "length") :
    directiveName r = .ok r.method := by
  simp [directiveName, hc, hl]

/-- A size rule goes by its operator, and by length where that has no name. -/
theorem directiveName_size {type : TypeTag} {operator : Operator} (args : List (String × Argument V))
    (h : (type.comparesByValue && operator == .equal) = false) :
    directiveName (V := V) { method := if type.comparesByValue then "compare" else "length"
                             operator := some operator
                             args } = .ok (operator.directive?.getD "length") := by
  cases hv : type.comparesByValue with
  | false => cases operator <;> rfl
  | true =>
    cases operator with
    | equal => simp [hv] at h
    | _ => rfl

/-- The directive of a rule that goes by the name of a row. -/
theorem directive_of_row {r : Rule V} {name : String} {category : Category} {recording : Recording}
    (hrow : Row name category recording) (hname : directiveName r = .ok name) (hs : r.method ≠ "sign") :
    r.directive = (bag name r.args).map fun data => (name, value category data name r.method) := by
  simp only [directive, if_neg hs, hname, hrow.lookup, entry, if_true]
  cases bag name r.args <;> rfl

/-- A method with a row of its own that is neither about a sign nor about a size goes by its own name. -/
theorem names_of_row {name : String} {category : Category} {recording : Recording}
    (hrow : Row name category recording) (hs : recording ≠ .sign none) (hl : recording ≠ .size .equal) :
    name ≠ "sign" ∧ name ≠ "compare" ∧ name ≠ "length" := by
  refine ⟨?_, ?_, ?_⟩
  · rintro rfl
    exact hs (hrow.recording.symm.trans (by decide))
  · rintro rfl
    exact absurd (hrow.lookup.symm.trans (show Grammar.lookup "compare" = none by decide)) (by simp)
  · rintro rfl
    exact hl (hrow.recording.symm.trans (by decide))

/-- The directive of a rule whose method has a row of its own. -/
theorem directive_self {r : Rule V} {category : Category} {recording : Recording}
    (hrow : Row r.method category recording) (hs : recording ≠ .sign none) (hl : recording ≠ .size .equal) :
    r.directive = (bag r.method r.args).map fun data => (r.method, value category data r.method r.method) := by
  obtain ⟨hsign, hcompare, hlength⟩ := names_of_row hrow hs hl
  exact directive_of_row hrow (directiveName_self hcompare hlength) hsign

/-! ## Bags -/

/-- A bag is data when each of its arguments is. -/
theorem bag_cons {name key : String} {a : Argument V} {x : Json} {rest : List (String × Argument V)}
    {data : Table Json} (ha : a.data? = some x) (hr : bag name rest = .ok data) :
    bag name ((key, a) :: rest) = .ok ((key, x) :: data) := by
  simp only [bag, ha, hr]

/-- A bag with an argument that is no data has no directive. -/
theorem bag_error {name : String} : ∀ {args : List (String × Argument V)} {key : String} {a : Argument V}
    {data : Table Json}, (key, a) ∈ args → a.data? = none → bag name args ≠ .ok data
  | (other, b) :: rest, key, a, data, hm, ha => by
    intro h
    unfold bag at h
    split at h
    · cases h
    · next hb =>
      split at h
      · cases h
      · next hrest =>
        rcases List.mem_cons.1 hm with he | hm
        · cases he
          exact absurd (ha.symm.trans hb) (by simp)
        · exact bag_error hm ha hrest

/-- A rule whose method has a row of its own and that holds an argument that is no data has no directive. -/
theorem directive_ne_ok {r : Rule V} {category : Category} {recording : Recording}
    (hrow : Row r.method category recording) (hs : recording ≠ .sign none) (hl : recording ≠ .size .equal)
    {key : String} {a : Argument V} (hm : (key, a) ∈ r.args) (ha : a.data? = none) {d : String × Json} :
    r.directive ≠ .ok d := by
  rw [directive_self hrow hs hl]
  intro h
  obtain ⟨data, hdata, -⟩ := map_eq_ok.1 h
  exact bag_error hm ha hdata

/-! ## Values -/

/-- A bag without options stays as it is. -/
theorem mergeOptions_nil {front : Table Json} (h : "options" ∉ Table.names front) : mergeOptions front = front := by
  rw [mergeOptions, Table.get?_eq_none h]

/-- Options are lifted behind the other entries of a bag. -/
theorem mergeOptions_some {front rest : Table Json} (h : "options" ∉ Table.names front)
    (hd : (Table.names front ++ Table.names rest).Nodup) :
    mergeOptions (front ++ [("options", .obj rest)]) = front ++ rest := by
  have hget : Table.get? (front ++ [("options", Json.obj rest)]) "options" = some (.obj rest) := by
    rw [Table.get?_append, Table.get?_eq_none h]
    rfl
  rw [mergeOptions, hget]
  simp only [Table.swapErase_append]
  exact Table.putNewAll_eq_append rest front hd

/-- Members beside some keys keep names distinct behind entries of these keys. -/
theorem nodup_beside {keys : List String} {front rest : Table Json} (hr : Table.Beside keys rest)
    (hf : front.Distinct) (hk : ∀ name ∈ Table.names front, name ∈ keys) :
    (Table.names front ++ Table.names rest).Nodup :=
  List.nodup_append.2 ⟨hf, hr.distinct, fun a ha _ hb e => hr.apart a (hk a ha) (e ▸ hb)⟩

/-- The only entry of a bag stands for it under a plain key, and under the name of the directive. -/
theorem flatten_single {key name method : String} (x : Json) (h : plainKeys.contains key = true ∨ key = name) :
    flatten [(key, x)] name method = x := by
  rcases h with h | rfl
  · simp only [flatten, h, Bool.true_or, if_true]
  · simp [flatten]

/-- A bag with more than one entry is an object. -/
theorem flatten_many {front rest : Table Json} {name method : String} (hf : front ≠ []) (hr : rest ≠ []) :
    flatten (front ++ rest) name method = .obj (front ++ rest) := by
  match front, rest, hf, hr with
  | [_], _ :: _, _, _ => rfl
  | _ :: _ :: _, _, _, _ => rfl

/-- The only entry of a bag without options stands for it, likewise. -/
theorem flatten_mergeOptions_single {key name method : String} (x : Json) (ho : key ≠ "options")
    (h : plainKeys.contains key = true ∨ key = name) : flatten (mergeOptions [(key, x)]) name method = x := by
  have hoptions : "options" ∉ Table.names [(key, x)] := fun hm => ho (List.mem_singleton.1 hm).symm
  rw [mergeOptions_nil hoptions, flatten_single x h]

/-- Options are members beside the entries of a bag. -/
theorem flatten_mergeOptions_many {keys : List String} (front : Table Json) {rest : Table Json}
    (name method : String) (hr : Table.Beside keys rest) (hf : front.Distinct)
    (hk : ∀ name ∈ Table.names front, name ∈ keys) (hne : front ≠ []) (ho : "options" ∉ Table.names front) :
    flatten (mergeOptions (front ++ [("options", .obj rest)])) name method = .obj (front ++ rest) := by
  rw [mergeOptions_some ho (nodup_beside hr hf hk), flatten_many hne hr.nonempty]

/-- A pattern with options is its record with the options behind. -/
theorem patternValue_eq (p : Pattern) (o : Json) :
    patternValue [("regex", p.toJson), ("options", o)] = .obj (p.record ++ [("options", o)]) := by
  simp only [patternValue, Table.get?_cons]
  rcases p.toJson_record with ⟨hp, hrecord⟩ | hp
  · simp [hp, hrecord]
  · have hnew : "options" ∉ Table.names p.record := fun hm => absurd (p.names_record _ hm) (by decide)
    have hput : Table.put p.record "options" o = p.record ++ [("options", o)] := by
      simpa [Table.put] using Table.put_append [] o hnew
    simp [hp, hput]

end Rule
end Rulebook
