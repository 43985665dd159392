import Rulebook.Extract
import Rulebook.Proofs.Reference

/-!
# Sets of values

The sets of allowed and refused values of a validator hold pairwise different literals and pairwise different
references.

* `Separate.insertAll`: adding resolved operands keeps a set so.
* `insertAll_operands`: a set is rebuilt by adding its operands to the empty set.
* `mapM_operand_operands`: the operands of a set are read back from its list form.
-/

namespace Rulebook

open Fallible

namespace ValueSet

variable {functions : Registry} {set : ValueSet}

/-- Literals that are no reference objects, resolved references, and no two the same. -/
structure Separate (functions : Registry) (set : ValueSet) : Prop where
  literals : ∀ v ∈ set.values, v.field? Reference.key = none
  references : ∀ r ∈ set.references, r.Resolved functions
  valuesApart : set.values.Pairwise fun a b => a.same b = false
  referencesApart : set.references.Pairwise fun a b => a.same b = false

/-- The operands of a set: literals, then references. -/
def operands (set : ValueSet) : List Operand := set.values.map .literal ++ set.references.map .reference

theorem toJson_eq (set : ValueSet) : set.toJson = .arr (set.operands.map Operand.toJson) := by
  simp [toJson, operands, Operand.toJson, Function.comp_def]

theorem separate_empty (functions : Registry) : Separate functions {} :=
  ⟨fun _ h => absurd h List.not_mem_nil, fun _ h => absurd h List.not_mem_nil, .nil, .nil⟩

/-- Operands of a separate set are resolved. -/
theorem Separate.resolved (h : set.Separate functions) : ∀ o ∈ set.operands, o.Resolved functions := by
  intro o ho
  rcases List.mem_append.1 ho with ho | ho
  · obtain ⟨v, hv, rfl⟩ := List.mem_map.1 ho
    exact h.literals v hv
  · obtain ⟨r, hr, rfl⟩ := List.mem_map.1 ho
    exact h.references r hr

/-! ## Adding operands -/

/-- Where no earlier value is the same, a value can stand last. -/
theorem pairwise_concat {α : Type} {same : α → α → Bool} {xs : List α} {x : α}
    (hxs : xs.Pairwise fun a b => same a b = false) (hx : ¬ xs.any (same · x) = true) :
    (xs ++ [x]).Pairwise fun a b => same a b = false := by
  refine List.pairwise_append.2 ⟨hxs, List.pairwise_singleton _ _, fun a ha b hb => ?_⟩
  rw [List.mem_singleton.1 hb]
  exact Bool.eq_false_iff.2 fun hsame => hx (List.any_eq_true.2 ⟨a, ha, hsame⟩)

/-- Adding a resolved operand keeps a set separate. -/
theorem Separate.insert (h : set.Separate functions) {o : Operand} (ho : o.Resolved functions) :
    (set.insert o).Separate functions := by
  cases o with
  | literal v =>
    simp only [ValueSet.insert]
    split
    · exact h
    · next hnew =>
      refine ⟨fun w hw => ?_, h.references, pairwise_concat h.valuesApart hnew, h.referencesApart⟩
      rcases List.mem_append.1 hw with hw | hw
      · exact h.literals w hw
      · exact List.mem_singleton.1 hw ▸ ho
  | reference r =>
    simp only [ValueSet.insert]
    split
    · exact h
    · next hnew =>
      refine ⟨h.literals, fun q hq => ?_, h.valuesApart, pairwise_concat h.referencesApart hnew⟩
      rcases List.mem_append.1 hq with hq | hq
      · exact h.references q hq
      · exact List.mem_singleton.1 hq ▸ ho

/-- Adding resolved operands keeps a set separate. -/
theorem Separate.insertAll : ∀ {os : List Operand} {set : ValueSet}, set.Separate functions →
    (∀ o ∈ os, o.Resolved functions) → (set.insertAll os).Separate functions
  | [], _, h, _ => h
  | o :: os, set, h, hos => by
    have hrest : ((set.insert o).insertAll os).Separate functions :=
      Separate.insertAll (h.insert (hos o List.mem_cons_self)) fun p hp => hos p (List.mem_cons_of_mem _ hp)
    exact hrest

/-- A set to which an operand is added is not empty. -/
theorem isEmpty_insert (set : ValueSet) (o : Operand) : (set.insert o).isEmpty = false := by
  cases o with
  | literal v =>
    simp only [insert]
    split
    · next hany =>
      obtain ⟨w, hw, -⟩ := List.any_eq_true.1 hany
      simp [isEmpty, List.ne_nil_of_mem hw]
    · simp [isEmpty]
  | reference r =>
    simp only [insert]
    split
    · next hany =>
      obtain ⟨q, hq, -⟩ := List.any_eq_true.1 hany
      simp [isEmpty, List.ne_nil_of_mem hq]
    · simp [isEmpty]

/-- A set to which operands are added is not empty. -/
theorem isEmpty_insertAll : ∀ {os : List Operand} (set : ValueSet), os ≠ [] → (set.insertAll os).isEmpty = false
  | [], _, h => absurd rfl h
  | [o], set, _ => isEmpty_insert set o
  | o :: p :: os, set, _ => isEmpty_insertAll (set.insert o) (List.cons_ne_nil p os)

/-! ## Rebuilding a set -/

/-- Values that are new to a set and to each other go last. -/
theorem insertAll_literals : ∀ (vs : List Json) (set : ValueSet),
    (set.values ++ vs).Pairwise (fun a b => a.same b = false) →
    set.insertAll (vs.map .literal) = { set with values := set.values ++ vs }
  | [], set, _ => by simp [ValueSet.insertAll]
  | v :: vs, set, h => by
    have hnew : set.values.any (·.same v) = false :=
      List.any_eq_false.2 fun w hw => by
        simpa using (List.pairwise_append.1 h).2.2 w hw v List.mem_cons_self
    have hinsert : set.insert (.literal v) = { set with values := set.values ++ [v] } := by
      simp only [insert, hnew, Bool.false_eq_true, if_false]
    have hrest : (set.values ++ [v] ++ vs).Pairwise fun a b => a.same b = false := by simpa using h
    rw [List.map_cons, insertAll, List.foldl_cons, hinsert]
    exact (insertAll_literals vs _ hrest).trans (by simp)

/-- References that are new to a set and to each other go last. -/
theorem insertAll_references : ∀ (rs : List Reference) (set : ValueSet),
    (set.references ++ rs).Pairwise (fun a b => a.same b = false) →
    set.insertAll (rs.map .reference) = { set with references := set.references ++ rs }
  | [], set, _ => by simp [ValueSet.insertAll]
  | r :: rs, set, h => by
    have hnew : set.references.any (·.same r) = false :=
      List.any_eq_false.2 fun q hq => by
        simpa using (List.pairwise_append.1 h).2.2 q hq r List.mem_cons_self
    have hinsert : set.insert (.reference r) = { set with references := set.references ++ [r] } := by
      simp only [insert, hnew, Bool.false_eq_true, if_false]
    have hrest : (set.references ++ [r] ++ rs).Pairwise fun a b => a.same b = false := by simpa using h
    rw [List.map_cons, insertAll, List.foldl_cons, hinsert]
    exact (insertAll_references rs _ hrest).trans (by simp)

/-- **A separate set is rebuilt from its operands.** -/
theorem insertAll_operands (h : set.Separate functions) : ({} : ValueSet).insertAll set.operands = set := by
  have hvalues := insertAll_literals set.values {} h.valuesApart
  have hreferences := insertAll_references set.references { values := set.values } h.referencesApart
  rw [insertAll] at hvalues
  rw [operands, insertAll, List.foldl_append, hvalues]
  exact hreferences

/-- **The operands of a separate set are read back.** -/
theorem mapM_operand_operands {V : Type} (h : set.Separate functions) :
    (set.operands.map Operand.toJson).mapM (Call.operand (V := V) functions) =
      .ok (set.operands.map .ofOperand) :=
  mapM_map_ok fun o ho => Operand.operand_toJson (h.resolved o ho)

/-- The operands of a set that holds something. -/
theorem operands_ne_nil (h : set.isEmpty = false) : set.operands ≠ [] := by
  rintro he
  simp only [operands, List.append_eq_nil_iff, List.map_eq_nil_iff] at he
  simp [isEmpty, he.1, he.2] at h

end ValueSet
end Rulebook
