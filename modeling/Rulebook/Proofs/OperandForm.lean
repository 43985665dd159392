import Rulebook.Proofs.Reference

/-!
# The form of operands in descriptions

Reading an operand and writing it are stable (`operand_form_stable`): an operand that was read is read again from what
it is written as, a reference comes back unless its adjust name is empty, and the order of the members of a reference
object does not matter.
-/

namespace Rulebook

open Fallible

namespace Reference

variable {members members' : Table Json}

/-- The members of a reference object are read alike in any order. -/
theorem ofMembers_perm {written : Json} {r : Reference} (hd : members.Distinct) (hperm : members.Perm members')
    (h : ofMembers written members = .ok r) : ofMembers written members' = .ok r := by
  cases written with
  | str text =>
    obtain ⟨s, hs, hr⟩ := bind_eq_ok.1 h
    exact bind_eq_ok.2 ⟨s, hs, withOptions_perm hd hperm hr⟩
  | _ => cases h

end Reference

namespace Operand

variable {members members' : Table Json}

/-- A reference object is read alike in any order of its members. -/
theorem ofJson_perm {o : Operand} (hd : members.Distinct) (hperm : members.Perm members')
    (hkey : Table.has members Reference.key = true) (h : ofJson (.obj members) = .ok o) :
    ofJson (.obj members') = .ok o := by
  obtain ⟨written, hwritten⟩ := Option.isSome_iff_exists.1 hkey
  have hwritten' := (Table.get?_perm hd hperm Reference.key).symm.trans hwritten
  simp only [ofJson, hwritten, hwritten'] at h ⊢
  obtain ⟨r, hr, ho⟩ := map_eq_ok.1 h
  exact map_eq_ok.2 ⟨r, Reference.ofMembers_perm hd hperm hr, ho⟩

/-- An operand that was read is read again from what it is written as. -/
theorem ofJson_toJson {j : Json} {o : Operand} (h : ofJson j = .ok o) : ofJson o.toJson = .ok o := by
  rcases ofJson_ok h with ⟨rfl, hlit⟩ | ⟨written, members, r, rfl, hr, rfl⟩
  · exact ofJson_literal hlit
  · obtain ⟨hrep, hplain, hne⟩ := Reference.ofMembers_ok hr
    rw [toJson, ofJson_reference hrep hne, ← hplain]

/-- A representable reference comes back exactly when its adjust name is not empty. -/
theorem ofJson_reference_iff {r : Reference} (hrep : Reference.Representable r.target r.path) :
    (∃ s, ofJson r.toJson = .ok (.reference s) ∧ s.same r = true) ↔ r.adjust ≠ some "" := by
  constructor
  · rintro ⟨s, hs, hsame⟩
    have hadjust : s.adjust = r.adjust := by
      simp only [Reference.same, Bool.and_eq_true, beq_iff_eq] at hsame
      exact hsame.2
    rcases ofJson_ok hs with ⟨hlit, -⟩ | ⟨written, members, q, -, hq, ho⟩
    · cases hlit
    · cases ho
      rw [← hadjust]
      exact (Reference.ofMembers_ok hq).2.2
  · intro hne
    exact ⟨_, ofJson_reference hrep hne, by simp [Reference.same]⟩

/-- **Operands survive their form in a description.** What was read is read again from what it is written as; a literal
is written as the value it was read from and never has the key of references. A reference whose notation is faithful
comes back if and only if it has no empty adjust name. The order of the members of a reference object matters neither
for success nor for the result. -/
theorem operand_form_stable :
    (∀ j o, ofJson j = .ok o → ofJson o.toJson = .ok o ∧
      ∀ v, o = .literal v → o.toJson = j ∧ v.field? Reference.key = none) ∧
    (∀ r : Reference, (∃ s, Reference.parse r.text = .ok s ∧ s.target = r.target ∧ s.path = r.path) →
      ((∃ s, ofJson r.toJson = .ok (.reference s) ∧ s.same r = true) ↔ r.adjust ≠ some "")) ∧
    ∀ members members' : Table Json, members.Distinct → members.Perm members' →
      Table.has members Reference.key = true → ∀ o, ofJson (.obj members) = .ok o ↔ ofJson (.obj members') = .ok o := by
  refine ⟨fun j o h => ⟨ofJson_toJson h, ?_⟩, ?_, ?_⟩
  · rintro v rfl
    rcases ofJson_ok h with ⟨hlit, hnone⟩ | ⟨written, members, r, -, -, ho⟩
    · cases hlit
      exact ⟨rfl, hnone⟩
    · cases ho
  · rintro r ⟨s, hs, htarget, hpath⟩
    have hrep := (Reference.representable_of_parse hs).1
    rw [htarget, hpath] at hrep
    exact ofJson_reference_iff hrep
  · intro members members' hd hperm hkey o
    have hkey' : Table.has members' Reference.key = true := by
      rwa [Table.has, ← Table.get?_perm hd hperm]
    exact ⟨ofJson_perm hd hperm hkey, ofJson_perm (hd.perm hperm) hperm.symm hkey'⟩

/-- A reference object may start with its options. -/
theorem operand_form_stable_options :
    ∃ r, ofJson (.obj [("adjust", .str "length"), ("in", .bool true), ("$ref", .str "..a")]) = .ok (.reference r) ∧
      ofJson r.toJson = .ok (.reference r) ∧
      (∃ s, ofJson r.toJson = .ok (.reference s) ∧ s.same r = true) ∧
      ofJson (.obj [("$ref", .str "..a"), ("adjust", .str "length"), ("in", .bool true)]) = .ok (.reference r) := by
  let r : Reference := { target := .ancestor 1, path := ["a"], isIn := true, adjust := some "length" }
  have hread : ofJson (.obj [("adjust", .str "length"), ("in", .bool true), ("$ref", .str "..a")]) =
      .ok (.reference r) := by rfl
  have hnotation := @Reference.parse_text r ⟨by decide, by decide⟩
  obtain ⟨hagain, hback, horder⟩ := operand_form_stable
  refine ⟨r, hread, (hagain _ _ hread).1, (hback r ⟨_, hnotation, rfl, rfl⟩).2 (by decide), ?_⟩
  exact (horder _ _ (by decide) (List.perm_append_singleton _ _) (by rfl) _).1 hread

end Operand
end Rulebook
