import Mathlib.Data.List.Perm.Subperm
import Mathlib.Data.Option.Basic
import Rulebook.Proofs.Distinct
import Rulebook.Proofs.Table

/-!
# Equality of JSON values

Values are compared without regard to the order of members, and numbers by their value. On values whose objects hold
each name once, which are all that are ever read, this equality is an equivalence.

* `same_obj_iff`: two objects are equal when the same names are written in both, with equal values.
* `same_symm`, `same_trans`, `same_refl`: equality is symmetric, transitive and reflexive; `same_obj_of_perm`: the order
  of members does not matter.
-/

namespace Rulebook

/-! ## Numbers and names -/

theorem Binary64.same_symm {x y : Binary64} (h : x.same y = true) : y.same x = true := by
  simp only [same, Bool.and_eq_true, Bool.or_eq_true, beq_iff_eq] at h ⊢
  obtain ⟨hrank, hsign⟩ := h
  exact ⟨hrank.symm, hsign.imp (fun hzero => hrank ▸ hzero) Eq.symm⟩

theorem Binary64.same_trans {x y z : Binary64} (h : x.same y = true) (h' : y.same z = true) : x.same z = true := by
  simp only [same, Bool.and_eq_true, Bool.or_eq_true, beq_iff_eq] at h h' ⊢
  obtain ⟨hrank, hsign⟩ := h
  obtain ⟨hrank', hsign'⟩ := h'
  refine ⟨hrank.trans hrank', ?_⟩
  rcases hsign with hzero | hsign
  · exact .inl hzero
  · exact hsign'.imp (fun hzero => hrank.trans hzero) hsign.trans

theorem Number.same_symm {x y : Number} (h : x.same y = true) : y.same x = true := by
  cases x with
  | int a =>
    cases y with
    | int b => exact beq_iff_eq.2 (beq_iff_eq.1 h).symm
    | float y => cases h
  | float x =>
    cases y with
    | int b => cases h
    | float y => exact Binary64.same_symm h

theorem Number.same_trans {x y z : Number} (h : x.same y = true) (h' : y.same z = true) : x.same z = true := by
  cases y with
  | int b =>
    cases x with
    | int a =>
      cases z with
      | int c => exact beq_iff_eq.2 ((beq_iff_eq.1 h).trans (beq_iff_eq.1 h'))
      | float z => cases h'
    | float x => cases h
  | float y =>
    cases x with
    | int a => cases h
    | float x =>
      cases z with
      | int c => cases h'
      | float z => exact Binary64.same_trans h h'

/-- Equally many names of which the first are among the others are the same names. -/
theorem Table.names_perm {α : Type} {a b : Table α} (ha : a.Distinct) (hlength : a.length = b.length)
    (hsub : ∀ name ∈ names a, name ∈ names b) : (names a).Perm (names b) := by
  have hle : (names b).length ≤ (names a).length := by simp [names, hlength]
  exact (ha.subperm hsub).perm_of_length_le hle

namespace Json

/-! ## Values of one kind -/

/-- Equal values are of one kind. -/
inductive Alike : Json → Json → Prop
  | null : Alike .null .null
  | bool (value : Bool) : Alike (.bool value) (.bool value)
  | num {x y : Number} : x.same y = true → Alike (.num x) (.num y)
  | str (value : String) : Alike (.str value) (.str value)
  | arr {xs ys : List Json} : sameItems xs ys = true → Alike (.arr xs) (.arr ys)
  | obj {ms ns : Table Json} : ms.length = ns.length → sameMembers ms ns = true → Alike (.obj ms) (.obj ns)

theorem alike_of_same {a b : Json} (h : a.same b = true) : Alike a b := by
  unfold same at h
  split at h
  · exact .null
  · rw [eq_of_beq h]
    exact .bool _
  · exact .num h
  · rw [eq_of_beq h]
    exact .str _
  · exact .arr h
  · obtain ⟨hlength, hmembers⟩ := Bool.and_eq_true_iff.1 h
    exact .obj (eq_of_beq hlength) hmembers
  · cases h

/-! ## Objects -/

/-- Every listed member has an equal one under its name. -/
theorem sameMembers_iff {ns : Table Json} : ∀ {ms : List (String × Json)}, sameMembers ms ns = true ↔
    ∀ name value, (name, value) ∈ ms → ∃ other, Table.get? ns name = some other ∧ value.same other = true
  | [] => by simp [sameMembers]
  | (key, first) :: ms => by
    have ih := @sameMembers_iff ns ms
    rw [sameMembers, Bool.and_eq_true, ih]
    constructor
    · rintro ⟨hfirst, hrest⟩ name value hm
      rcases List.mem_cons.1 hm with heq | hm
      · cases heq
        split at hfirst
        · next other hother => exact ⟨other, hother, hfirst⟩
        · cases hfirst
      · exact hrest name value hm
    · intro h
      refine ⟨?_, fun name value hm => h name value (List.mem_cons_of_mem _ hm)⟩
      obtain ⟨other, hother, hsame⟩ := h key first List.mem_cons_self
      rw [hother]
      exact hsame

/-- **Objects are equal** when the same names are written in both and each reads as equal values. -/
theorem same_obj_iff {ms ns : Table Json} (hms : ms.Distinct) (hns : ns.Distinct) :
    (obj ms).same (obj ns) = true ↔ (∀ name, name ∈ Table.names ms ↔ name ∈ Table.names ns) ∧
      ∀ name x y, Table.get? ms name = some x → Table.get? ns name = some y → x.same y = true := by
  rw [same, Bool.and_eq_true, beq_iff_eq, sameMembers_iff]
  constructor
  · rintro ⟨hlength, hmembers⟩
    have hsub : ∀ name ∈ Table.names ms, name ∈ Table.names ns := by
      intro name hname
      obtain ⟨⟨key, value⟩, hm, rfl⟩ := List.mem_map.1 hname
      obtain ⟨other, hother, -⟩ := hmembers key value hm
      exact (Table.has_iff_mem ns key).1 (by simp [Table.has, hother])
    refine ⟨fun name => (Table.names_perm hms hlength hsub).mem_iff, fun name x y hx hy => ?_⟩
    obtain ⟨other, hother, hsame⟩ := hmembers name x (Table.mem_of_get? hx)
    rw [hy] at hother
    cases hother
    exact hsame
  · rintro ⟨hnames, hvalues⟩
    have hperm := (List.perm_ext_iff_of_nodup hms hns).2 hnames
    refine ⟨by simpa [Table.names] using hperm.length_eq, fun name value hm => ?_⟩
    have hhas : Table.has ns name = true := (Table.has_iff_mem ns name).2 ((hnames name).1 (Table.mem_names hm))
    obtain ⟨other, hother⟩ := Option.isSome_iff_exists.1 hhas
    exact ⟨other, hother, hvalues name value other (Table.get?_of_mem hms hm) hother⟩

/-! ## Equality is an equivalence -/

mutual
theorem same_refl : ∀ {a : Json}, a.Distinct → a.same a = true
  | .null, _ => rfl
  | .bool _, _ | .str _, _ => beq_self_eq_true _
  | .num x, _ => x.same_self
  | .arr _, h => sameItems_refl h
  | .obj ms, h => by
    rw [same, Bool.and_eq_true, beq_iff_eq]
    exact ⟨rfl, sameMembers_self h.2 fun e he => Table.get?_of_mem h.1 he⟩

theorem sameItems_refl : ∀ {xs : List Json}, DistinctItems xs → sameItems xs xs = true
  | [], _ => rfl
  | x :: xs, h => by
    rw [sameItems, Bool.and_eq_true]
    exact ⟨same_refl h.1, sameItems_refl h.2⟩

/-- Members that are read in a table have equal ones there. -/
theorem sameMembers_self {ns : Table Json} : ∀ {ms : List (String × Json)}, DistinctMembers ms →
    (∀ e ∈ ms, Table.get? ns e.1 = some e.2) → sameMembers ms ns = true
  | [], _, _ => rfl
  | (name, value) :: ms, h, hread => by
    obtain ⟨hfirst, hrest⟩ := List.forall_mem_cons.1 hread
    rw [sameMembers, Bool.and_eq_true, hfirst]
    exact ⟨same_refl h.1, sameMembers_self h.2 hrest⟩
end

/-- The order of members does not matter. -/
theorem same_obj_of_perm {ms ns : Table Json} (h : (obj ms).Distinct) (hperm : ms.Perm ns) :
    (obj ms).same (obj ns) = true := by
  rw [same, Bool.and_eq_true, beq_iff_eq]
  refine ⟨hperm.length_eq, sameMembers_self h.2 fun e he => ?_⟩
  exact Table.get?_of_mem (Table.Distinct.perm h.1 hperm) (hperm.mem_iff.1 he)

mutual
theorem same_symm : ∀ {a b : Json}, a.Distinct → b.Distinct → a.same b = true → b.same a = true
  | .arr xs, b, ha, hb, h => by
    cases alike_of_same h with
    | arr hitems => exact sameItems_symm ha hb hitems
  | .obj ms, b, ha, hb, h => by
    cases alike_of_same h with
    | @obj _ ns hlength hmembers =>
      have hnames := ((same_obj_iff ha.1 hb.1).1 h).1
      exact (same_obj_iff hb.1 ha.1).2 ⟨fun name => (hnames name).symm,
        fun name y x hy hx => sameMembers_symm ha.2 hb.2 hmembers hx hy⟩
  | .null, b, _, _, h | .bool _, b, _, _, h | .str _, b, _, _, h => by
    cases alike_of_same h
    exact h
  | .num x, b, _, _, h => by
    cases alike_of_same h with
    | num hnum => exact Number.same_symm hnum
termination_by structural a => a

theorem sameItems_symm : ∀ {xs ys : List Json}, DistinctItems xs → DistinctItems ys → sameItems xs ys = true →
    sameItems ys xs = true
  | [], [], _, _, _ => rfl
  | x :: xs, y :: ys, hx, hy, h => by
    rw [sameItems, Bool.and_eq_true] at h ⊢
    exact ⟨same_symm hx.1 hy.1 h.1, sameItems_symm hx.2 hy.2 h.2⟩
termination_by structural xs => xs

/-- What a name reads as in the second table is equal to what it reads as in the first. -/
theorem sameMembers_symm {name : String} {x y : Json} {ns : Table Json} : ∀ {ms : List (String × Json)},
    DistinctMembers ms → DistinctMembers ns → sameMembers ms ns = true → Table.get? ms name = some x →
      Table.get? ns name = some y → y.same x = true
  | (key, first) :: ms, hms, hns, h, hx, hy => by
    rw [sameMembers, Bool.and_eq_true] at h
    rw [Table.get?_cons] at hx
    split at hx
    · next hkey =>
      have hfirst := h.1
      rw [hkey, hy] at hfirst
      rw [← Option.some.inj hx]
      exact same_symm hms.1 (distinct_of_mem hns (Table.mem_of_get? hy)) hfirst
    · exact sameMembers_symm hms.2 hns h.2 hx hy
termination_by structural ms => ms
end

mutual
theorem same_trans : ∀ {a b c : Json}, a.same b = true → b.same c = true → a.same c = true
  | .arr xs, b, c, h, h' => by
    cases alike_of_same h with
    | arr hitems =>
      cases alike_of_same h' with
      | arr hitems' => exact sameItems_trans hitems hitems'
  | .obj ms, b, c, h, h' => by
    cases alike_of_same h with
    | obj hlength hmembers =>
      cases alike_of_same h' with
      | obj hlength' hmembers' =>
        rw [same, Bool.and_eq_true, beq_iff_eq]
        exact ⟨hlength.trans hlength', sameMembers_trans hmembers hmembers'⟩
  | .null, b, c, h, h' | .bool _, b, c, h, h' | .str _, b, c, h, h' => by
    cases alike_of_same h
    exact h'
  | .num x, b, c, h, h' => by
    cases alike_of_same h with
    | num hnum =>
      cases alike_of_same h' with
      | num hnum' => exact Number.same_trans hnum hnum'
termination_by structural a => a

theorem sameItems_trans : ∀ {xs ys zs : List Json}, sameItems xs ys = true → sameItems ys zs = true →
    sameItems xs zs = true
  | [], [], [], _, _ => rfl
  | x :: xs, y :: ys, z :: zs, h, h' => by
    rw [sameItems, Bool.and_eq_true] at h h' ⊢
    exact ⟨same_trans h.1 h'.1, sameItems_trans h.2 h'.2⟩
termination_by structural xs => xs

theorem sameMembers_trans {ns ks : Table Json} : ∀ {ms : List (String × Json)}, sameMembers ms ns = true →
    sameMembers ns ks = true → sameMembers ms ks = true
  | [], _, _ => rfl
  | (name, value) :: ms, h, h' => by
    rw [sameMembers, Bool.and_eq_true] at h ⊢
    refine ⟨?_, sameMembers_trans h.2 h'⟩
    have hfirst := h.1
    split at hfirst
    · next other hother =>
      obtain ⟨last, hlast, hsame⟩ := sameMembers_iff.1 h' name other (Table.mem_of_get? hother)
      rw [hlast]
      exact same_trans hfirst hsame
    · cases hfirst
termination_by structural ms => ms
end

end Json
end Rulebook
