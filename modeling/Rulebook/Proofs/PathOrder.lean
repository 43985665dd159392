import Mathlib.Data.List.Pairwise
import Rulebook.Batch

/-!
# The order of paths

Components of paths are in a strict order, and paths are ordered by their components as words are by their letters. So
any two paths compare, and they stand at the same place only when their components are the same; the outcomes of
files that are different as paths have one order.

* `PathPart.before_trichotomy`, `Path.leParts_total`, `Path.leParts_trans`, `Path.leParts_antisymm`: the laws.
* `Batch.sorted_perm`, `Batch.sorted_pairwise`: sorting loses nothing and puts the outcomes in order.
* `Batch.sorted_eq_of_perm`: outcomes with different paths are sorted alike however they are given.
-/

namespace Rulebook

/-! ## Components -/

namespace PathPart

variable {a b c : PathPart}

theorem before_iff : a.before b = true ↔ a.rank < b.rank ∨ a.rank = b.rank ∧ a.text < b.text := by
  simp [before]

/-- The kind of a component and its name tell which it is. -/
theorem eq_of_rank (hrank : a.rank = b.rank) (htext : a.text = b.text) : a = b := by
  cases a <;> cases b <;> simp_all [rank, text]

theorem not_before_self : ¬a.before a = true := by
  rw [before_iff]
  rintro (h | ⟨-, h⟩)
  · exact Nat.lt_irrefl _ h
  · exact String.lt_irrefl _ h

theorem before_asymm (h : a.before b = true) : ¬b.before a = true := by
  rw [before_iff] at h ⊢
  rcases h with hab | ⟨hrank, hab⟩
  · omega
  · rintro (hba | ⟨-, hba⟩)
    · omega
    · exact String.lt_asymm hab hba

theorem before_trans (hab : a.before b = true) (hbc : b.before c = true) : a.before c = true := by
  rw [before_iff] at hab hbc ⊢
  rcases hab with hab | ⟨hrank, hab⟩
  · left
    omega
  rcases hbc with hbc | ⟨hrank', hbc⟩
  · left
    omega
  · exact .inr ⟨hrank.trans hrank', String.lt_trans hab hbc⟩

/-- **Different components sort one in front of the other.** -/
theorem before_trichotomy (hne : a ≠ b) : a.before b = true ∨ b.before a = true := by
  rw [before_iff, before_iff]
  rcases Nat.lt_trichotomy a.rank b.rank with hlt | heq | hlt
  · exact .inl (.inl hlt)
  · rcases Std.lt_trichotomy a.text b.text with htext | htext | htext
    · exact .inl (.inr ⟨heq, htext⟩)
    · exact absurd (eq_of_rank heq htext) hne
    · exact .inr (.inr ⟨heq.symm, htext⟩)
  · exact .inr (.inl hlt)

end PathPart

/-! ## Paths -/

namespace Path

theorem leParts_cons_self (a : PathPart) (as bs : List PathPart) : leParts (a :: as) (a :: bs) = leParts as bs :=
  if_pos rfl

theorem leParts_cons_of_ne {a b : PathPart} (hne : a ≠ b) (as bs : List PathPart) :
    leParts (a :: as) (b :: bs) = a.before b :=
  if_neg hne

/-- **Any two paths compare.** -/
theorem leParts_total : ∀ as bs : List PathPart, leParts as bs = true ∨ leParts bs as = true
  | [], _ => .inl (by simp [leParts])
  | _ :: _, [] => .inr (by simp [leParts])
  | a :: as, b :: bs => by
    by_cases heq : a = b
    · subst heq
      simpa only [leParts_cons_self] using leParts_total as bs
    · rw [leParts_cons_of_ne heq, leParts_cons_of_ne (Ne.symm heq)]
      exact PathPart.before_trichotomy heq

/-- **Paths in front of each other have the same components.** -/
theorem leParts_antisymm : ∀ {as bs : List PathPart}, leParts as bs = true → leParts bs as = true → as = bs
  | [], [], _, _ => rfl
  | [], _ :: _, _, h => by simp [leParts] at h
  | _ :: _, [], h, _ => by simp [leParts] at h
  | a :: as, b :: bs, hab, hba => by
    by_cases heq : a = b
    · subst heq
      rw [leParts_cons_self] at hab hba
      rw [leParts_antisymm hab hba]
    · rw [leParts_cons_of_ne heq] at hab
      rw [leParts_cons_of_ne (Ne.symm heq)] at hba
      exact absurd hba (PathPart.before_asymm hab)

/-- **The order is transitive**: of the first components that differ, those of the outer paths come first or later. -/
theorem leParts_trans : ∀ {as bs cs : List PathPart}, leParts as bs = true → leParts bs cs = true →
    leParts as cs = true
  | [], _, _, _, _ => by simp [leParts]
  | _ :: _, [], _, h, _ => by simp [leParts] at h
  | _ :: _, _ :: _, [], _, h => by simp [leParts] at h
  | a :: as, b :: bs, c :: cs, hab, hbc => by
    by_cases heq : a = b
    · subst heq
      rw [leParts_cons_self] at hab
      by_cases hac : a = c
      · subst hac
        rw [leParts_cons_self] at hbc ⊢
        exact leParts_trans hab hbc
      · rwa [leParts_cons_of_ne hac] at hbc ⊢
    · rw [leParts_cons_of_ne heq] at hab
      by_cases hbc' : b = c
      · subst hbc'
        rwa [leParts_cons_of_ne heq]
      · rw [leParts_cons_of_ne hbc'] at hbc
        have hac := PathPart.before_trans hab hbc
        have hne : a ≠ c := by
          rintro rfl
          exact PathPart.not_before_self hac
        rwa [leParts_cons_of_ne hne]

end Path

/-! ## Outcomes in order -/

namespace Batch

/-- Outcomes whose files are pairwise different as paths. -/
def DistinctPaths (outcomes : List Outcome) : Prop :=
  outcomes.Pairwise fun a b => Path.parts a.path ≠ Path.parts b.path

variable {outcomes other : List Outcome}

/-- Sorting loses nothing and invents nothing. -/
theorem sorted_perm (outcomes : List Outcome) : (sorted outcomes).Perm outcomes := List.mergeSort_perm outcomes _

/-- Sorted outcomes stand in the order of their paths. -/
theorem sorted_pairwise (outcomes : List Outcome) :
    (sorted outcomes).Pairwise fun a b => Path.le a.path b.path = true := by
  have htrans (a b c : Outcome) (hab : Path.le a.path b.path = true) (hbc : Path.le b.path c.path = true) :
      Path.le a.path c.path = true := Path.leParts_trans hab hbc
  have htotal (a b : Outcome) : (Path.le a.path b.path || Path.le b.path a.path) = true := by
    rw [Bool.or_eq_true]
    exact Path.leParts_total _ _
  exact List.pairwise_mergeSort htrans htotal outcomes

/-- Of outcomes with different paths, two that are in front of each other are one. -/
theorem eq_of_le (hdistinct : DistinctPaths outcomes) {a b : Outcome} (ha : a ∈ outcomes) (hb : b ∈ outcomes)
    (hab : Path.le a.path b.path = true) (hba : Path.le b.path a.path = true) : a = b := by
  have hparts : Path.parts a.path = Path.parts b.path := Path.leParts_antisymm hab hba
  have hsymm : Std.Symm fun x y : Outcome => Path.parts x.path ≠ Path.parts y.path := ⟨fun _ _ => Ne.symm⟩
  exact Classical.byContradiction fun hne => hdistinct.forall ha hb hne hparts

/-- **Outcomes with different paths are sorted alike** however they are given. -/
theorem sorted_eq_of_perm (hperm : other.Perm outcomes) (hdistinct : DistinctPaths outcomes) :
    sorted other = sorted outcomes := by
  have hother := (sorted_perm other).trans hperm
  have hsorted := sorted_perm outcomes
  refine List.Perm.eq_of_pairwise ?_ (sorted_pairwise other) (sorted_pairwise outcomes) (hother.trans hsorted.symm)
  intro a b ha hb
  exact eq_of_le hdistinct (hother.mem_iff.1 ha) (hsorted.mem_iff.1 hb)

/-- The number of failures does not depend on the order. -/
theorem failures_perm (hperm : other.Perm outcomes) : failures other = failures outcomes := hperm.countP_eq _

end Batch
end Rulebook
