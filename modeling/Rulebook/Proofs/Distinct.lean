import Rulebook.Description.Basic
import Rulebook.Proofs.Table

/-!
# Distinct names

Directives, properties and the members of objects are maps: each name stands in them once. `Json.Distinct` and
`Description.Distinct` say so of the lists that represent them, at every depth.
-/

namespace Rulebook

namespace Description

mutual
/-- Directives, properties and the members of every object hold each of their names once. -/
def Distinct : Description → Prop
  | ⟨_, directives, none⟩ => Table.Distinct directives ∧ Json.DistinctMembers directives
  | ⟨_, directives, some properties⟩ =>
    Table.Distinct directives ∧ Json.DistinctMembers directives ∧ Table.Distinct properties ∧ DistinctAll properties

/-- Every listed property holds its names once. -/
def DistinctAll : List (String × Description) → Prop
  | [] => True
  | (_, child) :: rest => Distinct child ∧ DistinctAll rest
end

/-- The directives of a node hold each name once. -/
theorem Distinct.names {d : Description} (h : d.Distinct) : Table.Distinct d.directives := by
  obtain ⟨type, directives, _ | properties⟩ := d
  · exact h.1
  · exact h.1

theorem distinct_of_mem {e : String × Description} : ∀ {properties : List (String × Description)},
    DistinctAll properties → e ∈ properties → e.2.Distinct
  | (name, child) :: rest, h, he => by
    rcases List.mem_cons.1 he with rfl | he
    · exact h.1
    · exact distinct_of_mem h.2 he

/-- A property holds its names once. -/
theorem Distinct.property {d : Description} (h : d.Distinct) {properties : List (String × Description)}
    (hp : d.properties = some properties) {e : String × Description} (he : e ∈ properties) : e.2.Distinct := by
  obtain ⟨type, directives, _ | _⟩ := d
  · cases hp
  · cases hp
    exact distinct_of_mem h.2.2.2 he

end Description

namespace Json

theorem distinct_of_mem {e : String × Json} : ∀ {members : List (String × Json)}, DistinctMembers members →
    e ∈ members → e.2.Distinct
  | (name, value) :: rest, h, he => by
    rcases List.mem_cons.1 he with rfl | he
    · exact h.1
    · exact distinct_of_mem h.2 he

end Json

/-- The value of a directive holds the names of its objects once. -/
theorem Description.Distinct.value {d : Description} (h : d.Distinct) {e : String × Json} (he : e ∈ d.directives) :
    e.2.Distinct := by
  obtain ⟨type, directives, _ | properties⟩ := d
  · exact Json.distinct_of_mem h.2 he
  · exact Json.distinct_of_mem h.2.1 he

end Rulebook
