/-!
# Tables

A table is a list of named entries in the order in which they were first written; the operations
below keep each name at most once.

* `Table.get?` looks a name up, `Table.put` writes one (a new name goes last, a known one keeps its place).
* `Table.ofList` writes entries one after another, so the last value of a repeated name wins at the place of
  the first.
* `Table.swapErase` removes a name and moves the last entry into the hole.
-/

namespace Rulebook

/-- Named entries, in the order in which they were first written. -/
abbrev Table (α : Type) := List (String × α)

namespace Table

variable {α β : Type}

/-- The value written under a name. -/
def get? : Table α → String → Option α
  | [], _ => none
  | (key, value) :: rest, name => if key = name then some value else get? rest name

/-- Whether a name is written. -/
def has (table : Table α) (name : String) : Bool := (get? table name).isSome

/-- The names, in order. -/
def names (table : Table α) : List String := table.map (·.1)

/-- Writes a value: a known name keeps its place, a new one goes last. -/
def put : Table α → String → α → Table α
  | [], name, value => [(name, value)]
  | (key, old) :: rest, name, value =>
    if key = name then (key, value) :: rest else (key, old) :: put rest name value

/-- Writes a value under a name that has none yet, and leaves a known name alone. -/
def putNew (table : Table α) (name : String) (value : α) : Table α :=
  if has table name then table else table ++ [(name, value)]

/-- Writes entries one after another into a table. -/
def putAll (table : Table α) (entries : List (String × α)) : Table α :=
  entries.foldl (fun t e => put t e.1 e.2) table

/-- The table of a list of entries: the last value of a repeated name wins, at the place of the first. -/
def ofList (entries : List (String × α)) : Table α := putAll [] entries

/-- The table without the given names, order kept. -/
def without (table : Table α) (names : List String) : Table α :=
  table.filter fun e => !names.contains e.1

/-- Removes a name; the last entry moves into the hole. -/
def swapErase (table : Table α) (name : String) : Table α :=
  match table.getLast? with
  | none => table
  | some last =>
    if last.1 = name then table.dropLast
    else if has table name then table.dropLast.map fun e => if e.1 = name then last else e
    else table

/-- Every name is written once. -/
def Distinct (table : Table α) : Prop := (names table).Nodup

instance (table : Table α) : Decidable (Distinct table) := inferInstanceAs (Decidable (List.Nodup _))

/-! ## Small laws -/

@[simp] theorem get?_nil (name : String) : get? ([] : Table α) name = none := rfl

@[simp] theorem get?_cons (key : String) (value : α) (rest : Table α) (name : String) :
    get? ((key, value) :: rest) name = if key = name then some value else get? rest name := rfl

/-- A written value is read back under its name and no other name changes. -/
theorem get?_put (table : Table α) (name other : String) (value : α) :
    get? (put table name value) other = if name = other then some value else get? table other := by
  induction table with
  | nil => rfl
  | cons e rest ih =>
    obtain ⟨key, old⟩ := e
    by_cases hk : key = name
    · subst hk
      by_cases ho : key = other <;> simp [put, ho]
    · by_cases ho : name = other
      · subst ho
        simp [put, hk, ih]
      · simp only [put, hk, if_false, get?_cons, ih, ho]

/-- Writing keeps the names in order and adds a new one at the end. -/
theorem names_put (table : Table α) (name : String) (value : α) :
    names (put table name value) = if has table name then names table else names table ++ [name] := by
  induction table with
  | nil => rfl
  | cons e rest ih =>
    obtain ⟨key, old⟩ := e
    by_cases hk : key = name
    · subst hk
      simp [put, names, has]
    · have h : names (put rest name value) = if has rest name then names rest else names rest ++ [name] := ih
      have hh : has ((key, old) :: rest) name = has rest name := by simp [has, hk]
      simp only [put, hk, if_false, names, List.map_cons] at h ⊢
      rw [h, hh]
      split <;> simp

/-- A name is written exactly when it is among the names. -/
theorem has_iff_mem (table : Table α) (name : String) : has table name = true ↔ name ∈ names table := by
  induction table with
  | nil => simp [has, names]
  | cons e rest ih =>
    obtain ⟨key, old⟩ := e
    by_cases hk : key = name
    · subst hk; simp [has, names]
    · have hh : has ((key, old) :: rest) name = has rest name := by simp [has, hk]
      rw [hh, ih]
      simp [names, Ne.symm hk]

end Table

end Rulebook
