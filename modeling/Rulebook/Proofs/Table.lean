import Mathlib.Data.List.Nodup
import Rulebook.Table

/-!
# Laws of tables

* Reading: `get?_eq_some_iff_append` — a name reads as the value of its first entry; `get?_of_mem` — in a table whose
  names are distinct, of its entry; `get?_perm` — in any order of the entries; `get?_ofList` — in a table made from a
  list, the last entry of a name counts.
* Writing: `putAll_append` — entries under other names leave the front of a table alone; `ofList_eq_self` — a list
  with distinct names is its own table; `ofList_append` — lists without a common name make their tables side by side.
* Removing: `swapErase_append` — the last entry goes without a trace; `distinct_swapErase` — names stay distinct.
* Lifting: `putNewAll_eq_append` — new names go last; `distinct_putNewAll` — names stay distinct.
-/

namespace Rulebook
namespace Table

variable {α : Type}

/-! ## Names -/

@[simp] theorem names_nil : names ([] : Table α) = [] := rfl

@[simp] theorem names_cons (key : String) (value : α) (rest : Table α) :
    names ((key, value) :: rest) = key :: names rest := rfl

@[simp] theorem names_append (a b : Table α) : names (a ++ b) = names a ++ names b := List.map_append

/-- The name of an entry is among the names. -/
theorem mem_names {table : Table α} {e : String × α} (h : e ∈ table) : e.1 ∈ names table := List.mem_map_of_mem h

/-- The names of entries that take them from a list are among the list, in its order. -/
theorem names_zip_sublist : ∀ (keys : List String) (values : List α), (names (keys.zip values)).Sublist keys
  | [], _ => .slnil
  | _ :: _, [] => List.nil_sublist _
  | key :: keys, _ :: values => (names_zip_sublist keys values).cons_cons key

/-- Entries that agree in their names, place by place, have the same names. -/
theorem names_eq_of_forall₂ {β : Type} {R : α → β → Prop} : ∀ {xs : Table α} {ys : Table β},
    List.Forall₂ (fun x y => x.1 = y.1 ∧ R x.2 y.2) xs ys → names xs = names ys
  | _, _, .nil => rfl
  | _, _, .cons h hrest => congrArg₂ List.cons h.1 (names_eq_of_forall₂ hrest)

/-- A name that is not among the names is not written. -/
theorem has_eq_false {table : Table α} {name : String} (h : name ∉ names table) : has table name = false := by
  cases hh : has table name with
  | false => rfl
  | true => exact absurd ((has_iff_mem table name).1 hh) h

/-! ## Reading -/

/-- A name that reads as a value has an entry. -/
theorem mem_of_get? : ∀ {table : Table α} {name : String} {value : α}, get? table name = some value →
    (name, value) ∈ table
  | (key, old) :: rest, name, value, h => by
    rw [get?_cons] at h
    split at h
    · next hk =>
      cases h
      rw [hk]
      exact List.mem_cons_self
    · exact List.mem_cons_of_mem _ (mem_of_get? h)

/-- A name without an entry does not read. -/
theorem get?_eq_none {table : Table α} {name : String} (h : name ∉ names table) : get? table name = none := by
  cases hg : get? table name with
  | none => rfl
  | some value => exact absurd (mem_names (mem_of_get? hg)) h

/-- A name does not read exactly when it has no entry. -/
theorem get?_eq_none_iff {table : Table α} {name : String} : get? table name = none ↔ name ∉ names table := by
  refine ⟨fun h hm => ?_, get?_eq_none⟩
  rw [← has_iff_mem, has, h] at hm
  cases hm

/-- A name reads as the value of its first entry. -/
theorem get?_eq_some_iff_append : ∀ {table : Table α} {name : String} {value : α},
    get? table name = some value ↔ ∃ front rest, table = front ++ (name, value) :: rest ∧ name ∉ names front
  | [], _, _ => by simp
  | (key, old) :: table, name, value => by
    rw [get?_cons]
    constructor
    · intro h
      split at h
      · next hk =>
        cases h
        exact ⟨[], table, by rw [hk]; rfl, List.not_mem_nil⟩
      · next hk =>
        obtain ⟨front, rest, rfl, hfront⟩ := get?_eq_some_iff_append.1 h
        exact ⟨(key, old) :: front, rest, rfl, List.not_mem_cons_of_ne_of_not_mem (Ne.symm hk) hfront⟩
    · rintro ⟨_ | ⟨e, front⟩, rest, heq, hfront⟩
      · cases heq
        exact if_pos rfl
      · cases heq
        obtain ⟨hk, hfront⟩ := List.ne_and_not_mem_of_not_mem_cons hfront
        rw [if_neg (Ne.symm hk)]
        exact get?_eq_some_iff_append.2 ⟨front, rest, rfl, hfront⟩

theorem names_reverse (table : Table α) : names table.reverse = (names table).reverse := List.map_reverse

/-- From behind, a name reads as the value of its last entry. -/
theorem get?_reverse_eq_some_iff {table : Table α} {name : String} {value : α} :
    get? table.reverse name = some value ↔
      ∃ front rest, table = front ++ (name, value) :: rest ∧ name ∉ names rest := by
  rw [get?_eq_some_iff_append]
  constructor
  · rintro ⟨rest, front, hsplit, hrest⟩
    refine ⟨front.reverse, rest.reverse, ?_, ?_⟩
    · rw [← List.reverse_reverse table, hsplit]
      simp
    · rwa [names_reverse, List.mem_reverse]
  · rintro ⟨front, rest, rfl, hrest⟩
    refine ⟨rest.reverse, front.reverse, by simp, ?_⟩
    rwa [names_reverse, List.mem_reverse]

/-- Where names are distinct, an entry is what its name reads as. -/
theorem get?_of_mem : ∀ {table : Table α} {name : String} {value : α}, table.Distinct → (name, value) ∈ table →
    get? table name = some value
  | (key, old) :: rest, name, value, hd, h => by
    obtain ⟨hk, hrest⟩ := List.nodup_cons.1 hd
    rcases List.mem_cons.1 h with h | h
    · cases h
      exact if_pos rfl
    · have hne : key ≠ name := by
        rintro rfl
        have hm := mem_names h
        exact hk hm
      rw [get?_cons, if_neg hne]
      exact get?_of_mem hrest h

/-- Names are distinct in any order of the entries. -/
theorem Distinct.perm {a b : Table α} (hd : a.Distinct) (hperm : a.Perm b) : b.Distinct :=
  (hperm.map _).nodup_iff.1 hd

/-- Where names are distinct, the order of the entries does not matter for reading. -/
theorem get?_perm {a b : Table α} (hd : a.Distinct) (hperm : a.Perm b) (name : String) : get? a name = get? b name := by
  cases hb : get? b name with
  | some value => exact get?_of_mem hd (hperm.mem_iff.2 (mem_of_get? hb))
  | none =>
    cases ha : get? a name with
    | none => rfl
    | some value => rw [← hb, get?_of_mem (hd.perm hperm) (hperm.mem_iff.1 (mem_of_get? ha))]

/-- Where names are distinct, any two entries differ in their names. -/
theorem Distinct.pairwise {table : Table α} (hd : table.Distinct) : table.Pairwise fun a b => a.1 ≠ b.1 :=
  List.pairwise_map.1 hd

/-- A name of the front reads there, any other behind it. -/
theorem get?_append (a b : Table α) (name : String) : get? (a ++ b) name = (get? a name).or (get? b name) := by
  induction a with
  | nil => rfl
  | cons e rest ih =>
    obtain ⟨key, value⟩ := e
    rw [List.cons_append, get?_cons, get?_cons, ih]
    split <;> rfl

/-! ## Writing entry after entry -/

/-- A name that the front does not hold is written behind it. -/
theorem put_append {a : Table α} (b : Table α) {name : String} (value : α) (h : name ∉ names a) :
    put (a ++ b) name value = a ++ put b name value := by
  induction a with
  | nil => rfl
  | cons e rest ih =>
    obtain ⟨key, old⟩ := e
    have hk : key ≠ name := fun e => h (e ▸ List.mem_cons_self)
    simp only [List.cons_append, put, if_neg hk, ih fun hm => h (List.mem_cons_of_mem _ hm)]

@[simp] theorem putAll_nil (table : Table α) : putAll table [] = table := rfl

@[simp] theorem putAll_cons (table : Table α) (e : String × α) (entries : List (String × α)) :
    putAll table (e :: entries) = putAll (put table e.1 e.2) entries := rfl

/-- Writing what a name reads as changes nothing. -/
theorem put_eq_self : ∀ {table : Table α} {name : String} {value : α}, get? table name = some value →
    put table name value = table
  | (key, old) :: rest, name, value, h => by
    rw [get?_cons] at h
    split at h
    · next hk =>
      cases h
      rw [put, if_pos hk]
    · next hk => rw [put, if_neg hk, put_eq_self h]

/-- Entries under other names leave the front of a table alone. -/
theorem putAll_append : ∀ (entries : List (String × α)) {a : Table α} (b : Table α),
    (∀ name ∈ names entries, name ∉ names a) → putAll (a ++ b) entries = a ++ putAll b entries
  | [], _, _, _ => rfl
  | e :: entries, a, b, h => by
    rw [putAll_cons, put_append b e.2 (h e.1 List.mem_cons_self), putAll_cons]
    exact putAll_append entries _ fun name hn => h name (List.mem_cons_of_mem _ hn)

/-- A write keeps names distinct. -/
theorem distinct_put {table : Table α} (hd : table.Distinct) (name : String) (value : α) :
    (put table name value).Distinct := by
  unfold Distinct
  rw [names_put]
  split
  · exact hd
  · next h =>
    rw [has_iff_mem] at h
    exact List.nodup_append.2 ⟨hd, by simp, fun a ha b hb e => h (by simp_all)⟩

/-- What is in a table after a write was there or was written. -/
theorem mem_put : ∀ {table : Table α} {name : String} {value : α} {e : String × α}, e ∈ put table name value →
    e = (name, value) ∨ e ∈ table
  | [], _, _, _, h => .inl (List.mem_singleton.1 h)
  | (key, old) :: rest, name, value, e, h => by
    unfold put at h
    split at h
    · next hk =>
      subst hk
      exact (List.mem_cons.1 h).imp_right (List.mem_cons_of_mem _)
    · rcases List.mem_cons.1 h with rfl | h
      · exact .inr List.mem_cons_self
      · exact (mem_put h).imp_right (List.mem_cons_of_mem _)

/-- Writing entries keeps names distinct. -/
theorem distinct_putAll : ∀ (entries : List (String × α)) {table : Table α}, table.Distinct →
    (putAll table entries).Distinct
  | [], _, hd => hd
  | e :: entries, _, hd => distinct_putAll entries (distinct_put hd e.1 e.2)

/-- A table made from a list has distinct names. -/
theorem distinct_ofList (entries : List (String × α)) : (ofList entries).Distinct :=
  distinct_putAll entries List.nodup_nil

/-- A write adds at most one entry. -/
theorem length_put_le : ∀ (table : Table α) (name : String) (value : α),
    (put table name value).length ≤ table.length + 1
  | [], _, _ => Nat.le_refl _
  | (key, old) :: rest, name, value => by
    unfold put
    split
    · simp
    · have hrest := length_put_le rest name value
      simp only [List.length_cons]
      omega

theorem length_putAll_le : ∀ (entries : List (String × α)) (table : Table α),
    (putAll table entries).length ≤ table.length + entries.length
  | [], _ => Nat.le_refl _
  | e :: entries, table => by
    have hput := length_put_le table e.1 e.2
    have hrest := length_putAll_le entries (put table e.1 e.2)
    simp only [putAll_cons, List.length_cons]
    omega

/-- A table made from a list has at most as many entries. -/
theorem length_ofList_le (entries : List (String × α)) : (ofList entries).length ≤ entries.length := by
  have hlength := length_putAll_le entries []
  simpa [ofList] using hlength

/-- After writing entries, the last one of a name counts, and an unwritten name reads as before. -/
theorem get?_putAll : ∀ (entries : List (String × α)) (table : Table α) (name : String),
    get? (putAll table entries) name = (get? entries.reverse name).or (get? table name)
  | [], _, _ => rfl
  | (key, value) :: entries, table, name => by
    rw [putAll_cons, get?_putAll entries, List.reverse_cons, get?_append, Option.or_assoc, get?_put]
    by_cases h : key = name <;> simp [h]

/-- In a table made from a list, the last entry of a name counts. -/
theorem get?_ofList (entries : List (String × α)) (name : String) :
    get? (ofList entries) name = get? entries.reverse name := by
  rw [ofList, get?_putAll, get?_nil, Option.or_none]

/-- A table made from a list holds only entries of the list. -/
theorem mem_of_mem_ofList {entries : List (String × α)} {e : String × α} (h : e ∈ ofList entries) :
    e ∈ entries := by
  have hg := get?_of_mem (distinct_ofList entries) h
  rw [get?_ofList] at hg
  exact List.mem_reverse.1 (mem_of_get? hg)

/-- An entry of a list is in its table when every entry of its name is the same. -/
theorem mem_ofList_of_unique {entries : List (String × α)} {name : String} {value : α}
    (hm : (name, value) ∈ entries) (hu : ∀ other, (name, other) ∈ entries → other = value) :
    (name, value) ∈ ofList entries := by
  cases hg : get? (ofList entries) name with
  | some other =>
    have hother := mem_of_get? hg
    rwa [hu other (mem_of_mem_ofList hother)] at hother
  | none =>
    rw [get?_ofList] at hg
    have hnames : name ∈ names entries.reverse := mem_names (List.mem_reverse.2 hm)
    rw [← has_iff_mem, has, hg] at hnames
    cases hnames

/-- A list with distinct names is its own table. -/
theorem ofList_eq_self : ∀ {entries : List (String × α)}, (names entries).Nodup → ofList entries = entries
  | [], _ => rfl
  | (key, value) :: entries, h => by
    obtain ⟨hk, hrest⟩ := List.nodup_cons.1 h
    have hnew : ∀ name ∈ names entries, name ∉ names [(key, value)] := fun name hn hm =>
      hk (List.mem_singleton.1 hm ▸ hn)
    exact (putAll_append entries [] hnew).trans (congrArg _ (ofList_eq_self hrest))

/-- Lists without a common name make their tables side by side. -/
theorem ofList_append {a b : List (String × α)} (h : ∀ name ∈ names b, name ∉ names a) :
    ofList (a ++ b) = ofList a ++ ofList b := by
  have hsplit : ofList (a ++ b) = putAll (ofList a ++ []) b := by
    simp [ofList, putAll, List.foldl_append]
  rw [hsplit, putAll_append b [] fun name hn hm => h name hn ?_]
  · rfl
  · obtain ⟨e, he, rfl⟩ := List.mem_map.1 hm
    exact mem_names (mem_of_mem_ofList he)

/-! ## Removing and lifting -/

/-- Without names that it does not hold, a table is itself. -/
theorem without_eq_self {table : Table α} {keys : List String} (h : ∀ key ∈ keys, key ∉ names table) :
    without table keys = table := by
  refine List.filter_eq_self.2 fun e he => ?_
  have hk : e.1 ∉ keys := fun hm => h e.1 hm (mem_names he)
  simp [hk]

/-- A name is left when it was there and is not removed. -/
theorem mem_names_without {table : Table α} {keys : List String} {name : String} :
    name ∈ names (without table keys) ↔ name ∈ names table ∧ name ∉ keys := by
  simp only [names, without, List.mem_map, List.mem_filter, Bool.not_eq_true', List.contains_eq_mem,
    decide_eq_false_iff_not]
  constructor
  · rintro ⟨e, ⟨he, hk⟩, rfl⟩
    exact ⟨⟨e, he, rfl⟩, hk⟩
  · rintro ⟨⟨e, he, rfl⟩, hk⟩
    exact ⟨e, ⟨he, hk⟩, rfl⟩

/-- Removing keeps names distinct. -/
theorem distinct_without {table : Table α} (hd : table.Distinct) (keys : List String) :
    (without table keys).Distinct :=
  List.Nodup.sublist (List.Sublist.map _ List.filter_sublist) hd

/-- The last entry goes without a trace. -/
theorem swapErase_append (front : Table α) (name : String) (value : α) :
    swapErase (front ++ [(name, value)]) name = front := by
  simp [swapErase]

/-- Entries under new, distinct names go last in their order. -/
theorem putNewAll_eq_append : ∀ (entries table : Table α), (names table ++ names entries).Nodup →
    entries.foldl (fun t e => putNew t e.1 e.2) table = table ++ entries
  | [], table, _ => (List.append_nil table).symm
  | (key, value) :: entries, table, h => by
    have hk : key ∉ names table := fun hm =>
      (List.nodup_append.1 h).2.2 key hm key List.mem_cons_self rfl
    have hnew : putNew table key value = table ++ [(key, value)] := by simp [putNew, has_eq_false hk]
    rw [List.foldl_cons, hnew, putNewAll_eq_append entries _ (by simpa using h), List.append_assoc]
    rfl

/-- What is left after a removal was there before. -/
theorem mem_of_mem_swapErase {table : Table α} {name : String} {e : String × α} (h : e ∈ swapErase table name) :
    e ∈ table := by
  unfold swapErase at h
  split at h
  · exact h
  · next last hlast =>
    split at h
    · exact List.dropLast_subset table h
    · split at h
      · obtain ⟨x, hx, rfl⟩ := List.mem_map.1 h
        split
        · exact List.mem_of_getLast? hlast
        · exact List.dropLast_subset table hx
      · exact h

/-- A removal keeps names distinct: the last entry moves to the place of the removed one. -/
theorem distinct_swapErase {table : Table α} (hd : table.Distinct) (name : String) :
    (swapErase table name).Distinct := by
  unfold swapErase
  split
  · exact hd
  · next last hlast =>
    have hsplit : table.dropLast ++ [last] = table := List.dropLast_append_getLast? last hlast
    have happart : (names table.dropLast).Nodup ∧ last.1 ∉ names table.dropLast := by
      have hnames : (names (table.dropLast ++ [last])).Nodup := hsplit.symm ▸ hd
      rw [names_append, List.nodup_append] at hnames
      exact ⟨hnames.1, fun hm => hnames.2.2 _ hm _ (List.mem_singleton_self _) rfl⟩
    obtain ⟨hfront, hlast⟩ := happart
    split
    · exact hfront
    · split
      · have hmap : names (table.dropLast.map fun e => if e.1 = name then last else e) =
            (names table.dropLast).map fun key => if key = name then last.1 else key := by
          simp only [names, List.map_map]
          exact List.map_congr_left fun e _ => apply_ite Prod.fst _ _ _
        unfold Distinct
        rw [hmap]
        refine List.Nodup.map_on (fun a ha b hb hab => ?_) hfront
        split at hab <;> split at hab
        · next h₁ h₂ => exact h₁.trans h₂.symm
        · exact absurd (hab ▸ hb) hlast
        · exact absurd (hab ▸ ha) hlast
        · exact hab
      · exact hd

theorem distinct_putNew {table : Table α} (hd : table.Distinct) (name : String) (value : α) :
    (putNew table name value).Distinct := by
  unfold putNew
  split
  · exact hd
  · next h =>
    have hnew : name ∉ names table := mt (has_iff_mem table name).2 h
    have hput : put table name value = table ++ [(name, value)] := by simpa [put] using put_append [] value hnew
    exact hput ▸ distinct_put hd name value

/-- Entries under new names keep names distinct. -/
theorem distinct_putNewAll : ∀ (entries : List (String × α)) {table : Table α}, table.Distinct →
    (entries.foldl (fun t e => putNew t e.1 e.2) table).Distinct
  | [], _, hd => hd
  | e :: entries, _, hd => distinct_putNewAll entries (distinct_putNew hd e.1 e.2)

/-- Entries under new names are all that is added. -/
theorem mem_of_mem_putNewAll : ∀ (entries : List (String × α)) {table : Table α} {x : String × α},
    x ∈ entries.foldl (fun t e => putNew t e.1 e.2) table → x ∈ table ∨ x ∈ entries
  | [], _, _, h => .inl h
  | e :: entries, table, x, h => by
    rw [List.foldl_cons] at h
    rcases mem_of_mem_putNewAll entries h with h | h
    · unfold putNew at h
      split at h
      · exact .inl h
      · exact (List.mem_append.1 h).imp_right fun h => List.mem_cons.2 (.inl (List.mem_singleton.1 h))
    · exact .inr (List.mem_cons_of_mem _ h)

end Table
end Rulebook
