import Rulebook.Proofs.Table
import Rulebook.Toml.Document

/-!
# Tables of a document hold each key once

Nothing in a TOML document is defined twice, so each table of what is read holds its keys once, at every depth
(`Toml.Keyed`, and `Toml.KeyedTable` of the entries of one table). Writing refuses what it would define again.

* `Toml.keyed_assign`, `Toml.keyed_openSection`, `Toml.keyed_openRow`: writing keeps the keys of tables distinct.
* `Toml.keyed_readValue`: a value that is read is keyed.
* `Toml.keyed_parse`: the table of a document is keyed.
-/

namespace Rulebook
namespace Toml

/-- A value that is neither a table nor an array. -/
def IsScalar (value : Toml) : Prop := value.entries? = none ∧ value.items? = none

/-- Every table inside the value holds each key once. -/
inductive Keyed : Toml → Prop
  | scalar {value : Toml} : value.IsScalar → Keyed value
  | arr {items : List Toml} : (∀ item ∈ items, Keyed item) → Keyed (arr items)
  | table {origin : TableOrigin} {entries : List (String × Toml)} :
      Table.Distinct entries → (∀ e ∈ entries, Keyed e.2) → Keyed (table origin entries)
  | rows {tables : List (List (String × Toml))} :
      (∀ t ∈ tables, Table.Distinct t) → (∀ t ∈ tables, ∀ e ∈ t, Keyed e.2) → Keyed (rows tables)

/-- The entries of a table have different keys, and so have the tables inside them. -/
structure KeyedTable (entries : Table Toml) : Prop where
  distinct : entries.Distinct
  entry : ∀ e ∈ entries, e.2.Keyed

/-! ## Parts of a value -/

theorem keyed_table {origin : TableOrigin} {entries : Table Toml} :
    (table origin entries).Keyed ↔ KeyedTable entries := by
  constructor
  · rintro (⟨hentries, -⟩ | - | ⟨hdistinct, hentry⟩ | -)
    · cases hentries
    · exact ⟨hdistinct, hentry⟩
  · rintro ⟨hdistinct, hentry⟩
    exact .table hdistinct hentry

theorem keyed_rows {tables : List (Table Toml)} : (rows tables).Keyed ↔ ∀ t ∈ tables, KeyedTable t := by
  constructor
  · rintro (⟨-, hitems⟩ | - | - | ⟨hdistinct, hentry⟩)
    · cases hitems
    · exact fun t ht => ⟨hdistinct t ht, hentry t ht⟩
  · exact fun h => .rows (fun t ht => (h t ht).distinct) fun t ht => (h t ht).entry

/-- One more table behind some. -/
theorem keyed_rows_concat {tables : List (Table Toml)} {t : Table Toml} (htables : ∀ u ∈ tables, KeyedTable u)
    (ht : KeyedTable t) : (rows (tables ++ [t])).Keyed := by
  refine keyed_rows.2 fun u hu => ?_
  rcases List.mem_append.1 hu with hu | hu
  · exact htables u hu
  · rwa [List.mem_singleton.1 hu]

namespace KeyedTable

variable {entries : Table Toml} {key : String} {value : Toml}

theorem nil : KeyedTable [] := ⟨List.nodup_nil, fun _ h => absurd h List.not_mem_nil⟩

/-- What a key reads as is keyed. -/
theorem get (h : KeyedTable entries) (hkey : Table.get? entries key = some value) : value.Keyed :=
  h.entry _ (Table.mem_of_get? hkey)

/-- A write in place keeps a table keyed. -/
theorem put (h : KeyedTable entries) (hvalue : value.Keyed) : KeyedTable (Table.put entries key value) := by
  refine ⟨Table.distinct_put h.distinct key value, fun e he => ?_⟩
  rcases Table.mem_put he with rfl | he
  · exact hvalue
  · exact h.entry e he

/-- A new key goes last. -/
theorem append (h : KeyedTable entries) (hnew : Table.get? entries key = none) (hvalue : value.Keyed) :
    KeyedTable (entries ++ [(key, value)]) := by
  have hput : Table.put entries key value = entries ++ [(key, value)] := by
    simpa [Table.put] using Table.put_append [] value (Table.get?_eq_none_iff.1 hnew)
  exact hput ▸ h.put hvalue

theorem without (h : KeyedTable entries) (keys : List String) : KeyedTable (Table.without entries keys) :=
  ⟨Table.distinct_without h.distinct keys, fun e he => h.entry e (List.mem_filter.1 he).1⟩

end KeyedTable

/-! ## Writing -/

/-- A change that gives a keyed table for a keyed table. -/
def KeepsKeyed (change : Table Toml → Option (Table Toml)) : Prop :=
  ∀ entries result, KeyedTable entries → change entries = some result → KeyedTable result

section Inside

variable {change : Table Toml → Option (Table Toml)} {entries result : Table Toml} {key : String}

/-- A change of the last of some tables. -/
theorem keyed_mapLast {tables : List (Table Toml)} {value : Toml} (hchange : KeepsKeyed change)
    (htables : ∀ t ∈ tables, KeyedTable t) (h : mapLast tables change = some value) : value.Keyed := by
  unfold mapLast at h
  split at h
  · cases h
  · next last hlast =>
    obtain ⟨t, ht, rfl⟩ := Option.map_eq_some_iff.1 h
    have hlast := htables last (List.mem_of_getLast? hlast)
    exact keyed_rows_concat (fun u hu => htables u (List.dropLast_subset tables hu)) (hchange _ _ hlast ht)

/-- A new table under a key, made from an empty one. -/
theorem KeyedTable.make (hentries : KeyedTable entries) (hnew : Table.get? entries key = none)
    (hchange : KeepsKeyed change) {origin : TableOrigin}
    (h : ((change []).map fun t => entries ++ [(key, table origin t)]) = some result) : KeyedTable result := by
  obtain ⟨t, ht, rfl⟩ := Option.map_eq_some_iff.1 h
  exact hentries.append hnew (keyed_table.2 (hchange _ _ .nil ht))

/-- A change of the table under a key. -/
theorem KeyedTable.alter (hentries : KeyedTable entries) {origin : TableOrigin} {t : Table Toml}
    (hkey : Table.get? entries key = some (table origin t)) (hchange : KeepsKeyed change)
    (h : ((change t).map fun u => Table.put entries key (table origin u)) = some result) : KeyedTable result := by
  obtain ⟨u, hu, rfl⟩ := Option.map_eq_some_iff.1 h
  exact hentries.put (keyed_table.2 (hchange _ _ (keyed_table.1 (hentries.get hkey)) hu))

/-- A change of the last of the tables under a key. -/
theorem KeyedTable.alterLast (hentries : KeyedTable entries) {tables : List (Table Toml)}
    (hkey : Table.get? entries key = some (rows tables)) (hchange : KeepsKeyed change)
    (h : (mapLast tables change).map (Table.put entries key) = some result) : KeyedTable result := by
  obtain ⟨u, hu, rfl⟩ := Option.map_eq_some_iff.1 h
  exact hentries.put (keyed_mapLast hchange (keyed_rows.1 (hentries.get hkey)) hu)

end Inside

/-- **An assignment keeps tables keyed**, since it writes no key a second time. -/
theorem keyed_assign {value : Toml} (hvalue : value.Keyed) : ∀ (path : List String) (free : Bool),
    KeepsKeyed fun entries => assign free entries value path
  | [], _, _, _, _, h => by cases h
  | [key], free, entries, result, hentries, h => by
    simp only [assign] at h
    split at h
    · next hfree =>
      cases h
      have hnew : Table.get? entries key = none := by simpa [Table.has] using (Bool.and_eq_true_iff.1 hfree).2
      exact hentries.append hnew hvalue
    · cases h
  | key :: next :: rest, free, entries, result, hentries, h => by
    have hinner := keyed_assign hvalue (next :: rest)
    simp only [assign] at h
    split at h
    · next hnew => exact hentries.make hnew (hinner true) h
    · next hkey => exact hentries.alter hkey (hinner true) h
    · next hkey => exact hentries.alter hkey (hinner false) h
    · next hkey => exact hentries.alterLast hkey (hinner false) h
    · cases h

/-- Going to the table of a header keeps tables keyed, if what is written there does. -/
theorem keyed_within {write : Table Toml → String → Option (Table Toml)}
    (hwrite : ∀ key, KeepsKeyed fun entries => write entries key) : ∀ path : List String,
    KeepsKeyed fun entries => within write entries path
  | [], _, _, _, h => by cases h
  | [key], _, _, hentries, h => hwrite key _ _ hentries h
  | key :: next :: rest, entries, result, hentries, h => by
    have hinner := keyed_within hwrite (next :: rest)
    simp only [within] at h
    split at h
    · next hnew => exact hentries.make hnew hinner h
    · cases h
    · next hkey => exact hentries.alter hkey hinner h
    · next hkey => exact hentries.alterLast hkey hinner h
    · cases h

section Header

variable {fill : Table Toml → Option (Table Toml)} (hfill : KeepsKeyed fill)

include hfill

/-- **The table of a header** is written where none was, or takes the place of an implied one. -/
theorem keyed_openSection (path : List String) : KeepsKeyed fun entries => openSection fill entries path := by
  refine keyed_within (fun key entries result hentries h => ?_) path
  dsimp only at h
  split at h
  · next hnew => exact hentries.make hnew hfill h
  · next hkey =>
    -- The implied table is taken out and written again as the last, so its key is new there.
    obtain ⟨u, hu, rfl⟩ := Option.map_eq_some_iff.1 h
    have hnew : Table.get? (Table.without entries [key]) key = none :=
      Table.get?_eq_none_iff.2 fun hm => (Table.mem_names_without.1 hm).2 List.mem_cons_self
    exact (hentries.without [key]).append hnew (keyed_table.2 (hfill _ _ (keyed_table.1 (hentries.get hkey)) hu))
  · cases h

/-- **The next table of a repeated header** goes behind those before it. -/
theorem keyed_openRow (path : List String) : KeepsKeyed fun entries => openRow fill entries path := by
  refine keyed_within (fun key entries result hentries h => ?_) path
  dsimp only at h
  split at h
  · next hnew =>
    obtain ⟨t, ht, rfl⟩ := Option.map_eq_some_iff.1 h
    have hrow := hfill _ _ .nil ht
    exact hentries.append hnew (keyed_rows.2 (List.forall_mem_singleton.2 hrow))
  · next ts hkey =>
    obtain ⟨t, ht, rfl⟩ := Option.map_eq_some_iff.1 h
    exact hentries.put (keyed_rows_concat (keyed_rows.1 (hentries.get hkey)) (hfill _ _ .nil ht))
  · cases h

end Header

/-! ## Numbers, dates and times -/

/-- The integer of a word is a scalar. -/
theorem isScalar_intOf? {n : Int} {value : Toml} (h : intOf? n = some value) : value.IsScalar := by
  unfold intOf? at h
  split at h
  · cases h
    exact ⟨rfl, rfl⟩
  · cases h

theorem isScalar_floatValue? {negative : Bool} {digits : List Nat} {power : Int} {value : Toml}
    (h : floatValue? negative digits power = some value) : value.IsScalar := by
  unfold floatValue? at h
  split at h
  · cases h
    exact ⟨rfl, rfl⟩
  · split at h
    · cases h
      exact ⟨rfl, rfl⟩
    · cases h

theorem isScalar_readBased {base : Nat} {text rest : List Char} {value : Toml}
    (h : readBased base text = some (value, rest)) : value.IsScalar := by
  obtain ⟨⟨digits, _⟩, -, h⟩ := Option.bind_eq_some_iff.1 h
  obtain ⟨n, hn, h⟩ := Option.bind_eq_some_iff.1 h
  cases h
  exact isScalar_intOf? hn

theorem isScalar_readDecimal {negative : Bool} {text rest : List Char} {value : Toml}
    (h : readDecimal negative text = some (value, rest)) : value.IsScalar := by
  obtain ⟨⟨whole, _⟩, -, h⟩ := Option.bind_eq_some_iff.1 h
  obtain ⟨⟨places, _⟩, -, h⟩ := Option.bind_eq_some_iff.1 h
  obtain ⟨⟨power, _⟩, -, h⟩ := Option.bind_eq_some_iff.1 h
  dsimp only at h
  split at h
  · obtain ⟨n, hn, h⟩ := Option.bind_eq_some_iff.1 h
    cases h
    exact isScalar_intOf? hn
  · obtain ⟨n, hn, h⟩ := Option.bind_eq_some_iff.1 h
    cases h
    exact isScalar_floatValue? hn

theorem isScalar_readSigned {negative : Bool} {text rest : List Char} {value : Toml}
    (h : readSigned negative text = some (value, rest)) : value.IsScalar := by
  unfold readSigned at h
  split at h
  · cases h
    exact ⟨rfl, rfl⟩
  · cases h
    exact ⟨rfl, rfl⟩
  · exact isScalar_readDecimal h

/-- **A number is a scalar**, in every base and of every name. -/
theorem isScalar_readNumber {text rest : List Char} {value : Toml} (h : readNumber text = some (value, rest)) :
    value.IsScalar := by
  unfold readNumber at h
  split at h
  · exact isScalar_readBased h
  · exact isScalar_readBased h
  · exact isScalar_readBased h
  · exact isScalar_readSigned h
  · exact isScalar_readSigned h
  · exact isScalar_readSigned h

theorem isScalar_readMoment {text rest : List Char} {value : Toml} (h : readMoment text = some (value, rest)) :
    value.IsScalar := by
  obtain ⟨_, -, h⟩ := Option.map_eq_some_iff.1 h
  cases h
  exact ⟨rfl, rfl⟩

/-! ## Values -/

mutual
/-- **A value that is read is keyed.** -/
theorem keyed_readValue : ∀ (fuel : Nat) {room : Nat} {text rest : List Char} {value : Toml},
    readValue fuel room text = some (value, rest) → value.Keyed
  | 0, _, _, _, _, h => by cases h
  | fuel + 1, room, text, rest, value, h => by
    -- The first character tells what is read: a string, an array, an inline table, or a word or number.
    rw [readValue.eq_def] at h
    dsimp only at h
    split at h
    · cases h
    · next c cs =>
      split at h
      · obtain ⟨_, -, h⟩ := Option.map_eq_some_iff.1 h
        cases h
        exact .scalar ⟨rfl, rfl⟩
      · split at h
        · split at h
          · cases h
          · obtain ⟨⟨items, _⟩, hitems, h⟩ := Option.map_eq_some_iff.1 h
            cases h
            exact .arr (keyed_readItems fuel hitems)
        · split at h
          · split at h
            · cases h
            · obtain ⟨⟨entries, _⟩, hentries, h⟩ := Option.map_eq_some_iff.1 h
              cases h
              exact keyed_table.2 (keyed_readPairs fuel .nil hentries)
          · split at h
            · cases h
              exact .scalar ⟨rfl, rfl⟩
            · cases h
              exact .scalar ⟨rfl, rfl⟩
            · rcases Option.or_eq_some_iff.1 h with h | ⟨-, h⟩
              · exact .scalar (isScalar_readMoment h)
              · exact .scalar (isScalar_readNumber h)

theorem keyed_readItems : ∀ (fuel : Nat) {room : Nat} {first : Bool} {text rest : List Char} {items : List Toml},
    readItems fuel room first text = some (items, rest) → ∀ item ∈ items, item.Keyed
  | 0, _, _, _, _, _, h => by cases h
  | fuel + 1, room, first, text, rest, items, h => by
    -- A value is read in two places: behind the opening bracket and behind a comma.
    have hcons {item : Toml} {start behind : List Char} (hitem : readValue fuel room start = some (item, behind))
        (h : ((readItems fuel room false behind).map fun r => (item :: r.1, r.2)) = some (items, rest)) :
        ∀ item ∈ items, item.Keyed := by
      obtain ⟨⟨others, _⟩, hothers, h⟩ := Option.map_eq_some_iff.1 h
      cases h
      exact List.forall_mem_cons.2 ⟨keyed_readValue fuel hitem, keyed_readItems fuel hothers⟩
    rw [readItems] at h
    dsimp only at h
    split at h
    · cases h
      exact fun _ hm => absurd hm List.not_mem_nil
    · split at h
      · cases h
      · split at h
        · cases h
          exact fun _ hm => absurd hm List.not_mem_nil
        · split at h
          · cases h
          · next hitem => exact hcons hitem h
    · split at h
      · split at h
        · cases h
        · next hitem => exact hcons hitem h
      · cases h

theorem keyed_readPairs : ∀ (fuel : Nat) {room : Nat} {first : Bool} {entries result : Table Toml}
    {text rest : List Char}, KeyedTable entries → readPairs fuel room first entries text = some (result, rest) →
    KeyedTable result
  | 0, _, _, _, _, _, _, _, h => by cases h
  | fuel + 1, room, first, entries, result, text, rest, hentries, h => by
    -- An assignment is read in two places: behind the opening brace and behind a comma.
    have hassigned {path : List String} {value : Toml} {start behind : List Char} {written : Table Toml}
        (hvalue : readValue fuel room start = some (value, behind))
        (hassign : assign true entries value path = some written)
        (h : readPairs fuel room false written behind = some (result, rest)) : KeyedTable result :=
      keyed_readPairs fuel (keyed_assign (keyed_readValue fuel hvalue) path true _ _ hentries hassign) h
    rw [readPairs] at h
    dsimp only at h
    split at h
    · cases h
      exact hentries
    · split at h
      · cases h
      · split at h
        · cases h
        · split at h
          · split at h
            · cases h
            · next hvalue =>
              split at h
              · cases h
              · next hassign => exact hassigned hvalue hassign h
          · cases h
    · split at h
      · split at h
        · split at h
          · cases h
          · next hvalue =>
            split at h
            · cases h
            · next hassign => exact hassigned hvalue hassign h
        · cases h
      · cases h
end

/-! ## Documents -/

/-- The value of a statement that assigns one is keyed. -/
def Statement.Keyed (s : Statement) : Prop := ∀ path value, s = .assignment path value → value.Keyed

theorem keyed_readStatement {text rest : List Char} {s : Statement} (h : readStatement text = some (s, rest)) :
    s.Keyed := by
  unfold readStatement at h
  rintro path value rfl
  split at h
  · split at h
    · obtain ⟨_, -, h⟩ := Option.map_eq_some_iff.1 h
      cases h
    · cases h
  · split at h
    · obtain ⟨_, -, h⟩ := Option.map_eq_some_iff.1 h
      cases h
    · cases h
  · split at h
    · split at h
      · next hvalue =>
        obtain ⟨_, -, h⟩ := Option.map_eq_some_iff.1 h
        cases h
        exact keyed_readValue _ hvalue
      · cases h
    · cases h

theorem keyed_readStatements : ∀ (fuel : Nat) {text : List Char} {statements : List Statement},
    readStatements fuel text = some statements → ∀ s ∈ statements, s.Keyed
  | 0, _, _, h => by cases h
  | fuel + 1, text, statements, h => by
    unfold readStatements at h
    split at h
    · cases h
      exact fun _ hm => absurd hm List.not_mem_nil
    · split at h
      · cases h
      · next s rest hs =>
        obtain ⟨others, hothers, rfl⟩ := Option.map_eq_some_iff.1 h
        exact List.forall_mem_cons.2 ⟨keyed_readStatement hs, keyed_readStatements fuel hothers⟩

/-- The assignments in front of the first header and the statements behind them are among the statements. -/
theorem keyed_leading : ∀ {statements : List Statement}, (∀ s ∈ statements, s.Keyed) →
    (∀ p ∈ (leading statements).1, p.2.Keyed) ∧ ∀ s ∈ (leading statements).2, s.Keyed
  | [], h => ⟨fun _ hm => absurd hm List.not_mem_nil, h⟩
  | .header _ :: _, h => ⟨fun _ hm => absurd hm List.not_mem_nil, h⟩
  | .repeatedHeader _ :: _, h => ⟨fun _ hm => absurd hm List.not_mem_nil, h⟩
  | .assignment path value :: rest, h => by
    obtain ⟨hs, hrest⟩ := List.forall_mem_cons.1 h
    obtain ⟨hpairs, hbehind⟩ := keyed_leading hrest
    exact ⟨List.forall_mem_cons.2 ⟨hs path value rfl, hpairs⟩, hbehind⟩

theorem keyed_assignAll : ∀ {pairs : List (List String × Toml)}, (∀ p ∈ pairs, p.2.Keyed) →
    KeepsKeyed (assignAll pairs)
  | [], _, _, _, hentries, h => by
    cases h
    exact hentries
  | (path, value) :: pairs, hpairs, entries, result, hentries, h => by
    obtain ⟨hvalue, hrest⟩ := List.forall_mem_cons.1 hpairs
    obtain ⟨next, hnext, h⟩ := Option.bind_eq_some_iff.1 h
    exact keyed_assignAll hrest _ _ (keyed_assign hvalue path true _ _ hentries hnext) h

/-- The tables of headers are written one after another. -/
theorem keyed_writeSections : ∀ {statements : List Statement}, (∀ s ∈ statements, s.Keyed) →
    KeepsKeyed fun root => writeSections root statements
  | [], _, _, _, hroot, h => by
    cases h
    exact hroot
  | .assignment .. :: rest, hs, root, result, hroot, h =>
    keyed_writeSections (List.forall_mem_cons.1 hs).2 root result hroot h
  | .header path :: rest, hs, root, result, hroot, h => by
    obtain ⟨-, hrest⟩ := List.forall_mem_cons.1 hs
    obtain ⟨next, hnext, h⟩ := Option.bind_eq_some_iff.1 h
    have hfill := keyed_assignAll (keyed_leading hrest).1
    exact keyed_writeSections hrest _ _ (keyed_openSection hfill path _ _ hroot hnext) h
  | .repeatedHeader path :: rest, hs, root, result, hroot, h => by
    obtain ⟨-, hrest⟩ := List.forall_mem_cons.1 hs
    obtain ⟨next, hnext, h⟩ := Option.bind_eq_some_iff.1 h
    have hfill := keyed_assignAll (keyed_leading hrest).1
    exact keyed_writeSections hrest _ _ (keyed_openRow hfill path _ _ hroot hnext) h

/-- **The table of a document is keyed**: it holds each key once, and so does every table inside it. -/
theorem keyed_parse {text : String} {document : Table Toml} (h : parse text = some document) :
    KeyedTable document := by
  obtain ⟨statements, hstatements, h⟩ := Option.bind_eq_some_iff.1 h
  obtain ⟨root, hroot, h⟩ := Option.bind_eq_some_iff.1 h
  obtain ⟨hpairs, hbehind⟩ := keyed_leading (keyed_readStatements _ hstatements)
  exact keyed_writeSections hbehind _ _ (keyed_assignAll hpairs _ _ .nil hroot) h

end Toml
end Rulebook
