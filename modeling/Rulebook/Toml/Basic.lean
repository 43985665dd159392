import Rulebook.Decimal.Binary64
import Rulebook.Table

/-!
# TOML values

A TOML value, with tables that remember how they were written, because that decides what may be added to them:

* a table with a header of its own, and a table that only the headers of others imply, may get sub-tables;
* a table that dotted keys made may get more dotted keys;
* an inline table is complete.

`Toml.assign`, `Toml.openSection` and `Toml.openRow` write an assignment, the table of a header `[a.b]` and the next
table of a header `[[a.b]]`; they refuse what would define something twice.
-/

namespace Rulebook

/-- How a table came to be. -/
inductive TableOrigin where
  | header
  | implied
  | dotted
  | inlined
  deriving DecidableEq

/-- A TOML value. Infinities and numbers that are none have no digits; a date or time is kept as it is written. -/
inductive Toml where
  | str (value : String)
  | int (value : Int)
  | float (value : Binary64)
  | special (name : String)
  | bool (value : Bool)
  | moment (written : String)
  | arr (items : List Toml)
  | table (origin : TableOrigin) (entries : List (String × Toml))
  | rows (tables : List (List (String × Toml)))
  deriving Inhabited

namespace Toml

/-- The entries of a table. -/
def entries? : Toml → Option (Table Toml)
  | table _ entries => some entries
  | _ => none

/-- The items of an array. -/
def items? : Toml → Option (List Toml)
  | arr items => some items
  | rows tables => some (tables.map (table .header))
  | _ => none

/-- The text of a string. -/
def text? : Toml → Option String
  | str value => some value
  | _ => none

/-- Replaces the last of some tables. -/
def mapLast (tables : List (List (String × Toml)))
    (f : List (String × Toml) → Option (List (String × Toml))) : Option Toml :=
  match tables.getLast? with
  | none => none
  | some last => (f last).map fun t => rows (tables.dropLast ++ [t])

/-- Writes a value under a dotted key. A key is written once; `free` says whether keys may be written directly into
the table. -/
def assign (free : Bool) (entries : Table Toml) (value : Toml) : List String → Option (Table Toml)
  | [] => none
  | [key] => if free && !Table.has entries key then some (entries ++ [(key, value)]) else none
  | key :: rest =>
    match Table.get? entries key with
    | none => (assign true [] value rest).map fun t => entries ++ [(key, table .dotted t)]
    | some (table .dotted t) => (assign true t value rest).map fun t => Table.put entries key (table .dotted t)
    | some (table .implied t) => (assign false t value rest).map fun t => Table.put entries key (table .implied t)
    | some (rows ts) => (mapLast ts fun t => assign false t value rest).map (Table.put entries key)
    | some _ => none

/-- Goes to the table that holds the last key of a header, making tables on the way, and writes there. -/
def within (write : Table Toml → String → Option (Table Toml)) (entries : Table Toml) :
    List String → Option (Table Toml)
  | [] => none
  | [key] => write entries key
  | key :: rest =>
    match Table.get? entries key with
    | none => (within write [] rest).map fun t => entries ++ [(key, table .implied t)]
    | some (table .inlined _) => none
    | some (table origin t) => (within write t rest).map fun t => Table.put entries key (table origin t)
    | some (rows ts) => (mapLast ts fun t => within write t rest).map (Table.put entries key)
    | some _ => none

/-- Writes the table of a header, which has no header yet, with what fills it. It goes behind its neighbours. -/
def openSection (fill : Table Toml → Option (Table Toml)) (entries : Table Toml) (path : List String) :
    Option (Table Toml) :=
  within (fun entries key =>
    match Table.get? entries key with
    | none => (fill []).map fun t => entries ++ [(key, table .header t)]
    | some (table .implied t) => (fill t).map fun t => Table.without entries [key] ++ [(key, table .header t)]
    | some _ => none) entries path

/-- Writes the next table of a repeated header, with what fills it. -/
def openRow (fill : Table Toml → Option (Table Toml)) (entries : Table Toml) (path : List String) :
    Option (Table Toml) :=
  within (fun entries key =>
    match Table.get? entries key with
    | none => (fill []).map fun t => entries ++ [(key, rows [t])]
    | some (rows ts) => (fill []).map fun t => Table.put entries key (rows (ts ++ [t]))
    | some _ => none) entries path

end Toml

end Rulebook
