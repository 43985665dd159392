import Rulebook.Json.Text

/-!
# Records of a line

A report for programs has one flat JSON object a line. A cell of a record is a text, a count of any size, or a flag.
-/

namespace Rulebook

/-- A cell of a record. -/
inductive Cell where
  | text (value : String)
  | count (value : Nat)
  | flag (value : Bool)
  deriving DecidableEq

namespace Cell

/-- The written form of a cell. -/
def chars : Cell → List Char
  | text value => Json.quoted value
  | count value => Nat.toDigits 10 value
  | flag true => ['t', 'r', 'u', 'e']
  | flag false => ['f', 'a', 'l', 's', 'e']

end Cell

/-- The named cells of a line, in order. -/
abbrev Record := List (String × Cell)

namespace Record

/-- The members of a record as they are written. -/
def members : Record → List Char
  | [] => []
  | [(name, cell)] => Json.quoted name ++ ':' :: cell.chars
  | (name, cell) :: rest => Json.quoted name ++ ':' :: (cell.chars ++ ',' :: members rest)

/-- The line of a record, with its end. -/
def line (record : Record) : List Char := '\x7b' :: (members record ++ ['\x7d', '\n'])

/-- The lines of records. -/
def lines (records : List Record) : String := String.ofList (records.flatMap line)

end Record

end Rulebook
