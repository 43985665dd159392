import Rulebook.Toml.Numeric
import Rulebook.Toml.Quoted

/-!
# TOML documents

A document is a sequence of statements, one a line: assignments, headers `[a.b]` and repeated headers `[[a.b]]`. An
assignment belongs to the table of the last header before it, or to the document itself.

* `Toml.readStatements` reads the statements of a document.
* `Toml.parse` gives the table of a document, unless it is malformed or defines something twice.
-/

namespace Rulebook
namespace Toml

/-- How many parts a dotted key may have, and how deep arrays and inline tables may be nested. -/
def nesting : Nat := 79

/-- What follows a comment, if there is one. -/
def skipComment : List Char → List Char
  | '#' :: rest => rest.dropWhile isPrintable
  | text => text

/-- What follows blanks, line breaks and comments; `fuel` bounds the steps. -/
def skipFiller : Nat → List Char → List Char
  | 0, text => text
  | fuel + 1, text =>
    match skipBreaks text with
    | '#' :: rest => skipFiller fuel (rest.dropWhile isPrintable)
    | rest => rest

/-- What follows the end of a line: blanks, a comment, and a line break or the end of the text. -/
def endLine (text : List Char) : Option (List Char) :=
  match skipComment (skipSpaces text) with
  | [] => some []
  | rest => newline? rest

mutual
/-- Reads a value. `room` arrays and inline tables may still be opened; `fuel` bounds the steps. -/
def readValue (fuel room : Nat) (text : List Char) : Option (Toml × List Char) :=
  match fuel with
  | 0 => none
  | fuel + 1 =>
    match text with
    | [] => none
    | c :: rest =>
      if c = '"' ∨ c = '\'' then (readText text).map fun r => (Toml.str (String.ofList r.1), r.2)
      else if c = '[' then
        match room with
        | 0 => none
        | room + 1 => (readItems fuel room true rest).map fun r => (arr r.1, r.2)
      else if c = '\x7b' then
        match room with
        | 0 => none
        | room + 1 => (readPairs fuel room true [] rest).map fun r => (table .inlined r.1, r.2)
      else
        match text with
        | 't' :: 'r' :: 'u' :: 'e' :: rest => some (bool true, rest)
        | 'f' :: 'a' :: 'l' :: 's' :: 'e' :: rest => some (bool false, rest)
        | text => (readMoment text).or (readNumber text)

/-- Reads the items of an array up to its closing bracket; a comma may stand behind the last. -/
def readItems (fuel room : Nat) (first : Bool) (text : List Char) : Option (List Toml × List Char) :=
  match fuel with
  | 0 => none
  | fuel + 1 =>
    let next (text : List Char) : Option (List Toml × List Char) :=
      match readValue fuel room text with
      | none => none
      | some (item, rest) => (readItems fuel room false rest).map fun r => (item :: r.1, r.2)
    match skipFiller (text.length + 1) text with
    | ']' :: rest => some ([], rest)
    | ',' :: rest =>
      if first then none
      else
        match skipFiller (rest.length + 1) rest with
        | ']' :: rest => some ([], rest)
        | rest => next rest
    | rest => if first then next rest else none

/-- Reads the assignments of an inline table up to its closing brace, all on one line. -/
def readPairs (fuel room : Nat) (first : Bool) (entries : Table Toml) (text : List Char) :
    Option (Table Toml × List Char) :=
  match fuel with
  | 0 => none
  | fuel + 1 =>
    let next (text : List Char) : Option (Table Toml × List Char) :=
      match readKey nesting text with
      | some (path, '=' :: rest) =>
        match readValue fuel room (skipSpaces rest) with
        | none => none
        | some (value, rest) =>
          match assign true entries value path with
          | none => none
          | some entries => readPairs fuel room false entries rest
      | _ => none
    match skipSpaces text with
    | '\x7d' :: rest => some (entries, rest)
    | ',' :: rest => if first then none else
        match skipSpaces rest with
        | '\x7d' :: _ => none
        | rest => next rest
    | rest => if first then next rest else none
end

/-- A statement of a document. -/
inductive Statement where
  | assignment (path : List String) (value : Toml)
  | header (path : List String)
  | repeatedHeader (path : List String)

/-- Reads a header or an assignment up to the end of its line. -/
def readStatement (text : List Char) : Option (Statement × List Char) :=
  match text with
  | '[' :: '[' :: rest =>
    match readKey nesting rest with
    | some (path, ']' :: ']' :: rest) => (endLine rest).map fun rest => (.repeatedHeader path, rest)
    | _ => none
  | '[' :: rest =>
    match readKey nesting rest with
    | some (path, ']' :: rest) => (endLine rest).map fun rest => (.header path, rest)
    | _ => none
  | text =>
    match readKey nesting text with
    | some (path, '=' :: rest) =>
      match readValue (2 * rest.length + 1) nesting (skipSpaces rest) with
      | some (value, rest) => (endLine rest).map fun rest => (.assignment path value, rest)
      | none => none
    | _ => none

/-- Reads statements up to the end of the text; `fuel` bounds the steps. -/
def readStatements : Nat → List Char → Option (List Statement)
  | 0, _ => none
  | fuel + 1, text =>
    match skipFiller (text.length + 1) text with
    | [] => some []
    | text =>
      match readStatement text with
      | none => none
      | some (statement, rest) => (readStatements fuel rest).map (statement :: ·)

/-- The assignments in front of the first header, and the statements from it on. -/
def leading : List Statement → List (List String × Toml) × List Statement
  | .assignment path value :: rest => ((path, value) :: (leading rest).1, (leading rest).2)
  | rest => ([], rest)

/-- Writes assignments one after another. -/
def assignAll (pairs : List (List String × Toml)) (entries : Table Toml) : Option (Table Toml) :=
  pairs.foldlM (fun entries p => assign true entries p.2 p.1) entries

/-- Writes the tables of headers one after another. -/
def writeSections (root : Table Toml) : List Statement → Option (Table Toml)
  | [] => some root
  | .assignment .. :: rest => writeSections root rest
  | .header path :: rest => do
    writeSections (← openSection (assignAll (leading rest).1) root path) rest
  | .repeatedHeader path :: rest => do
    writeSections (← openRow (assignAll (leading rest).1) root path) rest

/-- The table of a sequence of statements. -/
def ofStatements (statements : List Statement) : Option (Table Toml) := do
  writeSections (← assignAll (leading statements).1 []) (leading statements).2

/-- The text without a mark of the byte order in front. -/
def withoutMark : List Char → List Char
  | c :: rest => if c.toNat = 0xFEFF then rest else c :: rest
  | [] => []

/-- Reads a document. -/
def parse (text : String) : Option (Table Toml) :=
  let chars := withoutMark text.toList
  (readStatements (chars.length + 1) chars).bind ofStatements

end Toml
end Rulebook
