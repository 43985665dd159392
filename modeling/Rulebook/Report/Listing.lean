import Rulebook.Grammar
import Rulebook.Report.Record

/-!
# Listings of directives

* `Listing.human` groups neighbours of one category under its name.
* `Listing.jsonl` has a record for each directive.
-/

namespace Rulebook
namespace Listing

/-- The text filled up with blanks to a width. -/
def padded (width : Nat) (text : String) : String :=
  text ++ String.ofList (List.replicate (width - text.length) ' ')

/-- The line of a directive. -/
def row (d : Directive) : String :=
  "  " ++ padded 14 d.name ++ " " ++ d.category.shape ++ (if d.reversible then "" else " [write-only]") ++ "\n"

/-- The lines of directives, with a heading wherever the category is not the given one. -/
def rows (current : Option String) : List Directive → String
  | [] => ""
  | d :: rest =>
    (if current = some d.category.name then "" else "\n" ++ d.category.name ++ ":\n") ++ row d
      ++ rows (some d.category.name) rest

/-- The listing for people. -/
def human (directives : List Directive) : String :=
  "Directives (" ++ toString directives.length ++ "):\n" ++ rows none directives

/-- The record of a directive. -/
def record (d : Directive) : Record :=
  [("name", .text d.name), ("category", .text d.category.name), ("shape", .text d.category.shape),
    ("reversible", .flag d.reversible)]

/-- The listing for programs. -/
def jsonl (directives : List Directive) : String := Record.lines (directives.map record)

end Listing
end Rulebook
