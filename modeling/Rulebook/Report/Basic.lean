import Rulebook.Batch
import Rulebook.Report.Record

/-!
# Reports on checked files

Both reports list the files in the order of their paths.

* `Report.jsonl` has a record for each file and a last one for the whole.
* `Report.human` has a marked line for each file, with the failure below it, and a last line for the whole. Marks and
  the verdict are coloured where that is asked for.
-/

namespace Rulebook
namespace Report

/-- The record of a file. -/
def fileRecord (outcome : Outcome) : Record :=
  match outcome.result with
  | .ok recovery =>
    [("type", .text "file"), ("file", .text outcome.path), ("status", .text "ok"),
      ("directives", .count recovery.directives), ("recovered", .count recovery.recovered)]
  | .error e =>
    [("type", .text "file"), ("file", .text outcome.path), ("status", .text "error"), ("error", .text e.kind),
      ("message", .text e.message)]

/-- The record of the whole. -/
def statusRecord (outcomes : List Outcome) : Record :=
  let failed := Batch.failures outcomes
  [("type", .text "status"), ("passed", .flag (failed == 0)), ("files_checked", .count outcomes.length),
    ("files_failed", .count failed)]

/-- The report for programs. -/
def jsonl (outcomes : List Outcome) : String :=
  Record.lines ((Batch.sorted outcomes).map fileRecord ++ [statusRecord outcomes])

/-! ## For people -/

/-- The colours of a report. -/
inductive Color where
  | green
  | red
  deriving DecidableEq

/-- An escape sequence of a terminal. -/
def escape (code : String) : String := "\x1b[" ++ code ++ "m"

/-- The code of a colour. -/
def Color.code : Color → String
  | green => "32"
  | red => "31"

/-- A text in a colour, or as it is where there are no colours. -/
def paint (colored bold : Bool) (color : Color) (text : String) : String :=
  if colored then
    escape "0" ++ (if bold then escape "1" else "") ++ escape color.code ++ text ++ escape "0"
  else text

/-- The lines of a file. -/
def fileText (colored : Bool) (outcome : Outcome) : String :=
  match outcome.result with
  | .ok recovery =>
    paint colored false .green "✓" ++ " " ++ outcome.path ++ " (" ++ toString recovery.directives ++ " directives, "
      ++ toString recovery.recovered ++ " recovered)\n"
  | .error e => paint colored false .red "✗" ++ " " ++ outcome.path ++ "\n    " ++ e.message ++ "\n"

/-- The line of the whole. -/
def summary (colored : Bool) (outcomes : List Outcome) : String :=
  let failed := Batch.failures outcomes
  (if failed = 0 then paint colored true .green "Check PASSED" else paint colored true .red "Check FAILED")
    ++ ": " ++ toString outcomes.length ++ " file(s) checked, " ++ toString failed ++ " failed\n"

/-- The report for people. -/
def human (colored : Bool) (outcomes : List Outcome) : String :=
  String.join ((Batch.sorted outcomes).map (fileText colored)) ++ "\n" ++ summary colored outcomes

end Report
end Rulebook
