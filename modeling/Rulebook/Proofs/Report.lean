import Rulebook.Proofs.PathOrder
import Rulebook.Proofs.Rendering
import Rulebook.Report.Basic

/-!
# Reports are complete

The report for programs has one line for each outcome, in the order of paths, and a last one for the whole. Every line
is one JSON object, whatever stands in paths and messages, since what would break a line is escaped; the counts are
those of a program, which fit its words. Both reports are the same for outcomes that are given in another order, as
long as their files are different as paths.

* `Record.read?_body`, `Record.unbroken_body`: the line of a record is read as its object, and no line break is in it.
* `Report.Tells`, `Report.Totals`: the objects that tell of a file and of the whole.
* `Report.report_complete`: the statement above.
-/

namespace Rulebook

/-- The compact form of a value is read as the value. -/
theorem Json.read?_compact {value : Json} (hdistinct : value.Distinct) (hfloats : value.FloatsReread)
    (hdepth : value.depth ≤ Outline.nesting) : Json.read? value.compact = some value := by
  rw [← Outline.depth_ofJson] at hdepth
  have hread : Outline.read (Json.chars value ++ []) = (Outline.ofJson value, some []) :=
    (Outline.reads_chars hfloats).read_append hdepth fun _ c hc => nomatch hc
  rw [List.append_nil] at hread
  simp [Json.read?, Json.compact, hread, Outline.skipBlanks, Outline.json?_ofJson hdistinct]

/-! ## Lines of records -/

/-- The integer of a count. -/
inductive Json.IsCount (count : Nat) : Json → Prop
  | mk (fits : -9223372036854775808 ≤ (count : Int) ∧ (count : Int) < 18446744073709551616) :
      IsCount count (.num (.int count fits))

/-- A count that is a word has an integer. -/
theorem Json.exists_isCount {count : Nat} (h : count < 18446744073709551616) : ∃ value, IsCount count value :=
  ⟨_, .mk (by omega)⟩

/-- The value that a cell is written as. -/
inductive Cell.Means : Cell → Json → Prop
  | text (value : String) : Means (.text value) (.str value)
  | count {count : Nat} {value : Json} (h : Json.IsCount count value) : Means (.count count) value
  | flag (value : Bool) : Means (.flag value) (.bool value)

/-- Every character stands in a line: none is a control character. -/
def Unbroken (text : List Char) : Prop := ∀ c ∈ text, 0x20 ≤ c.toNat

theorem Unbroken.append {a b : List Char} (ha : Unbroken a) (hb : Unbroken b) : Unbroken (a ++ b) := fun c hc =>
  (List.mem_append.1 hc).elim (ha c) (hb c)

theorem Unbroken.cons {c : Char} {text : List Char} (hc : 0x20 ≤ c.toNat) (htext : Unbroken text) :
    Unbroken (c :: text) :=
  List.forall_mem_cons.2 ⟨hc, htext⟩

/-- What stands for a character inside quotes is unbroken. -/
theorem Json.unbroken_escaped (c : Char) : Unbroken (escaped c) := by
  have hdigit : ∀ n < 16, 0x20 ≤ (hexDigit n).toNat := by decide
  have hshort : ∀ e ∈ ['"', '\\', 'b', 't', 'n', 'f', 'r'], Unbroken ['\\', e] := by
    simp [Unbroken]
  unfold escaped
  split_ifs with _ _ hlow
  iterate 7 exact hshort _ (by decide)
  · have hhigh := hdigit (c.toNat / 16) (by omega)
    have hrest := hdigit (c.toNat % 16) (by omega)
    simp [Unbroken, hhigh, hrest]
  · exact .cons (by omega) fun _ h => nomatch h

/-- A quoted string is unbroken. -/
theorem Json.unbroken_quoted (s : String) : Unbroken (quoted s) := by
  have hinside : Unbroken (s.toList.flatMap escaped) := fun d hd => by
    obtain ⟨c, -, hd⟩ := List.mem_flatMap.1 hd
    exact unbroken_escaped c d hd
  exact .cons (by decide) (hinside.append (.cons (by decide) fun _ h => nomatch h))

namespace Cell

variable {cell : Cell} {value : Json}

/-- A cell is written as its value. -/
theorem Means.chars_eq (h : cell.Means value) : cell.chars = Json.chars value := by
  cases h with
  | text => rfl
  | count h =>
    cases h
    simp [chars, Json.chars, Number.text]
  | flag b => cases b <;> rfl

/-- The value of a cell is neither array nor object nor float. -/
theorem Means.flat (h : cell.Means value) : value.depth = 0 ∧ value.Distinct ∧ value.FloatsReread := by
  cases h with
  | text | flag => exact ⟨rfl, trivial, trivial⟩
  | count h =>
    cases h
    exact ⟨rfl, trivial, trivial⟩

theorem unbroken_chars : ∀ cell : Cell, Unbroken cell.chars
  | text value => Json.unbroken_quoted value
  | count n => fun c hc => by
    have hdigit := Nat.isDigit_of_mem_toDigits (by decide) (by decide) hc
    simp only [Char.isDigit, Bool.and_eq_true, decide_eq_true_eq, ge_iff_le, UInt32.le_iff_toNat_le] at hdigit
    exact Nat.le_trans (by decide) hdigit.1
  | flag true | flag false => by
    simp [Unbroken, chars]

end Cell

namespace Record

/-- The object that a record is written as: its members have the names and the values of the cells. -/
def Means (record : Record) (members : List (String × Json)) : Prop :=
  List.Forall₂ (fun cell member => cell.1 = member.1 ∧ cell.2.Means member.2) record members

/-- The line of a record without its end. -/
def body (record : Record) : String := String.ofList ('\x7b' :: (members record ++ ['\x7d']))

theorem members_eq {record : Record} {ms : List (String × Json)} (h : record.Means ms) :
    members record = Json.charsMembers ms := by
  induction h with
  | nil => rfl
  | @cons cell member rest more hcell hrest ih =>
    obtain ⟨name, cell⟩ := cell
    obtain ⟨name', value⟩ := member
    obtain ⟨hname, hvalue⟩ := hcell
    obtain rfl : name = name' := hname
    cases hrest with
    | nil => rw [members, Json.charsMembers, hvalue.chars_eq]
    | cons => simp only [members, Json.charsMembers, hvalue.chars_eq, ih]

/-- The members of a record are flat. -/
theorem Means.flat {record : Record} {ms : List (String × Json)} (h : record.Means ms) :
    Json.depthMembers ms = 0 ∧ Json.DistinctMembers ms ∧ Json.FloatsRereadMembers ms := by
  induction h with
  | nil => exact ⟨rfl, trivial, trivial⟩
  | cons hcell _ ih =>
    obtain ⟨hdepth, hdistinct, hfloats⟩ := hcell.2.flat
    obtain ⟨ihdepth, ihdistinct, ihfloats⟩ := ih
    exact ⟨by simp [Json.depthMembers, hdepth, ihdepth], ⟨hdistinct, ihdistinct⟩, hfloats, ihfloats⟩

/-- **The line of a record is read as its object.** -/
theorem read?_body {record : Record} {ms : List (String × Json)} (h : record.Means ms)
    (hnames : (Table.names ms).Nodup) : Json.read? record.body = some (.obj ms) := by
  obtain ⟨hdepth, hdistinct, hfloats⟩ := h.flat
  have hbody : record.body = (Json.obj ms).compact := by
    rw [body, members_eq h, Json.compact, Json.chars]
  rw [hbody]
  refine Json.read?_compact ⟨hnames, hdistinct⟩ hfloats ?_
  rw [Json.depth, hdepth]
  decide

theorem unbroken_members : ∀ record : Record, Unbroken (members record)
  | [] => fun _ h => nomatch h
  | [(name, cell)] => (Json.unbroken_quoted name).append (.cons (by decide) cell.unbroken_chars)
  | (name, cell) :: next :: rest =>
    (Json.unbroken_quoted name).append
      (.cons (by decide) (cell.unbroken_chars.append (.cons (by decide) (unbroken_members (next :: rest)))))

/-- **No line break is inside the line of a record.** -/
theorem unbroken_body (record : Record) : Unbroken record.body.toList := by
  rw [body, String.toList_ofList]
  exact .cons (by decide) ((unbroken_members record).append (.cons (by decide) fun _ h => nomatch h))

/-- The lines of records are their lines with an end behind each. -/
theorem lines_eq (records : List Record) : lines records = String.join (records.map fun r => r.body ++ "\n") := by
  rw [← String.toList_inj, lines, String.toList_ofList, String.toList_join, List.flatMap_map]
  refine congrArg (List.flatMap · records) (funext fun record => ?_)
  simp [line, body]

end Record

/-! ## Reports -/

namespace Report

/-- The object that tells what became of a file. -/
inductive Tells : Outcome → Json → Prop
  | passed (path : String) {recovery : Recovery} {directives recovered : Json}
      (hdirectives : Json.IsCount recovery.directives directives)
      (hrecovered : Json.IsCount recovery.recovered recovered) :
      Tells ⟨path, .ok recovery⟩ (.obj [("type", .str "file"), ("file", .str path), ("status", .str "ok"),
        ("directives", directives), ("recovered", recovered)])
  | failed (path : String) (cause : Failure) :
      Tells ⟨path, .error cause⟩ (.obj [("type", .str "file"), ("file", .str path), ("status", .str "error"),
        ("error", .str cause.kind), ("message", .str cause.message)])

/-- Whether an object tells that a file failed. -/
def tellsFailure (value : Json) : Bool := (value.field? "status").bind Json.text? == some "error"

/-- The object that tells how many objects there are, and how many of them tell of a failure. -/
inductive Totals (files : List Json) : Json → Prop
  | mk {checked failed : Json} (hchecked : Json.IsCount files.length checked)
      (hfailed : Json.IsCount (files.countP tellsFailure) failed) :
      Totals files (.obj [("type", .str "status"), ("passed", .bool (decide (files.countP tellsFailure = 0))),
        ("files_checked", checked), ("files_failed", failed)])

/-- A report for programs on outcomes: lines with an end behind each, one for each outcome in the order of paths and
one for the whole. Every line is read as the object that tells of it, and nothing in it breaks it. -/
inductive ReportsOn (outcomes : List Outcome) : String → Prop
  | mk {listed : List Outcome} {files : List Json} {totals : Json} {lines : List String}
      (hperm : listed.Perm outcomes) (hordered : listed.Pairwise fun a b => Path.le a.path b.path = true)
      (hfiles : List.Forall₂ Tells listed files) (htotals : Totals files totals)
      (hcount : lines.length = outcomes.length + 1) (hread : lines.map Json.read? = (files ++ [totals]).map some)
      (hunbroken : ∀ line ∈ lines, Unbroken line.toList) :
      ReportsOn outcomes (String.join (lines.map fun line => line ++ "\n"))

/-- The counts of an outcome fit a word of 64 bits. -/
def CountsInWords (outcome : Outcome) : Prop :=
  ∀ recovery, outcome.result = .ok recovery →
    recovery.directives < 18446744073709551616 ∧ recovery.recovered < 18446744073709551616

/-- The counts of outcomes are those of a program: they fit a word of 64 bits, and so does their number. -/
structure InWords (outcomes : List Outcome) : Prop where
  files : outcomes.length < 18446744073709551616
  counts : ∀ outcome ∈ outcomes, CountsInWords outcome

variable {outcomes : List Outcome}

/-- **The line of a file** is read as the object that tells what became of it. -/
theorem exists_tells {outcome : Outcome} (hcounts : CountsInWords outcome) :
    ∃ value, Json.read? (fileRecord outcome).body = some value ∧ Tells outcome value := by
  obtain ⟨path, result⟩ := outcome
  cases result with
  | ok recovery =>
    obtain ⟨directives, hdirectives⟩ := Json.exists_isCount (hcounts recovery rfl).1
    obtain ⟨recovered, hrecovered⟩ := Json.exists_isCount (hcounts recovery rfl).2
    refine ⟨_, Record.read?_body ?_ ?_, .passed path hdirectives hrecovered⟩
    · exact .cons ⟨rfl, .text _⟩ (.cons ⟨rfl, .text _⟩ (.cons ⟨rfl, .text _⟩
        (.cons ⟨rfl, .count hdirectives⟩ (.cons ⟨rfl, .count hrecovered⟩ .nil))))
    · simp [Table.names]
  | error cause =>
    refine ⟨_, Record.read?_body ?_ ?_, .failed path cause⟩
    · exact .cons ⟨rfl, .text _⟩ (.cons ⟨rfl, .text _⟩ (.cons ⟨rfl, .text _⟩
        (.cons ⟨rfl, .text _⟩ (.cons ⟨rfl, .text _⟩ .nil))))
    · simp [Table.names]

/-- The lines of files are read as objects that tell of them. -/
theorem exists_files : ∀ {listed : List Outcome}, (∀ outcome ∈ listed, CountsInWords outcome) →
    ∃ files, (listed.map fun o => Json.read? (fileRecord o).body) = files.map some ∧ List.Forall₂ Tells listed files
  | [], _ => ⟨[], rfl, .nil⟩
  | outcome :: rest, h => by
    obtain ⟨houtcome, hrest⟩ := List.forall_mem_cons.1 h
    obtain ⟨value, hvalue, htells⟩ := exists_tells houtcome
    obtain ⟨files, hfiles, hall⟩ := exists_files hrest
    exact ⟨value :: files, by simp [hvalue, hfiles], .cons htells hall⟩

/-- An object tells of a failure when its file failed. -/
theorem Tells.failure_iff {outcome : Outcome} {value : Json} (h : Tells outcome value) :
    tellsFailure value = !outcome.passed := by
  cases h <;> rfl

/-- As many objects tell of a failure as there are failures. -/
theorem countP_tellsFailure {listed : List Outcome} {files : List Json} (h : List.Forall₂ Tells listed files) :
    files.countP tellsFailure = Batch.failures listed := by
  induction h with
  | nil => rfl
  | cons htells _ ih =>
    rw [Batch.failures] at ih ⊢
    rw [List.countP_cons, List.countP_cons, ih, htells.failure_iff]

/-- **The line of the whole** is read as the object that counts the others. -/
theorem exists_totals {listed : List Outcome} {files : List Json} (hperm : listed.Perm outcomes)
    (hfiles : List.Forall₂ Tells listed files) (hwords : outcomes.length < 18446744073709551616) :
    ∃ totals, Json.read? (statusRecord outcomes).body = some totals ∧ Totals files totals := by
  have hchecked : files.length = outcomes.length := hfiles.length_eq.symm.trans hperm.length_eq
  have hfailed : files.countP tellsFailure = Batch.failures outcomes :=
    (countP_tellsFailure hfiles).trans (Batch.failures_perm hperm)
  have hword : files.length < 18446744073709551616 := hchecked ▸ hwords
  obtain ⟨checked, hischecked⟩ := Json.exists_isCount hword
  have hle : files.countP tellsFailure ≤ files.length := List.countP_le_length
  obtain ⟨failed, hisfailed⟩ := Json.exists_isCount (Nat.lt_of_le_of_lt hle hword)
  refine ⟨_, Record.read?_body ?_ ?_, .mk hischecked hisfailed⟩
  · rw [statusRecord, ← hfailed, ← hchecked]
    exact .cons ⟨rfl, .text _⟩ (.cons ⟨rfl, .flag _⟩ (.cons ⟨rfl, .count hischecked⟩
      (.cons ⟨rfl, .count hisfailed⟩ .nil)))
  · simp [Table.names]

/-- The report for programs is one on its outcomes. -/
theorem reportsOn_jsonl (hwords : InWords outcomes) : ReportsOn outcomes (jsonl outcomes) := by
  have hperm := Batch.sorted_perm outcomes
  obtain ⟨files, hread, hfiles⟩ := exists_files fun o ho => hwords.counts o (hperm.mem_iff.1 ho)
  obtain ⟨totals, htotal, htotals⟩ := exists_totals hperm hfiles hwords.files
  have hjsonl : jsonl outcomes = String.join
      ((((Batch.sorted outcomes).map fileRecord ++ [statusRecord outcomes]).map Record.body).map
        fun line => line ++ "\n") := by
    rw [jsonl, Record.lines_eq, List.map_map]
    rfl
  rw [hjsonl]
  refine .mk hperm (Batch.sorted_pairwise outcomes) hfiles htotals ?_ ?_ ?_
  · simp [hperm.length_eq]
  · simpa [htotal, Function.comp_def] using hread
  · intro line hline
    obtain ⟨record, -, rfl⟩ := List.mem_map.1 hline
    exact record.unbroken_body

/-- **Reports are complete.** The report for programs has one line for each outcome and one for the whole, which tell
all there is to tell; and neither report depends on the order of outcomes with different paths. -/
theorem report_complete (outcomes : List Outcome) :
    (InWords outcomes → ReportsOn outcomes (jsonl outcomes)) ∧
      ∀ other : List Outcome, other.Perm outcomes → Batch.DistinctPaths outcomes →
        jsonl other = jsonl outcomes ∧ ∀ colored, human colored other = human colored outcomes := by
  refine ⟨reportsOn_jsonl, fun other hperm hdistinct => ?_⟩
  have hsorted := Batch.sorted_eq_of_perm hperm hdistinct
  have hfailures := Batch.failures_perm hperm
  have hstatus : statusRecord other = statusRecord outcomes := by
    rw [statusRecord, statusRecord, hfailures, hperm.length_eq]
  refine ⟨?_, fun colored => ?_⟩
  · rw [jsonl, jsonl, hsorted, hstatus]
  · have hsummary : summary colored other = summary colored outcomes := by
      rw [summary, summary, hfailures, hperm.length_eq]
    rw [human, human, hsorted, hsummary]

/-- A line break in a path, and quotes and a line break in a message. -/
theorem report_complete_line_break :
    ReportsOn [⟨"b\n.json", .error (.access (.stated "no \"b\"\nhere"))⟩, ⟨"./a.json", .ok ⟨3, 2⟩⟩]
        (jsonl [⟨"b\n.json", .error (.access (.stated "no \"b\"\nhere"))⟩, ⟨"./a.json", .ok ⟨3, 2⟩⟩]) ∧
      jsonl [⟨"./a.json", .ok ⟨3, 2⟩⟩, ⟨"b\n.json", .error (.access (.stated "no \"b\"\nhere"))⟩] =
        jsonl [⟨"b\n.json", .error (.access (.stated "no \"b\"\nhere"))⟩, ⟨"./a.json", .ok ⟨3, 2⟩⟩] ∧
      human true [⟨"./a.json", .ok ⟨3, 2⟩⟩, ⟨"b\n.json", .error (.access (.stated "no \"b\"\nhere"))⟩] =
        human true [⟨"b\n.json", .error (.access (.stated "no \"b\"\nhere"))⟩, ⟨"./a.json", .ok ⟨3, 2⟩⟩] := by
  obtain ⟨hreports, halike⟩ := report_complete
    [⟨"b\n.json", .error (.access (.stated "no \"b\"\nhere"))⟩, ⟨"./a.json", .ok ⟨3, 2⟩⟩]
  have hdistinct : Path.parts "b\n.json" ≠ Path.parts "./a.json" := by decide +kernel
  obtain ⟨hjsonl, hhuman⟩ := halike _ (List.Perm.swap _ _ []) (by simpa [Batch.DistinctPaths] using hdistinct)
  refine ⟨hreports ⟨by decide, ?_⟩, hjsonl, hhuman true⟩
  rintro outcome houtcome recovery hok
  simp only [List.mem_cons, List.not_mem_nil, or_false] at houtcome
  rcases houtcome with rfl | rfl <;> cases hok
  decide

end Report
end Rulebook
